import SqlMapper.Proofs.Decoding
import SqlMapper.Proofs.Literal
import SqlMapper.Proofs.Trimming
import SqlMapper.Proofs.Trimming.Windows

/-!
Trimming the bytes of a text. No byte of another character is a blank or a bar, and a token is found
in the bytes where it is in the text, so the trimmed bytes are those of the trimmed text.
-/

namespace SqlMapper.Code.Support

open Sql (ByteRule byteRule byteTokens firstByteToken bareBytes trimBytes)
open Text (encode encodeChars byte)

/-- The trim of a buffer; the texts of the rule are passed as strings. -/
def trimBuffer (rule : TrimRule) (data : List UInt8) : Option Trimmed :=
  let passed := fun text => Text.encode (C.stringOf text)
  (advance data 0 data.length).bind fun bareStart =>
    (retreat data bareStart data.length).bind fun bareStop =>
      (tokenLength data bareStart (bareStop - bareStart) false (passed rule.leading)).bind
        fun lead =>
          let start := bareStart + lead
          (tokenLength data start (bareStop - start) true (passed rule.trailing)).bind fun trail =>
            let stop := bareStop - trail
            (window data start (stop - start)).map fun kept =>
              ⟨bareStart, bareStop, start, stop, passed rule.opening ++ kept ++ passed rule.closing⟩

section Blanks

/-- Every byte of a character is a space exactly if the character is blank. -/
theorem isSpace_of_mem {c : Char} {b : UInt8} (member : b ∈ String.utf8EncodeChar c) :
    isSpace b = Text.isBlank c := by
  by_cases ascii : c.toNat < 128
  · have table : ∀ code : Fin 128,
        isSpace (byte (Char.ofNat code)) = Text.isBlank (Char.ofNat code) := by decide
    have known := table ⟨c.toNat, ascii⟩
    rw [Char.ofNat_toNat] at known
    rw [Text.utf8EncodeChar_ascii c ascii, List.mem_singleton] at member
    rw [member, known]
  · have high := Text.high_of_mem_utf8EncodeChar (by omega) b member
    have space : isSpace b = false := by
      simp only [isSpace, Bool.or_eq_false_iff, Bool.and_eq_false_iff, decide_eq_false_iff_not,
        beq_eq_false_iff_ne, UInt8.le_iff_toNat_le, ne_eq, ← UInt8.toNat_inj, UInt8.reduceToNat]
      omega
    have blank : Text.isBlank c = false := by
      simp only [Text.isBlank, Bool.or_eq_false_iff, Bool.and_eq_false_iff, beq_eq_false_iff_ne,
        decide_eq_false_iff_not]
      constructor
      · rintro rfl
        exact ascii (by decide)
      · right
        intro below
        have small : c.toNat ≤ 13 := below
        omega
    rw [space, blank]

theorem dropWhile_encodeChars (text : List Char) :
    (encodeChars text).dropWhile isSpace = encodeChars (text.dropWhile Text.isBlank) := by
  induction text with
  | nil => rfl
  | cons c rest ih =>
      have spaces : ∀ b ∈ String.utf8EncodeChar c, isSpace b = Text.isBlank c :=
        fun b => isSpace_of_mem
      cases blank : Text.isBlank c with
      | true =>
          rw [blank] at spaces
          rw [Text.encodeChars_cons, List.dropWhile_append_of_pos spaces, ih,
            List.dropWhile_cons_of_pos blank]
      | false =>
          obtain ⟨b, tails, spelled⟩ :=
            List.exists_cons_of_ne_nil (String.utf8EncodeChar_ne_nil (c := c))
          have first := spaces b (spelled ▸ List.mem_cons_self)
          rw [List.dropWhile_cons_of_neg (by simp [blank]), Text.encodeChars_cons, spelled,
            List.cons_append, List.dropWhile_cons_of_neg (by simp [first, blank])]

theorem rdropWhile_encodeChars (text : List Char) :
    (encodeChars text).rdropWhile isSpace = encodeChars (Text.dropRight Text.isBlank text) := by
  induction text using List.reverseRecOn with
  | nil => rfl
  | append_singleton front c ih =>
      have spaces : ∀ b ∈ String.utf8EncodeChar c, isSpace b = Text.isBlank c :=
        fun b => isSpace_of_mem
      rw [Text.encodeChars_append, Text.encodeChars_cons, Text.encodeChars_nil, List.append_nil]
      cases blank : Text.isBlank c with
      | true =>
          rw [blank] at spaces
          have kept : Text.dropRight Text.isBlank (front ++ [c]) =
              Text.dropRight Text.isBlank front := by simp [Text.dropRight, blank]
          rw [kept, ← ih, List.rdropWhile, List.rdropWhile, List.reverse_append,
            List.dropWhile_append_of_pos fun b member => spaces b (List.mem_reverse.mp member)]
      | false =>
          obtain ⟨heads, b, spelled⟩ :=
            (String.utf8EncodeChar c).eq_nil_or_concat'.resolve_left String.utf8EncodeChar_ne_nil
          have last := spaces b (spelled ▸ by simp)
          have kept : Text.dropRight Text.isBlank (front ++ [c]) = front ++ [c] := by
            simp [Text.dropRight, blank]
          rw [kept, spelled, ← List.append_assoc,
            List.rdropWhile_concat_neg _ _ _ (by simp [last, blank]), Text.encodeChars_append,
            Text.encodeChars_cons, Text.encodeChars_nil, List.append_nil, spelled,
            List.append_assoc]

theorem bareBytes_encodeChars (content : List Char) :
    bareBytes (encodeChars content) = encodeChars (Text.strip Text.isBlank content) := by
  rw [bareBytes, ← isSpace_eq_contains, dropWhile_encodeChars, rdropWhile_encodeChars, Text.strip]

end Blanks

section Tokens

theorem bar_ascii : ('|').toNat < 128 := by decide

theorem encodeChars_bar (token more : List Char) :
    encodeChars (token ++ '|' :: more) = encodeChars token ++ byte '|' :: encodeChars more := by
  rw [Text.encodeChars_append, Text.encodeChars_cons, Text.utf8EncodeChar_ascii '|' bar_ascii]
  rfl

/-- The tokens of the bytes are the bytes of the tokens. -/
theorem byteTokens_encodeChars (list : List Char) :
    byteTokens (encodeChars list) = (Sql.overrideTokens list).map encodeChars := by
  have split : (encodeChars list).splitOn (byte '|') =
      (Text.splitAt '|' list).map encodeChars := by
    induction length : list.length using Nat.strongRecOn generalizing list with
    | ind count ih =>
        by_cases listed : '|' ∈ list
        · obtain ⟨token, more, rfl, absent⟩ := List.eq_append_cons_of_mem listed
          have inside : byte '|' ∉ encodeChars token :=
            fun member => absent (Text.mem_encodeChars_ascii bar_ascii token member)
          rw [encodeChars_bar, List.splitOn_append_cons_self_of_not_mem inside,
            ih more.length (by simp at length; omega) more rfl, Text.splitAt_append,
            Text.splitAt_of_not_mem absent, List.map_append]
          rfl
        · have inside : byte '|' ∉ encodeChars list :=
            fun member => listed (Text.mem_encodeChars_ascii bar_ascii list member)
          rw [List.splitOn_eq_singleton inside, Text.splitAt_of_not_mem listed]
          rfl
  rw [byteTokens, split, Sql.overrideTokens, List.filter_map]
  congr 1
  apply List.filter_congr
  intro token _
  rw [Function.comp_apply, Bool.not_inj_iff, Bool.eq_iff_iff, List.isEmpty_iff, List.isEmpty_iff]
  exact Text.encodeChars_eq_nil_iff

/-- The first token of a list that is accepted, or the empty text. -/
def firstToken (accepted : List Char → Bool) (list : List Char) : List Char :=
  ((Sql.overrideTokens list).find? accepted).getD []

theorem firstByteToken_encodeChars {accepted : List Char → Bool} {takes : List UInt8 → Bool}
    (agrees : ∀ token, takes (encodeChars token) = accepted token) (list : List Char) :
    firstByteToken takes (encodeChars list) = encodeChars (firstToken accepted list) := by
  rw [firstByteToken, firstToken, byteTokens_encodeChars, List.find?_map,
    funext agrees (f := takes ∘ encodeChars)]
  cases (Sql.overrideTokens list).find? accepted <;> rfl

end Tokens

section Cuts

theorem dropLeading_firstToken (list text : List Char) :
    text = firstToken (·.isPrefixOf text) list ++
      Sql.dropLeading (Sql.overrideTokens list) text := by
  rw [firstToken, Sql.dropLeading]
  induction Sql.overrideTokens list with
  | nil => rfl
  | cons token tokens ih =>
      rw [List.findSome?_cons, List.find?_cons]
      cases begins : token.isPrefixOf text with
      | true =>
          obtain ⟨rest, rfl⟩ := List.isPrefixOf_iff_prefix.mp begins
          have cut : token.isPrefixOf? (token ++ rest) = some rest :=
            List.isPrefixOf?_eq_some_iff_append_eq.mpr rfl
          rw [cut]
          rfl
      | false =>
          have none : token.isPrefixOf? text = none := by
            cases cut : token.isPrefixOf? text with
            | none => rfl
            | some rest =>
                have whole := List.append_eq_of_isPrefixOf?_eq_some cut
                rw [List.isPrefixOf_iff_prefix.mpr ⟨rest, whole⟩] at begins
                cases begins
          rw [none]
          exact ih

theorem dropTrailing_firstToken (list text : List Char) :
    text = Sql.dropTrailing (Sql.overrideTokens list) text ++
      firstToken (·.isSuffixOf text) list := by
  rw [firstToken, Sql.dropTrailing]
  induction Sql.overrideTokens list with
  | nil => exact (List.append_nil text).symm
  | cons token tokens ih =>
      rw [List.findSome?_cons, List.find?_cons]
      cases ends : token.isSuffixOf text with
      | true =>
          obtain ⟨rest, rfl⟩ := List.isSuffixOf_iff_suffix.mp ends
          have cut : token.isSuffixOf? (rest ++ token) = some rest :=
            List.isSuffixOf?_eq_some_iff_append_eq.mpr rfl
          rw [cut]
          rfl
      | false =>
          have none : token.isSuffixOf? text = none := by
            cases cut : token.isSuffixOf? text with
            | none => rfl
            | some rest =>
                have whole := List.append_eq_of_isSuffixOf?_eq_some cut
                rw [List.isSuffixOf_iff_suffix.mpr ⟨rest, whole⟩] at ends
                cases ends
          rw [none]
          exact ih

/-- The trimmed bytes of a text are those of the trimmed text. -/
theorem trimBytes_encode (rule : TrimRule) (content : String) :
    trimBytes (byteRule rule) (encode content) = encode (Sql.trim rule content) := by
  have lead (text : List Char) : firstByteToken (·.isPrefixOf (encodeChars text))
      (encode rule.leading) = encodeChars (firstToken (·.isPrefixOf text) rule.leading.toList) := by
    rw [Text.encode_eq]
    refine firstByteToken_encodeChars (fun token => Bool.eq_iff_iff.mpr ?_) _
    simpa using Text.encodeChars_prefix_iff token text
  have rest (text : List Char) : (encodeChars text).drop (encodeChars (firstToken (·.isPrefixOf text)
      rule.leading.toList)).length =
        encodeChars (Sql.dropLeading (Sql.overrideTokens rule.leading.toList) text) := by
    have cut := congrArg encodeChars (dropLeading_firstToken rule.leading.toList text)
    rw [Text.encodeChars_append] at cut
    rw [cut, List.drop_left]
  have trail (text : List Char) : firstByteToken (·.isSuffixOf (encodeChars text))
      (encode rule.trailing) = encodeChars (firstToken (·.isSuffixOf text) rule.trailing.toList) := by
    rw [Text.encode_eq]
    refine firstByteToken_encodeChars (fun token => Bool.eq_iff_iff.mpr ?_) _
    simpa using Text.encodeChars_suffix_iff token text
  have kept (text : List Char) : (encodeChars text).take ((encodeChars text).length -
      (encodeChars (firstToken (·.isSuffixOf text) rule.trailing.toList)).length) =
        encodeChars (Sql.dropTrailing (Sql.overrideTokens rule.trailing.toList) text) := by
    have cut := congrArg encodeChars (dropTrailing_firstToken rule.trailing.toList text)
    rw [Text.encodeChars_append] at cut
    rw [cut, List.length_append, Nat.add_sub_cancel, List.take_left]
  simp only [trimBytes, byteRule, Text.encode_eq content, bareBytes_encodeChars, lead, rest, trail,
    kept, Sql.trim, Sql.trimChars, Text.encode_ofList, Text.encodeChars_append]
  rw [Text.encode_eq, Text.encode_eq]

end Cuts

section Strings

theorem encode_stringOf (text : String) :
    encode (C.stringOf text) = (encode text).takeWhile (· != 0) := by
  rw [C.stringOf, Text.encode_ofList, Text.encode_eq]
  induction text.toList with
  | nil => rfl
  | cons c rest ih =>
      by_cases null : c = '\x00'
      · subst null
        rfl
      · have kept : ∀ b ∈ String.utf8EncodeChar c, (b != 0) = true := by
          intro b member
          rw [bne_iff_ne]
          rintro rfl
          exact null (Text.mem_utf8EncodeChar_ascii (by decide) member)
        rw [List.takeWhile_cons_of_pos (by simpa using null), Text.encodeChars_cons,
          Text.encodeChars_cons, ih, List.takeWhile_append_of_pos kept]

theorem trimBuffer_eq (rule : TrimRule) (data : List UInt8) :
    trimBuffer rule data = trimWindow (byteRule rule) data := by
  simp only [trimBuffer, trimWindow, byteRule, encode_stringOf]

end Strings

/-- Trimming in place gives the trimmed bytes, whether they are text or not: every read is in the
buffer, the indices never pass each other, and what each of them skips after the blanks is at most one
token of its list. For a rule and a content that are text the trimmed bytes are those of the trimmed
text. -/
theorem trims_in_place :
    (∀ (rule : ByteRule) (data : List UInt8),
      (∀ bytes ∈ [rule.opening, rule.closing, rule.leading, rule.trailing], 0 ∉ bytes) →
      ∃ run, trimWindow rule data = some run ∧ run.text = trimBytes rule data ∧
        (0 ≤ run.bareStart ∧ run.bareStart ≤ run.start ∧ run.start ≤ run.stop ∧
          run.stop ≤ run.bareStop ∧ run.bareStop ≤ data.length) ∧
        CutsByteToken data rule.leading run.bareStart run.start ∧
        CutsByteToken data rule.trailing run.stop run.bareStop) ∧
    ∀ rule : TrimRule,
      (∀ data, trimBuffer rule data = trimWindow (byteRule rule) data) ∧
      ∀ content, trimBytes (byteRule rule) (encode content) = encode (Sql.trim rule content) :=
  ⟨trimWindow_trimBytes, fun rule => ⟨trimBuffer_eq rule, trimBytes_encode rule⟩⟩

/-- The first token takes the lead byte of a character and a comma, the second one the other byte. -/
theorem halved_trimmed :
    ∃ run, trimWindow ⟨[0x28], [0xc3], [0x7c, 0x2c, 0x7c, 0xc3, 0x2c], [0xa9, 0x7c, 0x7c, 0x2c]⟩
        [0x09, 0xc3, 0x2c, 0x2c, 0xa9, 0x20] = some run ∧
      run.text = [0x28, 0x2c, 0xc3] ∧ run.start ≤ run.stop := by
  obtain ⟨run, ran, text, ordered, _⟩ := trims_in_place.1
    ⟨[0x28], [0xc3], [0x7c, 0x2c, 0x7c, 0xc3, 0x2c], [0xa9, 0x7c, 0x7c, 0x2c]⟩
    [0x09, 0xc3, 0x2c, 0x2c, 0xa9, 0x20] (by decide)
  have known : trimBytes ⟨[0x28], [0xc3], [0x7c, 0x2c, 0x7c, 0xc3, 0x2c], [0xa9, 0x7c, 0x7c, 0x2c]⟩
      [0x09, 0xc3, 0x2c, 0x2c, 0xa9, 0x20] = [0x28, 0x2c, 0xc3] := by decide
  exact ⟨run, ran, text.trans known, ordered.2.2.1⟩

end SqlMapper.Code.Support
