import SqlMapper.Proofs.Encoding
import SqlMapper.Sql.Identifier

/-!
Reading quoted names. A name stands between two marks, and a mark in it is written twice: a reader
stops at the first mark that is not doubled, and finds the name that was written, unless a mark
follows the name. Texts are read as signs and names, part by part.
-/

namespace SqlMapper.Sql

section Marks

variable {α : Type} [DecidableEq α]

/-- A part of a name, written twice if it is the mark. -/
def doubled (mark c : α) : List α :=
  if c = mark then [mark, mark] else [c]

/-- A name between two marks, with every mark in it written twice. -/
def enclosed (mark : α) (name : List α) : List α :=
  mark :: name.flatMap (doubled mark) ++ [mark]

/-- Reads behind the mark that opens a name, up to the first mark that is not written twice: the
name, and what follows it. -/
def readBehind (mark : α) : List α → Option (List α × List α)
  | [] => none
  | c :: rest =>
      if c = mark then
        match rest with
        | [] => some ([], [])
        | d :: more =>
            if d = mark then (readBehind mark more).map fun read => (mark :: read.1, read.2)
            else some ([], d :: more)
      else (readBehind mark rest).map fun read => (c :: read.1, read.2)

/-- Reads the quoted name at the start of a text. -/
def readName (mark : α) : List α → Option (List α × List α)
  | [] => none
  | c :: rest => if c = mark then readBehind mark rest else none

variable {mark : α}

theorem doubled_mark : doubled mark mark = [mark, mark] :=
  if_pos rfl

theorem doubled_other {c : α} (other : c ≠ mark) : doubled mark c = [c] :=
  if_neg other

theorem readBehind_end {rest : List α} (apart : rest.head? ≠ some mark) :
    readBehind mark (mark :: rest) = some ([], rest) := by
  cases rest with
  | nil => rw [readBehind, if_pos rfl]
  | cons d more =>
      have other : d ≠ mark := fun same => apart (congrArg some same)
      rw [readBehind, if_pos rfl, if_neg other]

theorem readBehind_sign {c : α} (other : c ≠ mark) (rest : List α) :
    readBehind mark (c :: rest) = (readBehind mark rest).map fun read => (c :: read.1, read.2) := by
  rw [readBehind.eq_def]
  exact if_neg other

theorem readBehind_enclosed (name : List α) {rest : List α} (apart : rest.head? ≠ some mark) :
    readBehind mark (name.flatMap (doubled mark) ++ mark :: rest) = some (name, rest) := by
  induction name with
  | nil => exact readBehind_end apart
  | cons c more ih =>
      rw [List.flatMap_cons, List.append_assoc]
      by_cases same : c = mark
      · subst same
        rw [doubled_mark, List.cons_append, List.singleton_append, readBehind, if_pos rfl,
          if_pos rfl, ih]
        rfl
      · rw [doubled_other same, List.singleton_append, readBehind_sign same, ih]
        rfl

theorem enclosed_append (name rest : List α) :
    enclosed mark name ++ rest = mark :: (name.flatMap (doubled mark) ++ mark :: rest) := by
  simp [enclosed]

/-- A quoted name is read back, and nothing of what follows it is taken. -/
theorem readName_enclosed (name : List α) {rest : List α} (apart : rest.head? ≠ some mark) :
    readName mark (enclosed mark name ++ rest) = some (name, rest) := by
  rw [enclosed_append, readName, if_pos rfl, readBehind_enclosed name apart]

/-- A reader takes the closing mark at least. -/
theorem length_readBehind {text name rest : List α}
    (found : readBehind mark text = some (name, rest)) : rest.length < text.length := by
  induction text using readBehind.induct mark generalizing name with
  | case1 => cases found
  | case2 =>
      rw [readBehind, if_pos rfl] at found
      cases found
      exact Nat.zero_lt_one
  | case3 more ih =>
      rw [readBehind, if_pos rfl, if_pos rfl, Option.map_eq_some_iff] at found
      obtain ⟨⟨_, _⟩, onward, same⟩ := found
      cases same
      exact Nat.lt_trans (ih onward) (Nat.lt_add_of_pos_right Nat.zero_lt_two)
  | case4 d more other =>
      rw [readBehind, if_pos rfl, if_neg other] at found
      cases found
      exact Nat.lt_succ_self _
  | case5 c more other ih =>
      rw [readBehind_sign other, Option.map_eq_some_iff] at found
      obtain ⟨⟨_, _⟩, onward, same⟩ := found
      cases same
      exact Nat.lt_succ_of_lt (ih onward)

end Marks

section Names

open Text (byte encode encodeChars)

theorem quotedNameChar_eq : quotedNameChar = doubled '\x60' := by
  funext c
  simp only [quotedNameChar, doubled, beq_iff_eq]

theorem quotedNameChars_eq (name : List Char) : quotedNameChars name = enclosed '\x60' name := by
  rw [quotedNameChars, quotedNameChar_eq, enclosed]

theorem encodeChars_doubled {c : Char} (low : c.toNat < 128) :
    encodeChars (doubled '\x60' c) = doubled (byte '\x60') (byte c) := by
  by_cases same : c = '\x60'
  · rw [same]
    rfl
  · have other : byte c ≠ byte '\x60' := by
      intro equal
      have code := congrArg UInt8.toNat equal
      rw [Text.toNat_byte (by omega)] at code
      exact same (Char.toNat_inj.mp code)
    rw [doubled_other same, doubled_other other]
    exact Text.encodeChars_ascii (by simpa using low)

/-- The bytes of a quoted name are its quoted bytes. -/
theorem encode_quotedName (name : String) :
    encode (quotedName name) = enclosed (byte '\x60') (encode name) := by
  -- The mark is ASCII, so neither a longer character nor a byte of one is the mark.
  have high (c : Char) (wide : 128 ≤ c.toNat) : doubled '\x60' c = [c] := by
    refine doubled_other ?_
    rintro rfl
    exact absurd wide (by decide)
  have kept (b : UInt8) (wide : 128 ≤ b.toNat) : doubled (byte '\x60') b = [b] := by
    refine doubled_other ?_
    rintro rfl
    exact absurd wide (by decide)
  have mark : encodeChars ['\x60'] = [byte '\x60'] := rfl
  rw [quotedName, Text.encode_ofList, quotedNameChars_eq, enclosed, Text.encodeChars_append,
    Text.encodeChars_cons, Text.utf8EncodeChar_ascii '\x60' (by decide), mark,
    Text.encodeChars_flatMap (fun _ => encodeChars_doubled) high kept, ← Text.encode_eq]
  rfl

end Names

section Lexemes

/-- A part of a text: a sign outside of quotes, or a quoted name. -/
inductive Lexeme where
  | sign (c : Char)
  | name (spelling : String)
  deriving DecidableEq

def Lexeme.name? : Lexeme → Option String
  | .sign _ => none
  | .name spelling => some spelling

/-- The parts of a text, unless a quote is left open. -/
def lexemes (text : List Char) : Option (List Lexeme) :=
  match text with
  | [] => some []
  | c :: rest =>
      if c = '\x60' then
        match _found : readBehind '\x60' rest with
        | none => none
        | some (name, after) => (lexemes after).map (.name (String.ofList name) :: ·)
      else (lexemes rest).map (.sign c :: ·)
termination_by text.length
decreasing_by
  · exact Nat.lt_succ_of_lt (length_readBehind _found)
  · exact Nat.lt_succ_self _

/-- The names that are quoted in a text, in order. -/
def quotedNames (text : String) : Option (List String) :=
  (lexemes text.toList).map fun parts => parts.filterMap Lexeme.name?

/-- A text without quotes. -/
def signs (text : String) : List Lexeme :=
  text.toList.map .sign

/-- A text has some parts whatever follows it, but for a quote. -/
def Reads (text : String) (parts : List Lexeme) : Prop :=
  ∀ rest : List Char, rest.head? ≠ some '\x60' →
    lexemes (text.toList ++ rest) = (lexemes rest).map (parts ++ ·)

theorem lexemes_signs {text : List Char} (plain : '\x60' ∉ text) (rest : List Char) :
    lexemes (text ++ rest) = (lexemes rest).map (text.map .sign ++ ·) := by
  induction text with
  | nil => simp
  | cons c more ih =>
      rw [List.mem_cons, not_or] at plain
      rw [List.cons_append, lexemes, if_neg (Ne.symm plain.1), ih plain.2, Option.map_map]
      rfl

theorem reads_signs {text : String} (plain : '\x60' ∉ text.toList) : Reads text (signs text) :=
  fun rest _ => lexemes_signs plain rest

theorem reads_quotedName (name : String) : Reads (quotedName name) [.name name] := by
  intro rest apart
  rw [quotedName, String.toList_ofList, quotedNameChars_eq, enclosed_append, lexemes, if_pos rfl]
  split
  · next none =>
      rw [readBehind_enclosed _ apart] at none
      cases none
  · next found =>
      rw [readBehind_enclosed _ apart] at found
      cases found
      rw [String.ofList_toList]
      rfl

theorem reads_append {first second : String} {parts more : List Lexeme} (left : Reads first parts)
    (right : Reads second more) (seam : second.toList.head? ≠ some '\x60') :
    Reads (first ++ second) (parts ++ more) := by
  intro rest apart
  have next : (second.toList ++ rest).head? ≠ some '\x60' := by
    cases spelled : second.toList with
    | nil => exact apart
    | cons c more => rwa [spelled] at seam
  rw [String.toList_append, List.append_assoc, left _ next, right _ apart, Option.map_map]
  simp [Function.comp_def]

theorem reads_signs_append {first second : String} {more : List Lexeme}
    (plain : '\x60' ∉ first.toList) (right : Reads second more) :
    Reads (first ++ second) (signs first ++ more) := by
  intro rest apart
  rw [String.toList_append, List.append_assoc, lexemes_signs plain, right _ apart, Option.map_map]
  simp [Function.comp_def, signs]

/-- Signs between two texts keep their names apart. -/
theorem reads_around {first gap last : String} {parts more : List Lexeme} (left : Reads first parts)
    (plain : '\x60' ∉ gap.toList) (filled : gap ≠ "") (right : Reads last more) :
    Reads (first ++ (gap ++ last)) (parts ++ (signs gap ++ more)) := by
  refine reads_append left (reads_signs_append plain right) ?_
  rw [String.toList_append]
  cases spelled : gap.toList with
  | nil => exact absurd (String.toList_eq_nil_iff.mp spelled) filled
  | cons c rest =>
      rintro starts
      cases starts
      exact plain (spelled ▸ List.mem_cons_self)

theorem Reads.lexemes_eq {text : String} {parts : List Lexeme} (reads : Reads text parts) :
    lexemes text.toList = some parts := by
  have whole := reads [] (by simp)
  rwa [List.append_nil, lexemes, Option.map_some, List.append_nil] at whole

end Lexemes

end SqlMapper.Sql
