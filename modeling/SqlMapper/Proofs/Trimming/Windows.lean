import Mathlib.Data.List.DropRight
import Mathlib.Data.List.Induction
import Mathlib.Data.List.TakeWhile
import SqlMapper.Mapper.Statement
import SqlMapper.Proofs.Encoding

/-!
Trimming in place, as the support source does it. Two indices into the bytes of a buffer move towards
each other: over blanks, then over a token at the start, then over a token at the end of what is left
between them. The tokens are read from the string that lists them, by a pointer that jumps from bar
to bar. A read outside of the buffer has no result.

At every stage the two indices enclose a stretch of the buffer, and each move of an index is a step on
that stretch. Nothing depends on the bytes being those of a text.
-/

namespace SqlMapper.Sql

open Text (byte)

structure ByteRule where
  opening : List UInt8
  closing : List UInt8
  leading : List UInt8
  trailing : List UInt8

def byteRule (rule : TrimRule) : ByteRule :=
  ⟨Text.encode rule.opening, Text.encode rule.closing, Text.encode rule.leading,
    Text.encode rule.trailing⟩

/-- A blank, a tab, and the four ways to begin a line or a page. -/
def blankBytes : List UInt8 :=
  [0x20, 0x09, 0x0a, 0x0b, 0x0c, 0x0d]

/-- The tokens of a list, without the empty ones. -/
def byteTokens (list : List UInt8) : List (List UInt8) :=
  (list.splitOn (byte '|')).filter fun token => !token.isEmpty

/-- The first token of a list that is accepted, or none. -/
def firstByteToken (accepted : List UInt8 → Bool) (list : List UInt8) : List UInt8 :=
  ((byteTokens list).find? accepted).getD []

def bareBytes (content : List UInt8) : List UInt8 :=
  (content.dropWhile blankBytes.contains).rdropWhile blankBytes.contains

def trimBytes (rule : ByteRule) (content : List UInt8) : List UInt8 :=
  let bare := bareBytes content
  let rest := bare.drop (firstByteToken (·.isPrefixOf bare) rule.leading).length
  let kept := rest.take (rest.length - (firstByteToken (·.isSuffixOf rest) rule.trailing).length)
  rule.opening ++ kept ++ rule.closing

end SqlMapper.Sql

namespace SqlMapper.Code.Support

open Sql (ByteRule blankBytes byteTokens firstByteToken bareBytes trimBytes)
open Text (byte)

section Machine

/-- The bytes of a buffer from an index on. -/
def window (data : List UInt8) (start size : Int) : Option (List UInt8) :=
  if 0 ≤ start ∧ 0 ≤ size ∧ start + size ≤ data.length then
    some ((data.drop start.toNat).take size.toNat)
  else none

def readByte (data : List UInt8) (position : Int) : Option UInt8 :=
  (window data position 1).bind List.head?

/-- The blanks of the C locale. -/
def isSpace (b : UInt8) : Bool :=
  b == 0x20 || (0x09 ≤ b && b ≤ 0x0d)

def advance (data : List UInt8) (start stop : Int) : Option Int :=
  if start < stop then
    (readByte data start).bind fun b =>
      if isSpace b then advance data (start + 1) stop else some start
  else some start
termination_by (stop - start).toNat

def retreat (data : List UInt8) (start stop : Int) : Option Int :=
  if start < stop then
    (readByte data (stop - 1)).bind fun b =>
      if isSpace b then retreat data start (stop - 1) else some stop
  else some stop
termination_by (stop - start).toNat

/-- Whether a token is not empty, fits into a stretch of the buffer, and stands at one of its ends. -/
def matchesToken (data : List UInt8) (start size : Int) (atEnd : Bool) (token : List UInt8) :
    Option Bool :=
  let length : Int := token.length
  if 0 < length ∧ length ≤ size then
    (window data (if atEnd then start + size - length else start) length).map (· == token)
  else some false

def untilBar (tokens : List UInt8) : List UInt8 :=
  tokens.takeWhile (· != byte '|')

/-- Where the pointer jumps to: behind the next bar, or to the end. -/
def behindBar (tokens : List UInt8) : List UInt8 :=
  (tokens.dropWhile (· != byte '|')).drop 1

theorem length_behindBar_lt (b : UInt8) (rest : List UInt8) :
    (behindBar (b :: rest)).length < (b :: rest).length := by
  have shorter := (List.dropWhile_suffix (p := (· != byte '|')) (l := b :: rest)).length_le
  rw [behindBar, List.length_drop]
  simp only [List.length_cons] at shorter ⊢
  omega

/-- The length of the first token that matches, or 0. -/
def tokenLength (data : List UInt8) (start size : Int) (atEnd : Bool) :
    List UInt8 → Option Int
  | [] => some 0
  | b :: rest =>
      (matchesToken data start size atEnd (untilBar (b :: rest))).bind fun same =>
        if same then some (untilBar (b :: rest)).length
        else tokenLength data start size atEnd (behindBar (b :: rest))
termination_by tokens => tokens.length
decreasing_by exact length_behindBar_lt b rest

/-- Where the indices stand when the blanks are passed, where they end, and what is written. -/
structure Trimmed where
  bareStart : Int
  bareStop : Int
  start : Int
  stop : Int
  text : List UInt8

/-- The trim of a buffer; the parts of the rule are passed as strings. -/
def trimWindow (rule : ByteRule) (data : List UInt8) : Option Trimmed :=
  let passed := fun bytes : List UInt8 => bytes.takeWhile (· != 0)
  (advance data 0 data.length).bind fun bareStart =>
    (retreat data bareStart data.length).bind fun bareStop =>
      (tokenLength data bareStart (bareStop - bareStart) false (passed rule.leading)).bind
        fun lead =>
          let start := bareStart + lead
          (tokenLength data start (bareStop - start) true (passed rule.trailing)).bind fun trail =>
            let stop := bareStop - trail
            (window data start (stop - start)).map fun kept =>
              ⟨bareStart, bareStop, start, stop, passed rule.opening ++ kept ++ passed rule.closing⟩

end Machine

section Reading

variable (before bytes after : List UInt8)

theorem window_append : window (before ++ bytes ++ after) before.length bytes.length =
    some bytes := by
  have room : (before.length : Int) + bytes.length ≤ (before ++ bytes ++ after).length := by
    simp only [List.length_append]
    omega
  rw [window, if_pos ⟨by omega, by omega, room⟩, Int.toNat_natCast, Int.toNat_natCast,
    List.append_assoc, List.drop_left, List.take_left]

theorem readByte_append (b : UInt8) : readByte (before ++ b :: after) before.length = some b := by
  have here := window_append before [b] after
  rw [List.append_assoc, List.singleton_append] at here
  rw [readByte, show (1 : Int) = ([b] : List UInt8).length from rfl, here]
  rfl

/-- At the start of a stretch a token matches if the stretch starts with it. -/
theorem matchesToken_start (token : List UInt8) :
    matchesToken (before ++ bytes ++ after) before.length bytes.length false token =
      some (decide (token ≠ [] ∧ token <+: bytes)) := by
  rw [matchesToken]
  split
  · next fits =>
      have seen := window_append before (bytes.take token.length)
        (bytes.drop token.length ++ after)
      have size : (bytes.take token.length).length = token.length := by
        rw [List.length_take]
        omega
      have whole : before ++ bytes.take token.length ++ (bytes.drop token.length ++ after) =
          before ++ bytes ++ after := by
        rw [List.append_assoc before, ← List.append_assoc (bytes.take _), List.take_append_drop,
          List.append_assoc]
      have filled : token ≠ [] := List.length_pos_iff.mp (by omega)
      rw [whole, size] at seen
      simp only [Bool.false_eq_true, if_false, seen, Option.map_some, Option.some.injEq]
      rw [Bool.eq_iff_iff, beq_iff_eq, decide_eq_true_iff, List.prefix_iff_eq_take]
      exact ⟨fun same => ⟨filled, same.symm⟩, fun both => both.2.symm⟩
  · next misfit =>
      have other : ¬ (token ≠ [] ∧ token <+: bytes) := by
        rintro ⟨filled, begins⟩
        have short := begins.length_le
        have long := List.length_pos_iff.mpr filled
        omega
      rw [decide_eq_false other]

/-- At the end of a stretch a token matches if the stretch ends with it. -/
theorem matchesToken_end (token : List UInt8) :
    matchesToken (before ++ bytes ++ after) before.length bytes.length true token =
      some (decide (token ≠ [] ∧ token <:+ bytes)) := by
  rw [matchesToken]
  split
  · next fits =>
      have seen := window_append (before ++ bytes.take (bytes.length - token.length))
        (bytes.drop (bytes.length - token.length)) after
      have size : (bytes.drop (bytes.length - token.length)).length = token.length := by
        rw [List.length_drop]
        omega
      have place : ((before ++ bytes.take (bytes.length - token.length)).length : Int) =
          before.length + bytes.length - token.length := by
        rw [List.length_append, List.length_take]
        omega
      have whole : before ++ bytes.take (bytes.length - token.length) ++
          bytes.drop (bytes.length - token.length) ++ after = before ++ bytes ++ after := by
        rw [List.append_assoc before, List.take_append_drop]
      have filled : token ≠ [] := List.length_pos_iff.mp (by omega)
      rw [whole, size, place] at seen
      simp only [if_true, seen, Option.map_some, Option.some.injEq]
      rw [Bool.eq_iff_iff, beq_iff_eq, decide_eq_true_iff, List.suffix_iff_eq_drop]
      exact ⟨fun same => ⟨filled, same.symm⟩, fun both => both.2.symm⟩
  · next misfit =>
      have other : ¬ (token ≠ [] ∧ token <:+ bytes) := by
        rintro ⟨filled, ends⟩
        have short := ends.length_le
        have long := List.length_pos_iff.mpr filled
        omega
      rw [decide_eq_false other]

end Reading

def Encloses (data : List UInt8) (start stop : Int) (bytes : List UInt8) : Prop :=
  ∃ before after, data = before ++ bytes ++ after ∧
    start = before.length ∧ stop = before.length + bytes.length

section Moves

variable {data bytes : List UInt8} {start stop : Int}

theorem Encloses.whole (data : List UInt8) : Encloses data 0 data.length data :=
  ⟨[], [], by simp, by simp, by simp⟩

theorem Encloses.le (encloses : Encloses data start stop bytes) :
    0 ≤ start ∧ start ≤ stop ∧ stop ≤ data.length := by
  obtain ⟨before, after, rfl, rfl, rfl⟩ := encloses
  simp only [List.length_append]
  omega

theorem Encloses.stop_eq (encloses : Encloses data start stop bytes) :
    stop = start + bytes.length := by
  obtain ⟨before, after, _, rfl, rfl⟩ := encloses
  rfl

theorem Encloses.window (encloses : Encloses data start stop bytes) :
    window data start (stop - start) = some bytes := by
  obtain ⟨before, after, rfl, rfl, rfl⟩ := encloses
  rw [show (before.length : Int) + bytes.length - before.length = bytes.length by omega]
  exact window_append before bytes after

/-- The start may be moved over the first of two stretches. -/
theorem Encloses.tail {first second : List UInt8}
    (encloses : Encloses data start stop (first ++ second)) :
    Encloses data (start + first.length) stop second := by
  obtain ⟨before, after, rfl, rfl, rfl⟩ := encloses
  refine ⟨before ++ first, after, ?_, ?_, ?_⟩
  · simp only [List.append_assoc]
  · rw [List.length_append, Int.natCast_add]
  · simp only [List.length_append]
    omega

/-- The stop may be moved back over the last of two stretches. -/
theorem Encloses.init {first second : List UInt8}
    (encloses : Encloses data start stop (first ++ second)) :
    Encloses data start (stop - second.length) first := by
  obtain ⟨before, after, rfl, rfl, rfl⟩ := encloses
  refine ⟨before, second ++ after, ?_, rfl, ?_⟩
  · simp only [List.append_assoc]
  · simp only [List.length_append]
    omega

theorem advance_of_encloses (encloses : Encloses data start stop bytes) :
    ∃ next, advance data start stop = some next ∧
      Encloses data next stop (bytes.dropWhile isSpace) := by
  induction bytes generalizing start with
  | nil =>
      have same : ¬ start < stop := by
        have ended := encloses.stop_eq
        simp at ended
        omega
      exact ⟨start, by rw [advance, if_neg same], encloses⟩
  | cons b rest ih =>
      have run : advance data start stop =
          if isSpace b then advance data (start + 1) stop else some start := by
        have room := encloses.stop_eq
        rw [List.length_cons] at room
        obtain ⟨before, after, rfl, rfl, -⟩ := encloses
        rw [advance, if_pos (by omega), List.append_assoc, List.cons_append, readByte_append]
        rfl
      cases blank : isSpace b with
      | true =>
          have later : Encloses data (start + ([b] : List UInt8).length) stop rest := encloses.tail
          obtain ⟨next, moved, enclosed⟩ := ih later
          refine ⟨next, ?_, ?_⟩
          · rw [run, blank]
            exact moved
          · rwa [List.dropWhile_cons_of_pos blank]
      | false =>
          refine ⟨start, ?_, ?_⟩
          · rw [run, blank]
            rfl
          · rwa [List.dropWhile_cons_of_neg (by simp [blank])]

theorem retreat_of_encloses (encloses : Encloses data start stop bytes) :
    ∃ next, retreat data start stop = some next ∧
      Encloses data start next (bytes.rdropWhile isSpace) := by
  induction bytes using List.reverseRecOn generalizing stop with
  | nil =>
      have same : ¬ start < stop := by
        have ended := encloses.stop_eq
        simp at ended
        omega
      exact ⟨stop, by rw [retreat, if_neg same], encloses⟩
  | append_singleton front b ih =>
      have run : retreat data start stop =
          if isSpace b then retreat data start (stop - 1) else some stop := by
        have room := encloses.stop_eq
        rw [List.length_append, List.length_singleton] at room
        obtain ⟨before, after, rfl, rfl, -⟩ := encloses
        have place : stop - 1 = (before ++ front).length := by
          rw [List.length_append]
          omega
        have whole : before ++ (front ++ [b]) ++ after = before ++ front ++ b :: after := by simp
        rw [retreat, if_pos (by omega), place, whole, readByte_append]
        rfl
      cases blank : isSpace b with
      | true =>
          have sooner : Encloses data start (stop - ([b] : List UInt8).length) front :=
            encloses.init
          obtain ⟨next, moved, enclosed⟩ := ih sooner
          refine ⟨next, ?_, ?_⟩
          · rw [run, blank]
            exact moved
          · rwa [List.rdropWhile_concat_pos _ _ _ blank]
      | false =>
          refine ⟨stop, ?_, ?_⟩
          · rw [run, blank]
            rfl
          · rwa [List.rdropWhile_concat_neg _ _ _ (by simp [blank])]

end Moves

section Lists

variable {data : List UInt8} {start size : Int} {atEnd : Bool}

/-- One turn of the loop; at the end of the string it is the last. -/
theorem tokenLength_eq (tokens : List UInt8) : tokenLength data start size atEnd tokens =
    (matchesToken data start size atEnd (untilBar tokens)).bind fun same =>
      if same then some ((untilBar tokens).length : Int)
      else tokenLength data start size atEnd (behindBar tokens) := by
  cases tokens with
  | nil => simp [tokenLength, matchesToken, untilBar, behindBar]
  | cons b rest => rw [tokenLength]

theorem firstByteToken_last (accepted : List UInt8 → Bool) {token : List UInt8}
    (absent : byte '|' ∉ token) :
    firstByteToken accepted token = if token ≠ [] ∧ accepted token then token else [] := by
  rw [firstByteToken, byteTokens, List.splitOn_eq_singleton absent]
  cases token <;> cases known : accepted _ <;> simp [known]

theorem firstByteToken_bar (accepted : List UInt8 → Bool) {token : List UInt8}
    (more : List UInt8) (absent : byte '|' ∉ token) :
    firstByteToken accepted (token ++ byte '|' :: more) =
      if token ≠ [] ∧ accepted token then token else firstByteToken accepted more := by
  rw [firstByteToken, byteTokens, List.splitOn_append_cons_self_of_not_mem absent, firstByteToken,
    byteTokens]
  cases token with
  | nil => simp
  | cons b rest => cases known : accepted (b :: rest) <;> simp [known]

/-- A token that is taken is none at all, or one of the list that is accepted. -/
theorem firstByteToken_spec (accepted : List UInt8 → Bool) (list : List UInt8) :
    firstByteToken accepted list = [] ∨
      firstByteToken accepted list ∈ byteTokens list ∧
        accepted (firstByteToken accepted list) = true := by
  rw [firstByteToken]
  cases found : (byteTokens list).find? accepted with
  | none => exact .inl rfl
  | some token => exact .inr ⟨List.mem_of_find?_eq_some found, List.find?_some found⟩

/-- The pointer finds the first token that is accepted, if those that are accepted match. -/
theorem tokenLength_eq_length (accepted : List UInt8 → Bool)
    (agrees : ∀ token, matchesToken data start size atEnd token =
      some (decide (token ≠ [] ∧ accepted token))) (list : List UInt8) :
    tokenLength data start size atEnd list =
      some ((firstByteToken accepted list).length : Int) := by
  induction length : list.length using Nat.strongRecOn generalizing list with
  | ind count ih =>
      by_cases listed : byte '|' ∈ list
      · obtain ⟨token, more, rfl, absent⟩ := List.eq_append_cons_of_mem listed
        have read : ∀ b ∈ token, (b != byte '|') = true := by
          intro b member
          rw [bne_iff_ne]
          rintro rfl
          exact absent member
        have here : untilBar (token ++ byte '|' :: more) = token := by
          rw [untilBar, List.takeWhile_append_of_pos read]
          simp
        have next : behindBar (token ++ byte '|' :: more) = more := by
          rw [behindBar, List.dropWhile_append_of_pos read]
          simp
        have later := ih more.length (by simp at length; omega) more rfl
        rw [tokenLength_eq, here, next, agrees, later, firstByteToken_bar accepted more absent]
        split <;> simp_all
      · have read : ∀ b ∈ list, (b != byte '|') = true := by
          intro b member
          rw [bne_iff_ne]
          rintro rfl
          exact listed member
        have here : untilBar list = list := by
          rw [untilBar, List.takeWhile_eq_self_iff.mpr read]
        have next : behindBar list = [] := by
          rw [behindBar, List.dropWhile_eq_nil_iff.mpr read]
          rfl
        rw [tokenLength_eq, here, next, agrees, firstByteToken_last accepted listed]
        split <;> simp_all [tokenLength]

end Lists

section Cuts

variable {data bytes : List UInt8} {start stop : Int}

/-- The token at the start is found, and behind it the rest of the stretch. -/
theorem leads_of_encloses (encloses : Encloses data start stop bytes) (list : List UInt8) :
    ∃ token rest, bytes = token ++ rest ∧ (token = [] ∨ token ∈ byteTokens list) ∧
      token = firstByteToken (·.isPrefixOf bytes) list ∧ rest = bytes.drop token.length ∧
      tokenLength data start (stop - start) false list = some (token.length : Int) := by
  have agrees : ∀ token, matchesToken data start (stop - start) false token =
      some (decide (token ≠ [] ∧ token.isPrefixOf bytes)) := by
    intro token
    obtain ⟨before, after, rfl, rfl, rfl⟩ := encloses
    rw [show (before.length : Int) + bytes.length - before.length = bytes.length by omega,
      matchesToken_start]
    simp
  refine ⟨_, _, ?_, ?_, rfl, rfl, tokenLength_eq_length _ agrees list⟩
  · rcases firstByteToken_spec (·.isPrefixOf bytes) list with none | ⟨-, begins⟩
    · rw [none]
      rfl
    · exact (List.prefix_iff_eq_append.mp (List.isPrefixOf_iff_prefix.mp begins)).symm
  · exact (firstByteToken_spec _ list).imp_right And.left

/-- The token at the end is found, and before it the rest of the stretch. -/
theorem trails_of_encloses (encloses : Encloses data start stop bytes) (list : List UInt8) :
    ∃ token rest, bytes = rest ++ token ∧ (token = [] ∨ token ∈ byteTokens list) ∧
      token = firstByteToken (·.isSuffixOf bytes) list ∧
      rest = bytes.take (bytes.length - token.length) ∧
      tokenLength data start (stop - start) true list = some (token.length : Int) := by
  have agrees : ∀ token, matchesToken data start (stop - start) true token =
      some (decide (token ≠ [] ∧ token.isSuffixOf bytes)) := by
    intro token
    obtain ⟨before, after, rfl, rfl, rfl⟩ := encloses
    rw [show (before.length : Int) + bytes.length - before.length = bytes.length by omega,
      matchesToken_end]
    simp
  refine ⟨_, _, ?_, ?_, rfl, rfl, tokenLength_eq_length _ agrees list⟩
  · rcases firstByteToken_spec (·.isSuffixOf bytes) list with none | ⟨-, ends⟩
    · rw [none]
      simp
    · exact (List.suffix_iff_eq_append.mp (List.isSuffixOf_iff_suffix.mp ends)).symm
  · exact (firstByteToken_spec _ list).imp_right And.left

end Cuts

/-- The blanks that a trim takes away are the spaces of the C locale. -/
theorem isSpace_eq_contains : isSpace = blankBytes.contains := by
  funext b
  rw [Bool.eq_iff_iff]
  simp only [isSpace, blankBytes, Bool.or_eq_true, Bool.and_eq_true, beq_iff_eq, decide_eq_true_eq,
    List.contains_iff_mem, List.mem_cons, List.not_mem_nil, or_false, UInt8.le_iff_toNat_le,
    ← UInt8.toNat_inj, UInt8.reduceToNat]
  omega

/-- The bytes from an index to another are those of a token of the list, or none at all. -/
def CutsByteToken (data list : List UInt8) (start stop : Int) : Prop :=
  ∃ token, (token = [] ∨ token ∈ byteTokens list) ∧ window data start (stop - start) = some token

/-- Trimming in place gives the trimmed bytes: every read is in the buffer, the indices never pass
each other, and what each of them skips after the blanks is at most one token of its list. -/
theorem trimWindow_trimBytes (rule : ByteRule) (data : List UInt8)
    (sealed : ∀ bytes ∈ [rule.opening, rule.closing, rule.leading, rule.trailing], 0 ∉ bytes) :
    ∃ run, trimWindow rule data = some run ∧ run.text = trimBytes rule data ∧
      (0 ≤ run.bareStart ∧ run.bareStart ≤ run.start ∧ run.start ≤ run.stop ∧
        run.stop ≤ run.bareStop ∧ run.bareStop ≤ data.length) ∧
      CutsByteToken data rule.leading run.bareStart run.start ∧
      CutsByteToken data rule.trailing run.stop run.bareStop := by
  have passed : ∀ bytes ∈ [rule.opening, rule.closing, rule.leading, rule.trailing],
      bytes.takeWhile (· != 0) = bytes := by
    intro bytes listed
    rw [List.takeWhile_eq_self_iff]
    intro b member
    rw [bne_iff_ne]
    rintro rfl
    exact sealed bytes listed member
  simp only [List.forall_mem_cons] at passed
  obtain ⟨passedOpening, passedClosing, passedLeading, passedTrailing, _⟩ := passed
  -- the indices move over the blanks, over a token at the start, over one at the end of the rest
  obtain ⟨bareStart, advanced, enclosedAfter⟩ := advance_of_encloses (Encloses.whole data)
  obtain ⟨bareStop, retreated, enclosedBare⟩ := retreat_of_encloses enclosedAfter
  rw [isSpace_eq_contains, ← bareBytes] at enclosedBare
  obtain ⟨lead, afterLead, leadCut, leadToken, leadIs, afterLeadIs, leadFound⟩ :=
    leads_of_encloses enclosedBare rule.leading
  have enclosedLead : Encloses data bareStart bareStop (lead ++ afterLead) := leadCut ▸ enclosedBare
  have enclosedRest := enclosedLead.tail
  obtain ⟨trail, core, trailCut, trailToken, trailIs, coreIs, trailFound⟩ :=
    trails_of_encloses enclosedRest rule.trailing
  have enclosedTrail : Encloses data _ bareStop (core ++ trail) := trailCut ▸ enclosedRest
  have enclosedCore := enclosedTrail.init
  have trimmed : trimBytes rule data = rule.opening ++ core ++ rule.closing := by
    rw [trimBytes, ← leadIs, ← afterLeadIs, ← trailIs, ← coreIs]
  have ordered := enclosedCore.le
  have bounds := enclosedBare.le
  have opened := enclosedLead.init
  rw [enclosedRest.stop_eq, Int.add_sub_cancel] at opened
  have closed := enclosedTrail.tail
  rw [← enclosedCore.stop_eq] at closed
  refine ⟨⟨bareStart, bareStop, bareStart + lead.length, bareStop - trail.length,
    rule.opening ++ core ++ rule.closing⟩, ?_, trimmed.symm, ?_, ?_, ?_⟩
  · rw [trimWindow]
    simp only [passedOpening, passedClosing, passedLeading, passedTrailing, advanced, retreated,
      leadFound, trailFound, enclosedCore.window, Option.bind_some, Option.map_some]
  · dsimp only
    omega
  · exact ⟨lead, leadToken, opened.window⟩
  · exact ⟨trail, trailToken, closed.window⟩

end SqlMapper.Code.Support
