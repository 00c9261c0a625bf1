/-!
Looking for one text inside another, and the splitting and replacing that rest on it. All of it is
on lists of characters, so that a cut never falls inside a character.
-/
namespace SqlMapper.Text

/-- The text before and after the first occurrence of `needle`. -/
def cut (needle : List Char) : List Char → Option (List Char × List Char)
  | [] => if needle.isEmpty then some ([], []) else none
  | c :: rest =>
      match needle.isPrefixOf? (c :: rest) with
      | some after => some ([], after)
      | none => (cut needle rest).map fun found => (c :: found.1, found.2)

/-- Whether `needle` occurs in the text. -/
def occurs (needle text : List Char) : Bool :=
  (cut needle text).isSome

/-- Puts `replacement` in the place of the first occurrence of `needle`. -/
def replaceFirst (needle replacement text : List Char) : List Char :=
  match cut needle text with
  | some (before, after) => before ++ replacement ++ after
  | none => text

/-- Splits at every `separator`; there is always one piece more than separators. -/
def splitAt (separator : Char) : List Char → List (List Char)
  | [] => [[]]
  | c :: rest =>
      if c == separator then [] :: splitAt separator rest
      else match splitAt separator rest with
        | [] => [[c]]
        | piece :: pieces => (c :: piece) :: pieces

theorem splitAt_ne_nil (separator : Char) (chars : List Char) : splitAt separator chars ≠ [] := by
  cases chars with
  | nil => simp [splitAt]
  | cons c rest =>
      rw [splitAt]
      split
      · simp
      · split <;> simp

theorem splitAt_append (separator : Char) (before after : List Char) :
    splitAt separator (before ++ separator :: after)
      = splitAt separator before ++ splitAt separator after := by
  induction before with
  | nil => simp [splitAt]
  | cons c rest ih =>
      rw [List.cons_append, splitAt, splitAt, ih]
      by_cases same : c = separator
      · simp [same]
      · have other : (c == separator) = false := beq_false_of_ne same
        simp only [other, Bool.false_eq_true, ↓reduceIte]
        cases pieces : splitAt separator rest with
        | nil => exact absurd pieces (splitAt_ne_nil separator rest)
        | cons piece pieces => rfl

theorem splitAt_of_not_mem {separator : Char} {chars : List Char} (absent : separator ∉ chars) :
    splitAt separator chars = [chars] := by
  induction chars with
  | nil => rfl
  | cons c rest ih =>
      rw [List.mem_cons, not_or] at absent
      have other : (c == separator) = false := beq_false_of_ne fun same => absent.1 same.symm
      rw [splitAt, ih absent.2, other]
      rfl

theorem not_mem_of_mem_splitAt {separator : Char} {chars piece : List Char}
    (member : piece ∈ splitAt separator chars) : separator ∉ piece := by
  induction chars generalizing piece with
  | nil =>
      rw [splitAt, List.mem_singleton] at member
      simp [member]
  | cons c rest ih =>
      rw [splitAt] at member
      by_cases same : c = separator
      · rw [if_pos (beq_iff_eq.mpr same), List.mem_cons] at member
        rcases member with rfl | later
        · simp
        · exact ih later
      · rw [if_neg (by simpa using same)] at member
        cases pieces : splitAt separator rest with
        | nil => exact absurd pieces (splitAt_ne_nil separator rest)
        | cons first others =>
            rw [pieces] at member ih
            rcases List.mem_cons.mp member with rfl | later
            · have apart := ih List.mem_cons_self
              simp [apart, Ne.symm same]
            · exact ih (List.mem_cons_of_mem first later)

/-- The text before the first `stop`, and what follows it if there is one. -/
def upTo (stop : Char) : List Char → List Char × Option (List Char)
  | [] => ([], none)
  | c :: rest =>
      if c == stop then ([], some rest)
      else
        let found := upTo stop rest
        (c :: found.1, found.2)

def join (separator : String) : List String → String
  | [] => ""
  | [only] => only
  | first :: rest => first ++ separator ++ join separator rest

/-- `count` copies of one character. -/
def replicate (count : Nat) (c : Char) : String :=
  String.ofList (List.replicate count c)

def byteCount (text : String) : Nat :=
  text.utf8ByteSize

end SqlMapper.Text
