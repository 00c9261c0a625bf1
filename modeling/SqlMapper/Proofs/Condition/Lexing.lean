import SqlMapper.Proofs.Condition.Grammar
import SqlMapper.Proofs.Predicate.Spelling

/-!
The tokens of C conditions. At each place the longest token is taken: a name takes every letter and
digit that follows, a number also points and the sign behind the mark of a power, and the signs
that are no operators of conditions make the text no condition.
-/

namespace SqlMapper.Condition

open Predicate (Comparator IsDigits IsFraction IsPower IsNumber)

def isBlank (c : Char) : Bool :=
  [' ', '\t', '\n', '\x0b', '\x0c'].contains c

def isNumberPart (c : Char) : Bool :=
  C.isIdentifierTail c || c == '.'

def isMark (c : Char) : Bool :=
  ['e', 'E', 'p', 'P'].contains c

def isSign (c : Char) : Bool :=
  ['+', '-'].contains c

/-- What belongs to a number behind its first digit, and the rest. -/
def numberTail : List Char → List Char × List Char
  | [] => ([], [])
  | [c] => if isNumberPart c then ([c], []) else ([], [c])
  | c :: next :: rest =>
      if isMark c && isSign next then
        (c :: next :: (numberTail rest).1, (numberTail rest).2)
      else if isNumberPart c then
        (c :: (numberTail (next :: rest)).1, (numberTail (next :: rest)).2)
      else ([], c :: next :: rest)

/-- A sign or a bracket that starts with a character, and the rest. -/
def symbol : Char → List Char → Option (Token × List Char)
  | '-', '>' :: rest => some (.arrow, rest)
  | '-', '-' :: _ | '-', '=' :: _ => none
  | '-', rest => some (.minus, rest)
  | '!', '=' :: rest => some (.binary (.compare .notEqual), rest)
  | '!', rest => some (.not, rest)
  | '=', '=' :: rest => some (.binary (.compare .equal), rest)
  | '<', '=' :: rest => some (.binary (.compare .lessEqual), rest)
  | '<', '<' :: _ | '<', ':' :: _ | '<', '%' :: _ => none
  | '<', rest => some (.binary (.compare .less), rest)
  | '>', '=' :: rest => some (.binary (.compare .greaterEqual), rest)
  | '>', '>' :: _ => none
  | '>', rest => some (.binary (.compare .greater), rest)
  | '&', '&' :: rest => some (.binary .and, rest)
  | '|', '|' :: rest => some (.binary .or, rest)
  | '(', rest => some (.open, rest)
  | ')', rest => some (.close, rest)
  | _, _ => none

theorem length_numberTail (text : List Char) : (numberTail text).2.length ≤ text.length := by
  fun_induction numberTail text <;> simp_all <;> omega

theorem length_symbol (c : Char) (text : List Char) (token : Token) (rest : List Char)
    (found : symbol c text = some (token, rest)) : rest.length ≤ text.length := by
  unfold symbol at found
  split at found
  all_goals
    cases found
    try simp

def lex : List Char → Option (List Token)
  | [] => some []
  | c :: rest =>
      if isBlank c then lex rest
      else if C.isIdentifierStart c then
        (lex (rest.dropWhile C.isIdentifierTail)).map
          (.identifier (String.ofList (c :: rest.takeWhile C.isIdentifierTail)) :: ·)
      else if c.isDigit then
        (lex (numberTail rest).2).map (.number (String.ofList (c :: (numberTail rest).1)) :: ·)
      else
        match _known : symbol c rest with
        | some (token, left) => (lex left).map (token :: ·)
        | none => none
termination_by text => text.length
decreasing_by
  · simp
  · simpa [Nat.lt_succ_iff] using (List.dropWhile_suffix C.isIdentifierTail).length_le
  · simpa [Nat.lt_succ_iff] using length_numberTail rest
  · simpa [Nat.lt_succ_iff] using length_symbol c rest token left _known

section Signs

theorem lex_of_symbol (c : Char) (text rest : List Char) (token : Token)
    (plain : (isBlank c || C.isIdentifierStart c || c.isDigit) = false)
    (known : symbol c text = some (token, rest)) :
    lex (c :: text) = (lex rest).map (token :: ·) := by
  simp only [Bool.or_eq_false_iff] at plain
  rw [lex]
  simp only [plain, Bool.false_eq_true, if_false]
  split
  · next same =>
      cases known.symm.trans same
      rfl
  · next none => cases known.symm.trans none

theorem lex_blank (text : List Char) : lex (' ' :: text) = lex text := by
  rw [lex]
  rfl

theorem lex_open (text : List Char) : lex ('(' :: text) = (lex text).map (.open :: ·) :=
  lex_of_symbol _ _ _ _ rfl rfl

theorem lex_close (text : List Char) : lex (')' :: text) = (lex text).map (.close :: ·) :=
  lex_of_symbol _ _ _ _ rfl rfl

theorem lex_arrow (text : List Char) : lex ('-' :: '>' :: text) = (lex text).map (.arrow :: ·) :=
  lex_of_symbol _ _ _ _ rfl rfl

def Operator.symbol : Operator → String
  | .or => "||"
  | .and => "&&"
  | .compare op => op.symbol

theorem lex_operator (op : Operator) (text : List Char) :
    lex (op.symbol.toList ++ ' ' :: text) = (lex text).map (.binary op :: ·) := by
  rw [← lex_blank text]
  cases op with
  | or => exact lex_of_symbol _ _ _ _ rfl rfl
  | and => exact lex_of_symbol _ _ _ _ rfl rfl
  | compare op => cases op <;> exact lex_of_symbol _ _ _ _ rfl rfl

/-- A text that starts with a character that no sign can take in. -/
def Solid (text : List Char) : Prop :=
  ∃ first rest, text = first :: rest ∧
    (C.isIdentifierTail first = true ∨ first = '(' ∨ first = '!')

theorem symbol_of_solid (text : List Char) (solid : Solid text) :
    symbol '-' text = some (.minus, text) ∧ symbol '!' text = some (.not, text) := by
  obtain ⟨first, rest, rfl, starts⟩ := solid
  have apart (c : Char) (other : C.isIdentifierTail c = false) (notOpen : c ≠ '(')
      (notMark : c ≠ '!') : first ≠ c := by
    rintro rfl
    rcases starts with tail | same | same
    · rw [other] at tail
      cases tail
    · exact notOpen same
    · exact notMark same
  have notArrow := apart '>' rfl (by decide) (by decide)
  have notMinus := apart '-' rfl (by decide) (by decide)
  have notEqual := apart '=' rfl (by decide) (by decide)
  constructor
  · simp [symbol, notArrow, notMinus, notEqual]
  · simp [symbol, notEqual]

theorem lex_minus (text : List Char) (solid : Solid text) :
    lex ('-' :: text) = (lex text).map (.minus :: ·) :=
  lex_of_symbol _ _ _ _ rfl (symbol_of_solid text solid).1

theorem lex_not (text : List Char) (solid : Solid text) :
    lex ('!' :: text) = (lex text).map (.not :: ·) :=
  lex_of_symbol _ _ _ _ rfl (symbol_of_solid text solid).2

end Signs

section Atoms

/-- Nothing that follows can become part of a name or a number. -/
def Ends (rest : List Char) : Prop :=
  ∀ c ∈ rest.head?, isNumberPart c = false ∧ isSign c = false

/-- A character of a class is none of those outside it. -/
theorem contains_eq_false {chars : List Char} {inClass : Char → Bool} {c : Char}
    (outside : chars.all (fun other => !inClass other) = true) (holds : inClass c = true) :
    chars.contains c = false := by
  rw [← Bool.not_eq_true, List.contains_iff_mem]
  intro member
  have other := List.all_eq_true.mp outside c member
  rw [holds] at other
  cases other

theorem takeWhile_of_all {inClass : Char → Bool} {text rest : List Char}
    (all : ∀ c ∈ text, inClass c = true) (ends : ∀ c ∈ rest.head?, inClass c = false) :
    (text ++ rest).takeWhile inClass = text ∧ (text ++ rest).dropWhile inClass = rest := by
  have none : rest.takeWhile inClass = [] ∧ rest.dropWhile inClass = rest := by
    cases rest with
    | nil => exact ⟨rfl, rfl⟩
    | cons c more =>
        have other := ends c rfl
        constructor
        · rw [List.takeWhile_cons_of_neg (by simp [other])]
        · rw [List.dropWhile_cons_of_neg (by simp [other])]
  rw [List.takeWhile_append_of_pos all, List.dropWhile_append_of_pos all, none.1, none.2]
  exact ⟨List.append_nil text, rfl⟩

theorem lex_identifier (name : String) (text : List Char) (formed : C.isIdentifier name = true)
    (ends : ∀ c ∈ text.head?, C.isIdentifierTail c = false) :
    lex (name.toList ++ text) = (lex text).map (.identifier name :: ·) := by
  unfold C.isIdentifier at formed
  split at formed
  · cases formed
  · next first rest spelled =>
      simp only [Bool.and_eq_true, List.all_eq_true] at formed
      obtain ⟨start, all⟩ := formed
      have plain : isBlank first = false := contains_eq_false rfl start
      obtain ⟨taken, left⟩ := takeWhile_of_all all ends
      rw [spelled, List.cons_append, lex]
      simp only [plain, start, taken, left, Bool.false_eq_true, if_true, if_false]
      rw [← spelled, String.ofList_toList]

theorem numberTail_cons (c : Char) (text : List Char) (part : isNumberPart c = true)
    (apart : isMark c = true → ∀ next ∈ text.head?, isSign next = false) :
    numberTail (c :: text) = (c :: (numberTail text).1, (numberTail text).2) := by
  cases text with
  | nil => simp [numberTail, part]
  | cons next rest =>
      rw [numberTail, if_neg, if_pos part]
      intro both
      simp only [Bool.and_eq_true] at both
      have other := apart both.1 next rfl
      rw [both.2] at other
      cases other

/-- A text that belongs to a number as a whole. -/
def Taken (tail : List Char) : Prop :=
  ∀ rest, Ends rest → numberTail (tail ++ rest) = (tail, rest)

theorem taken_nil : Taken [] := by
  intro rest ends
  match rest with
  | [] => rfl
  | [c] => simp [numberTail, (ends c rfl).1]
  | c :: next :: more =>
      have part := (ends c rfl).1
      have letters : ['e', 'E', 'p', 'P'].all (fun mark => !!isNumberPart mark) = true := rfl
      have mark : isMark c = false := contains_eq_false letters (by simp [part])
      simp [numberTail, part, mark]

theorem taken_cons {c : Char} {tail : List Char} (part : isNumberPart c = true)
    (apart : isMark c = false) (taken : Taken tail) : Taken (c :: tail) := by
  intro rest ends
  rw [List.cons_append, numberTail_cons c _ part (fun mark => absurd mark (by simp [apart])),
    taken rest ends]

theorem digit_part {c : Char} (digit : c.isDigit = true) :
    isNumberPart c = true ∧ isMark c = false ∧ isSign c = false := by
  refine ⟨?_, contains_eq_false rfl digit, contains_eq_false rfl digit⟩
  simp [isNumberPart, C.isIdentifierTail, digit]

/-- Digits come before all letters and the underscore. -/
theorem not_start_of_digit {c : Char} (digit : c.isDigit = true) :
    C.isIdentifierStart c = false := by
  have bounds : (decide (48 ≤ c.val) && decide (c.val ≤ 57)) = true := digit
  simp only [Bool.and_eq_true, decide_eq_true_eq, UInt32.le_iff_toNat_le] at bounds
  have high : c.val.toNat ≤ 57 := bounds.2
  rw [← Bool.not_eq_true]
  intro start
  have letters : ((decide (65 ≤ c.val ∧ c.val ≤ 90) ||
      (decide (97 ≤ c.val) && decide (c.val ≤ 122))) || c == '_') = true := start
  simp only [Bool.or_eq_true, Bool.and_eq_true, decide_eq_true_eq, beq_iff_eq,
    UInt32.le_iff_toNat_le] at letters
  rcases letters with (⟨upper, _⟩ | ⟨lower, _⟩) | rfl
  · have : 65 ≤ c.val.toNat := upper
    omega
  · have : 97 ≤ c.val.toNat := lower
    omega
  · exact absurd high (by decide)

theorem taken_digits {digits tail : List Char} (all : ∀ c ∈ digits, c.isDigit = true)
    (taken : Taken tail) : Taken (digits ++ tail) := by
  induction digits with
  | nil => exact taken
  | cons c more ih =>
      have here := digit_part (all c List.mem_cons_self)
      exact taken_cons here.1 here.2.1 (ih fun d member => all d (List.mem_cons_of_mem c member))

theorem taken_power {power : List Char} (formed : IsPower power) : Taken power := by
  rcases formed with rfl | ⟨mark, sign, digits, isMark, isSign, isDigits, rfl⟩
  · exact taken_nil
  · have tail : Taken digits := by
      have := taken_digits isDigits.2 taken_nil
      rwa [List.append_nil] at this
    have part : isNumberPart mark = true := by rcases isMark with rfl | rfl <;> rfl
    have marked : Condition.isMark mark = true := by rcases isMark with rfl | rfl <;> rfl
    intro rest ends
    rcases isSign with rfl | rfl | rfl
    · -- The digit behind the mark is no sign.
      rw [List.append_assoc, List.singleton_append, numberTail_cons mark _ part, tail rest ends]
      · rfl
      · intro _ next member
        cases digits with
        | nil => exact absurd rfl isDigits.1
        | cons first more =>
            cases member
            exact (digit_part (isDigits.2 _ List.mem_cons_self)).2.2
    · simp [numberTail, marked, Condition.isSign, tail rest ends]
    · simp [numberTail, marked, Condition.isSign, tail rest ends]

theorem lex_number (digits : String) (text : List Char) (formed : IsNumber digits.toList)
    (ends : Ends text) : lex (digits.toList ++ text) = (lex text).map (.number digits :: ·) := by
  obtain ⟨whole, part, power, isWhole, isPart, isPower, spelled⟩ := formed
  obtain ⟨first, rest, rfl⟩ := List.exists_cons_of_ne_nil isWhole.1
  have digit := isWhole.2 first List.mem_cons_self
  have fractional : Taken (part ++ power) := by
    rcases isPart with rfl | ⟨more, isDigits, rfl⟩
    · exact taken_power isPower
    · exact taken_cons rfl rfl (taken_digits isDigits.2 (taken_power isPower))
  have tail : Taken (rest ++ (part ++ power)) :=
    taken_digits (fun c member => isWhole.2 c (List.mem_cons_of_mem first member)) fractional
  have other : isBlank first = false ∧ C.isIdentifierStart first = false :=
    ⟨contains_eq_false rfl digit, not_start_of_digit digit⟩
  simp only [List.cons_append, List.append_assoc] at spelled
  rw [spelled, List.cons_append, lex]
  simp only [other, digit, tail text ends, Bool.false_eq_true, if_true, if_false]
  rw [← spelled, String.ofList_toList]

end Atoms

end SqlMapper.Condition
