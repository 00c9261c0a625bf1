import SqlMapper.C.Printer
import SqlMapper.Proofs.Encoding

/-!
Brackets in C. A scan of a text keeps the brackets that are open, innermost first; a closing bracket
needs its partner on top. Inside of string and character literals brackets mean nothing, a backslash
takes the next character with it, and a line does not end.
-/

namespace SqlMapper.C

/-- Where a scan stands: in the code, or in a literal behind its opening quote. -/
inductive Place where
  | code
  | literal (quote : Char) (escaped : Bool)
  deriving DecidableEq

structure Nesting where
  place : Place
  opened : List Char
  deriving DecidableEq

/-- The bracket that a bracket closes. -/
def partner? : Char → Option Char
  | ')' => some '('
  | ']' => some '['
  | '}' => some '{'
  | _ => none

def isQuote (c : Char) : Bool :=
  c == '"' || c == '\x27'

def isOpening (c : Char) : Bool :=
  c == '(' || c == '[' || c == '{'

/-- One character of code. -/
def codeStep (opened : List Char) (c : Char) : Option Nesting :=
  if isQuote c then some ⟨.literal c false, opened⟩
  else if isOpening c then some ⟨.code, c :: opened⟩
  else match partner? c with
    | none => some ⟨.code, opened⟩
    | some opening =>
        match opened with
        | [] => none
        | top :: rest => if top = opening then some ⟨.code, rest⟩ else none

/-- One character inside of a literal. -/
def literalStep (quote : Char) (escaped : Bool) (c : Char) : Option Place :=
  if c = '\n' then none
  else if escaped then some (.literal quote false)
  else if c = '\\' then some (.literal quote true)
  else if c = quote then some .code
  else some (.literal quote false)

def Nesting.step : Nesting → Char → Option Nesting
  | ⟨.code, opened⟩, c => codeStep opened c
  | ⟨.literal quote escaped, opened⟩, c =>
      (literalStep quote escaped c).map fun place => ⟨place, opened⟩

theorem step_code (opened : List Char) (c : Char) :
    Nesting.step ⟨.code, opened⟩ c = codeStep opened c := rfl

theorem step_literal (quote : Char) (escaped : Bool) (opened : List Char) (c : Char) :
    Nesting.step ⟨.literal quote escaped, opened⟩ c =
      (literalStep quote escaped c).map fun place => ⟨place, opened⟩ := rfl

def scan : Nesting → List Char → Option Nesting
  | s, [] => some s
  | s, c :: rest => (s.step c).bind fun next => scan next rest

theorem scan_append (s : Nesting) (first rest : List Char) :
    scan s (first ++ rest) = (scan s first).bind fun next => scan next rest := by
  induction first generalizing s with
  | nil => rfl
  | cons c first ih =>
      rw [List.cons_append, scan, scan, Option.bind_assoc]
      congr
      funext next
      exact ih next

section Frames

variable {place other : Place} {opened left : List Char}

theorem codeStep_frame {c : Char} (stepped : codeStep opened c = some ⟨other, left⟩)
    (outer : List Char) : codeStep (opened ++ outer) c = some ⟨other, left ++ outer⟩ := by
  unfold codeStep at stepped ⊢
  split at stepped
  · next quote =>
      cases stepped
      rw [if_pos quote]
  split at stepped
  · next plain bracket =>
      cases stepped
      rw [if_neg plain, if_pos bracket]
      rfl
  · next plain inner =>
      rw [if_neg plain, if_neg inner]
      cases closes : partner? c with
      | none =>
          rw [closes] at stepped
          cases stepped
          rfl
      | some opening =>
          rw [closes] at stepped
          cases opened with
          | nil => cases stepped
          | cons top rest =>
              simp only [List.cons_append] at stepped ⊢
              split at stepped
              · next same =>
                  cases stepped
                  rw [if_pos same]
              · cases stepped

theorem step_frame {c : Char} (stepped : Nesting.step ⟨place, opened⟩ c = some ⟨other, left⟩)
    (outer : List Char) :
    Nesting.step ⟨place, opened ++ outer⟩ c = some ⟨other, left ++ outer⟩ := by
  cases place with
  | code => exact codeStep_frame stepped outer
  | literal quote escaped =>
      obtain ⟨next, moved, same⟩ := Option.map_eq_some_iff.mp stepped
      cases same
      rw [step_literal, moved]
      rfl

/-- What is open around a text does not matter to it. -/
theorem scan_frame {text : List Char} (scanned : scan ⟨place, opened⟩ text = some ⟨other, left⟩)
    (outer : List Char) : scan ⟨place, opened ++ outer⟩ text = some ⟨other, left ++ outer⟩ := by
  induction text generalizing place opened with
  | nil =>
      cases scanned
      rfl
  | cons c rest ih =>
      obtain ⟨⟨middle, inner⟩, stepped, later⟩ := Option.bind_eq_some_iff.mp scanned
      rw [scan, step_frame stepped outer]
      exact ih later

end Frames

section Turns

/-- A text of code closes some brackets and leaves others open. -/
def Turns (text : String) (before after : List Char) : Prop :=
  scan ⟨.code, before⟩ text.toList = some ⟨.code, after⟩

instance (text : String) (before after : List Char) : Decidable (Turns text before after) :=
  inferInstanceAs (Decidable (_ = _))

/-- A text of code with all its brackets paired and all its literals closed. -/
def Paired (text : String) : Prop :=
  Turns text [] []

instance (text : String) : Decidable (Paired text) :=
  inferInstanceAs (Decidable (Turns _ _ _))

variable {first second text : String} {before middle after : List Char}

theorem turns_append (here : Turns first before middle) (later : Turns second middle after) :
    Turns (first ++ second) before after := by
  rw [Turns, String.toList_append, scan_append, here]
  exact later

theorem Turns.within (turns : Turns text before after) (outer : List Char) :
    Turns text (before ++ outer) (after ++ outer) :=
  scan_frame turns outer

theorem Paired.turns (paired : Paired text) (opened : List Char) : Turns text opened opened :=
  Turns.within paired opened

theorem Turns.append (here : Turns first before after) (later : Paired second) :
    Turns (first ++ second) before after :=
  turns_append here (later.turns after)

theorem Paired.append (here : Paired first) (later : Paired second) : Paired (first ++ second) :=
  turns_append here later

end Turns

section Characters

/-- Characters that are neither brackets nor quotes. -/
def isInert (c : Char) : Bool :=
  !isQuote c && !isOpening c && (partner? c).isNone

theorem codeStep_inert {c : Char} (inert : isInert c = true) (opened : List Char) :
    codeStep opened c = some ⟨.code, opened⟩ := by
  simp only [isInert, Bool.and_eq_true, Bool.not_eq_true', Option.isNone_iff_eq_none] at inert
  obtain ⟨⟨quote, bracket⟩, closes⟩ := inert
  simp only [codeStep, quote, bracket, closes, Bool.false_eq_true, if_false]

theorem scan_inert {text : List Char} (inert : ∀ c ∈ text, isInert c = true)
    (opened : List Char) : scan ⟨.code, opened⟩ text = some ⟨.code, opened⟩ := by
  induction text with
  | nil => rfl
  | cons c rest ih =>
      obtain ⟨here, later⟩ := List.forall_mem_cons.mp inert
      rw [scan, step_code, codeStep_inert here]
      exact ih later

theorem paired_of_inert {text : String} (inert : ∀ c ∈ text.toList, isInert c = true) :
    Paired text :=
  scan_inert inert []

/-- Characters of a word are no brackets. -/
theorem isInert_of_isIdentifierTail {c : Char} (tail : isIdentifierTail c = true) :
    isInert c = true := by
  have low := (printable_of_isIdentifierTail tail).2
  have ascii : ∀ n : Fin 0x80, isIdentifierTail (Char.ofNat n) = true →
      isInert (Char.ofNat n) = true := by decide
  have inert := ascii ⟨c.toNat, low⟩
  rw [Char.ofNat_toNat] at inert
  exact inert tail

theorem paired_of_isIdentifierTail {text : String}
    (tails : ∀ c ∈ text.toList, isIdentifierTail c = true) : Paired text := by
  apply paired_of_inert
  intro c member
  exact isInert_of_isIdentifierTail (tails c member)

theorem paired_identifier {name : String} (formed : isIdentifier name = true) : Paired name :=
  paired_of_isIdentifierTail (isIdentifierTail_of_mem formed)

theorem paired_toString (n : Nat) : Paired (toString n) := by
  apply paired_of_isIdentifierTail
  intro c member
  have digit : c.isDigit = true := by
    have spelled : (toString n).toList = Nat.toDigits 10 n := Nat.toList_repr
    rw [spelled] at member
    exact Nat.isDigit_of_mem_toDigits (by decide : 0 < 10) (by decide) member
  simp [isIdentifierTail, digit]

end Characters

section Literals

/-- A character that stands for itself behind an opening quote. -/
def IsPlain (quote c : Char) : Prop :=
  c ≠ '\n' ∧ c ≠ '\\' ∧ c ≠ quote

instance (quote c : Char) : Decidable (IsPlain quote c) :=
  inferInstanceAs (Decidable (_ ∧ _))

theorem scan_literal_plain {quote : Char} {text : List Char} (opened : List Char)
    (plain : ∀ c ∈ text, IsPlain quote c) :
    scan ⟨.literal quote false, opened⟩ text = some ⟨.literal quote false, opened⟩ := by
  induction text with
  | nil => rfl
  | cons c rest ih =>
      obtain ⟨⟨line, backslash, same⟩, later⟩ := List.forall_mem_cons.mp plain
      have stays : literalStep quote false c = some (.literal quote false) := by
        simp [literalStep, line, backslash, same]
      rw [scan, step_literal, stays]
      exact ih later

/-- A quote, characters that mean nothing in a literal, and the quote again. -/
theorem paired_quoted {quote : Char} {text : List Char} (opens : isQuote quote = true)
    (plain : ∀ c ∈ text, IsPlain quote c) :
    scan ⟨.code, []⟩ (quote :: text ++ [quote]) = some ⟨.code, []⟩ := by
  have begun : Nesting.step ⟨.code, []⟩ quote = some ⟨.literal quote false, []⟩ := by
    rw [step_code, codeStep, if_pos opens]
  have ended : literalStep quote false quote = some .code := by
    simp only [isQuote, Bool.or_eq_true, beq_iff_eq] at opens
    rcases opens with rfl | rfl <;> rfl
  rw [scan_append, scan, begun, Option.bind_some, scan_literal_plain [] plain, Option.bind_some,
    scan, step_literal, ended]
  rfl

theorem octalDigit_plain (n : Nat) : IsPlain '"' (octalDigit n) := by
  have small : n % 8 < 8 := Nat.mod_lt n (by decide)
  unfold octalDigit
  generalize n % 8 = digit at small
  decide +revert

theorem scan_literalChar (c : Char) (opened : List Char) :
    scan ⟨.literal '"' false, opened⟩ (literalChar c) = some ⟨.literal '"' false, opened⟩ := by
  unfold literalChar
  iterate 5
    split
    · rfl
  split
  · -- The first digit is taken with the backslash, the others are plain.
    have first := octalDigit_plain (c.toNat / 64)
    have taken : literalStep '"' true (octalDigit (c.toNat / 64)) = some (.literal '"' false) := by
      simp [literalStep, first.1]
    have others : ∀ d ∈ [octalDigit (c.toNat / 8), octalDigit c.toNat], IsPlain '"' d := by
      simp [octalDigit_plain]
    have begun : Nesting.step ⟨.literal '"' false, opened⟩ '\\' =
        some ⟨.literal '"' true, opened⟩ := rfl
    rw [octal, scan, begun, Option.bind_some, scan, step_literal, taken]
    exact scan_literal_plain opened others
  · next backslash quote line _ _ _ =>
      simp only [beq_iff_eq] at backslash quote line
      exact scan_literal_plain opened (by simp [IsPlain, backslash, quote, line])

theorem paired_literal (text : String) : Paired (literal text) := by
  have inner (chars : List Char) : scan ⟨.literal '"' false, []⟩ (chars.flatMap literalChar) =
      some ⟨.literal '"' false, []⟩ := by
    induction chars with
    | nil => rfl
    | cons c rest ih =>
        rw [List.flatMap_cons, scan_append, scan_literalChar]
        exact ih
  have begun : Nesting.step ⟨.code, []⟩ '"' = some ⟨.literal '"' false, []⟩ := rfl
  rw [Paired, Turns, literal, String.toList_ofList, literalChars, List.cons_append, scan, begun,
    Option.bind_some, scan_append, inner]
  rfl

end Literals

end SqlMapper.C
