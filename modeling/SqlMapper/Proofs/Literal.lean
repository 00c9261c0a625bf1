import SqlMapper.C.Literal
import SqlMapper.C.Printer

/-!
Reading string literals of C: a backslash starts an escape, an octal escape takes at most three
digits, a literal ends at its first free quote and has no line end in it. Trigraphs are not
replaced. A text that is passed to a function as a string ends before its first NUL.
-/

namespace SqlMapper.C

/-- Where the reader of a literal stands; inside an octal escape with the code so far and the
number of digits that it may still take. -/
inductive Mode where
  | plain
  | escaped
  | octal (code left : Nat)
  | ended
  deriving DecidableEq

def octalValue (c : Char) : Option Nat :=
  if '0'.toNat ≤ c.toNat ∧ c.toNat ≤ '7'.toNat then some (c.toNat - '0'.toNat) else none

def shortEscape (c : Char) : Option Char :=
  [('\\', '\\'), ('"', '"'), ('\x27', '\x27'), ('?', '?'), ('n', '\n'), ('r', '\r'), ('t', '\t'),
    ('a', '\x07'), ('b', '\x08'), ('f', '\x0c'), ('v', '\x0b')].lookup c

/-- The character of an octal escape; a larger code is only a part of a character. -/
def codeChar (code : Nat) : Option Char :=
  if code < 128 then some (Char.ofNat code) else none

def plainStep (c : Char) : Option (List Char × Mode) :=
  if c = '\\' then some ([], .escaped)
  else if c = '"' then some ([], .ended)
  else if c = '\n' then none
  else some ([c], .plain)

def Mode.step : Mode → Char → Option (List Char × Mode)
  | .plain, c => plainStep c
  | .escaped, c =>
      match octalValue c with
      | some digit => some ([], .octal digit 2)
      | none => (shortEscape c).map fun value => ([value], .plain)
  | .octal code left, c =>
      match octalValue c, left with
      | some digit, more + 2 => some ([], .octal (8 * code + digit) (more + 1))
      | some digit, _ => (codeChar (8 * code + digit)).map fun value => ([value], .plain)
      | none, _ =>
          (codeChar code).bind fun value =>
            (plainStep c).map fun (output, next) => (value :: output, next)
  | .ended, _ => none

def readFrom : Mode → List Char → Option (List Char)
  | .ended, [] => some []
  | _, [] => none
  | mode, c :: rest =>
      (mode.step c).bind fun (output, next) => (readFrom next rest).map (output ++ ·)

def literalValue (spelling : String) : Option String :=
  match spelling.toList with
  | '"' :: rest => (readFrom .plain rest).map String.ofList
  | _ => none

theorem octalValue_octalDigit (n : Nat) : octalValue (octalDigit n) = some (n % 8) := by
  have small : n % 8 < 8 := Nat.mod_lt n (by decide)
  unfold octalDigit
  generalize n % 8 = digit at small
  decide +revert

/-- Three octal digits are read back as the code that they spell. -/
theorem readFrom_octal (c : Char) (ascii : c.toNat < 128) (rest : List Char) :
    readFrom .plain ('\\' :: octal c.toNat ++ rest) = (readFrom .plain rest).map (c :: ·) := by
  have code : 8 * (8 * (c.toNat / 64 % 8) + c.toNat / 8 % 8) + c.toNat % 8 = c.toNat := by omega
  have back : codeChar c.toNat = some c := by
    rw [codeChar, if_pos ascii, Char.ofNat_toNat]
  simp only [octal, List.cons_append, List.nil_append, readFrom, Mode.step, plainStep,
    octalValue_octalDigit, code, back, if_true, Option.map_some, Option.bind_some, Option.map_map]
  rfl

theorem readFrom_literalChar (c : Char) (rest : List Char) :
    readFrom .plain (literalChar c ++ rest) = (readFrom .plain rest).map (c :: ·) := by
  have short (mark : Char) (value : Char) (digit : octalValue mark = none)
      (known : shortEscape mark = some value) :
      readFrom .plain ('\\' :: mark :: rest) = (readFrom .plain rest).map (value :: ·) := by
    simp only [readFrom, Mode.step, plainStep, digit, known, if_true, Option.map_some,
      Option.bind_some, Option.map_map]
    rfl
  unfold literalChar
  split
  · next same => rw [beq_iff_eq.mp same]; exact short _ _ rfl rfl
  split
  · next same => rw [beq_iff_eq.mp same]; exact short _ _ rfl rfl
  split
  · next same => rw [beq_iff_eq.mp same]; exact short _ _ rfl rfl
  split
  · next same => rw [beq_iff_eq.mp same]; exact short _ _ rfl rfl
  split
  · next same => rw [beq_iff_eq.mp same]; exact short _ _ rfl rfl
  split
  · next control =>
      apply readFrom_octal
      simp only [Bool.or_eq_true, decide_eq_true_eq, beq_iff_eq] at control
      omega
  · next backslash quote newline _ _ _ =>
      -- Every other character stands for itself.
      simp only [beq_iff_eq] at backslash quote newline
      simp [readFrom, Mode.step, plainStep, backslash, quote, newline]

theorem readFrom_literalChars (text : List Char) :
    readFrom .plain (text.flatMap literalChar ++ ['"']) = some text := by
  induction text with
  | nil => rfl
  | cons first rest ih =>
      rw [List.flatMap_cons, List.append_assoc, readFrom_literalChar, ih]
      rfl

/-- A literal is read back as the text that it was written for. -/
theorem literalValue_literal (text : String) : literalValue (literal text) = some text := by
  simp [literalValue, literal, literalChars, readFrom_literalChars]

/-- What a function that takes a string sees of a text. -/
def stringOf (text : String) : String :=
  String.ofList (text.toList.takeWhile (· != '\x00'))

end SqlMapper.C
