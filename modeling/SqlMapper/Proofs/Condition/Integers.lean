import Mathlib.Data.List.Induction
import SqlMapper.Proofs.Condition.Meaning
import SqlMapper.Proofs.Literal

/-!
Whole numbers in tests and in their C conditions. The digits of a test stand in its condition as
they are, in the same order; the test reads them as decimals, whatever their first digit, while C
takes a leading zero for the mark of an octal constant. So the two agree on a number that fits
exactly if it has no leading zero or is below eight.
-/

namespace SqlMapper

namespace C

section Constants

/-- The number that digits spell, the highest one first. -/
def numeral (base : Nat) (digits : List Char) : Nat :=
  digits.foldl (fun value c => value * base + (c.toNat - '0'.toNat)) 0

/-- The value of a constant of digits without a suffix: octal after a leading zero, of a signed or an
unsigned type; else decimal, of a signed type. -/
def integerConstant? : List Char → Option Nat
  | [] => none
  | '0' :: rest =>
      if rest.all (fun c => (octalValue c).isSome) ∧ numeral 8 rest < UInt64.size then
        some (numeral 8 rest)
      else none
  | digits =>
      if digits.all Char.isDigit ∧ numeral 10 digits < Binary64.signWeight then
        some (numeral 10 digits)
      else none

theorem numeral_zero (base : Nat) (digits : List Char) :
    numeral base ('0' :: digits) = numeral base digits := by
  simp [numeral]

theorem numeral_concat (base : Nat) (digits : List Char) (c : Char) :
    numeral base (digits ++ [c]) = numeral base digits * base + (c.toNat - '0'.toNat) := by
  simp [numeral]

/-- The same digits are worth at most as much in base eight. -/
theorem numeral_octal_le (digits : List Char) : numeral 8 digits ≤ numeral 10 digits := by
  induction digits using List.reverseRecOn with
  | nil => exact Nat.le_refl 0
  | append_singleton digits c ih =>
      rw [numeral_concat, numeral_concat]
      omega

theorem zeros_of_numeral {digits : List Char} (none : numeral 10 digits = 0) :
    ∀ c ∈ digits, c.toNat ≤ '0'.toNat := by
  induction digits using List.reverseRecOn with
  | nil => simp
  | append_singleton digits c ih =>
      rw [numeral_concat] at none
      intro d member
      rcases List.mem_append.mp member with before | last
      · exact ih (by omega) d before
      · rw [List.mem_singleton.mp last]
        omega

theorem octalValue_isSome_iff {c : Char} (digit : c.isDigit = true) :
    (octalValue c).isSome = true ↔ c.toNat - '0'.toNat < 8 := by
  have bounds := Char.isDigit_iff_toNat.mp digit
  have low : '0'.toNat = 48 := rfl
  have high : '7'.toNat = 55 := rfl
  unfold octalValue
  split
  · next within => simp; omega
  · next beyond => simp; omega

/-- Octal digits mean the same in base ten if only the last one counts. -/
theorem numeral_octal_eq_iff (digits : List Char) (all : ∀ c ∈ digits, c.isDigit = true) :
    (digits.all (fun c => (octalValue c).isSome) = true ∧ numeral 8 digits = numeral 10 digits) ↔
      numeral 10 digits < 8 := by
  rcases List.eq_nil_or_concat digits with rfl | ⟨front, last, rfl⟩
  · simp [numeral]
  · rw [List.concat_eq_append] at all ⊢
    have least := numeral_octal_le front
    have final := octalValue_isSome_iff (all last (by simp))
    rw [numeral_concat, numeral_concat, List.all_append, List.all_cons, List.all_nil,
      Bool.and_true, Bool.and_eq_true, final]
    constructor
    · rintro ⟨⟨_, small⟩, same⟩
      omega
    · intro small
      have front_zero : numeral 10 front = 0 := by omega
      refine ⟨⟨List.all_eq_true.mpr fun c member => ?_, by omega⟩, by omega⟩
      have low := zeros_of_numeral front_zero c member
      rw [octalValue_isSome_iff (all c (by simp [member]))]
      omega

/-- C reads digits as a decimal exactly if no leading zero makes a difference. -/
theorem integerConstant_eq_iff (digits : List Char) (filled : digits ≠ [])
    (all : ∀ c ∈ digits, c.isDigit = true) (fits : numeral 10 digits < Binary64.signWeight) :
    integerConstant? digits = some (numeral 10 digits) ↔
      (digits.head? = some '0' → numeral 10 digits < 8) := by
  unfold integerConstant?
  split
  · exact absurd rfl filled
  · next rest =>
      have octal := numeral_octal_eq_iff rest fun c member => all c (by simp [member])
      rw [numeral_zero] at fits ⊢
      have least := numeral_octal_le rest
      simp only [List.head?_cons, forall_const, ← octal]
      split
      · next within => simp [within.1]
      · next beyond =>
          have room : numeral 8 rest < UInt64.size :=
            Nat.lt_of_le_of_lt least (Nat.lt_trans fits (by decide))
          simp only [room, and_true] at beyond
          simp [beyond]
  · next other =>
      have decimal : digits.all Char.isDigit = true := List.all_eq_true.mpr all
      rw [if_pos ⟨decimal, fits⟩]
      refine iff_of_true rfl fun first => ?_
      obtain ⟨rest, rfl⟩ := List.head?_eq_some_iff.mp first
      exact absurd rfl (other rest)

theorem integerConstant_le {digits : List Char} {value : Nat}
    (read : integerConstant? digits = some value) : value ≤ numeral 10 digits := by
  unfold integerConstant? at read
  split at read
  · cases read
  · next rest =>
      cases (Option.ite_none_right_eq_some.mp read).2
      rw [numeral_zero]
      exact numeral_octal_le rest
  · cases (Option.ite_none_right_eq_some.mp read).2
    exact Nat.le_refl _

end Constants

end C

namespace Number

theorem digitValue_of_isDigit {c : Char} (digit : c.isDigit = true) :
    digitValue c = some (c.toNat - '0'.toNat) := by
  have bounds : '0' ≤ c ∧ c ≤ '9' := by
    simpa [Char.isDigit, Char.le_def] using digit
  simp [digitValue, bounds]

/-- Reading on from a value, as long as 64 bits suffice. -/
theorem unsignedFrom_digits (digits : List Char) (all : ∀ c ∈ digits, c.isDigit = true)
    (value : Nat) :
    let whole := digits.foldl (fun value c => value * 10 + (c.toNat - '0'.toNat)) value
    value ≤ whole ∧ (whole < UInt64.size → unsignedFrom 10 false value digits = .ok whole) := by
  induction digits generalizing value with
  | nil => exact ⟨Nat.le_refl value, fun _ => rfl⟩
  | cons c rest ih =>
      have digit := all c List.mem_cons_self
      have bounds := Char.isDigit_iff_toNat.mp digit
      have ends : '0'.toNat = 48 ∧ '9'.toNat = 57 := ⟨rfl, rfl⟩
      obtain ⟨grown, continued⟩ := ih (fun d member => all d (List.mem_cons_of_mem c member))
        (value * 10 + (c.toNat - '0'.toNat))
      refine ⟨by simp only [List.foldl_cons]; omega, fun fits => ?_⟩
      have small : ¬ 10 ≤ c.toNat - '0'.toNat := by omega
      have room : ¬ UInt64.size ≤ value * 10 + (c.toNat - '0'.toNat) :=
        Nat.not_le.mpr (Nat.lt_of_le_of_lt grown fits)
      simp only [unsignedFrom, Bool.false_and, Bool.false_eq_true, if_false,
        digitValue_of_isDigit digit, small, room]
      exact continued fits

/-- Digits are read as a decimal, whatever the first one is. -/
theorem readInteger_digits (digits : String) (filled : digits.toList ≠ [])
    (all : ∀ c ∈ digits.toList, c.isDigit = true)
    (fits : C.numeral 10 digits.toList < Binary64.signWeight) :
    ∃ n, readInteger digits = .ok n ∧ n.toInt = C.numeral 10 digits.toList := by
  obtain ⟨first, rest, spelled⟩ := List.exists_cons_of_ne_nil filled
  have digit := all first (by simp [spelled])
  have unmarked : signed digits.toList = (false, digits.toList) := by
    rw [spelled]
    unfold signed
    split
    · next same => cases same; exact absurd digit (by decide)
    · next same => cases same; exact absurd digit (by decide)
    · rfl
  have room : C.numeral 10 digits.toList < UInt64.size := Nat.lt_trans fits (by decide)
  have read : unsigned 10 false digits.toList = .ok (C.numeral 10 digits.toList) := by
    have from_zero := (unsignedFrom_digits digits.toList all 0).2 room
    rw [spelled] at from_zero ⊢
    exact from_zero
  have weight : Binary64.signWeight = 9223372036854775808 := rfl
  refine ⟨Int64.ofInt (C.numeral 10 digits.toList), ?_,
    Int64.toInt_ofInt_of_le (by omega) (by omega)⟩
  simp [readInteger, unmarked, read, Except.bind, fitted, fits, asReadError]

end Number

namespace Predicate

open Condition (lex)

section Digits

def Token.digits? : Token → Option String
  | .number digits => some digits
  | _ => none

def constantDigits? : Condition.Token → Option String
  | .number digits => some digits
  | _ => none

mutual

/-- The numbers of a test from left to right, without their signs. -/
def Expression.numbers : Expression → List String
  | .one first => first.numbers
  | .or first rest => first.numbers ++ rest.numbers

def Conjunction.numbers : Conjunction → List String
  | .one first => first.numbers
  | .and first rest => first.numbers ++ rest.numbers

def Term.numbers : Term → List String
  | .not inner => inner.numbers
  | .operand left => left.numbers
  | .compare left _ right => left.numbers ++ right.numbers

def Operand.numbers : Operand → List String
  | .number _ digits => [digits]
  | .name .. => []
  | .group _ inner => inner.numbers

end

theorem digits_of_joint {mark : Token} (joins : isOr mark = true ∨ isAnd mark = true) :
    mark.digits? = none := by
  cases mark with
  | number digits => rcases joins with joined | joined <;> cases joined
  | _ => rfl

theorem digits_signTokens (negative : Bool) :
    (signTokens negative).filterMap Token.digits? = [] := by
  cases negative <;> rfl

mutual

theorem digits_of_spellsExpression {tokens : List Token} {e : Expression}
    (spelled : SpellsExpression tokens e) : tokens.filterMap Token.digits? = e.numbers := by
  cases spelled with
  | one head => exact digits_of_spellsConjunction head
  | or head joins later =>
      rw [List.filterMap_append, List.filterMap_cons, digits_of_joint (.inl joins),
        digits_of_spellsConjunction head, digits_of_spellsExpression later]
      rfl

theorem digits_of_spellsConjunction {tokens : List Token} {c : Conjunction}
    (spelled : SpellsConjunction tokens c) : tokens.filterMap Token.digits? = c.numbers := by
  cases spelled with
  | one head => exact digits_of_spellsTerm head
  | and head joins later =>
      rw [List.filterMap_append, List.filterMap_cons, digits_of_joint (.inr joins),
        digits_of_spellsTerm head, digits_of_spellsConjunction later]
      rfl

theorem digits_of_spellsTerm {tokens : List Token} {t : Term} (spelled : SpellsTerm tokens t) :
    tokens.filterMap Token.digits? = t.numbers := by
  cases spelled with
  | not within =>
      have inside := digits_of_spellsTerm within
      exact inside
  | operand only => exact digits_of_spellsOperand only
  | compare first second =>
      have right := digits_of_spellsOperand second
      rw [List.filterMap_append, digits_of_spellsOperand first]
      exact congrArg _ right

theorem digits_of_spellsOperand {tokens : List Token} {o : Operand}
    (spelled : SpellsOperand tokens o) : tokens.filterMap Token.digits? = o.numbers := by
  cases spelled with
  | number => rw [List.filterMap_append, digits_signTokens]; rfl
  | name => rw [List.filterMap_append, digits_signTokens]; rfl
  | group within =>
      have inside := digits_of_spellsExpression within
      rw [List.filterMap_append, digits_signTokens, List.filterMap_append, List.filterMap_cons]
      simp [Token.digits?, Operand.numbers, inside]

end

variable (isField : String → Bool)

theorem constantDigits_minusTokens (negative : Bool) :
    (minusTokens negative).filterMap constantDigits? = [] := by
  cases negative <;> rfl

theorem constantDigits_group (tokens : List Condition.Token) :
    List.filterMap constantDigits? (.open :: tokens ++ [.close]) =
      tokens.filterMap constantDigits? := by
  rw [List.cons_append, List.filterMap_cons_none rfl, List.filterMap_append]
  exact List.append_nil _

mutual

theorem constantDigits_expression (e : Expression) :
    (e.tokens isField).filterMap constantDigits? = e.numbers := by
  cases e with
  | one first => exact constantDigits_conjunction first
  | or first rest =>
      rw [Expression.tokens, List.filterMap_append, constantDigits_conjunction first]
      exact congrArg _ (constantDigits_expression rest)

theorem constantDigits_conjunction (c : Conjunction) :
    (c.tokens isField).filterMap constantDigits? = c.numbers := by
  cases c with
  | one first => exact constantDigits_term first
  | and first rest =>
      rw [Conjunction.tokens, List.filterMap_append, constantDigits_term first]
      exact congrArg _ (constantDigits_conjunction rest)

theorem constantDigits_term (t : Term) :
    (t.tokens isField).filterMap constantDigits? = t.numbers := by
  cases t with
  | not inner =>
      have inside := constantDigits_term inner
      rw [Term.tokens]
      split
      · exact inside
      · exact (constantDigits_group _).trans inside
  | operand left => exact constantDigits_operand left
  | compare left op right =>
      rw [Term.tokens, List.filterMap_append, constantDigits_operand left]
      exact congrArg _ (constantDigits_operand right)

theorem constantDigits_operand (o : Operand) :
    (o.tokens isField).filterMap constantDigits? = o.numbers := by
  cases o with
  | number negative digits =>
      rw [Operand.tokens, List.filterMap_append, constantDigits_minusTokens]
      rfl
  | name negative identifier =>
      rw [Operand.tokens, List.filterMap_append, constantDigits_minusTokens]
      split <;> rfl
  | group negative inner =>
      have inside := constantDigits_expression inner
      rw [Operand.tokens, List.filterMap_append, constantDigits_minusTokens]
      exact (constantDigits_group _).trans inside

end

/-- The condition of a test has the digits of the test, in their order. -/
theorem digits_of_condition {test : String} {tokens : List Token} {e : Expression}
    (scanned : scan test = some tokens) (parsed : parse test = .ok e) :
    ∃ emitted, lex (e.render isField).toList = some emitted ∧
      emitted.filterMap constantDigits? = tokens.filterMap Token.digits? := by
  obtain ⟨same, rescanned, spelled⟩ := spells_of_parse test e parsed
  cases scanned.symm.trans rescanned
  refine ⟨e.tokens isField, ?_, ?_⟩
  · have lexed := lexes_expression isField e (formed_of_parse test e parsed) []
      (by simp [Condition.Ends])
    simpa [lex] using lexed
  · rw [constantDigits_expression, digits_of_spellsExpression spelled]

end Digits

/-- Digits stand for one integer, in the test and as a constant of C. -/
def SameInC (digits : String) : Prop :=
  ∃ n : Int64, numberValue digits = .ok (.int n) ∧
    (C.integerConstant? digits.toList).map Int.ofNat = some n.toInt

/-- The whole numbers of a test stand unchanged in its condition. Those that fit have their decimal
value in the test; C gives them the same value exactly if they have no leading zero or are below
eight, and never a larger one. -/
theorem integers_in_condition (test : String) (tokens : List Token)
    (scanned : scan test = some tokens) (digits : String) (member : .number digits ∈ tokens)
    (whole : ∀ c ∈ digits.toList, c.isDigit = true)
    (fits : C.numeral 10 digits.toList < Binary64.signWeight) :
    (∀ e, parse test = .ok e → ∀ isField : String → Bool,
      ∃ emitted, lex (e.render isField).toList = some emitted ∧
        emitted.filterMap constantDigits? = tokens.filterMap Token.digits?) ∧
      (∃ n : Int64, numberValue digits = .ok (.int n) ∧
        n.toInt = C.numeral 10 digits.toList) ∧
      (SameInC digits ↔ (digits.toList.head? = some '0' → C.numeral 10 digits.toList < 8)) ∧
      ∀ value, C.integerConstant? digits.toList = some value →
        value ≤ C.numeral 10 digits.toList := by
  have filled : digits.toList ≠ [] := by
    obtain ⟨first, _, _, isWhole, _, _, spelled⟩ := scanFrom_formed _ _ tokens scanned _ member
    rw [spelled, List.append_assoc]
    exact List.append_ne_nil_of_left_ne_nil isWhole.1 _
  obtain ⟨n, read, value⟩ := Number.readInteger_digits digits filled whole fits
  have evaluated : numberValue digits = .ok (.int n) := by rw [numberValue, read]
  refine ⟨fun e parsed isField => digits_of_condition isField scanned parsed,
    ⟨n, evaluated, value⟩, ?_, fun value => C.integerConstant_le⟩
  rw [← C.integerConstant_eq_iff digits.toList filled whole fits]
  constructor
  · rintro ⟨other, again, constant⟩
    cases evaluated.symm.trans again
    rw [value, Option.map_eq_some_iff] at constant
    obtain ⟨read, isRead, same⟩ := constant
    rw [isRead, Int.ofNat.inj same]
  · intro constant
    exact ⟨n, evaluated, by rw [constant, value]; rfl⟩

/-- A number with zeros in front of it that is the same in C. -/
theorem padded_in_condition :
    scan "!(id == 007) || -40 < id" = some [.not, .open, .word "id", .comparator .equal,
        .number "007", .close, .or, .minus, .number "40", .comparator .less, .word "id"] ∧
      C.numeral 10 "007".toList = 7 ∧ SameInC "007" := by
  have scanned : scan "!(id == 007) || -40 < id" = some [.not, .open, .word "id",
      .comparator .equal, .number "007", .close, .or, .minus, .number "40", .comparator .less,
      .word "id"] := by decide +kernel
  have whole : "007".toList.all Char.isDigit = true := by decide
  have claimed := integers_in_condition _ _ scanned "007" (by simp) (List.all_eq_true.mp whole)
    (by decide)
  exact ⟨scanned, by decide, claimed.2.2.1.mpr fun _ => by decide⟩

/-- A test with a leading zero before a ten. -/
def ten : Expression :=
  .one (.one (.compare (.name false "id") .equal (.number false "010")))

/-- The test asks for ten, its condition for eight; eight and nine with a zero in front are no
constants of C at all. -/
theorem ten_is_eight_in_c :
    parse "id == 010" = .ok ten ∧ ten.render (fun _ => true) = "n->id == 010" ∧
      ten.eval (fun _ => some (.int 10)) = .ok true ∧
      ten.eval (fun _ => some (.int 8)) = .ok false ∧
      C.integerConstant? "010".toList = some 8 ∧ ¬ SameInC "010" ∧
      numberValue "08" = .ok (.int 8) ∧ C.integerConstant? "08".toList = none := by
  have parsed : parse "id == 010" = .ok ten := by
    have shown : "id == 010".toList.all Text.isUnicodeBlank = false := by decide +kernel
    have scanned : scan "id == 010" =
        some [.word "id", .comparator .equal, .number "010"] := by decide +kernel
    have found : Expression.ofTokens? [.word "id", .comparator .equal, .number "010"] =
        some ten := rfl
    simp only [parse, shown, scanned, Option.bind_some, found]
    rfl
  have octal : C.integerConstant? "010".toList = some 8 := by decide
  have read : numberValue "010" = .ok (.int 10) := by decide +kernel
  have differs : ¬ SameInC "010" := by
    rintro ⟨n, again, constant⟩
    cases read.symm.trans again
    rw [octal] at constant
    exact absurd constant (by decide)
  exact ⟨parsed, by decide +kernel, by decide +kernel, by decide +kernel, octal, differs,
    by decide +kernel, by decide⟩

end Predicate

end SqlMapper
