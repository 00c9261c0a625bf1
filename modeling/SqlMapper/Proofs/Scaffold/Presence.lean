import SqlMapper.Proofs.Predicate.Joining
import SqlMapper.Proofs.Records
import SqlMapper.Schema.Scaffold
import SqlMapper.Sql.Rendering

/-!
The tests of scaffolded statements. The name of a property is an identifier, so the test of a column
is read as the comparison of its property with the macro of its kind. It holds for a record exactly
if the value there is not the missing one.
-/

namespace SqlMapper

namespace Predicate

def differ (left right : String) : Expression :=
  .one (.one (.compare (.name false left) .notEqual (.name false right)))

theorem parse_differ {left right : String} (formed : C.isIdentifier left = true)
    (other : C.isIdentifier right = true) :
    parse (left ++ " != " ++ right) = .ok (differ left right) := by
  have last : Splits right.toList [.word right] := by
    have word := lexeme_word other [] (by simp)
    rw [List.append_nil] at word
    exact splits_of_lexeme _ word .done
  have solid : ∀ c ∈ right.toList.head?, isGap c = false := by
    obtain ⟨first, tail, spelled, start, _⟩ :=
      isWordTail_of_identifier right.toList (by rwa [String.ofList_toList])
    rw [spelled]
    rintro c ⟨⟩
    exact isGap_of_isWordStart start
  have sign : Splits ('!' :: '=' :: ' ' :: right.toList) [.comparator .notEqual, .word right] :=
    splits_of_lexeme (some (.comparator .notEqual)) rfl
      (splits_of_lexeme none (lexeme_gap solid) last)
  have split : Splits (left ++ " != " ++ right).toList
      [.word left, .comparator .notEqual, .word right] := by
    have text : (left ++ " != " ++ right).toList =
        left.toList ++ ' ' :: '!' :: '=' :: ' ' :: right.toList := by simp
    rw [text]
    refine splits_of_lexeme (some (.word left)) (lexeme_word formed _ ?_) ?_
    · rintro c ⟨⟩
      rfl
    · refine splits_of_lexeme none (lexeme_gap ?_) sign
      rintro c ⟨⟩
      rfl
  have name (identifier : String) : SpellsOperand [.word identifier] (.name false identifier) :=
    @SpellsOperand.name false identifier
  exact parse_of_spells split (.one (.one (.compare (name left) (name right))))

end Predicate

namespace Schema

theorem isIdentifier_normalized (name : String) : C.isIdentifier (normalized name) = true := by
  have tails : ∀ c ∈ name.toList.map (fun c => if C.isIdentifierTail c then c else '_'),
      C.isIdentifierTail c = true := by
    simp only [List.mem_map]
    rintro _ ⟨c, -, rfl⟩
    split
    · assumption
    · rfl
  rw [C.isIdentifier, normalized, String.toList_ofList, normalizedChars]
  generalize name.toList.map (fun c => if C.isIdentifierTail c then c else '_') = body at tails
  cases body with
  | nil => rfl
  | cons first rest =>
      obtain ⟨head, later⟩ := List.forall_mem_cons.mp tails
      by_cases digit : first.isDigit = true
      · simp only [digit, if_true, Bool.and_eq_true, List.all_eq_true]
        exact ⟨rfl, tails⟩
      · have start : C.isIdentifierStart first = true := by
          simpa [C.isIdentifierTail, digit] using head
        simp only [digit, Bool.false_eq_true, if_false, Bool.and_eq_true, List.all_eq_true]
        exact ⟨start, later⟩

theorem isIdentifier_nullMacro {kind : FieldKind} (known : kind ≠ .unknown) :
    C.isIdentifier kind.nullMacro = true := by
  cases kind with
  | unknown => exact absurd rfl known
  | integer | floatingPoint | text => decide

theorem constant?_nullMacro {kind : FieldKind} (known : kind ≠ .unknown) :
    Predicate.constant? kind.nullMacro = some (Record.missing kind) := by
  cases kind with
  | unknown => exact absurd rfl known
  | integer | floatingPoint | text => decide

/-- Whether a record has a value for a column that is not the missing one. -/
def present (record : Record) (c : Column) : Bool :=
  (record.get? (normalized c.name)).any fun value => !value.isNull

/-- A value differs from the missing one of its kind unless it is null. -/
theorem apply_missing {kind : FieldKind} {value : Value} (same : value.kind = kind) :
    Predicate.Comparator.notEqual.apply value (Record.missing kind) = .ok (!value.isNull) := by
  subst same
  cases value with
  | int value => rfl
  | float value => rfl
  | text value => cases value <;> rfl

theorem testHolds_presence {record : Record} {c : Column} (known : c.kind ≠ .unknown)
    {value : Value} (held : record.get? (normalized c.name) = some value)
    (same : value.kind = c.kind) (foreign : record.get? c.kind.nullMacro = none)
    (statement : Statement) :
    Sql.testHolds statement record (presence c) = .ok (present record c) := by
  have read : Predicate.parse (presence c) = _ :=
    Predicate.parse_differ (isIdentifier_normalized c.name) (isIdentifier_nullMacro known)
  have left : Predicate.nameValue record.get? (normalized c.name) = .ok value := by
    rw [Predicate.nameValue, held]
  have right : Predicate.nameValue record.get? c.kind.nullMacro = .ok (Record.missing c.kind) := by
    rw [Predicate.nameValue, foreign, constant?_nullMacro known]
  have decided : (Predicate.differ (normalized c.name) c.kind.nullMacro).eval record.get? =
      .ok (!value.isNull) := by
    rw [← apply_missing same]
    simp only [Predicate.differ, Predicate.Expression.eval, Predicate.Conjunction.eval,
      Predicate.Term.eval, Predicate.Operand.eval, left, right, Except.bind,
      Predicate.signedValue, Bool.false_eq_true, if_false]
  rw [Sql.testHolds, read]
  simp only [decided, present, held, Option.any_some]
  rfl

end Schema
end SqlMapper
