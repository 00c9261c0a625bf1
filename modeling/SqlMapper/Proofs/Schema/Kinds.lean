import SqlMapper.Proofs.Search
import SqlMapper.Schema.Database

/-!
The kind of a column whose type has arguments. The words that tell a kind are looked for in the whole
type. None of them holds a parenthesis, so each is found either in the base type or in what follows
the parenthesis: the kind is that of the base type only if nothing in the arguments overrules it.
-/

namespace SqlMapper.Schema

def integerWords : List String :=
  ["int", "bit"]

def realWords : List String :=
  ["float", "dec", "numeric", "double"]

/-- A text in which one of some words stands, in any case. -/
def Names (words : List String) (text : String) : Prop :=
  ∃ word ∈ words, word.toList <:+: text.toList.map Text.lowerLetter

theorem mentions_eq_true_iff (words : List String) (text : String) :
    mentions words text = true ↔ Names words text := by
  simp only [mentions, Names, List.any_eq_true, Text.occurs_eq_true_iff, Text.lower,
    String.toList_ofList]

instance (words : List String) (text : String) : Decidable (Names words text) :=
  decidable_of_iff _ (mentions_eq_true_iff words text)

-- Integers are looked for first, so a type that names both is an integer.
theorem kindOfType_eq (type : String) :
    kindOfType type =
      if Names integerWords type then .integer
      else if Names realWords type then .floatingPoint
      else .text := by
  have integers := mentions_eq_true_iff integerWords type
  have reals := mentions_eq_true_iff realWords type
  unfold kindOfType
  apply ite_congr (propext integers)
  · intro _
    rfl
  · intro _
    apply ite_congr (propext reals)
    · intro _
      rfl
    · intro _
      rfl

/-- A type with arguments names what its two parts name. -/
theorem names_parenthesis_iff (words : List String)
    (plain : ∀ word ∈ words, '(' ∉ word.toList) (base arguments : String) :
    Names words (base ++ "(" ++ arguments) ↔ Names words base ∨ Names words arguments := by
  have parted : (base ++ "(" ++ arguments).toList.map Text.lowerLetter =
      base.toList.map Text.lowerLetter ++ '(' :: arguments.toList.map Text.lowerLetter := by
    simp [Text.lowerLetter]
  unfold Names
  rw [parted]
  constructor
  · rintro ⟨word, member, occurring⟩
    rcases (Text.infix_separated_iff (plain word member)).mp occurring with left | right
    · exact .inl ⟨word, member, left⟩
    · exact .inr ⟨word, member, right⟩
  · rintro (⟨word, member, left⟩ | ⟨word, member, right⟩)
    · exact ⟨word, member, (Text.infix_separated_iff (plain word member)).mpr (.inl left)⟩
    · exact ⟨word, member, (Text.infix_separated_iff (plain word member)).mpr (.inr right)⟩

/-- Of two kinds the one that counts: integers come before other numbers, and these before texts. -/
def stronger : FieldKind → FieldKind → FieldKind
  | .integer, _ | _, .integer => .integer
  | .floatingPoint, _ | _, .floatingPoint => .floatingPoint
  | _, _ => .text

/-- The kind of a type with arguments is the stronger one of its two parts. So it is the kind of the
base type exactly if the arguments name no number, or none that comes before that of the base. -/
theorem kind_with_arguments (base arguments : String) :
    kindOfType (base ++ "(" ++ arguments) = stronger (kindOfType base) (kindOfType arguments) ∧
      (kindOfType (base ++ "(" ++ arguments) = kindOfType base ↔
        Names integerWords base ∨
          ¬ Names integerWords arguments ∧ (Names realWords base ∨ ¬ Names realWords arguments)) := by
  have integers := names_parenthesis_iff integerWords (by decide) base arguments
  have reals := names_parenthesis_iff realWords (by decide) base arguments
  rw [kindOfType_eq (base ++ "(" ++ arguments), kindOfType_eq base, kindOfType_eq arguments]
  simp only [integers, reals]
  by_cases baseInteger : Names integerWords base
  · simp [baseInteger, stronger]
  by_cases argumentInteger : Names integerWords arguments
  · by_cases baseReal : Names realWords base <;>
      simp [baseInteger, argumentInteger, baseReal, stronger]
  by_cases baseReal : Names realWords base
  · by_cases argumentReal : Names realWords arguments <;>
      simp [baseInteger, argumentInteger, baseReal, argumentReal, stronger]
  · by_cases argumentReal : Names realWords arguments <;>
      simp [baseInteger, argumentInteger, baseReal, argumentReal, stronger]

/-- A member of an enumeration that is named like a geometric type makes the column an integer. -/
theorem members_overrule_base :
    '(' ∉ "enum".toList ∧ kindOfType "enum" = .text ∧
      kindOfType ("enum" ++ "(" ++ "'line','point')") = .integer := by
  decide +kernel

end SqlMapper.Schema
