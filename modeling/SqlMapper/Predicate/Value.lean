import SqlMapper.Number.Binary64

/-!
Values of record fields and of tests. Each kind has one value that stands for a missing one: the
least integer, the least normal positive double, and the absent text.
-/
namespace SqlMapper

inductive Value where
  | int (value : Int64)
  | float (value : Binary64)
  | text (value : Option String)
  deriving DecidableEq

namespace Value

def nullInt : Int64 :=
  Int64.minValue

/-- `2 ^ -1022`. -/
def nullFloat : Binary64 :=
  ⟨0x0010000000000000⟩

def isNull : Value → Bool
  | int value => value == nullInt
  | float value => value.equal nullFloat
  | text value => value.isNone

def truth : Value → Bool
  | int value => value != 0
  | float value => !(value.equal ⟨0⟩)
  | text value => value.isSome

end Value
end SqlMapper
