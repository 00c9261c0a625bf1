/-!
The total of a measure over a list.
-/
namespace SqlMapper.Number

def totalBy {α : Type} (measure : α → Nat) : List α → Nat
  | [] => 0
  | a :: rest => measure a + totalBy measure rest

end SqlMapper.Number
