import SqlMapper.Yaml.Scalar

/-!
The tree of a YAML document: scalars, sequences, and mappings from texts in order of appearance.
-/
namespace SqlMapper.Yaml

inductive Tree where
  | scalar (value : Scalar)
  | sequence (items : List Tree)
  | mapping (entries : List (String × Tree))

namespace Tree

def empty : Tree :=
  .scalar .null

def isNull : Tree → Bool
  | .scalar .null => true
  | _ => false

/-- The entries of a mapping; anything else has none. -/
def entries : Tree → List (String × Tree)
  | .mapping entries => entries
  | _ => []

@[simp]
theorem entries_mapping (entries : List (String × Tree)) : (mapping entries).entries = entries :=
  rfl

end Tree
end SqlMapper.Yaml
