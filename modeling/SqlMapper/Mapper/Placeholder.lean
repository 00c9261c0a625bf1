import SqlMapper.Text.Search

/-!
Placeholders `#{name}` in SQL text. A placeholder starts at `#{` and ends at the next closing
brace, whatever stands between them.
-/
namespace SqlMapper

/-- The names in order of occurrence, and whether every placeholder is closed. -/
def placeholdersIn : Nat → List Char → List String × Bool
  | 0, _ => ([], true)
  | fuel + 1, text =>
      match Text.cut ['#', '{'] text with
      | none => ([], true)
      | some (_, inner) =>
          match Text.upTo '}' inner with
          | (_, none) => ([], false)
          | (name, some rest) =>
              let (names, closed) := placeholdersIn fuel rest
              (String.ofList name :: names, closed)

def placeholders (text : String) : List String × Bool :=
  placeholdersIn (text.length + 1) text.toList

end SqlMapper
