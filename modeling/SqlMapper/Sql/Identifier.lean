/-!
Quoted SQL identifiers: backticks around the name, and a backtick inside it written twice.
-/
namespace SqlMapper.Sql

def quotedNameChar (c : Char) : List Char :=
  if c == '\x60' then ['\x60', '\x60'] else [c]

def quotedNameChars (name : List Char) : List Char :=
  '\x60' :: name.flatMap quotedNameChar ++ ['\x60']

/-- The name as an identifier that cannot be broken out of. -/
def quotedName (name : String) : String :=
  String.ofList (quotedNameChars name.toList)

end SqlMapper.Sql
