/-!
Statements and their dynamic bodies. A body mixes literal text, references to shared fragments,
parts that depend on a test, and parts that are trimmed and wrapped.
-/
namespace SqlMapper

/-- What a trim removes and adds: one of the `|`-separated `leading` tokens goes from the start and
one of the `trailing` tokens from the end, then `opening` and `closing` are put around the rest. -/
structure TrimRule where
  opening : String
  closing : String
  leading : String
  trailing : String
  deriving DecidableEq

inductive Node where
  | text (value : String)
  | fragment (reference : String)
  | conditional (test : String) (body : List Node)
  | trim (rule : TrimRule) (body : List Node)
  deriving Inhabited

inductive StatementKind where
  | insert | update | select | delete
  deriving DecidableEq

namespace StatementKind

/-- The kinds in the order in which their statements are listed and emitted. -/
def all : List StatementKind :=
  [insert, update, select, delete]

def name : StatementKind → String
  | insert => "insert"
  | update => "update"
  | select => "select"
  | delete => "delete"

/-- The kind with a given place in the list of kinds. -/
def ofCode? (code : Int) : Option StatementKind :=
  if code < 0 then none else all[code.toNat]?

/-- The name of a code, also of one that stands for no kind. -/
def codeName (code : Int) : String :=
  match ofCode? code with
  | some kind => kind.name
  | none => "StatementKind(" ++ toString code ++ ")"

def ofName? (name : String) : Option StatementKind :=
  all.find? fun kind => kind.name == name

end StatementKind

structure Statement where
  kind : StatementKind
  id : String
  parameterType : String
  /-- The id of the row shape; selects have one. -/
  resultMap : String
  body : List Node

end SqlMapper
