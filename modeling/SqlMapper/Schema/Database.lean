import SqlMapper.Mapper.Shape
import SqlMapper.Text.Search
import SqlMapper.Text.Upper

/-!
Descriptions of a database: its tables, their columns, and the statements that create them.
-/
namespace SqlMapper.Schema

structure Column where
  name : String
  type : String
  kind : FieldKind
  nullable : Bool := false
  default : Option String := none
  comment : String := ""
  primaryKey : Bool := false
  deriving DecidableEq

structure Table where
  name : String
  columns : List Column
  create : String
  deriving DecidableEq

def Table.keys (t : Table) : List Column :=
  t.columns.filter (·.primaryKey)

structure Database where
  name : String
  create : String
  tables : List Table
  deriving DecidableEq

/-- Whether one of some words occurs anywhere in a column type, in any case. -/
def mentions (words : List String) (type : String) : Bool :=
  words.any fun word => Text.occurs word.toList (Text.lower type).toList

/-- The kind of the field that holds a column of a type; what is no number is text. -/
def kindOfType (type : String) : FieldKind :=
  if mentions ["int", "bit"] type then .integer
  else if mentions ["float", "dec", "numeric", "double"] type then .floatingPoint
  else .text

/-- Makes the first `CREATE` of an object tolerate an existing one, unless the text has such a
clause already. -/
def guarded (object ddl : String) : String :=
  let create := "CREATE " ++ object
  let tolerant := create ++ " IF NOT EXISTS"
  if Text.occurs tolerant.toList ddl.toList then ddl
  else String.ofList (Text.replaceFirst create.toList tolerant.toList ddl.toList)

end SqlMapper.Schema
