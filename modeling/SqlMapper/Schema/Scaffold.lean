import SqlMapper.C.Literal
import SqlMapper.Schema.Database
import SqlMapper.Sql.Identifier
import SqlMapper.Xml.Writer

/-!
Mapper documents for a described database. A table gets a shape, a list of its columns, two inserts,
and for each primary key column two updates, a select and a delete.
-/
namespace SqlMapper.Schema

open Xml (Content make textOf)

/-- Every character that cannot stand in an identifier becomes an underscore, and one is put in
front where no identifier would start. -/
def normalizedChars (name : List Char) : List Char :=
  let body := name.map fun c => if C.isIdentifierTail c then c else '_'
  match body with
  | [] => ['_']
  | first :: _ => if first.isDigit then '_' :: body else body

/-- The identifier for the name of a table or a column. -/
def normalized (name : String) : String :=
  String.ofList (normalizedChars name.toList)

def mapperFile (table : String) : String :=
  normalized table ++ "-mapper.xml"

def databaseFile : String :=
  "db.xml"

def indentation (depth : Nat) : Content :=
  .text ("\n" ++ Text.replicate (4 * depth) ' ')

/-- Contents each on a line of its own, and the line end before the closing tag. -/
def lines (depth : Nat) (items : List Content) : List Content :=
  items.flatMap (fun item => [indentation (depth + 1), item]) ++ [indentation depth]

def documentOf (root : Content) : List Content :=
  [.instruction "xml" "version=\"1.0\" encoding=\"UTF-8\"", .text "\n", root, .text "\n"]

def databaseDocument (d : Database) : List Content :=
  documentOf (make "db" [] (lines 0 [make "name" [] (textOf d.name), make "create" [] (textOf d.create)]))

def columnName (c : Column) : String :=
  Sql.quotedName c.name

def placeholderOf (c : Column) : String :=
  "#\x7b" ++ normalized c.name ++ "\x7d"

/-- The test that a column's value is there. -/
def presence (c : Column) : String :=
  normalized c.name ++ " != " ++ c.kind.nullMacro

def assignment (c : Column) : String :=
  columnName c ++ " = " ++ placeholderOf c

def recordType (t : Table) : String :=
  "yb_" ++ normalized t.name ++ "_t"

def shapeId : String :=
  "BaseResultMap"

def columnListId : String :=
  "base_column_list"

def joined (t : Table) (write : Column → String) : String :=
  Text.join ", " (t.columns.map write)

def shapeElement (t : Table) : Content :=
  make "resultMap" [("id", shapeId), ("type", recordType t)]
    (lines 1 (t.columns.map fun c =>
      make "result" [("column", c.name), ("property", normalized c.name),
        ("yo_type", c.kind.cType)] []))

def columnListElement (t : Table) : Content :=
  make "sql" [("id", columnListId)] (textOf (joined t columnName))

def statementElement (t : Table) (tag id : String) (more : List (String × String))
    (body : List Content) : Content :=
  make tag ([("id", normalized t.name ++ "_" ++ id), ("parameterType", recordType t)] ++ more) body

/-- One part per column, written where the column's value is there. -/
def presentParts (columns : List Column) (write : Column → String) : List Content :=
  columns.map fun c => make "if" [("test", presence c)] (textOf (write c))

def insertElement (t : Table) : Content :=
  statementElement t "insert" "insert" []
    (textOf ("INSERT INTO " ++ Sql.quotedName t.name ++ " (" ++ joined t columnName ++
      ") VALUES (" ++ joined t placeholderOf ++ ")"))

def insertSelectiveElement (t : Table) : Content :=
  let part := fun opening write =>
    make "trim" [("prefix", opening), ("suffix", ")"), ("suffixOverrides", ",")]
      (presentParts t.columns fun c => write c ++ ",")
  statementElement t "insert" "insert_selective" []
    [.text ("INSERT INTO " ++ Sql.quotedName t.name ++ " "), part "(" columnName,
      part " VALUES (" placeholderOf]

def updateElement (t : Table) (key : Column) : Content :=
  statementElement t "update" ("update_by_" ++ normalized key.name) []
    (textOf ("UPDATE " ++ Sql.quotedName t.name ++ " SET " ++ joined t assignment ++ " WHERE " ++
      assignment key))

def updateSelectiveElement (t : Table) (key : Column) : Content :=
  let others := t.columns.filter fun c => c.name != key.name
  statementElement t "update" ("update_by_" ++ normalized key.name ++ "_selective") []
    [.text ("UPDATE " ++ Sql.quotedName t.name ++ " "),
      make "trim" [("prefix", "SET "), ("suffixOverrides", ",")]
        (presentParts others fun c => assignment c ++ ", "),
      .text (" WHERE " ++ assignment key)]

def selectElement (t : Table) (key : Column) : Content :=
  statementElement t "select" ("select_by_" ++ normalized key.name) [("resultMap", shapeId)]
    [.text "SELECT ", make "include" [("refid", columnListId)] [],
      .text (" FROM " ++ Sql.quotedName t.name ++ " WHERE " ++ assignment key)]

def deleteElement (t : Table) (key : Column) : Content :=
  statementElement t "delete" ("delete_by_" ++ normalized key.name) []
    (textOf ("DELETE FROM " ++ Sql.quotedName t.name ++ " WHERE " ++ assignment key))

def keyElements (t : Table) (key : Column) : List Content :=
  [updateElement t key, updateSelectiveElement t key, selectElement t key, deleteElement t key]

def mapperElement (t : Table) : Content :=
  make "mapper" [("namespace", normalized t.name ++ "_mapper")]
    (lines 0 ([shapeElement t, columnListElement t, insertElement t, insertSelectiveElement t]
      ++ t.keys.flatMap (keyElements t)))

def mapperDocument (t : Table) : List Content :=
  documentOf (mapperElement t)

end SqlMapper.Schema
