import SqlMapper.Number.Shortest
import SqlMapper.Sql.Record

/-!
Prepared statements: every placeholder `#{name}` of a text becomes a question mark and a binding of
the field of that name. A placeholder without an end is kept as it stands.
-/
namespace SqlMapper.Sql

/-- A value bound to a position of a prepared statement. -/
structure Binding where
  position : Nat
  field : Field
  value : Value
  deriving DecidableEq

namespace Binding

def isNull (b : Binding) : Bool :=
  b.value.isNull

/-- The type under which the value is sent. -/
def mysqlType (b : Binding) : String :=
  if b.isNull then "MYSQL_TYPE_NULL"
  else match b.field.kind with
    | .integer => "MYSQL_TYPE_LONGLONG"
    | .floatingPoint => "MYSQL_TYPE_DOUBLE"
    | .text | .unknown => "MYSQL_TYPE_STRING"

/-- Numbers below 0.0001 and from a million on are written with an exponent. -/
def floatLayout : Shortest.Layout :=
  ⟨-4, 6⟩

/-- The value for a reader. -/
def display (b : Binding) : String :=
  if b.isNull then "NULL"
  else match b.value with
    | .int value => toString value.toInt
    | .float value => Shortest.render floatLayout value
    | .text value => Text.quoted (value.getD "")

end Binding

/-- The value that a field has in a record; a record without one has the missing value. -/
def boundValue (record : Record) (f : Field) : Value :=
  (record.get? f.property).getD (Record.missing f.kind)

/-- A text being prepared: what is written so far stands before it. -/
structure Prepared where
  text : List Char
  bindings : List Binding

/-- Scans a text; inside a placeholder the characters of its name are kept in reverse. The error is
a name that is no field. -/
def prepareScan (shape : ResultMap) (record : Record) :
    Nat → Option (List Char) → List Char → Except String Prepared
  | _, none, [] => .ok ⟨[], []⟩
  | _, some name, [] => .ok ⟨'#' :: '{' :: name.reverse, []⟩
  | position, none, '#' :: '{' :: rest => prepareScan shape record position (some []) rest
  | position, none, c :: rest =>
      (prepareScan shape record position none rest).map fun more => ⟨c :: more.text, more.bindings⟩
  | position, some name, c :: rest =>
      if c == '}' then
        let property := String.ofList name.reverse
        match shape.field? property with
        | none => .error property
        | some f =>
            (prepareScan shape record (position + 1) none rest).map fun more =>
              ⟨'?' :: more.text, ⟨position, f, boundValue record f⟩ :: more.bindings⟩
      else prepareScan shape record position (some (c :: name)) rest

/-- The prepared text and its bindings, or the first name that is no field. -/
def prepare (shape : ResultMap) (record : Record) (sql : String) :
    Except String (String × List Binding) :=
  (prepareScan shape record 0 none sql.toList).map fun done =>
    (String.ofList done.text, done.bindings)

/-- The message for a placeholder whose name is no field. -/
def strangePlaceholder (name : String) : String :=
  "placeholder #\x7b" ++ name ++ "\x7d: " ++ DocumentFault.reference.message

end SqlMapper.Sql
