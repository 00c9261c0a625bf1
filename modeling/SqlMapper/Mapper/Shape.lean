/-!
Record shapes: the fields that a statement takes and that a row returns. A field holds an integer,
a floating point number or a text; any other declared type is kept as unknown until the document
is compiled.
-/
namespace SqlMapper

inductive FieldKind where
  | integer
  | floatingPoint
  | text
  | unknown
  deriving DecidableEq

namespace FieldKind

def ofType (declared : String) : FieldKind :=
  if declared == "int64_t" then integer
  else if declared == "double" then floatingPoint
  else if declared == "yb_string_t" then text
  else unknown

def name : FieldKind → String
  | integer => "Integer"
  | floatingPoint => "FloatingPoint"
  | text => "Text"
  | unknown => "Unknown"

def cType : FieldKind → String
  | integer => "int64_t"
  | floatingPoint => "double"
  | text => "yb_string_t"
  | unknown => ""

/-- The C macro that stands for a missing value. -/
def nullMacro : FieldKind → String
  | integer => "YB_INT_NULL"
  | floatingPoint => "YB_FLOAT_NULL"
  | text => "YB_STRING_NULL"
  | unknown => ""

end FieldKind

structure Field where
  column : String
  property : String
  /-- The type as the document declares it. -/
  declared : String
  kind : FieldKind
  deriving DecidableEq

def Field.make (column property declared : String) : Field :=
  ⟨column, property, declared, FieldKind.ofType declared⟩

structure ResultMap where
  id : String
  type : String
  fields : List Field
  deriving DecidableEq

/-- The first field of that property. -/
def ResultMap.field? (shape : ResultMap) (property : String) : Option Field :=
  shape.fields.find? fun f => f.property == property

end SqlMapper
