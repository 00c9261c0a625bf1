import SqlMapper.C.Printer
import SqlMapper.Mapper.Store

/-!
The C type of a record: a structure with one member per field, a constructor that sets every member
to its missing value, and a destructor that frees the texts.
-/
namespace SqlMapper.Code

open C

/-- Refuses shapes that C cannot express. -/
def checkField (m : Mapper) (shape : ResultMap) (f : Field) : Except DocumentError Unit :=
  if !isIdentifier f.property then
    .error (m.error "resultMap" shape.id (.propertyForm f.property))
  else if f.kind = .unknown then .error (m.error "resultMap" shape.id (.fieldType f.declared))
  else .ok ()

def checkFields (m : Mapper) (shape : ResultMap) : List Field → Except DocumentError Unit
  | [] => .ok ()
  | f :: rest => (checkField m shape f).bind fun _ => checkFields m shape rest

def checkShape (m : Mapper) (shape : ResultMap) : Except DocumentError Unit :=
  if !isIdentifier shape.type then .error (m.error "resultMap" shape.id (.typeForm shape.type))
  else checkFields m shape shape.fields

def constructorOf (type : String) : Signature :=
  ⟨type, type ++ "_new", []⟩

def destructorOf (type : String) : Signature :=
  ⟨"void", type ++ "_free", [(type, "n")]⟩

def tagOf (type : String) : String :=
  type ++ "_s"

def null : Expr :=
  .name "NULL"

/-- `if (condition) { … }` without an else. -/
def when (condition : Expr) (body : List Stmt) : Stmt :=
  .branch condition body .none

/-- A member of the record `n`. -/
def memberOf (object property : String) : Expr :=
  .pointerMember (.name object) property

def constructorBody (shape : ResultMap) : List Stmt :=
  let type := shape.type
  [.declare type "n" (some (.cast type (.call "malloc" [.sizeOf ("struct " ++ tagOf type)]))),
    when (.binary .equal (.name "n") null) [.give (some null)]]
    ++ shape.fields.map (fun f => .assign (memberOf "n" f.property) (.name f.kind.nullMacro))
    ++ [.give (some (.name "n"))]

/-- Frees a text member that is not missing. -/
def freeText (object property : String) (more : List Stmt) : Stmt :=
  when (.binary .notEqual (memberOf object property) (.name FieldKind.text.nullMacro))
    (.expression (.call "yb_string_free" [memberOf object property]) :: more)

def destructorBody (shape : ResultMap) : List Stmt :=
  let texts := shape.fields.filter fun f => f.kind = .text
  [when (.binary .equal (.name "n") null) [.give none]]
    ++ texts.map (fun f => freeText "n" f.property [])
    ++ [.expression (.call "free" [.name "n"])]

/-- What a shape adds to the header. -/
def recordHeader (shape : ResultMap) : List Item :=
  [.struct (tagOf shape.type) (shape.fields.map fun f => (f.kind.cType, f.property)),
    .pointerType (tagOf shape.type) shape.type,
    .prototype (constructorOf shape.type),
    .prototype (destructorOf shape.type),
    .blank]

/-- What a shape adds to the source. -/
def recordSource (shape : ResultMap) : List Item :=
  [.function (constructorOf shape.type) (constructorBody shape), .blank,
    .function (destructorOf shape.type) (destructorBody shape), .blank]

end SqlMapper.Code
