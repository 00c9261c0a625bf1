import SqlMapper.Table
import SqlMapper.Mapper.Error
import SqlMapper.Mapper.Shape
import SqlMapper.Mapper.Statement

/-!
The mapper of one document: its record shapes, its fragments and its statements. Shapes are found
by id and by type, statements by id whatever their kind; each of these is unique, and an addition
that would break this is refused.
-/
namespace SqlMapper

structure Mapper where
  /-- The namespace, which names the generated files. -/
  space : String
  /-- The document it was read from, for messages. -/
  document : String
  resultMaps : Table ResultMap
  fragments : Table String
  statements : Table Statement

namespace Mapper

def empty (space document : String) : Mapper :=
  ⟨space, document, .empty, .empty, .empty⟩

def error (m : Mapper) (element name : String) (complaint : Complaint) : DocumentError :=
  ⟨m.document, element, name, complaint⟩

def shapeOfType? (m : Mapper) (type : String) : Option ResultMap :=
  m.resultMaps.values.find? fun shape => shape.type == type

def addResultMap (m : Mapper) (shape : ResultMap) : Except DocumentError Mapper :=
  if (m.shapeOfType? shape.type).isSome then
    .error (m.error "resultMap" shape.id (.typeMapped shape.type))
  else match m.resultMaps.add? shape.id shape with
    | some table => .ok { m with resultMaps := table }
    | none => .error (m.error "resultMap" shape.id .definedTwice)

def addFragment (m : Mapper) (id text : String) : Except DocumentError Mapper :=
  match m.fragments.add? id text with
  | some table => .ok { m with fragments := table }
  | none => .error (m.error "sql" id .definedTwice)

/-- Ids are unique across kinds, because every statement becomes a function. -/
def addStatement (m : Mapper) (statement : Statement) : Except DocumentError Mapper :=
  match m.statements.add? statement.id statement with
  | some table => .ok { m with statements := table }
  | none => .error (m.error statement.kind.name statement.id .definedTwice)

def statement? (m : Mapper) (id : String) : Option Statement :=
  m.statements.get? id

def statementsOf (m : Mapper) (kind : StatementKind) : List Statement :=
  m.statements.values.filter fun statement => statement.kind == kind

def allStatements (m : Mapper) : List Statement :=
  StatementKind.all.flatMap m.statementsOf

def statementCount (m : Mapper) : Nat :=
  m.statements.size

def statementError (m : Mapper) (statement : Statement) (complaint : Complaint) : DocumentError :=
  m.error statement.kind.name statement.id complaint

def parameterShape (m : Mapper) (statement : Statement) : Except DocumentError ResultMap :=
  match m.shapeOfType? statement.parameterType with
  | some shape => .ok shape
  | none => .error (m.statementError statement (.parameterType statement.parameterType))

def rowShape (m : Mapper) (statement : Statement) : Except DocumentError ResultMap :=
  match m.resultMaps.get? statement.resultMap with
  | some shape => .ok shape
  | none => .error (m.statementError statement (.resultMap statement.resultMap))

def fragmentText (m : Mapper) (statement : Statement) (reference : String) :
    Except DocumentError String :=
  match m.fragments.get? reference with
  | some text => .ok text
  | none => .error (m.statementError statement (.fragment reference))

end Mapper
end SqlMapper
