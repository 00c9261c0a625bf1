import SqlMapper.Code.Function
import SqlMapper.Code.Names

/-!
Compiling a mapper: a header with the record types and the prototypes, and a source with their
definitions. Shapes come first in order of insertion, then the statements kind by kind.
-/
namespace SqlMapper.Code

open C

structure Compiled where
  space : String
  document : String
  header : List Item
  source : List Item
  /-- The record types in order of emission. -/
  records : List String
  /-- The statements by kind, in order of emission. -/
  functions : List (StatementKind × String)

namespace Compiled

def headerName (c : Compiled) : String :=
  headerFile c.space

def sourceName (c : Compiled) : String :=
  sourceFile c.space

def headerText (c : Compiled) : String :=
  renderFile c.header

def sourceText (c : Compiled) : String :=
  renderFile c.source

def functionsOf (c : Compiled) (kind : StatementKind) : List String :=
  (c.functions.filter fun f => f.1 == kind).map (·.2)

end Compiled

def localInclude (file : String) : Item :=
  .directive ("include \"" ++ file ++ "\"")

def systemInclude (file : String) : Item :=
  .directive ("include <" ++ file ++ ">")

def checkShapes (m : Mapper) : List ResultMap → Except DocumentError Unit
  | [] => .ok ()
  | shape :: rest => (checkShape m shape).bind fun _ => checkShapes m rest

def headerItems (space : String) (shapes : List ResultMap) (signatures : List Signature) :
    List Item :=
  [.directive ("ifndef " ++ guard space), .directive ("define " ++ guard space), .blank,
    localInclude supportHeader, .blank]
    ++ shapes.flatMap recordHeader
    ++ signatures.map .prototype
    ++ [.blank, .directive ("endif // " ++ guard space)]

def sourceItems (space : String) (shapes : List ResultMap)
    (functions : List (Signature × List Stmt)) : List Item :=
  [localInclude (headerFile space), .blank, systemInclude "stdlib.h", systemInclude "string.h", .blank,
    localInclude supportHeader, .blank]
    ++ shapes.flatMap recordSource
    ++ functions.flatMap fun f => [.function f.1 f.2, .blank]

def compile (m : Mapper) : Logged DocumentError Compiled := do
  Logged.write .debug "Compiling mapper"
    [("document", .text m.document), ("namespace", .text m.space)]
  if !isIdentifier m.space then .fail (m.error "mapper" m.space .spaceForm)
  let shapes := m.resultMaps.values
  Logged.ofExcept (checkShapes m shapes)
  let functions ← Logged.mapList (statementFunction m) m.allStatements
  let compiled : Compiled := {
    space := m.space
    document := m.document
    header := headerItems m.space shapes (functions.map (·.1))
    source := sourceItems m.space shapes functions
    records := shapes.map (·.type)
    functions := m.allStatements.map fun s => (s.kind, s.id) }
  Logged.write .debug "Mapper compiled"
    [("namespace", .text m.space), ("records", .number compiled.records.length),
      ("statements", .number m.statementCount)]
  .pure compiled

end SqlMapper.Code
