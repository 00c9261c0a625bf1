import SqlMapper.C.Syntax
import SqlMapper.Log.Entry
import SqlMapper.Mapper.Store
import SqlMapper.Predicate.Condition
import SqlMapper.Predicate.Evaluation

/-!
Programs on text buffers. The body of a statement becomes a program that appends to the command
buffer: a conditional or a trim fills a temporary buffer of its own and hands it on. Temporaries
are numbered in the order in which they are needed.
-/
namespace SqlMapper.Code

inductive Buffer where
  | command
  | temporary (number : Nat)
  deriving DecidableEq

def Buffer.name : Buffer → String
  | .command => "cmd"
  | .temporary number => "tmp_" ++ toString number

inductive BufferOp where
  | declare (buffer : Buffer)
  | appendText (target : Buffer) (text : String)
  | append (target source : Buffer)
  | trim (source : Buffer) (rule : TrimRule) (target : Buffer)
  | free (buffer : Buffer)
  /-- Runs the body where the test holds; the condition is the test in C. -/
  | when (test condition : String) (body : List BufferOp)
  | block (body : List BufferOp)

/-- A test in C. A text that is no test is taken for a member of the record, and a name that is
neither a field nor a constant is kept, both with a warning. -/
def condition {ε : Type} (m : Mapper) (statement : Statement) (shape : ResultMap)
    (test : String) : Logged ε String :=
  match Predicate.parse test with
  | .error cause =>
      (Logged.write .warn "test expression not understood, emitting it as a member access"
        [("document", .text m.document), ("statement", .text statement.id), ("test", .text test),
          ("error", .text cause.message)]).bind fun _ => .pure (Predicate.memberAccess test)
  | .ok e =>
      let isField := fun name => (shape.field? name).isSome
      let strange := e.identifiers.filter fun name =>
        (Predicate.constant? name).isNone && !isField name
      let warnings := strange.map fun name => (⟨.warn,
        "test references a name that is neither a field nor a runtime constant",
        [("document", .text m.document), ("statement", .text statement.id),
          ("name", .text name)]⟩ : Log.Entry)
      ⟨warnings, .ok (e.render isField)⟩

/-- A program and the number of the next free temporary. -/
abbrev Built := List BufferOp × Nat

mutual

def buildBody (m : Mapper) (statement : Statement) (shape : ResultMap) (target : Buffer) :
    Nat → List Node → Logged DocumentError Built
  | free, [] => .pure ([], free)
  | free, node :: rest =>
      (buildNode m statement shape target free node).bind fun (first, free) =>
        (buildBody m statement shape target free rest).bind fun (more, free) =>
          .pure (first ++ more, free)

def buildNode (m : Mapper) (statement : Statement) (shape : ResultMap) (target : Buffer)
    (free : Nat) : Node → Logged DocumentError Built
  | .text value => .pure ([.appendText target value], free)
  | .fragment reference =>
      (Logged.ofExcept (m.fragmentText statement reference)).bind fun text =>
        .pure ([.appendText target text], free)
  | .conditional test body =>
      let inner := Buffer.temporary free
      (condition m statement shape test).bind fun spelled =>
        (buildBody m statement shape inner (free + 1) body).bind fun (ops, next) =>
          .pure ([.when test spelled
            ([.declare inner] ++ ops ++ [.append target inner, .free inner])], next)
  | .trim rule body =>
      let source := Buffer.temporary free
      let result := Buffer.temporary (free + 1)
      (buildBody m statement shape source (free + 2) body).bind fun (ops, next) =>
        .pure ([.block ([.declare source, .declare result] ++ ops
          ++ [.trim source rule result, .append target result, .free result, .free source])], next)

end

mutual

def BufferOp.toC : BufferOp → C.Stmt
  | .declare buffer => .declare "yb_string_t" buffer.name (some (.call "yb_string_new" []))
  | .appendText target text =>
      .expression (.call "yb_string_append_c_str" [.name target.name, .text text])
  | .append target source =>
      .expression (.call "yb_string_append" [.name target.name, .name source.name])
  | .trim source rule target =>
      .expression (.call "yb_string_trim" [.name source.name, .text rule.opening,
        .text rule.closing, .text rule.leading, .text rule.trailing, .name target.name])
  | .free buffer => .expression (.call "yb_string_free" [.name buffer.name])
  | .when _ condition body => .branch (.condition condition) (bufferStmts body) .none
  | .block body => .block (bufferStmts body)

def bufferStmts : List BufferOp → List C.Stmt
  | [] => []
  | op :: rest => op.toC :: bufferStmts rest

end

end SqlMapper.Code
