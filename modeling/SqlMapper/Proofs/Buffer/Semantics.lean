import SqlMapper.Code.Buffer
import SqlMapper.Proofs.Literal
import SqlMapper.Sql.Trim

/-!
Running programs on text buffers. What runs is the C of each operation: buffers are found by their
names and texts by reading their literals. A buffer comes to life empty, and only a live buffer can
be read, written or freed. A branch is decided by the truth of the test that it was made from.
-/

namespace SqlMapper.Code

/-- The live buffers by name, each with its content. -/
abbrev Memory := String → Option String

namespace Memory

def set (memory : Memory) (name : String) (content : Option String) : Memory :=
  fun other => if other = name then content else memory other

def only (name content : String) : Memory :=
  set (fun _ => none) name (some content)

variable (memory : Memory) (name other : String) (content later : Option String)

@[simp]
theorem set_set : (memory.set name content).set name later = memory.set name later := by
  funext key
  by_cases same : key = name
  · simp [set, same]
  · simp [set, same]

/-- Writing what a buffer holds already changes nothing. -/
theorem set_eq_self (held : memory name = content) : memory.set name content = memory := by
  funext key
  by_cases same : key = name
  · simp [set, same, held]
  · simp [set, same]

end Memory

/-- The string that a literal passes to a function. -/
def passed (literal : C.Expr) : Option String :=
  (C.literalValue literal.render).map C.stringOf

def invoke (memory : Memory) : String → List C.Expr → Option Memory
  | "yb_string_append_c_str", [.name target, literal] => do
      let content ← memory target
      let added ← passed literal
      return memory.set target (some (content ++ added))
  | "yb_string_append", [.name target, .name source] => do
      let content ← memory target
      let added ← memory source
      return memory.set target (some (content ++ added))
  | "yb_string_trim", [.name source, opening, closing, leading, trailing, .name target] => do
      let content ← memory source
      let _ ← memory target
      let rule : TrimRule :=
        ⟨← passed opening, ← passed closing, ← passed leading, ← passed trailing⟩
      return memory.set target (some (Sql.trim rule content))
  | "yb_string_free", [.name buffer] => do
      let _ ← memory buffer
      return memory.set buffer none
  | _, _ => none

/-- One statement on buffers; a name is declared only while it is free. -/
def execute (memory : Memory) : C.Stmt → Option Memory
  | .declare "yb_string_t" name (some (.call "yb_string_new" [])) =>
      if (memory name).isSome then none else some (memory.set name (some ""))
  | .expression (.call function arguments) => invoke memory function arguments
  | _ => none

mutual

def runOp (truth : String → Option Bool) (memory : Memory) : BufferOp → Option Memory
  | .declare buffer => execute memory (BufferOp.declare buffer).toC
  | .appendText target text => execute memory (BufferOp.appendText target text).toC
  | .append target source => execute memory (BufferOp.append target source).toC
  | .trim source rule target => execute memory (BufferOp.trim source rule target).toC
  | .free buffer => execute memory (BufferOp.free buffer).toC
  | .when test _ body =>
      (truth test).bind fun holds => if holds then runOps truth memory body else some memory
  | .block body => runOps truth memory body

def runOps (truth : String → Option Bool) (memory : Memory) : List BufferOp → Option Memory
  | [] => some memory
  | op :: rest => (runOp truth memory op).bind fun next => runOps truth next rest

end

section Steps

variable (truth : String → Option Bool) (memory : Memory) (rest : List BufferOp)

end Steps

end SqlMapper.Code
