import SqlMapper.Code.Function

/-!
The life of a buffer in a program. A block frees the buffers that it declares, the last one first;
between the two a buffer can be used, also in the blocks inside. The names that a C function
declares are collected over all its blocks.
-/

namespace SqlMapper.Code

mutual

def declared : List BufferOp → List Buffer
  | [] => []
  | op :: rest => op.declared ++ declared rest

def BufferOp.declared : BufferOp → List Buffer
  | .declare buffer => [buffer]
  | .when _ _ body | .block body => Code.declared body
  | _ => []

end

mutual

def freed : List BufferOp → List Buffer
  | [] => []
  | op :: rest => op.freed ++ freed rest

def BufferOp.freed : BufferOp → List Buffer
  | .free buffer => [buffer]
  | .when _ _ body | .block body => Code.freed body
  | _ => []

end

mutual

/-- The tests of a program with the conditions that they became. -/
def guards : List BufferOp → List (String × String)
  | [] => []
  | op :: rest => op.guards ++ guards rest

def BufferOp.guards : BufferOp → List (String × String)
  | .when test condition body => (test, condition) :: Code.guards body
  | .block body => Code.guards body
  | _ => []

end

theorem guards_append (first rest : List BufferOp) :
    guards (first ++ rest) = guards first ++ guards rest := by
  induction first with
  | nil => rw [guards, List.nil_append, List.nil_append]
  | cons op more ih => rw [List.cons_append, guards, guards, ih, List.append_assoc]

section Names

theorem name_injective {first second : Buffer} (same : first.name = second.name) :
    first = second := by
  have digits (n : Nat) : (toString n).toList = Nat.toDigits 10 n := Nat.toList_repr
  have spelled := congrArg String.toList same
  cases first with
  | command =>
      cases second with
      | command => rfl
      | temporary k => simp [Buffer.name] at spelled
  | temporary j =>
      cases second with
      | command => simp [Buffer.name] at spelled
      | temporary k =>
          simp only [Buffer.name, String.toList_append, digits] at spelled
          have back := congrArg (Nat.ofDigitChars 10 · 0) (List.append_cancel_left spelled)
          simp only [Nat.ofDigitChars_ten_toDigits] at back
          rw [back]

mutual

/-- The names that a statement declares, inner blocks included. -/
def stmtNames : C.Stmt → List String
  | .declare _ name _ | .declareArray _ name _ => [name]
  | .block body | .loop _ body => blockNames body
  | .count _ counter _ _ body => counter :: blockNames body
  | .branch _ body otherwise => blockNames body ++ elseNames otherwise
  | _ => []

def elseNames : C.Else → List String
  | .none => []
  | .branch _ body otherwise => blockNames body ++ elseNames otherwise
  | .final body => blockNames body

def blockNames : List C.Stmt → List String
  | [] => []
  | first :: rest => stmtNames first ++ blockNames rest

end

mutual

/-- In C a program declares the names of the buffers that it declares. -/
theorem blockNames_bufferStmts (program : List BufferOp) :
    blockNames (bufferStmts program) = (declared program).map Buffer.name := by
  cases program with
  | nil => rfl
  | cons op rest =>
      rw [bufferStmts, blockNames, declared, List.map_append, stmtNames_toC op,
        blockNames_bufferStmts rest]

theorem stmtNames_toC (op : BufferOp) :
    stmtNames op.toC = op.declared.map Buffer.name := by
  cases op with
  | declare buffer => rfl
  | appendText target text => rfl
  | append target source => rfl
  | trim source rule target => rfl
  | free buffer => rfl
  | «when» test condition body =>
      rw [BufferOp.toC, stmtNames, elseNames, List.append_nil, BufferOp.declared,
        blockNames_bufferStmts body]
  | block body => rw [BufferOp.toC, stmtNames, BufferOp.declared, blockNames_bufferStmts body]

end

end Names

section Function

open C

/-- No name that a block declares is that of a temporary. -/
def Apart (stmts : List Stmt) : Prop :=
  ∀ name ∈ blockNames stmts, name.toList.head? ≠ some 't'

end Function

end SqlMapper.Code
