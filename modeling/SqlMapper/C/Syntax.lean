/-!
The part of C that generated code uses: expressions, statements, and the items of a file.
-/
namespace SqlMapper.C

inductive BinaryOp where
  | add | subtract | less | greater | greaterEqual | equal | notEqual | and | or
  deriving DecidableEq

inductive Expr where
  | name (identifier : String)
  | number (value : Nat)
  | character (c : Char)
  | text (value : String)
  /-- A condition that is spelled already. -/
  | condition (spelling : String)
  | call (function : String) (arguments : List Expr)
  | sizeOf (what : String)
  | member (object : Expr) (field : String)
  | pointerMember (pointer : Expr) (field : String)
  | index (array position : Expr)
  | address (object : Expr)
  | not (operand : Expr)
  | increment (target : Expr)
  | cast (type : String) (operand : Expr)
  | binary (op : BinaryOp) (left right : Expr)

mutual

inductive Stmt where
  | blank
  | expression (e : Expr)
  | declare (type name : String) (value : Option Expr)
  | declareArray (type name : String) (size : Nat)
  | assign (target value : Expr)
  | give (value : Option Expr)
  | goto (label : String)
  | next
  | leave
  | label (name : String)
  | block (body : List Stmt)
  | loop (condition : Expr) (body : List Stmt)
  /-- A loop that counts `counter` up from `start`. -/
  | count (type counter : String) (start condition : Expr) (body : List Stmt)
  | branch (condition : Expr) (body : List Stmt) (otherwise : Else)

/-- What follows the body of a branch. -/
inductive Else where
  | none
  | branch (condition : Expr) (body : List Stmt) (otherwise : Else)
  | final (body : List Stmt)

end

/-- A function's type, name and parameters, each a type and a name. -/
structure Signature where
  result : String
  name : String
  parameters : List (String × String)

inductive Item where
  | blank
  | directive (text : String)
  /-- A structure with its members, each a type and a name. -/
  | struct (tag : String) (members : List (String × String))
  /-- A name for the pointer to a structure. -/
  | pointerType (tag name : String)
  | prototype (signature : Signature)
  | function (signature : Signature) (body : List Stmt)

end SqlMapper.C
