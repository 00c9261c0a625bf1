import SqlMapper.C.Literal
import SqlMapper.C.Syntax
import SqlMapper.Text.Search

/-!
Printing C. Parentheses stand where the binding strength of the operators asks for them; a brace
opens at the end of a line and what it encloses is indented by four blanks.
-/
namespace SqlMapper.C

namespace BinaryOp

def symbol : BinaryOp → String
  | add => "+"
  | subtract => "-"
  | less => "<"
  | greater => ">"
  | greaterEqual => ">="
  | equal => "=="
  | notEqual => "!="
  | and => "&&"
  | or => "||"

/-- Binding strength; unary operators have 6 and what stands behind an operand has 7. -/
def strength : BinaryOp → Nat
  | or => 1
  | and => 2
  | equal | notEqual => 3
  | less | greater | greaterEqual => 4
  | add | subtract => 5

end BinaryOp

def Expr.strength : Expr → Nat
  | .binary op _ _ => op.strength
  | .address _ | .not _ | .increment _ | .cast .. => 6
  | .condition _ => 0
  | _ => 7

def enclosed (needed : Bool) (text : String) : String :=
  if needed then "(" ++ text ++ ")" else text

mutual

def Expr.render : Expr → String
  | .name identifier => identifier
  | .number value => toString value
  | .character c => "'" ++ c.toString ++ "'"
  | .text value => literal value
  | .condition spelling => spelling
  | .call function arguments => function ++ "(" ++ renderArguments arguments ++ ")"
  | .sizeOf what => "sizeof(" ++ what ++ ")"
  | .member object field => enclosed (object.strength < 7) object.render ++ "." ++ field
  | .pointerMember pointer field => enclosed (pointer.strength < 7) pointer.render ++ "->" ++ field
  | .index array position =>
      enclosed (array.strength < 7) array.render ++ "[" ++ position.render ++ "]"
  | .address object => "&" ++ enclosed (object.strength < 6) object.render
  | .not operand => "!" ++ enclosed (operand.strength < 6) operand.render
  | .increment target => "++" ++ enclosed (target.strength < 6) target.render
  | .cast type operand => "(" ++ type ++ ")" ++ enclosed (operand.strength < 6) operand.render
  | .binary op left right =>
      enclosed (left.strength < op.strength) left.render ++ " " ++ op.symbol ++ " " ++
        enclosed (right.strength ≤ op.strength) right.render

def renderArguments : List Expr → String
  | [] => ""
  | [only] => only.render
  | first :: rest => first.render ++ ", " ++ renderArguments rest

end

def indented (depth : Nat) (text : String) : String :=
  Text.replicate (4 * depth) ' ' ++ text

mutual

def Stmt.lines (depth : Nat) : Stmt → List String
  | .blank => [""]
  | .expression e => [indented depth (e.render ++ ";")]
  | .declare type name none => [indented depth (type ++ " " ++ name ++ ";")]
  | .declare type name (some value) =>
      [indented depth (type ++ " " ++ name ++ " = " ++ value.render ++ ";")]
  | .declareArray type name size =>
      [indented depth (type ++ " " ++ name ++ "[" ++ toString size ++ "];")]
  | .assign target value => [indented depth (target.render ++ " = " ++ value.render ++ ";")]
  | .give none => [indented depth "return;"]
  | .give (some value) => [indented depth ("return " ++ value.render ++ ";")]
  | .goto label => [indented depth ("goto " ++ label ++ ";")]
  | .next => [indented depth "continue;"]
  | .leave => [indented depth "break;"]
  | .label name => [indented (depth - 1) (name ++ ":")]
  | .block body => indented depth "\x7b" :: blockLines (depth + 1) body ++ [indented depth "\x7d"]
  | .loop condition body =>
      indented depth ("while (" ++ condition.render ++ ") \x7b") ::
        blockLines (depth + 1) body ++ [indented depth "\x7d"]
  | .count type counter start condition body =>
      indented depth ("for (" ++ type ++ " " ++ counter ++ " = " ++ start.render ++ "; " ++
        condition.render ++ "; ++" ++ counter ++ ") \x7b") ::
        blockLines (depth + 1) body ++ [indented depth "\x7d"]
  | .branch condition body otherwise =>
      indented depth ("if (" ++ condition.render ++ ") \x7b") ::
        blockLines (depth + 1) body ++ otherwise.lines depth

def Else.lines (depth : Nat) : Else → List String
  | .none => [indented depth "\x7d"]
  | .branch condition body otherwise =>
      indented depth ("\x7d else if (" ++ condition.render ++ ") \x7b") ::
        blockLines (depth + 1) body ++ otherwise.lines depth
  | .final body =>
      indented depth "\x7d else \x7b" :: blockLines (depth + 1) body ++ [indented depth "\x7d"]

def blockLines (depth : Nat) : List Stmt → List String
  | [] => []
  | first :: rest => first.lines depth ++ blockLines depth rest

end

def Signature.render (s : Signature) : String :=
  let parameters :=
    if s.parameters.isEmpty then "void"
    else Text.join ", " (s.parameters.map fun p => p.1 ++ " " ++ p.2)
  s.result ++ " " ++ s.name ++ "(" ++ parameters ++ ")"

def Item.lines : Item → List String
  | .blank => [""]
  | .directive text => ["#" ++ text]
  | .struct tag members =>
      ["struct " ++ tag ++ " \x7b"] ++ members.map (fun p => indented 1 (p.1 ++ " " ++ p.2 ++ ";")) ++
        ["\x7d;"]
  | .pointerType tag name => ["typedef struct " ++ tag ++ "* " ++ name ++ ";"]
  | .prototype signature => [signature.render ++ ";"]
  | .function signature body =>
      (signature.render ++ " \x7b") :: blockLines 1 body ++ ["\x7d"]

def renderFile (items : List Item) : String :=
  String.join ((items.flatMap Item.lines).map (· ++ "\n"))

/-- The names that a file declares at file scope, structure tags apart. -/
def Item.declared : Item → List String
  | .pointerType _ name => [name]
  | .prototype signature | .function signature _ => [signature.name]
  | _ => []

end SqlMapper.C
