import SqlMapper.Number.Reading
import SqlMapper.Predicate.Expression
import SqlMapper.Predicate.Value

/-!
The meaning of a test: logical operators stop as soon as the answer is known, comparisons are exact
on integers and by double otherwise, and a text can only be compared with the missing text. A group
of one operand has that operand's value; any other group is one or zero.
-/
namespace SqlMapper.Predicate

inductive EvalError where
  | unknownIdentifier (name : String)
  | textWithNumber
  | twoTexts
  | textOrder (op : Comparator)
  | badNumber (digits : String) (cause : Number.ReadError)
  | negativeText
  deriving DecidableEq

def EvalError.message : EvalError → String
  | .unknownIdentifier name => "unknown identifier: " ++ name
  | .textWithNumber => "cannot compare text with a number"
  | .twoTexts => "text fields can only be compared with YB_STRING_NULL"
  | .textOrder op => "operator " ++ op.symbol ++ " is not defined for text"
  | .badNumber digits cause =>
      "invalid number " ++ Text.quoted digits ++ ": " ++ cause.message
  | .negativeText => "cannot negate text"

abbrev Environment := String → Option Value

def constants : List (String × Value) :=
  [("YB_INT_NULL", .int Value.nullInt),
    ("YB_FLOAT_NULL", .float Value.nullFloat),
    ("YB_STRING_NULL", .text none),
    ("NULL", .text none),
    ("YB_OK", .int 0),
    ("YB_FAIL", .int (-1))]

def constant? (name : String) : Option Value :=
  constants.lookup name

namespace Comparator

def onInts (op : Comparator) (a b : Int64) : Bool :=
  match op with
  | equal => a == b
  | notEqual => a != b
  | less => decide (a < b)
  | lessEqual => decide (a ≤ b)
  | greater => decide (b < a)
  | greaterEqual => decide (b ≤ a)

def onFloats (op : Comparator) (a b : Binary64) : Bool :=
  match op with
  | equal => a.equal b
  | notEqual => !a.equal b
  | less => a.less b
  | lessEqual => a.lessOrEqual b
  | greater => b.less a
  | greaterEqual => b.lessOrEqual a

def onTexts (op : Comparator) (a b : Option String) : Except EvalError Bool :=
  if a.isSome && b.isSome then .error .twoTexts
  else match op with
    | equal => .ok (a.isNone == b.isNone)
    | notEqual => .ok (a.isNone != b.isNone)
    | op => .error (.textOrder op)

def apply (op : Comparator) : Value → Value → Except EvalError Bool
  | .text a, .text b => op.onTexts a b
  | .text _, _ | _, .text _ => .error .textWithNumber
  | .int a, .int b => .ok (op.onInts a b)
  | .int a, .float b => .ok (op.onFloats (Binary64.ofInt a.toInt) b)
  | .float a, .int b => .ok (op.onFloats a (Binary64.ofInt b.toInt))
  | .float a, .float b => .ok (op.onFloats a b)

end Comparator

/-- An integer if it fits, else a double. -/
def numberValue (digits : String) : Except EvalError Value :=
  match Number.readInteger digits with
  | .ok value => .ok (.int value)
  | .error _ =>
      match Number.readFloat digits with
      | .ok value => .ok (.float value)
      | .error cause => .error (.badNumber digits cause)

/-- A field first, then a constant. -/
def nameValue (env : Environment) (name : String) : Except EvalError Value :=
  match env name with
  | some value => .ok value
  | none =>
      match constant? name with
      | some value => .ok value
      | none => .error (.unknownIdentifier name)

/-- The value under an optional minus sign; integers wrap. -/
def signedValue (negative : Bool) (value : Value) : Except EvalError Value :=
  if negative then
    match value with
    | .int n => .ok (.int (-n))
    | .float x => .ok (.float x.negate)
    | .text _ => .error .negativeText
  else .ok value

def truthValue (holds : Bool) : Value :=
  .int (if holds then 1 else 0)

mutual

def Expression.eval (env : Environment) : Expression → Except EvalError Bool
  | .one first => first.eval env
  | .or first rest =>
      match first.eval env with
      | .ok false => rest.eval env
      | decided => decided

def Conjunction.eval (env : Environment) : Conjunction → Except EvalError Bool
  | .one first => first.eval env
  | .and first rest =>
      match first.eval env with
      | .ok true => rest.eval env
      | decided => decided

def Term.eval (env : Environment) : Term → Except EvalError Bool
  | .not inner => (inner.eval env).map Bool.not
  | .operand left => (left.eval env).map Value.truth
  | .compare left op right =>
      match left.eval env with
      | .error e => .error e
      | .ok a =>
          match right.eval env with
          | .error e => .error e
          | .ok b => op.apply a b

def Operand.eval (env : Environment) : Operand → Except EvalError Value
  | .number negative digits => (numberValue digits).bind (signedValue negative)
  | .name negative identifier => (nameValue env identifier).bind (signedValue negative)
  | .group negative inner => (inner.groupValue env).bind (signedValue negative)

/-- The value of a group: that of its only operand, or one for true and zero for false. -/
def Expression.groupValue (env : Environment) : Expression → Except EvalError Value
  | .one (.one (.operand operand)) => operand.eval env
  | .one first => (first.eval env).map truthValue
  | .or first rest =>
      match first.eval env with
      | .ok false => (rest.eval env).map truthValue
      | decided => decided.map truthValue

end

end SqlMapper.Predicate
