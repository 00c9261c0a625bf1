import SqlMapper.Predicate.Token
import SqlMapper.Text.Blank
import SqlMapper.Text.Quoted

/-!
Test expressions and their parser. An expression is a chain of conjunctions, a conjunction a chain
of negations and comparisons; a negation covers a whole comparison. The words `or` and `and` are
operators only where one can stand, and names elsewhere.
-/
namespace SqlMapper.Predicate

mutual

/-- One or more conjunctions joined by `||`. -/
inductive Expression where
  | one (first : Conjunction)
  | or (first : Conjunction) (rest : Expression)

/-- One or more terms joined by `&&`. -/
inductive Conjunction where
  | one (first : Term)
  | and (first : Term) (rest : Conjunction)

inductive Term where
  | not (inner : Term)
  | operand (left : Operand)
  | compare (left : Operand) (op : Comparator) (right : Operand)

/-- A number, a name or a group, each perhaps with a minus sign in front. -/
inductive Operand where
  | number (negative : Bool) (digits : String)
  | name (negative : Bool) (identifier : String)
  | group (negative : Bool) (inner : Expression)

end

def isOr : Token → Bool
  | .or => true
  | .word name => name == "or"
  | _ => false

def isAnd : Token → Bool
  | .and => true
  | .word name => name == "and"
  | _ => false

mutual

def expression : Nat → List Token → Option (Expression × List Token)
  | 0, _ => none
  | fuel + 1, tokens => do
      let (first, rest) ← conjunction fuel tokens
      match rest with
      | token :: tail =>
          if isOr token then
            let (more, rest) ← expression fuel tail
            return (.or first more, rest)
          else return (.one first, rest)
      | [] => return (.one first, [])

def conjunction : Nat → List Token → Option (Conjunction × List Token)
  | 0, _ => none
  | fuel + 1, tokens => do
      let (first, rest) ← term fuel tokens
      match rest with
      | token :: tail =>
          if isAnd token then
            let (more, rest) ← conjunction fuel tail
            return (.and first more, rest)
          else return (.one first, rest)
      | [] => return (.one first, [])

def term : Nat → List Token → Option (Term × List Token)
  | 0, _ => none
  | fuel + 1, .not :: tail => do
      let (inner, rest) ← term fuel tail
      return (.not inner, rest)
  | fuel + 1, tokens => do
      let (left, rest) ← operand fuel tokens
      match rest with
      | .comparator op :: tail =>
          let (right, rest) ← operand fuel tail
          return (.compare left op right, rest)
      | rest => return (.operand left, rest)

def operand : Nat → List Token → Option (Operand × List Token)
  | 0, _ => none
  | fuel + 1, .minus :: tail => atom fuel true tail
  | fuel + 1, tokens => atom fuel false tokens

def atom : Nat → Bool → List Token → Option (Operand × List Token)
  | 0, _, _ => none
  | _ + 1, negative, .number digits :: rest => some (.number negative digits, rest)
  | _ + 1, negative, .word identifier :: rest => some (.name negative identifier, rest)
  | fuel + 1, negative, .open :: tail => do
      let (inner, rest) ← expression fuel tail
      match rest with
      | .close :: rest => return (.group negative inner, rest)
      | _ => none
  | _ + 1, _, _ => none

end

/-- Enough for every descent: a token is reached through at most five levels. -/
def depthFor (tokens : List Token) : Nat :=
  5 * (tokens.length + 1)

/-- The expression that a list of tokens spells, with nothing left over. -/
def Expression.ofTokens? (tokens : List Token) : Option Expression :=
  match expression (depthFor tokens) tokens with
  | some (e, []) => some e
  | _ => none

inductive ParseError where
  | empty
  | invalid (test : String)
  deriving DecidableEq

def ParseError.message : ParseError → String
  | .empty => "empty test expression"
  | .invalid test => "invalid test expression " ++ Text.quoted test ++ ": unexpected input"

def parse (test : String) : Except ParseError Expression :=
  if test.toList.all Text.isUnicodeBlank then .error .empty
  else match (scan test).bind Expression.ofTokens? with
    | some e => .ok e
    | none => .error (.invalid test)

end SqlMapper.Predicate
