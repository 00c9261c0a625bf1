import SqlMapper.Predicate.Expression
import SqlMapper.Text.Order

/-!
Tests as C conditions, and the names that a test uses. Fields are read from the record `n`, other
names stand for themselves; a negation is put around a comparison with parentheses, because in C it
binds tighter.
-/
namespace SqlMapper.Predicate

/-- Whether a term needs no parentheses under a negation. -/
def Term.isBare : Term → Bool
  | .not _ => true
  | .operand (.number negative _) => !negative
  | .operand (.name negative _) => !negative
  | .operand (.group negative _) => !negative
  | .compare .. => false

def minusSign (negative : Bool) : String :=
  if negative then "-" else ""

mutual

def Expression.render (isField : String → Bool) : Expression → String
  | .one first => first.render isField
  | .or first rest => first.render isField ++ " || " ++ rest.render isField

def Conjunction.render (isField : String → Bool) : Conjunction → String
  | .one first => first.render isField
  | .and first rest => first.render isField ++ " && " ++ rest.render isField

def Term.render (isField : String → Bool) : Term → String
  | .not inner =>
      if inner.isBare then "!" ++ inner.render isField
      else "!(" ++ inner.render isField ++ ")"
  | .operand left => left.render isField
  | .compare left op right =>
      left.render isField ++ " " ++ op.symbol ++ " " ++ right.render isField

def Operand.render (isField : String → Bool) : Operand → String
  | .number negative digits => minusSign negative ++ digits
  | .name negative identifier =>
      minusSign negative ++ (if isField identifier then "n->" else "") ++ identifier
  | .group negative inner => minusSign negative ++ "(" ++ inner.render isField ++ ")"

end

mutual

def Expression.names : Expression → List String
  | .one first => first.names
  | .or first rest => first.names ++ rest.names

def Conjunction.names : Conjunction → List String
  | .one first => first.names
  | .and first rest => first.names ++ rest.names

def Term.names : Term → List String
  | .not inner => inner.names
  | .operand left => left.names
  | .compare left _ right => left.names ++ right.names

def Operand.names : Operand → List String
  | .number .. => []
  | .name _ identifier => [identifier]
  | .group _ inner => inner.names

end

/-- The distinct names of a test in increasing order. -/
def Expression.identifiers (e : Expression) : List String :=
  Text.sortedDistinct e.names

/-- The condition for a text that is no test: a member of the record. -/
def memberAccess (test : String) : String :=
  "n->" ++ Text.trimmed test

end SqlMapper.Predicate
