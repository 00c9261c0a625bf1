import SqlMapper.Predicate.Evaluation

/-!
The values of tests. Every part of a test has a value, and the truth of that value is the truth of
the part: a lone operand has a value of its own, everything else is one or zero.
-/

namespace SqlMapper.Predicate

variable (env : Environment)

/-- The value of a term: that of its operand, or one for true and zero for false. -/
def Term.value : Term → Except EvalError Value
  | .operand left => left.eval env
  | t => (t.eval env).map truthValue

def Conjunction.value : Conjunction → Except EvalError Value
  | .one first => first.value env
  | c => (c.eval env).map truthValue

theorem truth_truthValue (holds : Bool) : (truthValue holds).truth = holds := by
  cases holds <;> rfl

theorem map_truth_map_truthValue (outcome : Except EvalError Bool) :
    (outcome.map truthValue).map Value.truth = outcome := by
  cases outcome with
  | error cause => rfl
  | ok holds => simp [Except.map, truth_truthValue]

theorem truth_term (t : Term) : (t.value env).map Value.truth = t.eval env := by
  cases t with
  | operand left => rw [Term.value, Term.eval]
  | _ => exact map_truth_map_truthValue _

theorem truth_conjunction (c : Conjunction) : (c.value env).map Value.truth = c.eval env := by
  cases c with
  | one first => rw [Conjunction.value, Conjunction.eval, truth_term]
  | and first rest => exact map_truth_map_truthValue _

theorem groupValue_one (c : Conjunction) :
    (Expression.one c).groupValue env = c.value env := by
  unfold Expression.groupValue
  cases c with
  | one first => cases first <;> rfl
  | and first rest => rfl

theorem groupValue_or (first : Conjunction) (rest : Expression) :
    (Expression.or first rest).groupValue env =
      ((Expression.or first rest).eval env).map truthValue := by
  rw [Expression.groupValue, Expression.eval]
  split <;> rfl

theorem truth_expression (e : Expression) : (e.groupValue env).map Value.truth = e.eval env := by
  cases e with
  | one first => rw [groupValue_one, Expression.eval, truth_conjunction]
  | or first rest => rw [groupValue_or, map_truth_map_truthValue]

-- What has the same value has the same truth; for a term and a chain of terms, and for a group.

theorem eval_eq_of_value_term {first second : Term}
    (same : first.value env = second.value env) : first.eval env = second.eval env := by
  rw [← truth_term, ← truth_term, same]

theorem eval_eq_of_value_conjunction {first second : Conjunction}
    (same : first.value env = second.value env) : first.eval env = second.eval env := by
  rw [← truth_conjunction, ← truth_conjunction, same]

theorem eval_eq_of_groupValue {first second : Expression}
    (same : first.groupValue env = second.groupValue env) :
    first.eval env = second.eval env := by
  rw [← truth_expression, ← truth_expression, same]

theorem bind_signedValue_false (outcome : Except EvalError Value) :
    outcome.bind (signedValue false) = outcome := by
  cases outcome <;> rfl

/-- Parentheses leave the value of what is inside them as it is. -/
theorem eval_group (e : Expression) : (Operand.group false e).eval env = e.groupValue env := by
  rw [Operand.eval, bind_signedValue_false]

end SqlMapper.Predicate
