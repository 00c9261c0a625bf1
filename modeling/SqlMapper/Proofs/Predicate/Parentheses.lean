import SqlMapper.Proofs.Predicate.Evaluation
import SqlMapper.Proofs.Predicate.Joining

/-!
Redundant parentheses. A context is a test with a hole in the place of one operand; what stands in
the hole counts by its value alone, whatever the context is. An operand in parentheses has the value
of the operand, also where the parentheses stand behind its sign, so no context tells them apart.
-/

namespace SqlMapper.Predicate

section Contexts

mutual

/-- A test in which one operand, at any depth, is left open. -/
inductive ExpressionContext where
  | one (first : ConjunctionContext)
  | orFirst (first : ConjunctionContext) (rest : Expression)
  | orRest (first : Conjunction) (rest : ExpressionContext)

inductive ConjunctionContext where
  | one (first : TermContext)
  | andFirst (first : TermContext) (rest : Conjunction)
  | andRest (first : Term) (rest : ConjunctionContext)

inductive TermContext where
  | not (inner : TermContext)
  | operand (only : OperandContext)
  | left (first : OperandContext) (op : Comparator) (right : Operand)
  | right (left : Operand) (op : Comparator) (second : OperandContext)

inductive OperandContext where
  | hole
  | group (negative : Bool) (inner : ExpressionContext)

end

variable (o : Operand)

mutual

def ExpressionContext.fill : ExpressionContext → Expression
  | .one first => .one first.fill
  | .orFirst first rest => .or first.fill rest
  | .orRest first rest => .or first rest.fill

def ConjunctionContext.fill : ConjunctionContext → Conjunction
  | .one first => .one first.fill
  | .andFirst first rest => .and first.fill rest
  | .andRest first rest => .and first rest.fill

def TermContext.fill : TermContext → Term
  | .not inner => .not inner.fill
  | .operand only => .operand only.fill
  | .left first op right => .compare first.fill op right
  | .right left op second => .compare left op second.fill

def OperandContext.fill : OperandContext → Operand
  | .hole => o
  | .group negative inner => .group negative inner.fill

end

end Contexts

section Values

variable {env : Environment} {o other : Operand}

mutual

theorem groupValue_fill (context : ExpressionContext) (same : o.eval env = other.eval env) :
    (context.fill o).groupValue env = (context.fill other).groupValue env := by
  cases context with
  | one first =>
      rw [ExpressionContext.fill, ExpressionContext.fill, groupValue_one, groupValue_one]
      exact value_fill_conjunction first same
  | orFirst first rest =>
      have here : (first.fill o).eval env = (first.fill other).eval env :=
        eval_eq_of_value_conjunction env (value_fill_conjunction first same)
      rw [ExpressionContext.fill, ExpressionContext.fill, groupValue_or, groupValue_or,
        Expression.eval, Expression.eval, here]
  | orRest first rest =>
      have later : (rest.fill o).eval env = (rest.fill other).eval env :=
        eval_eq_of_groupValue env (groupValue_fill rest same)
      rw [ExpressionContext.fill, ExpressionContext.fill, groupValue_or, groupValue_or,
        Expression.eval, Expression.eval, later]

theorem value_fill_conjunction (context : ConjunctionContext)
    (same : o.eval env = other.eval env) :
    (context.fill o).value env = (context.fill other).value env := by
  cases context with
  | one first => exact value_fill_term first same
  | andFirst first rest =>
      have here : (first.fill o).eval env = (first.fill other).eval env :=
        eval_eq_of_value_term env (value_fill_term first same)
      have whole : (Conjunction.and (first.fill o) rest).eval env =
          (Conjunction.and (first.fill other) rest).eval env := by
        rw [Conjunction.eval, Conjunction.eval, here]
      exact congrArg (Except.map truthValue) whole
  | andRest first rest =>
      have later : (rest.fill o).eval env = (rest.fill other).eval env :=
        eval_eq_of_value_conjunction env (value_fill_conjunction rest same)
      have whole : (Conjunction.and first (rest.fill o)).eval env =
          (Conjunction.and first (rest.fill other)).eval env := by
        rw [Conjunction.eval, Conjunction.eval, later]
      exact congrArg (Except.map truthValue) whole

theorem value_fill_term (context : TermContext) (same : o.eval env = other.eval env) :
    (context.fill o).value env = (context.fill other).value env := by
  cases context with
  | not inner =>
      have within : (inner.fill o).eval env = (inner.fill other).eval env :=
        eval_eq_of_value_term env (value_fill_term inner same)
      have whole : (Term.not (inner.fill o)).eval env = (Term.not (inner.fill other)).eval env := by
        rw [Term.eval, Term.eval, within]
      exact congrArg (Except.map truthValue) whole
  | operand only => exact eval_fill_operand only same
  | left first op right =>
      have whole : (Term.compare (first.fill o) op right).eval env =
          (Term.compare (first.fill other) op right).eval env := by
        rw [Term.eval, Term.eval, eval_fill_operand first same]
      exact congrArg (Except.map truthValue) whole
  | right left op second =>
      have whole : (Term.compare left op (second.fill o)).eval env =
          (Term.compare left op (second.fill other)).eval env := by
        rw [Term.eval, Term.eval, eval_fill_operand second same]
      exact congrArg (Except.map truthValue) whole

theorem eval_fill_operand (context : OperandContext) (same : o.eval env = other.eval env) :
    (context.fill o).eval env = (context.fill other).eval env := by
  cases context with
  | hole => exact same
  | group negative inner =>
      rw [OperandContext.fill, OperandContext.fill, Operand.eval, Operand.eval,
        groupValue_fill inner same]

end

/-- A test depends on an operand through its value alone. -/
theorem eval_fill (context : ExpressionContext) (same : o.eval env = other.eval env) :
    (context.fill o).eval env = (context.fill other).eval env :=
  eval_eq_of_groupValue env (groupValue_fill context same)

end Values

section Wrapping

def lone (o : Operand) : Expression :=
  .one (.one (.operand o))

def Operand.wrapped (o : Operand) : Operand :=
  .group false (lone o)

def Operand.isNegative : Operand → Bool
  | .number negative _ => negative
  | .name negative _ => negative
  | .group negative _ => negative

def Operand.unsigned : Operand → Operand
  | .number _ digits => .number false digits
  | .name _ identifier => .name false identifier
  | .group _ inner => .group false inner

/-- Parentheses around what stands behind the sign. -/
def Operand.wrappedInside (o : Operand) : Operand :=
  .group o.isNegative (lone o.unsigned)

variable (env : Environment)

theorem eval_wrapped (o : Operand) : o.wrapped.eval env = o.eval env :=
  eval_group env (lone o)

theorem eval_wrappedInside (o : Operand) : o.wrappedInside.eval env = o.eval env := by
  have inside : o.wrappedInside.eval env =
      (o.unsigned.eval env).bind (signedValue o.isNegative) := by
    rw [Operand.wrappedInside, Operand.eval]
    rfl
  rw [inside]
  cases o with
  | number negative digits =>
      rw [Operand.unsigned, Operand.eval, Operand.eval, bind_signedValue_false]
      rfl
  | name negative identifier =>
      rw [Operand.unsigned, Operand.eval, Operand.eval, bind_signedValue_false]
      rfl
  | group negative inner =>
      rw [Operand.unsigned, eval_group, Operand.eval]
      rfl

theorem eval_lone_group (e : Expression) : (lone (.group false e)).eval env = e.eval env := by
  rw [lone, Expression.eval, Conjunction.eval, Term.eval, eval_group, truth_expression]

/-- A test in parentheses is a test. -/
theorem parse_parenthesized {test : String} {e : Expression} (parsed : parse test = .ok e) :
    parse ("(" ++ test ++ ")") = .ok (lone (.group false e)) := by
  obtain ⟨tokens, scanned, spelled⟩ := spells_of_parse test e parsed
  have inner := (scan_eq_some_iff test tokens).mp scanned
  have close : Splits [')'] [.close] := splits_of_lexeme (some .close) rfl .done
  have behind := splits_append inner close (seam_close test.toList [])
  have whole : Splits ("(" ++ test ++ ")").toList (.open :: (tokens ++ [.close])) := by
    have text : ("(" ++ test ++ ")").toList = '(' :: (test.toList ++ [')']) := by simp
    rw [text]
    exact splits_of_lexeme (some .open) rfl behind
  have group : SpellsOperand (signTokens false ++ (.open :: tokens ++ [.close])) (.group false e) :=
    .group spelled
  exact parse_of_spells whole (.one (.one (.operand group)))

/-- Redundant parentheses never change a test: neither around any of its operands, with the sign
inside them or in front, nor around all of its text. -/
theorem parentheses_redundant (test : String) (e : Expression) (parsed : parse test = .ok e) :
    (∀ (context : ExpressionContext) (o : Operand), e = context.fill o → ∀ env : Environment,
      (context.fill o.wrapped).eval env = e.eval env ∧
      (context.fill o.wrappedInside).eval env = e.eval env) ∧
    ∃ whole, parse ("(" ++ test ++ ")") = .ok whole ∧
      ∀ env : Environment, whole.eval env = e.eval env := by
  constructor
  · rintro context o rfl env
    constructor
    · exact eval_fill context (eval_wrapped env o)
    · exact eval_fill context (eval_wrappedInside env o)
  · exact ⟨_, parse_parenthesized parsed, fun env => eval_lone_group env e⟩

/-- A comparison under a negation, left open where its signed side stands. -/
def orderContext : ExpressionContext :=
  .one (.one (.not (.operand (.group false
    (.one (.one (.left .hole .less (.name false "b"))))))))

def order : Expression :=
  orderContext.fill (.name true "a")

theorem parse_order : parse "!(-a < b)" = .ok order :=
  parse_of_tokens (by decide +kernel)
    (show scan "!(-a < b)" = some [.not, .open, .minus, .word "a", .comparator .less, .word "b",
      .close] by decide +kernel) rfl

/-- `!((-a) < b)`, `!(-(a) < b)` and `(!(-a < b))` where `-a` is below `b`. -/
theorem order_parentheses :
    parse "!(-a < b)" = .ok order ∧
      (orderContext.fill (Operand.name true "a").wrapped).eval (fun _ => some (.int 7)) =
        .ok false ∧
      (orderContext.fill (Operand.name true "a").wrappedInside).eval (fun _ => some (.int 7)) =
        .ok false ∧
      ∃ whole, parse ("(" ++ "!(-a < b)" ++ ")") = .ok whole ∧
        whole.eval (fun _ => some (.int 7)) = .ok false := by
  obtain ⟨operands, whole, parsed, meaning⟩ :=
    parentheses_redundant "!(-a < b)" order parse_order
  obtain ⟨outside, inside⟩ :=
    operands orderContext (.name true "a") rfl fun _ => some (.int 7)
  refine ⟨parse_order, outside.trans rfl, inside.trans rfl, whole, parsed, ?_⟩
  rw [meaning]
  rfl

end Wrapping

end SqlMapper.Predicate
