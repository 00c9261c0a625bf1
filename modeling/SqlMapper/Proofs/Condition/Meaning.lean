import SqlMapper.Predicate.Condition
import SqlMapper.Proofs.Condition.Lexing
import SqlMapper.Proofs.Predicate.Evaluation

/-!
A test and the C condition that it is spelled as have the same meaning. The condition has the
tokens of the test, with parentheses under a negation; C reads them as one tree, in which chains
group to the left; and the tree has the value of the test, whatever the names stand for.
-/

namespace SqlMapper.Predicate

open Condition (Operator Tree Reads lex Ends Solid)

section Reading

def minusTokens (negative : Bool) : List Condition.Token :=
  if negative then [.minus] else []

def signedTree (negative : Bool) (operand : Tree) : Tree :=
  if negative then .minus operand else operand

mutual

def Expression.tokens (isField : String → Bool) : Expression → List Condition.Token
  | .one first => first.tokens isField
  | .or first rest => first.tokens isField ++ .binary .or :: rest.tokens isField

def Conjunction.tokens (isField : String → Bool) : Conjunction → List Condition.Token
  | .one first => first.tokens isField
  | .and first rest => first.tokens isField ++ .binary .and :: rest.tokens isField

def Term.tokens (isField : String → Bool) : Term → List Condition.Token
  | .not inner =>
      if inner.isBare then .not :: inner.tokens isField
      else .not :: (.open :: inner.tokens isField ++ [.close])
  | .operand left => left.tokens isField
  | .compare left op right =>
      left.tokens isField ++ .binary (.compare op) :: right.tokens isField

def Operand.tokens (isField : String → Bool) : Operand → List Condition.Token
  | .number negative digits => minusTokens negative ++ [.number digits]
  | .name negative identifier =>
      minusTokens negative ++
        (if isField identifier then [.identifier "n", .arrow, .identifier identifier]
          else [.identifier identifier])
  | .group negative inner =>
      minusTokens negative ++ (.open :: inner.tokens isField ++ [.close])

end

mutual

def Expression.tree (isField : String → Bool) : Expression → Tree
  | .one first => first.tree isField
  | .or first rest => rest.treeAfter isField (first.tree isField)

/-- The tree of a chain that goes on behind what is read already. -/
def Expression.treeAfter (isField : String → Bool) : Expression → Tree → Tree
  | .one first, left => .binary .or left (first.tree isField)
  | .or first rest, left => rest.treeAfter isField (.binary .or left (first.tree isField))

def Conjunction.tree (isField : String → Bool) : Conjunction → Tree
  | .one first => first.tree isField
  | .and first rest => rest.treeAfter isField (first.tree isField)

def Conjunction.treeAfter (isField : String → Bool) : Conjunction → Tree → Tree
  | .one first, left => .binary .and left (first.tree isField)
  | .and first rest, left => rest.treeAfter isField (.binary .and left (first.tree isField))

def Term.tree (isField : String → Bool) : Term → Tree
  | .not inner => .not (inner.tree isField)
  | .operand left => left.tree isField
  | .compare left op right => .binary (.compare op) (left.tree isField) (right.tree isField)

def Operand.tree (isField : String → Bool) : Operand → Tree
  | .number negative digits => signedTree negative (.number digits)
  | .name negative identifier =>
      signedTree negative
        (if isField identifier then .member (.name "n") identifier else .name identifier)
  | .group negative inner => signedTree negative (inner.tree isField)

end

variable (isField : String → Bool)

theorem reads_signed (negative : Bool) (tokens : List Condition.Token) (tree : Tree)
    (reads : Reads 7 tokens tree) :
    Reads 6 (minusTokens negative ++ tokens) (signedTree negative tree) := by
  cases negative with
  | false => exact reads.weaken
  | true => exact .minus reads.weaken

theorem reads_name (identifier : String) :
    Reads 7
      (if isField identifier then [.identifier "n", .arrow, .identifier identifier]
        else [.identifier identifier])
      (if isField identifier then .member (.name "n") identifier else .name identifier) := by
  split
  · exact .member .name
  · exact .name

theorem reads_or {tokens more : List Condition.Token} {left right : Tree}
    (first : Reads 1 tokens left) (second : Reads 2 more right) :
    Reads 1 (tokens ++ .binary .or :: more) (.binary .or left right) := by
  have whole : Reads Operator.or.strength _ _ := .binary first second
  exact whole

theorem reads_and {tokens more : List Condition.Token} {left right : Tree}
    (first : Reads 2 tokens left) (second : Reads 3 more right) :
    Reads 2 (tokens ++ .binary .and :: more) (.binary .and left right) := by
  have whole : Reads Operator.and.strength _ _ := .binary first second
  exact whole

theorem strength_compare (op : Comparator) :
    3 ≤ (Operator.compare op).strength ∧ (Operator.compare op).strength + 1 ≤ 6 := by
  cases op <;> decide

mutual

theorem reads_expression (e : Expression) : Reads 1 (e.tokens isField) (e.tree isField) := by
  cases e with
  | one first => exact (reads_conjunction first).weaken
  | or first rest =>
      exact reads_expression_after rest _ _ (reads_conjunction first).weaken

theorem reads_expression_after (e : Expression) (tokens : List Condition.Token) (left : Tree)
    (reads : Reads 1 tokens left) :
    Reads 1 (tokens ++ .binary .or :: e.tokens isField) (e.treeAfter isField left) := by
  cases e with
  | one first => exact reads_or reads (reads_conjunction first)
  | or first rest =>
      -- The first part joins what is read already before the rest does.
      have joined : Reads 1 (tokens ++ .binary .or :: first.tokens isField) _ :=
        reads_or reads (reads_conjunction first)
      have whole := reads_expression_after rest _ _ joined
      rwa [List.append_assoc] at whole

theorem reads_conjunction (c : Conjunction) : Reads 2 (c.tokens isField) (c.tree isField) := by
  cases c with
  | one first => exact (reads_term first).1.weaken
  | and first rest => exact reads_conjunction_after rest _ _ (reads_term first).1.weaken

theorem reads_conjunction_after (c : Conjunction) (tokens : List Condition.Token) (left : Tree)
    (reads : Reads 2 tokens left) :
    Reads 2 (tokens ++ .binary .and :: c.tokens isField) (c.treeAfter isField left) := by
  cases c with
  | one first => exact reads_and reads (reads_term first).1
  | and first rest =>
      have joined : Reads 2 (tokens ++ .binary .and :: first.tokens isField) _ :=
        reads_and reads (reads_term first).1
      have whole := reads_conjunction_after rest _ _ joined
      rwa [List.append_assoc] at whole

/-- A term that needs no parentheses under a negation can stand there. -/
theorem reads_term (t : Term) :
    Reads 3 (t.tokens isField) (t.tree isField) ∧
      (t.isBare = true → Reads 6 (t.tokens isField) (t.tree isField)) := by
  cases t with
  | not inner =>
      obtain ⟨weak, bare⟩ := reads_term inner
      have strong : Reads 6 ((Term.not inner).tokens isField) ((Term.not inner).tree isField) := by
        rw [Term.tokens, Term.tree]
        split
        · next isBare => exact .not (bare isBare)
        -- In C the negation binds tighter than a comparison, so the parentheses are needed.
        · have group := Reads.group (Condition.reads_of_le weak (by decide))
          exact .not group.weaken
      exact ⟨Condition.reads_of_le strong (by decide), fun _ => strong⟩
  | operand left =>
      have reads := reads_operand left
      exact ⟨Condition.reads_of_le reads (by decide), fun _ => reads⟩
  | compare left op right =>
      have strengths := strength_compare op
      have first := Condition.reads_of_le (reads_operand left) (Nat.le_of_succ_le strengths.2)
      have second := Condition.reads_of_le (reads_operand right) strengths.2
      refine ⟨Condition.reads_of_le (.binary first second) strengths.1, fun bare => ?_⟩
      cases bare

theorem reads_operand (o : Operand) : Reads 6 (o.tokens isField) (o.tree isField) := by
  cases o with
  | number negative digits => exact reads_signed negative _ _ .number
  | name negative identifier => exact reads_signed negative _ _ (reads_name isField identifier)
  | group negative inner => exact reads_signed negative _ _ (.group (reads_expression inner))

end

end Reading

section Meaning

variable (isField : String → Bool) (env : Environment)

/-- A chain means the same however it is grouped. -/
theorem join_assoc (op : Operator) (chained : op = .or ∨ op = .and)
    (first second third : Except EvalError Value) :
    op.join (op.join first second) third = op.join first (op.join second third) := by
  cases first with
  | error cause => rcases chained with rfl | rfl <;> rfl
  | ok a =>
      cases second with
      | error cause =>
          rcases chained with rfl | rfl <;> by_cases holds : a.truth = true <;>
            simp [Operator.join, Except.bind, Except.map, holds, truth_truthValue]
      | ok b =>
          rcases chained with rfl | rfl <;> by_cases holds : a.truth = true <;>
            by_cases other : b.truth = true <;> cases third <;>
              simp [Operator.join, Except.bind, Except.map, holds, other, truth_truthValue]

theorem value_and (first : Term) (rest : Conjunction) :
    (Conjunction.and first rest).value env =
      Operator.and.join (first.value env) (rest.value env) := by
  rw [Conjunction.value, Conjunction.eval, ← truth_term, ← truth_conjunction]
  · cases first.value env with
    | error cause => rfl
    | ok a =>
        by_cases holds : a.truth = true
        · cases rest.value env <;> simp [Operator.join, Except.bind, Except.map, holds]
        · simp [Operator.join, Except.bind, Except.map, holds]
  · intro term same
    cases same

theorem groupValue_or_join (first : Conjunction) (rest : Expression) :
    (Expression.or first rest).groupValue env =
      Operator.or.join (first.value env) (rest.groupValue env) := by
  rw [groupValue_or, Expression.eval, ← truth_conjunction, ← truth_expression]
  cases first.value env with
  | error cause => rfl
  | ok a =>
      by_cases holds : a.truth = true
      · simp [Operator.join, Except.bind, Except.map, holds]
      · cases rest.groupValue env <;> simp [Operator.join, Except.bind, Except.map, holds]

theorem eval_signedTree (negative : Bool) (tree : Tree) :
    (signedTree negative tree).eval env = (tree.eval env).bind (signedValue negative) := by
  cases negative with
  | false => cases evaluated : tree.eval env <;> simp [signedTree, evaluated, Except.bind, signedValue]
  | true => rfl

mutual

theorem eval_expression (e : Expression) : (e.tree isField).eval env = e.groupValue env := by
  cases e with
  | one first => rw [Expression.tree, groupValue_one, eval_conjunction first]
  | or first rest =>
      rw [Expression.tree, eval_expression_after rest, eval_conjunction first, groupValue_or_join]

theorem eval_expression_after (e : Expression) (left : Tree) :
    (e.treeAfter isField left).eval env =
      Operator.or.join (left.eval env) (e.groupValue env) := by
  cases e with
  | one first => rw [Expression.treeAfter, Tree.eval, groupValue_one, eval_conjunction first]
  | or first rest =>
      rw [Expression.treeAfter, eval_expression_after rest, Tree.eval, eval_conjunction first,
        groupValue_or_join, join_assoc .or (.inl rfl)]

theorem eval_conjunction (c : Conjunction) : (c.tree isField).eval env = c.value env := by
  cases c with
  | one first => rw [Conjunction.tree, Conjunction.value, eval_term first]
  | and first rest =>
      rw [Conjunction.tree, eval_conjunction_after rest, eval_term first, value_and]

theorem eval_conjunction_after (c : Conjunction) (left : Tree) :
    (c.treeAfter isField left).eval env = Operator.and.join (left.eval env) (c.value env) := by
  cases c with
  | one first => rw [Conjunction.treeAfter, Tree.eval, Conjunction.value, eval_term first]
  | and first rest =>
      rw [Conjunction.treeAfter, eval_conjunction_after rest, Tree.eval, eval_term first,
        value_and, join_assoc .and (.inr rfl)]

theorem eval_term (t : Term) : (t.tree isField).eval env = t.value env := by
  cases t with
  | not inner =>
      rw [Term.tree, Tree.eval, eval_term inner]
      change _ = (((inner.eval env).map Bool.not).map truthValue)
      rw [← truth_term]
      cases inner.value env <;> rfl
  | operand left => rw [Term.tree, Term.value, eval_operand left]
  | compare left op right =>
      rw [Term.tree, Tree.eval, eval_operand left, eval_operand right]
      change _ = (((Term.compare left op right).eval env).map truthValue)
      rw [Term.eval]
      cases left.eval env with
      | error cause => rfl
      | ok a => cases right.eval env <;> rfl

theorem eval_operand (o : Operand) : (o.tree isField).eval env = o.eval env := by
  cases o with
  | number negative digits => rw [Operand.tree, eval_signedTree, Operand.eval, Tree.eval]
  | name negative identifier =>
      rw [Operand.tree, eval_signedTree, Operand.eval]
      by_cases field : isField identifier = true
      · simp [field, Tree.eval]
      · simp [field, Tree.eval]
  | group negative inner =>
      -- A group keeps the plain value of a lone operand, as parentheses do in C.
      rw [Operand.tree, eval_signedTree, Operand.eval, eval_expression inner]

end

end Meaning

section Lexing

variable (isField : String → Bool)

/-- A text has the given tokens, whatever follows that no token can take in. -/
def Lexes (text : String) (tokens : List Condition.Token) : Prop :=
  ∀ rest, Ends rest → lex (text.toList ++ rest) = (lex rest).map (tokens ++ ·)

theorem ends_blank (rest : List Char) : Ends (' ' :: rest) := by
  intro c member
  cases member
  decide

theorem ends_close (rest : List Char) : Ends (')' :: rest) := by
  intro c member
  cases member
  decide

theorem lexes_operator {left right : String} {first second : List Condition.Token} (op : Operator)
    (here : Lexes left first) (later : Lexes right second) :
    Lexes (left ++ " " ++ op.symbol ++ " " ++ right) (first ++ .binary op :: second) := by
  intro rest ends
  have spelled : (left ++ " " ++ op.symbol ++ " " ++ right).toList ++ rest
      = left.toList ++ ' ' :: (op.symbol.toList ++ ' ' :: (right.toList ++ rest)) := by
    simp [String.toList_append]
  rw [spelled, here _ (ends_blank _), Condition.lex_blank, Condition.lex_operator, later rest ends,
    Option.map_map, Option.map_map]
  cases lex rest <;> simp

theorem lexes_group {text : String} {tokens : List Condition.Token} (inner : Lexes text tokens) :
    Lexes ("(" ++ text ++ ")") (.open :: tokens ++ [.close]) := by
  intro rest ends
  have spelled : ("(" ++ text ++ ")").toList ++ rest = '(' :: (text.toList ++ ')' :: rest) := by
    simp [String.toList_append]
  rw [spelled, Condition.lex_open, inner _ (ends_close rest), Condition.lex_close, Option.map_map,
    Option.map_map]
  cases lex rest <;> simp

theorem lexes_not {text : String} {tokens : List Condition.Token}
    (solid : ∀ rest, Solid (text.toList ++ rest)) (inner : Lexes text tokens) :
    Lexes ("!" ++ text) (.not :: tokens) := by
  intro rest ends
  have spelled : ("!" ++ text).toList ++ rest = '!' :: (text.toList ++ rest) := by
    simp [String.toList_append]
  rw [spelled, Condition.lex_not _ (solid rest), inner rest ends, Option.map_map]
  rfl

theorem lexes_signed {text : String} {tokens : List Condition.Token} (negative : Bool)
    (solid : ∀ rest, Solid (text.toList ++ rest)) (inner : Lexes text tokens) :
    Lexes (minusSign negative ++ text) (minusTokens negative ++ tokens) := by
  intro rest ends
  cases negative with
  | false => simpa [minusSign, minusTokens] using inner rest ends
  | true =>
      have spelled : (minusSign true ++ text).toList ++ rest = '-' :: (text.toList ++ rest) := by
        simp [minusSign, String.toList_append]
      rw [spelled, Condition.lex_minus _ (solid rest), inner rest ends, Option.map_map]
      rfl

theorem lexes_number (digits : String) (formed : IsNumber digits.toList) :
    Lexes digits [.number digits] := by
  intro rest ends
  exact Condition.lex_number digits rest formed ends

theorem lexes_identifier (identifier : String) (formed : C.isIdentifier identifier = true) :
    Lexes identifier [.identifier identifier] := by
  intro rest ends
  refine Condition.lex_identifier identifier rest formed ?_
  intro c member
  have part := (ends c member).1
  simp only [Condition.isNumberPart, Bool.or_eq_false_iff] at part
  exact part.1

theorem lexes_name (identifier : String) (formed : C.isIdentifier identifier = true) :
    Lexes ((if isField identifier then "n->" else "") ++ identifier)
      (if isField identifier then [.identifier "n", .arrow, .identifier identifier]
        else [.identifier identifier]) := by
  split
  · intro rest ends
    have spelled : ("n->" ++ identifier).toList ++ rest
        = "n".toList ++ '-' :: '>' :: (identifier.toList ++ rest) := by
      simp [String.toList_append]
    rw [spelled, Condition.lex_identifier "n" _ rfl (by simp; decide), Condition.lex_arrow,
      lexes_identifier identifier formed rest ends, Option.map_map, Option.map_map]
    cases lex rest <;> simp
  · rw [String.empty_append]
    exact lexes_identifier identifier formed

theorem solid_number (digits : String) (formed : IsNumber digits.toList) (rest : List Char) :
    Solid (digits.toList ++ rest) := by
  obtain ⟨whole, part, power, isWhole, _, _, spelled⟩ := formed
  obtain ⟨first, more, rfl⟩ := List.exists_cons_of_ne_nil isWhole.1
  have digit := isWhole.2 first List.mem_cons_self
  refine ⟨first, more ++ part ++ power ++ rest, by simp [spelled], .inl ?_⟩
  simp [C.isIdentifierTail, digit]

theorem solid_identifier (identifier : String) (formed : C.isIdentifier identifier = true)
    (rest : List Char) : Solid (identifier.toList ++ rest) := by
  unfold C.isIdentifier at formed
  split at formed
  · cases formed
  · next first more spelled =>
      simp only [Bool.and_eq_true] at formed
      refine ⟨first, more ++ rest, by simp [spelled], .inl ?_⟩
      simp [C.isIdentifierTail, formed.1]

theorem solid_name (identifier : String) (formed : C.isIdentifier identifier = true)
    (rest : List Char) :
    Solid (((if isField identifier then "n->" else "") ++ identifier).toList ++ rest) := by
  split
  · exact ⟨'n', _, by simp [String.toList_append]; rfl, .inl rfl⟩
  · rw [String.empty_append]
    exact solid_identifier identifier formed rest

theorem solid_group (text : String) (rest : List Char) :
    Solid (("(" ++ text ++ ")").toList ++ rest) :=
  ⟨'(', _, by simp [String.toList_append]; rfl, .inr (.inl rfl)⟩

/-- An operand without a sign starts with a character that no sign can take in. -/
theorem solid_operand (o : Operand) (formed : o.Formed)
    (bare : (Term.operand o).isBare = true) (rest : List Char) :
    Solid ((o.render isField).toList ++ rest) := by
  cases o with
  | number negative digits =>
      cases negative with
      | false => simpa [Operand.render, minusSign] using solid_number digits formed rest
      | true => cases bare
  | name negative identifier =>
      cases negative with
      | false => simpa [Operand.render, minusSign] using solid_name isField identifier formed rest
      | true => cases bare
  | group negative inner =>
      cases negative with
      | false => simpa [Operand.render, minusSign] using solid_group (inner.render isField) rest
      | true => cases bare

theorem solid_bare (t : Term) (formed : t.Formed) (bare : t.isBare = true) (rest : List Char) :
    Solid ((t.render isField).toList ++ rest) := by
  cases t with
  | not inner =>
      rw [Term.render]
      split
      · exact ⟨'!', _, by simp [String.toList_append]; rfl, .inr (.inr rfl)⟩
      · exact ⟨'!', _, by simp [String.toList_append]; rfl, .inr (.inr rfl)⟩
  | operand left => exact solid_operand isField left formed bare rest
  | compare left op right => cases bare

mutual

theorem lexes_expression (e : Expression) (formed : e.Formed) :
    Lexes (e.render isField) (e.tokens isField) := by
  cases e with
  | one first => exact lexes_conjunction first formed
  | or first rest =>
      have joined := lexes_operator .or (lexes_conjunction first formed.1)
        (lexes_expression rest formed.2)
      simpa [Expression.render, Expression.tokens, Operator.symbol, String.append_assoc] using joined

theorem lexes_conjunction (c : Conjunction) (formed : c.Formed) :
    Lexes (c.render isField) (c.tokens isField) := by
  cases c with
  | one first => exact lexes_term first formed
  | and first rest =>
      have joined := lexes_operator .and (lexes_term first formed.1)
        (lexes_conjunction rest formed.2)
      simpa [Conjunction.render, Conjunction.tokens, Operator.symbol, String.append_assoc]
        using joined

theorem lexes_term (t : Term) (formed : t.Formed) :
    Lexes (t.render isField) (t.tokens isField) := by
  cases t with
  | not inner =>
      have within := lexes_term inner formed
      rw [Term.render, Term.tokens]
      split
      · next bare => exact lexes_not (solid_bare isField inner formed bare) within
      · have whole := lexes_not (solid_group (inner.render isField)) (lexes_group within)
        have spelled : "!(" ++ inner.render isField ++ ")"
            = "!" ++ ("(" ++ inner.render isField ++ ")") := by
          rw [← String.append_assoc, ← String.append_assoc]
          rfl
        rwa [spelled]
  | operand left => exact lexes_operand left formed
  | compare left op right =>
      exact lexes_operator (.compare op) (lexes_operand left formed.1)
        (lexes_operand right formed.2)

theorem lexes_operand (o : Operand) (formed : o.Formed) :
    Lexes (o.render isField) (o.tokens isField) := by
  cases o with
  | number negative digits =>
      exact lexes_signed negative (solid_number digits formed) (lexes_number digits formed)
  | name negative identifier =>
      have whole := lexes_signed negative (solid_name isField identifier formed)
        (lexes_name isField identifier formed)
      rwa [← String.append_assoc] at whole
  | group negative inner =>
      have within := lexes_expression inner formed
      have whole := lexes_signed negative (solid_group (inner.render isField)) (lexes_group within)
      simpa [Operand.render, Operand.tokens, String.append_assoc] using whole

end

/-- The condition of a test has exactly one reading in C, and it has the truth of the test for all
that the names can stand for. -/
theorem condition_truth_eq_eval (test : String) (e : Expression) (parsed : parse test = .ok e)
    (isField : String → Bool) :
    ∃ tokens tree, lex (e.render isField).toList = some tokens ∧ Reads 1 tokens tree ∧
      (∀ other, Reads 1 tokens other → other = tree) ∧
      ∀ env : Environment, (tree.eval env).map Value.truth = e.eval env := by
  have reads := reads_expression isField e
  refine ⟨e.tokens isField, e.tree isField, ?_, reads, ?_, ?_⟩
  · have lexed := lexes_expression isField e (formed_of_parse test e parsed) [] (by simp [Ends])
    simpa [lex] using lexed
  · intro other again
    exact Condition.reads_unique reads again
  · intro env
    rw [eval_expression, truth_expression]

/-- A negated comparison, joined by a word to a plain name. -/
def negatedOrder : Expression :=
  .or (.one (.not (.operand (.group false
      (.one (.one (.compare (.name false "a") .less (.number true "2"))))))))
    (.one (.one (.operand (.name false "b"))))

theorem parse_negatedOrder : parse "!(a < -2) or b" = .ok negatedOrder := by
  have shown : "!(a < -2) or b".toList.all Text.isUnicodeBlank = false := by decide +kernel
  have scanned : scan "!(a < -2) or b" = some [.not, .open, .word "a", .comparator .less, .minus,
      .number "2", .close, .word "or", .word "b"] := by decide +kernel
  have found : Expression.ofTokens? [.not, .open, .word "a", .comparator .less, .minus,
      .number "2", .close, .word "or", .word "b"] = some negatedOrder := rfl
  simp only [parse, shown, scanned, Option.bind_some, found]
  rfl

theorem negatedOrder_condition_truth :
    parse "!(a < -2) or b" = .ok negatedOrder ∧
      negatedOrder.render (fun _ => true) = "!(n->a < -2) || n->b" ∧
      ∃ tokens tree, lex (negatedOrder.render fun _ => true).toList = some tokens ∧
        Reads 1 tokens tree ∧
        (tree.eval fun name => if name = "a" then some (.int 7) else none).map Value.truth
          = .ok true := by
  obtain ⟨tokens, tree, lexed, reads, _, meaning⟩ :=
    condition_truth_eq_eval "!(a < -2) or b" negatedOrder parse_negatedOrder fun _ => true
  refine ⟨parse_negatedOrder, by decide +kernel, tokens, tree, lexed, reads, ?_⟩
  rw [meaning]
  rfl

end Lexing

end SqlMapper.Predicate
