import SqlMapper.Predicate.Condition
import SqlMapper.Proofs.Outcome
import SqlMapper.Proofs.Placeholder.Scan
import SqlMapper.Proofs.Predicate.Evaluation
import SqlMapper.Sql.Rendering

/-!
Bound values stay out of the text. A test sees the numbers of a record, but of a text only whether
it is there; nothing else of a record can change the text of a statement, its prepared form, or
which field stands at which position.
-/

namespace SqlMapper

section Tests

namespace Predicate

/-- What a test sees of a value: all texts that are there look the same. -/
def mask : Value → Value
  | .text (some _) => .text (some "")
  | value => value

/-- Two outcomes that no test can tell apart. -/
def Masked (first second : Except EvalError Value) : Prop :=
  first.map mask = second.map mask

theorem truth_mask (value : Value) : (mask value).truth = value.truth := by
  unfold mask
  split <;> rfl

theorem map_truth_of_masked {first second : Except EvalError Value}
    (masked : Masked first second) : first.map Value.truth = second.map Value.truth := by
  have seen (outcome : Except EvalError Value) :
      (outcome.map mask).map Value.truth = outcome.map Value.truth := by
    cases outcome with
    | error cause => rfl
    | ok value => simp [Except.map, truth_mask]
  rw [← seen first, ← seen second, masked]

theorem apply_mask (op : Comparator) (left right : Value) :
    op.apply (mask left) (mask right) = op.apply left right := by
  cases left with
  | text a =>
      cases right with
      | text b => cases a <;> cases b <;> cases op <;> rfl
      | _ => cases a <;> rfl
  | _ =>
      cases right with
      | text b => cases b <;> rfl
      | _ => rfl

theorem masked_signedValue (negative : Bool) (value : Value) :
    Masked (signedValue negative (mask value)) (signedValue negative value) := by
  unfold Masked
  cases negative with
  | false => cases value with
    | text content => cases content <;> rfl
    | _ => rfl
  | true => cases value with
    | text content => cases content <;> rfl
    | _ => rfl

theorem masked_bind_signedValue (negative : Bool) {first second : Except EvalError Value}
    (masked : Masked first second) :
    Masked (first.bind (signedValue negative)) (second.bind (signedValue negative)) := by
  have seen (outcome : Except EvalError Value) :
      Masked ((outcome.map mask).bind (signedValue negative))
        (outcome.bind (signedValue negative)) := by
    cases outcome with
    | error cause => rfl
    | ok value => exact masked_signedValue negative value
  have through := seen first
  rw [masked] at through
  exact through.symm.trans (seen second)

theorem eval_compare (env : Environment) (left right : Operand) (op : Comparator) :
    (Term.compare left op right).eval env =
      (left.eval env).bind fun a => (right.eval env).bind fun b => op.apply a b := by
  rw [Term.eval]
  cases left.eval env with
  | error cause => rfl
  | ok a => cases right.eval env <;> rfl

theorem bind_apply_of_masked (op : Comparator) {first second left right : Except EvalError Value}
    (here : Masked first left) (there : Masked second right) :
    (first.bind fun a => second.bind fun b => op.apply a b) =
      left.bind fun a => right.bind fun b => op.apply a b := by
  have seen (a b : Except EvalError Value) :
      (((a.map mask).bind fun a => (b.map mask).bind fun b => op.apply a b)) =
        a.bind fun a => b.bind fun b => op.apply a b := by
    cases a with
    | error cause => rfl
    | ok a =>
        cases b with
        | error cause => rfl
        | ok b => exact apply_mask op a b
  rw [← seen first second, ← seen left right, here, there]

theorem masked_of_truth {first second : Except EvalError Bool} (same : first = second) :
    Masked (first.map truthValue) (second.map truthValue) := by
  rw [same]
  rfl

/-- Two values of a name that are the same, or two texts. -/
def Alike (first second : Option Value) : Prop :=
  first = second ∨ ∃ a b, first = some (.text (some a)) ∧ second = some (.text (some b))

variable {env other : Environment}

theorem masked_nameValue (name : String) (alike : Alike (env name) (other name)) :
    Masked (nameValue env name) (nameValue other name) := by
  rcases alike with same | ⟨a, b, here, there⟩
  · rw [nameValue, nameValue, same]
    rfl
  · rw [nameValue, nameValue, here, there]
    rfl

mutual

theorem masked_expression (e : Expression)
    (alike : ∀ name ∈ e.names, Alike (env name) (other name)) :
    Masked (e.groupValue env) (e.groupValue other) := by
  cases e with
  | one first =>
      rw [groupValue_one, groupValue_one]
      exact masked_conjunction first alike
  | or first rest =>
      -- Only the truth of the parts goes into a chain, and masked values have the same truth.
      have here := map_truth_of_masked (masked_conjunction first fun name member =>
        alike name (List.mem_append_left _ member))
      have later := map_truth_of_masked (masked_expression rest fun name member =>
        alike name (List.mem_append_right _ member))
      rw [truth_conjunction, truth_conjunction] at here
      rw [truth_expression, truth_expression] at later
      rw [groupValue_or, groupValue_or]
      apply masked_of_truth
      rw [Expression.eval, Expression.eval, here, later]

theorem masked_conjunction (c : Conjunction)
    (alike : ∀ name ∈ c.names, Alike (env name) (other name)) :
    Masked (c.value env) (c.value other) := by
  cases c with
  | one first => exact masked_term first alike
  | and first rest =>
      have here := map_truth_of_masked (masked_term first fun name member =>
        alike name (List.mem_append_left _ member))
      have later := map_truth_of_masked (masked_conjunction rest fun name member =>
        alike name (List.mem_append_right _ member))
      rw [truth_term, truth_term] at here
      rw [truth_conjunction, truth_conjunction] at later
      have same : (Conjunction.and first rest).eval env = (Conjunction.and first rest).eval other := by
        rw [Conjunction.eval, Conjunction.eval, here, later]
      exact masked_of_truth same

theorem masked_term (t : Term) (alike : ∀ name ∈ t.names, Alike (env name) (other name)) :
    Masked (t.value env) (t.value other) := by
  cases t with
  | not inner =>
      have within := map_truth_of_masked (masked_term inner alike)
      rw [truth_term, truth_term] at within
      have same : (Term.not inner).eval env = (Term.not inner).eval other := by
        rw [Term.eval, Term.eval, within]
      exact masked_of_truth same
  | operand left => exact masked_operand left alike
  | compare left op right =>
      have here := masked_operand left fun name member =>
        alike name (List.mem_append_left _ member)
      have there := masked_operand right fun name member =>
        alike name (List.mem_append_right _ member)
      have same : (Term.compare left op right).eval env = (Term.compare left op right).eval other := by
        rw [eval_compare, eval_compare, bind_apply_of_masked op here there]
      exact masked_of_truth same

theorem masked_operand (o : Operand) (alike : ∀ name ∈ o.names, Alike (env name) (other name)) :
    Masked (o.eval env) (o.eval other) := by
  cases o with
  | number negative digits => exact rfl
  | name negative identifier =>
      exact masked_bind_signedValue negative
        (masked_nameValue identifier (alike identifier (List.mem_singleton.mpr rfl)))
  | group negative inner => exact masked_bind_signedValue negative (masked_expression inner alike)

end

/-- A test that sees no difference between two records has the same outcome on both. -/
theorem eval_eq_of_alike (e : Expression)
    (alike : ∀ name ∈ e.names, Alike (env name) (other name)) : e.eval env = e.eval other := by
  rw [← truth_expression env, ← truth_expression other]
  exact map_truth_of_masked (masked_expression e alike)

theorem mem_insertSorted (text name : String) (sorted : List String) :
    name ∈ Text.insertSorted text sorted ↔ name = text ∨ name ∈ sorted := by
  induction sorted with
  | nil => simp [Text.insertSorted]
  | cons first rest ih =>
      rw [Text.insertSorted]
      split
      · next same =>
          rw [beq_iff_eq.mp same]
          simp
      · split
        · simp
        · rw [List.mem_cons, ih, List.mem_cons]
          exact or_left_comm

/-- The identifiers of a test are all the names that it can look up. -/
theorem mem_identifiers (e : Expression) (name : String) :
    name ∈ e.identifiers ↔ name ∈ e.names := by
  unfold Expression.identifiers
  induction e.names with
  | nil => simp [Text.sortedDistinct]
  | cons first rest ih => rw [Text.sortedDistinct, mem_insertSorted, ih, List.mem_cons]

end Predicate

end Tests

namespace Sql

open Outcome
open Predicate (Alike)

mutual

def bodyTests : List Node → List String
  | [] => []
  | node :: rest => nodeTests node ++ bodyTests rest

def nodeTests : Node → List String
  | .text _ => []
  | .fragment _ => []
  | .conditional test body => test :: bodyTests body
  | .trim _ body => bodyTests body

end

/-- Two records that the tests of a body cannot tell apart: under every name that one of them looks
up they have the same value, or two texts. -/
def Indistinct (body : List Node) (first second : Record) : Prop :=
  ∀ test ∈ bodyTests body, ∀ e, Predicate.parse test = .ok e →
    ∀ name ∈ e.identifiers, Alike (first.get? name) (second.get? name)

section Rendering

variable (m : Mapper) (statement : Statement) (first second : Record)

theorem testHolds_eq (test : String)
    (alike : ∀ e, Predicate.parse test = .ok e →
      ∀ name ∈ e.identifiers, Alike (first.get? name) (second.get? name)) :
    testHolds statement first test = testHolds statement second test := by
  unfold testHolds
  split
  · rfl
  · next e parsed =>
      rw [Predicate.eval_eq_of_alike e fun name member =>
        alike e parsed name ((Predicate.mem_identifiers e name).mpr member)]

mutual

theorem renderBody_eq (body : List Node) (indistinct : Indistinct body first second) :
    renderBody m statement first body = renderBody m statement second body := by
  cases body with
  | nil => rw [renderBody, renderBody]
  | cons node rest =>
      have here := renderNode_eq node fun test member =>
        indistinct test (List.mem_append_left _ member)
      have later := renderBody_eq rest fun test member =>
        indistinct test (List.mem_append_right _ member)
      rw [renderBody, renderBody, here, later]

theorem renderNode_eq (node : Node)
    (indistinct : ∀ test ∈ nodeTests node, ∀ e, Predicate.parse test = .ok e →
      ∀ name ∈ e.identifiers, Alike (first.get? name) (second.get? name)) :
    renderNode m statement first node = renderNode m statement second node := by
  cases node with
  | text value => rw [renderNode, renderNode]
  | fragment reference => rw [renderNode, renderNode]
  | conditional test body =>
      have decided := testHolds_eq statement first second test
        (indistinct test List.mem_cons_self)
      have within := renderBody_eq body fun other member =>
        indistinct other (List.mem_cons_of_mem test member)
      rw [renderNode, renderNode, decided, within]
  | trim rule body =>
      have within := renderBody_eq body indistinct
      rw [renderNode, renderNode, within]

end

theorem render_eq (indistinct : Indistinct statement.body first second) :
    render m statement first = render m statement second := by
  rw [render, render, renderBody_eq m statement first second statement.body indistinct]

end Rendering

section Preparing

/-- The position and the field of a binding, without its value. -/
def Binding.place (b : Binding) : Nat × Field :=
  (b.position, b.field)

/-- A prepared text with the places of its bindings. -/
def Prepared.places (p : Prepared) : List Char × List (Nat × Field) :=
  (p.text, p.bindings.map Binding.place)

theorem map_places_congr {here there : Except String Prepared} {before after : Prepared → Prepared}
    (same : ∀ a b, a.places = b.places → (before a).places = (after b).places)
    (alike : here.map Prepared.places = there.map Prepared.places) :
    (here.map before).map Prepared.places = (there.map after).map Prepared.places := by
  rcases map_eq_map_cases alike with ⟨name, rfl, rfl⟩ | ⟨a, b, rfl, rfl, places⟩
  · rfl
  · simp [Except.map, same a b places]

variable (shape : ResultMap) (first second : Record)

/-- A scan takes nothing from a record but the values that it binds. -/
theorem prepareScan_places (position : Nat) (pending : Option (List Char)) (text : List Char) :
    (prepareScan shape first position pending text).map Prepared.places =
      (prepareScan shape second position pending text).map Prepared.places := by
  -- Where the scan goes on and where it fails depends on the text and the shape alone.
  fun_induction prepareScan shape first position pending text with
  | case1 => rw [prepareScan]
  | case2 => rw [prepareScan]
  | case3 position rest ih => rw [ih, prepareScan]
  | case4 position c rest other ih =>
      rw [prepareScan]
      · refine map_places_congr ?_ ih
        intro a b same
        simp_all [Prepared.places]
      · exact other
  | case5 position name c rest stop property missing =>
      simp only [prepareScan, stop, if_true]
      rw [missing]
  | case6 position name c rest stop property f found ih =>
      simp only [prepareScan, stop, if_true]
      rw [found]
      refine map_places_congr ?_ ih
      intro a b same
      simp_all [Prepared.places, Binding.place]
  | case7 position name c rest stop ih =>
      rw [ih]
      simp only [prepareScan, stop]
      rfl

theorem prepare_places (sql : String) :
    (prepare shape first sql).map (fun done => (done.1, done.2.map Binding.place)) =
      (prepare shape second sql).map fun done => (done.1, done.2.map Binding.place) := by
  have scanned := prepareScan_places shape first second 0 none sql.toList
  unfold prepare
  rcases map_eq_map_cases scanned with ⟨name, here, there⟩ | ⟨a, b, here, there, places⟩
  · rw [here, there]
  · simp only [Prepared.places, Prod.mk.injEq] at places
    rw [here, there]
    simp [Except.map, places]

end Preparing

/-- All of an evaluated statement but the values that it binds. -/
def Evaluated.unbound (e : Evaluated) : String × String × List (Nat × Field) :=
  (e.sql, e.prepared, e.bindings.map Binding.place)

/-- Records that the tests of a statement cannot tell apart give it the same text, or the same
failure, and the same prepared text with the same fields at the same positions. -/
theorem unbound_eq_of_indistinct (m : Mapper) (statement : Statement) (first second : Record)
    (indistinct : Indistinct statement.body first second) :
    render m statement first = render m statement second ∧
      (evaluate m statement first).map Evaluated.unbound =
        (evaluate m statement second).map Evaluated.unbound := by
  have rendered := render_eq m statement first second indistinct
  refine ⟨rendered, ?_⟩
  unfold evaluate
  rw [rendered]
  cases (m.parameterShape statement).mapError RenderError.document with
  | error cause => rfl
  | ok shape =>
      cases render m statement second with
      | error cause => rfl
      | ok sql =>
          have prepared := prepare_places shape first second sql
          simp only [Except.bind]
          rcases map_eq_map_cases prepared with ⟨name, here, there⟩ | ⟨a, b, here, there, places⟩
          · rw [here, there]
          · simp only [Prod.mk.injEq] at places
            rw [here, there]
            simp [Except.map, Evaluated.unbound, places]

section Named

def named : ResultMap :=
  ⟨"R", "rec", [.make "name" "name" "yb_string_t"]⟩

/-- A statement that tests a text and binds it. -/
def removal : Statement :=
  ⟨.delete, "d", "rec", "", [.text "DELETE FROM t", .conditional "name"
    [.text " WHERE name = #\x7bname\x7d"]]⟩

def removing : Mapper :=
  ⟨"x", "m.xml", ⟨[("R", named)]⟩, .empty, ⟨[("d", removal)]⟩⟩

def holding (name : String) : Record :=
  ⟨[("name", .text (some name))]⟩

theorem removal_indistinct : Indistinct removal.body (holding "Ann") (holding "' OR 1") := by
  intro test listed e parsed name member
  rw [List.mem_singleton.mp listed] at parsed
  have same : Predicate.Expression.one (.one (.operand (.name false "name"))) = e :=
    Except.ok.inj parsed
  subst same
  rw [List.mem_singleton.mp member]
  exact .inr ⟨"Ann", "' OR 1", rfl, rfl⟩

theorem removal_unbound :
    Indistinct removal.body (holding "Ann") (holding "' OR 1") ∧
      render removing removal (holding "' OR 1") = .ok "DELETE FROM t WHERE name = #\x7bname\x7d" ∧
      (evaluate removing removal (holding "' OR 1")).map Evaluated.unbound =
        .ok ("DELETE FROM t WHERE name = #\x7bname\x7d", "DELETE FROM t WHERE name = ?",
          [(0, .make "name" "name" "yb_string_t")]) := by
  obtain ⟨rendered, evaluated⟩ :=
    unbound_eq_of_indistinct removing removal (holding "Ann") (holding "' OR 1")
      removal_indistinct
  exact ⟨removal_indistinct, rendered.symm.trans rfl, evaluated.symm.trans rfl⟩

end Named

end Sql

end SqlMapper
