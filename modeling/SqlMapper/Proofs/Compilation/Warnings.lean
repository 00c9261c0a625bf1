import SqlMapper.Proofs.Compilation
import SqlMapper.Proofs.Noninterference

/-!
What the compiler warns about in tests, and what goes wrong when they are evaluated. The log of a
statement's function is that of its conditions, test after test and at every depth, and a condition
warns about the names of its test that are neither fields nor constants. An evaluation that meets an
unknown name has looked it up in the test, so where the compiler has not warned, no record that has a
value for each field is short of a name, whichever branches are taken.
-/

namespace SqlMapper

namespace Predicate

variable {env : Environment} {name : String} {α β : Type}

/-- Names that are unknown to an outcome are among those of a list, and neither the environment nor the
constants have them. -/
def Blames (env : Environment) (names : List String) (outcome : Except EvalError α) : Prop :=
  ∀ name, outcome = .error (.unknownIdentifier name) →
    name ∈ names ∧ env name = none ∧ constant? name = none

namespace Blames

variable {names : List String}

theorem mono {more : List String} {outcome : Except EvalError α} (blames : Blames env names outcome)
    (subset : names ⊆ more) : Blames env more outcome := by
  intro name failed
  obtain ⟨member, absent⟩ := blames name failed
  exact ⟨subset member, absent⟩

theorem map {outcome : Except EvalError α} (f : α → β) (blames : Blames env names outcome) :
    Blames env names (outcome.map f) := by
  intro name failed
  cases outcome with
  | error cause => exact blames name (congrArg Except.error (Except.error.inj failed))
  | ok value => cases failed

theorem bind {first : Except EvalError α} {next : α → Except EvalError β}
    (here : Blames env names first) (later : ∀ value, Blames env names (next value)) :
    Blames env names (first.bind next) := by
  intro name failed
  cases first with
  | error cause => exact here name (congrArg Except.error (Except.error.inj failed))
  | ok value => exact later value name failed

end Blames

theorem blames_signedValue (names : List String) (negative : Bool) (value : Value) :
    Blames env names (signedValue negative value) := by
  intro name failed
  cases negative <;> cases value <;> cases failed

theorem blames_numberValue (names : List String) (digits : String) :
    Blames env names (numberValue digits) := by
  intro name failed
  unfold numberValue at failed
  split at failed
  · cases failed
  · split at failed <;> cases failed

theorem blames_nameValue (name : String) : Blames env [name] (nameValue env name) := by
  intro other failed
  unfold nameValue at failed
  split at failed
  · cases failed
  · next absent =>
      split at failed
      · cases failed
      · next unknown =>
          cases failed
          exact ⟨List.mem_singleton_self name, absent, unknown⟩

theorem blames_apply (names : List String) (op : Comparator) (a b : Value) :
    Blames env names (op.apply a b) := by
  intro name failed
  cases a with
  | text a =>
      cases b with
      | text b =>
          simp only [Comparator.apply, Comparator.onTexts] at failed
          split at failed
          · cases failed
          · split at failed <;> cases failed
      | int b => cases failed
      | float b => cases failed
  | int a => cases b <;> cases failed
  | float a => cases b <;> cases failed

mutual

/-- A group is short of names of its own only; so is each part of a test. -/
theorem blames_expression (e : Expression) : Blames env e.names (e.groupValue env) := by
  cases e with
  | one first =>
      rw [groupValue_one]
      exact blames_conjunction first
  | or first rest =>
      have here := (blames_conjunction first).map Value.truth
      have later := (blames_expression rest).map Value.truth
      rw [truth_conjunction] at here
      rw [truth_expression] at later
      rw [groupValue_or]
      refine Blames.map truthValue fun name failed => ?_
      rw [Expression.eval] at failed
      split at failed
      · exact later.mono (List.subset_append_right _ _) name failed
      · exact here.mono (List.subset_append_left _ _) name failed

theorem blames_conjunction (c : Conjunction) : Blames env c.names (c.value env) := by
  cases c with
  | one first => exact blames_term first
  | and first rest =>
      have here := (blames_term first).map Value.truth
      have later := (blames_conjunction rest).map Value.truth
      rw [truth_term] at here
      rw [truth_conjunction] at later
      refine Blames.map truthValue fun name failed => ?_
      rw [Conjunction.eval] at failed
      split at failed
      · exact later.mono (List.subset_append_right _ _) name failed
      · exact here.mono (List.subset_append_left _ _) name failed

theorem blames_term (t : Term) : Blames env t.names (t.value env) := by
  cases t with
  | not inner =>
      have within := (blames_term inner).map Value.truth
      rw [truth_term] at within
      exact (within.map Bool.not).map truthValue
  | operand left => exact blames_operand left
  | compare left op right =>
      have here := (blames_operand left).mono (List.subset_append_left left.names right.names)
      have there := (blames_operand right).mono (List.subset_append_right left.names right.names)
      refine Blames.map truthValue ?_
      rw [eval_compare]
      exact here.bind fun a => there.bind fun b => blames_apply _ op a b

theorem blames_operand (o : Operand) : Blames env o.names (o.eval env) := by
  cases o with
  | number negative digits =>
      exact (blames_numberValue _ digits).bind fun value => blames_signedValue _ negative value
  | name negative identifier =>
      exact (blames_nameValue identifier).bind fun value => blames_signedValue _ negative value
  | group negative inner =>
      exact (blames_expression inner).bind fun value => blames_signedValue _ negative value

end

/-- A name that a test is short of is one of its identifiers, and stands for nothing. -/
theorem unknown_of_eval {e : Expression} (failed : e.eval env = .error (.unknownIdentifier name)) :
    name ∈ e.identifiers ∧ env name = none ∧ constant? name = none := by
  have blames : Blames env e.names ((e.groupValue env).map Value.truth) :=
    (blames_expression e).map Value.truth
  rw [truth_expression] at blames
  obtain ⟨member, absent⟩ := blames name failed
  exact ⟨(mem_identifiers e name).mpr member, absent⟩

end Predicate

namespace Sql

open Outcome

/-- One of the tests uses a name that has no value in the record and is no constant. -/
def Lacks (record : Record) (tests : List String) (name : String) : Prop :=
  ∃ test ∈ tests, ∃ e, Predicate.parse test = .ok e ∧ name ∈ e.identifiers ∧
    record.get? name = none ∧ Predicate.constant? name = none

theorem Lacks.mono {record : Record} {tests more : List String} {name : String}
    (lacks : Lacks record tests name) (subset : tests ⊆ more) : Lacks record more name := by
  obtain ⟨test, member, found⟩ := lacks
  exact ⟨test, subset member, found⟩

section Rendering

variable {m : Mapper} {statement : Statement} {record : Record} {place test name : String}

theorem lacks_of_testHolds {asked : String}
    (failed : testHolds statement record asked =
      .error (.failedTest place test (.unknownIdentifier name))) :
    Lacks record [asked] name := by
  unfold testHolds at failed
  split at failed
  · cases failed
  · next e parsed =>
      obtain ⟨cause, short, same⟩ := (mapError_eq_error_iff _ _ _).mp failed
      cases same
      exact ⟨_, List.mem_singleton_self _, e, parsed, Predicate.unknown_of_eval short⟩

mutual

theorem lacks_of_renderBody (body : List Node)
    (failed : renderBody m statement record body =
      .error (.failedTest place test (.unknownIdentifier name))) :
    Lacks record (bodyTests body) name := by
  cases body with
  | nil =>
      rw [renderBody] at failed
      cases failed
  | cons node rest =>
      rw [renderBody, bind_eq_error_iff] at failed
      rcases failed with here | ⟨first, _, later⟩
      · exact (lacks_of_renderNode node here).mono (List.subset_append_left _ _)
      · rw [map_eq_error_iff] at later
        exact (lacks_of_renderBody rest later).mono (List.subset_append_right _ _)

theorem lacks_of_renderNode (node : Node)
    (failed : renderNode m statement record node =
      .error (.failedTest place test (.unknownIdentifier name))) :
    Lacks record (nodeTests node) name := by
  cases node with
  | text value =>
      rw [renderNode] at failed
      cases failed
  | fragment reference =>
      rw [renderNode, mapError_eq_error_iff] at failed
      obtain ⟨_, _, same⟩ := failed
      cases same
  | conditional asked body =>
      rw [renderNode, bind_eq_error_iff] at failed
      rcases failed with undecided | ⟨holds, _, within⟩
      · exact (lacks_of_testHolds undecided).mono (by simp [nodeTests])
      · split at within
        · exact (lacks_of_renderBody body within).mono (List.subset_cons_self _ _)
        · cases within
  | trim rule body =>
      rw [renderNode, map_eq_error_iff] at failed
      exact lacks_of_renderBody body failed

end

/-- A rendering is short of a name only if one of the statement's tests is. -/
theorem lacks_of_render (failed : render m statement record =
      .error (.failedTest place test (.unknownIdentifier name))) :
    Lacks record (bodyTests statement.body) name := by
  rw [render, bind_eq_error_iff] at failed
  rcases failed with shapeless | ⟨_, _, within⟩
  · obtain ⟨_, _, same⟩ := (mapError_eq_error_iff _ _ _).mp shapeless
    cases same
  · exact lacks_of_renderBody statement.body within

theorem lacks_of_evaluate (failed : evaluate m statement record =
      .error (.failedTest place test (.unknownIdentifier name))) :
    Lacks record (bodyTests statement.body) name := by
  rw [evaluate, bind_eq_error_iff] at failed
  rcases failed with shapeless | ⟨shape, _, later⟩
  · obtain ⟨_, _, same⟩ := (mapError_eq_error_iff _ _ _).mp shapeless
    cases same
  · rw [bind_eq_error_iff] at later
    rcases later with rendering | ⟨sql, _, preparing⟩
    · exact lacks_of_render rendering
    · split at preparing <;> cases preparing

end Rendering

end Sql

namespace Code

open Outcome
open Sql (bodyTests nodeTests)

/-- The warning about a name in a test of a statement. -/
def strangeName (m : Mapper) (statement : Statement) (name : String) : Log.Entry :=
  ⟨.warn, "test references a name that is neither a field nor a runtime constant",
    [("document", .text m.document), ("statement", .text statement.id), ("name", .text name)]⟩

section Logs

variable {m : Mapper} {statement : Statement} {shape : ResultMap}

def testLog (m : Mapper) (statement : Statement) (shape : ResultMap) (test : String) :
    List Log.Entry :=
  (condition m statement shape test : Logged DocumentError String).log

/-- A condition warns about the names of its test that stand for nothing, and about no other. -/
theorem mem_testLog_iff (test name : String) :
    strangeName m statement name ∈ testLog m statement shape test ↔
      ∃ e, Predicate.parse test = .ok e ∧ name ∈ e.identifiers ∧
        Predicate.constant? name = none ∧ shape.field? name = none := by
  unfold testLog condition
  cases parsed : Predicate.parse test with
  | error cause => simp [strangeName, Logged.bind, Logged.write, Logged.pure]
  | ok e => simp [strangeName, and_assoc]

mutual

theorem log_buildBody (body : List Node) {target : Buffer} {free : Nat} {built : Built}
    (success : (buildBody m statement shape target free body).outcome = .ok built) :
    (buildBody m statement shape target free body).log =
      (bodyTests body).flatMap (testLog m statement shape) := by
  cases body with
  | nil => rfl
  | cons node rest =>
      rw [buildBody, Logged.bind_outcome_eq_ok_iff] at success
      obtain ⟨first, here, success⟩ := success
      rw [Logged.bind_outcome_eq_ok_iff] at success
      obtain ⟨more, later, _⟩ := success
      rw [buildBody, log_bind here, log_bind later, log_buildNode node here, log_buildBody rest later]
      simp [bodyTests, Logged.pure]

theorem log_buildNode (node : Node) {target : Buffer} {free : Nat} {built : Built}
    (success : (buildNode m statement shape target free node).outcome = .ok built) :
    (buildNode m statement shape target free node).log =
      (nodeTests node).flatMap (testLog m statement shape) := by
  cases node with
  | text value => rfl
  | fragment reference =>
      rw [buildNode, Logged.bind_outcome_eq_ok_iff] at success
      obtain ⟨text, found, _⟩ := success
      rw [buildNode, log_bind found]
      rfl
  | conditional test body =>
      rw [buildNode, Logged.bind_outcome_eq_ok_iff] at success
      obtain ⟨spelled, here, success⟩ := success
      rw [Logged.bind_outcome_eq_ok_iff] at success
      obtain ⟨inner, within, _⟩ := success
      rw [buildNode, log_bind here, log_bind within, log_buildBody body within]
      simp [nodeTests, testLog, Logged.pure]
  | trim rule body =>
      rw [buildNode, Logged.bind_outcome_eq_ok_iff] at success
      obtain ⟨inner, within, _⟩ := success
      rw [buildNode, log_bind within, log_buildBody body within]
      simp [nodeTests, Logged.pure]

end

/-- The log of a statement's function is that of the conditions of its tests, at every depth. -/
theorem log_statementFunction {function : C.Signature × List C.Stmt}
    (shaped : m.parameterShape statement = .ok shape)
    (success : (statementFunction m statement).outcome = .ok function) :
    (statementFunction m statement).log =
      (bodyTests statement.body).flatMap (testLog m statement shape) := by
  rw [statementFunction, Logged.bind_outcome_eq_ok_iff] at success
  obtain ⟨resolved, found, success⟩ := success
  rw [Logged.bind_outcome_eq_ok_iff] at success
  obtain ⟨built, isBuilt, success⟩ := success
  rw [Logged.bind_outcome_eq_ok_iff] at success
  obtain ⟨_, known, _⟩ := success
  have same : resolved.shape = shape :=
    Except.ok.inj ((resolve_eq_ok m statement resolved found).1.symm.trans shaped)
  rw [statementFunction, log_bind found, log_bind isBuilt, log_bind known,
    log_buildBody statement.body isBuilt, same]
  simp [Logged.ofExcept, Logged.pure]

/-- The functions log one after the other. -/
theorem log_functions_inside {compiled : Compiled} (success : (compile m).outcome = .ok compiled) :
    (m.allStatements.flatMap fun statement => (statementFunction m statement).log) <:+:
      (compile m).log := by
  obtain ⟨spelled, shapes, functions, built, _⟩ := compile_eq_ok m compiled success
  have logged := log_mapList built
  rw [← logged]
  simp only [compile, spelled, shapes, bind, Bool.not_true, Bool.false_eq_true, ↓reduceIte]
  simp only [Logged.bind, Logged.write, Logged.ofExcept, Logged.pure, built, List.nil_append,
    List.append_nil]
  exact ⟨_, _, List.append_assoc ..⟩

/-- What is logged for a statement stands in the log of the compiler. -/
theorem mem_log_compile {compiled : Compiled} (success : (compile m).outcome = .ok compiled)
    (listed : statement ∈ m.statements.values) (shaped : m.parameterShape statement = .ok shape)
    {test : String} (member : test ∈ bodyTests statement.body) {entry : Log.Entry}
    (logged : entry ∈ testLog m statement shape test) : entry ∈ (compile m).log := by
  obtain ⟨_, _, functions, built, _⟩ := compile_eq_ok m compiled success
  have among := (mem_allStatements m statement).mpr listed
  obtain ⟨function, _, done⟩ := mapList_member _ _ _ built statement among
  refine (log_functions_inside success).subset (List.mem_flatMap.mpr ⟨statement, among, ?_⟩)
  rw [log_statementFunction shaped done]
  exact List.mem_flatMap.mpr ⟨test, member, logged⟩

end Logs

/-- Where the compiler has not warned about a name of a statement, no rendering of the statement and no
evaluation fails for want of a name, if the record has a value for each field. -/
theorem unwarned_never_unknown (m : Mapper) (accepted : Accepted m) (statement : Statement)
    (listed : statement ∈ m.statements.values)
    (unwarned : ∀ name, strangeName m statement name ∉ (compile m).log) (shape : ResultMap)
    (shaped : m.parameterShape statement = .ok shape) (record : Record)
    (full : ∀ f ∈ shape.fields, (record.get? f.property).isSome = true) (place test name : String) :
    Sql.render m statement record ≠ .error (.failedTest place test (.unknownIdentifier name)) ∧
      Sql.evaluate m statement record ≠
        .error (.failedTest place test (.unknownIdentifier name)) := by
  have none_lacking : ¬ Sql.Lacks record (bodyTests statement.body) name := by
    rintro ⟨asked, member, e, parsed, used, absent, unknown⟩
    obtain ⟨compiled, success⟩ := accepted
    have foreign : shape.field? name = none := by
      rw [ResultMap.field?, List.find?_eq_none]
      intro f inside same
      have held := full f inside
      rw [beq_iff_eq.mp same, absent] at held
      cases held
    exact unwarned name (mem_log_compile success listed shaped member
      ((mem_testLog_iff asked name).mpr ⟨e, parsed, used, unknown, foreign⟩))
  exact ⟨fun failed => none_lacking (Sql.lacks_of_render failed),
    fun failed => none_lacking (Sql.lacks_of_evaluate failed)⟩

section Nested

/-- Tests at three depths, with a field, constants and a group. -/
def nestedTests : List Node :=
  [.text "DELETE FROM t", .conditional "!(id == YB_INT_NULL)" [.trim ⟨" WHERE ", "", "AND ", ""⟩
    [.conditional "id > YB_OK or -(id) < 5" [.text "AND id = #\x7bid\x7d"]]]]

theorem nested_never_unknown :
    Accepted (deleting nestedTests) ∧
      (∀ name, strangeName (deleting nestedTests) (deletion nestedTests) name ∉
        (compile (deleting nestedTests)).log) ∧
      (∀ f ∈ identified.fields, ((⟨[("id", .int 7)]⟩ : Record).get? f.property).isSome = true) ∧
      Sql.render (deleting nestedTests) (deletion nestedTests) ⟨[("id", .int 7)]⟩ ≠
        .error (.failedTest "delete d" "id > YB_OK or -(id) < 5" (.unknownIdentifier "id")) := by
  have accepted : Accepted (deleting nestedTests) := by decide +kernel
  have quiet : ((compile (deleting nestedTests)).log.all fun entry => entry.level != .warn) = true := by
    decide +kernel
  have unwarned (name : String) : strangeName (deleting nestedTests) (deletion nestedTests) name ∉
      (compile (deleting nestedTests)).log := by
    intro logged
    have level := List.all_eq_true.mp quiet _ logged
    cases level
  have full : ∀ f ∈ identified.fields,
      ((⟨[("id", .int 7)]⟩ : Record).get? f.property).isSome = true := by decide
  exact ⟨accepted, unwarned, full, (unwarned_never_unknown (deleting nestedTests) accepted
    (deletion nestedTests) (by simp [deleting, Table.values]) unwarned identified rfl
    ⟨[("id", .int 7)]⟩ full "delete d" "id > YB_OK or -(id) < 5" "id").1⟩

end Nested

end Code

end SqlMapper
