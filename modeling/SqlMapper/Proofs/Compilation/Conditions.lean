import SqlMapper.Proofs.Compilation
import SqlMapper.Proofs.Placeholder.Count
import SqlMapper.Proofs.Store.Additions

/-!
When a mapper is compiled. The checks are spread over the shapes, the statements and the emission of
text, and some are made twice; here each is one condition on the mapper as a whole, and each failure
points at a condition that does not hold. The checks that come second never fail.
-/

namespace SqlMapper.Code

open Outcome Placeholder

section Conditions

mutual

/-- The fragments that a body refers to, whether a part is emitted or not. -/
def references : List Node → List String
  | [] => []
  | node :: rest => nodeReferences node ++ references rest

def nodeReferences : Node → List String
  | .text _ => []
  | .fragment reference => [reference]
  | .conditional _ body => references body
  | .trim _ body => references body

end

/-- A shape that C can express. -/
structure ShapeSound (shape : ResultMap) : Prop where
  type : C.isIdentifier shape.type = true
  properties : ∀ f ∈ shape.fields, C.isIdentifier f.property = true
  kinds : ∀ f ∈ shape.fields, f.kind ≠ .unknown

/-- A statement whose names are all known, with a body whose placeholders are accepted. -/
structure StatementSound (m : Mapper) (statement : Statement) : Prop where
  id : C.isIdentifier statement.id = true
  parameter : statement.parameterType ∈ m.resultMaps.values.map (·.type)
  row : statement.kind = .select → statement.resultMap ∈ m.resultMaps.keys
  includes : ∀ reference ∈ references statement.body, reference ∈ m.fragments.keys
  placeholders : ∀ shape, m.shapeOfType? statement.parameterType = some shape →
    ∃ count, placeholderSlots m statement shape = .ok count

structure Compilable (m : Mapper) : Prop where
  space : C.isIdentifier m.space = true
  shapes : ∀ shape ∈ m.resultMaps.values, ShapeSound shape
  statements : ∀ statement ∈ m.statements.values, StatementSound m statement

/-- What is wrong with a body that refers to some fragments. -/
inductive Flaw (m : Mapper) (statement : Statement) (shape : ResultMap) (names : List String) :
    DocumentError → Prop
  | missing {reference : String} (named : reference ∈ names)
      (unknown : reference ∉ m.fragments.keys) :
      Flaw m statement shape names (m.statementError statement (.fragment reference))
  | unclosed {text : String} (unended : (placeholders text).2 = false) :
      Flaw m statement shape names (m.statementError statement (.openPlaceholder text))
  | strange {name text : String} (named : name ∈ (placeholders text).1)
      (unknown : shape.field? name = none) :
      Flaw m statement shape names (m.statementError statement (.strangePlaceholder name shape.type))
  | split (text : String) :
      Flaw m statement shape names (m.statementError statement (.splitPlaceholder text))

/-- What is wrong with a mapper that is refused, and the element that is named for it. -/
inductive Blames (m : Mapper) : DocumentError → Prop
  | space (spelled : C.isIdentifier m.space = false) :
      Blames m (m.error "mapper" m.space .spaceForm)
  | type {shape : ResultMap} (listed : shape ∈ m.resultMaps.values)
      (spelled : C.isIdentifier shape.type = false) :
      Blames m (m.error "resultMap" shape.id (.typeForm shape.type))
  | property {shape : ResultMap} {f : Field} (listed : shape ∈ m.resultMaps.values)
      (held : f ∈ shape.fields) (spelled : C.isIdentifier f.property = false) :
      Blames m (m.error "resultMap" shape.id (.propertyForm f.property))
  | kind {shape : ResultMap} {f : Field} (listed : shape ∈ m.resultMaps.values)
      (held : f ∈ shape.fields) (unknown : f.kind = .unknown) :
      Blames m (m.error "resultMap" shape.id (.fieldType f.declared))
  | id {statement : Statement} (listed : statement ∈ m.statements.values)
      (spelled : C.isIdentifier statement.id = false) :
      Blames m (m.statementError statement .idForm)
  | parameter {statement : Statement} (listed : statement ∈ m.statements.values)
      (unknown : statement.parameterType ∉ m.resultMaps.values.map (·.type)) :
      Blames m (m.statementError statement (.parameterType statement.parameterType))
  | row {statement : Statement} (listed : statement ∈ m.statements.values)
      (selects : statement.kind = .select) (unknown : statement.resultMap ∉ m.resultMaps.keys) :
      Blames m (m.statementError statement (.resultMap statement.resultMap))
  | body {statement : Statement} {shape : ResultMap} {e : DocumentError}
      (listed : statement ∈ m.statements.values)
      (found : m.shapeOfType? statement.parameterType = some shape)
      (flaw : Flaw m statement shape (references statement.body) e) : Blames m e

theorem Flaw.fault {m : Mapper} {statement : Statement} {shape : ResultMap} {names : List String}
    {e : DocumentError} (flaw : Flaw m statement shape names e) :
    e.document = m.document ∧ e.complaint.fault ≠ .unsupportedType := by
  cases flaw <;> exact ⟨rfl, by simp [Mapper.statementError, Mapper.error, Complaint.fault]⟩

theorem Blames.document {m : Mapper} {e : DocumentError} (blamed : Blames m e) :
    e.document = m.document := by
  cases blamed with
  | body _ _ flaw => exact flaw.fault.1
  | _ => rfl

/-- The type of a field is blamed on its shape, never on a statement that uses it. -/
theorem Blames.element {m : Mapper} {e : DocumentError} (blamed : Blames m e)
    (unsupported : e.complaint.fault = .unsupportedType) : e.element = "resultMap" := by
  cases blamed with
  | kind => rfl
  | body _ _ flaw => exact absurd unsupported flaw.fault.2
  | _ => cases unsupported

end Conditions

section Checks

variable {α β : Type} {x : Except DocumentError α} {first second : Prop}
  {blamed : DocumentError → Prop}

/-- All failures are `blamed`. -/
def Blaming (x : Except DocumentError α) (blamed : DocumentError → Prop) : Prop :=
  ∀ e, x = .error e → blamed e

theorem blaming_ok (value : α) : Blaming (.ok value) blamed := by
  simp [Blaming]

theorem blaming_bind {next : α → Except DocumentError β} (one : Blaming x blamed)
    (two : ∀ value, x = .ok value → Blaming (next value) blamed) :
    Blaming (x.bind next) blamed := by
  cases done : x with
  | error e =>
      intro other failed
      cases failed
      exact one e done
  | ok value => exact two value done

theorem blaming_map (f : α → β) (one : Blaming x blamed) : Blaming (x.map f) blamed := by
  cases done : x with
  | error e =>
      intro other failed
      cases failed
      exact one e done
  | ok value => exact blaming_ok (f value)

/-- A check that passes exactly if all is `sound`. -/
structure Checks (x : Except DocumentError α) (sound : Prop) (blamed : DocumentError → Prop) :
    Prop where
  ok_iff : (∃ value, x = .ok value) ↔ sound
  blaming : Blaming x blamed

theorem Checks.of_iff (checks : Checks x first blamed) (same : first ↔ second) :
    Checks x second blamed :=
  ⟨checks.ok_iff.trans same, checks.blaming⟩

theorem checks_ok (value : α) : Checks (.ok value) True blamed where
  ok_iff := by simp
  blaming := blaming_ok value

theorem checks_bind {next : α → Except DocumentError β} (one : Checks x first blamed)
    (two : ∀ value, x = .ok value → Checks (next value) second blamed) :
    Checks (x.bind next) (first ∧ second) blamed where
  ok_iff := by
    simp only [bind_eq_ok_iff]
    constructor
    · rintro ⟨result, value, done, later⟩
      exact ⟨one.ok_iff.mp ⟨value, done⟩, (two value done).ok_iff.mp ⟨result, later⟩⟩
    · rintro ⟨here, later⟩
      obtain ⟨value, done⟩ := one.ok_iff.mpr here
      obtain ⟨result, last⟩ := (two value done).ok_iff.mpr later
      exact ⟨result, value, done, last⟩
  blaming := blaming_bind one.blaming fun value done => (two value done).blaming

theorem checks_map (f : α → β) (one : Checks x first blamed) : Checks (x.map f) first blamed where
  ok_iff := by
    rw [← one.ok_iff]
    constructor
    · rintro ⟨_, done⟩
      obtain ⟨value, passed, _⟩ := (map_eq_ok_iff ..).mp done
      exact ⟨value, passed⟩
    · rintro ⟨value, passed⟩
      exact ⟨f value, by rw [passed, Except.map]⟩
  blaming := blaming_map f one.blaming

theorem checks_unless {e : DocumentError} {condition : Prop} [Decidable condition]
    (known : condition → blamed e) (otherwise : ¬ condition → Checks x second blamed) :
    Checks (if condition then .error e else x) (¬ condition ∧ second) blamed := by
  by_cases holds : condition
  · rw [if_pos holds]
    refine ⟨by simp [holds], ?_⟩
    intro other failed
    cases failed
    exact known holds
  · rw [if_neg holds]
    exact (otherwise holds).of_iff (by simp [holds])

theorem checks_mapList {f : α → Logged DocumentError β} {sound : α → Prop} (items : List α)
    (each : ∀ item ∈ items, Checks (f item).outcome (sound item) blamed) :
    Checks (Logged.mapList f items).outcome (∀ item ∈ items, sound item) blamed := by
  induction items with
  | nil => exact (checks_ok []).of_iff (by simp)
  | cons item rest ih =>
      obtain ⟨here, later⟩ := List.forall_mem_cons.mp each
      rw [Logged.mapList, bind_outcome, List.forall_mem_cons]
      refine checks_bind here fun value _ => ?_
      rw [bind_outcome]
      exact checks_map (value :: ·) (ih later)

end Checks

section Shapes

variable {m : Mapper}

theorem checks_checkFields {shape : ResultMap} (listed : shape ∈ m.resultMaps.values)
    {fields : List Field} (held : ∀ f ∈ fields, f ∈ shape.fields) :
    Checks (checkFields m shape fields)
      (∀ f ∈ fields, C.isIdentifier f.property = true ∧ f.kind ≠ .unknown) (Blames m) := by
  induction fields with
  | nil => exact (checks_ok ()).of_iff (by simp)
  | cons f rest ih =>
      obtain ⟨here, later⟩ := List.forall_mem_cons.mp held
      rw [checkFields, List.forall_mem_cons]
      refine checks_bind ?_ fun _ _ => ih later
      refine (checks_unless (fun spelled => .property listed here (by simpa using spelled))
        fun _ => checks_unless (.kind listed here) fun _ => checks_ok ()).of_iff ?_
      simp

theorem checks_checkShape {shape : ResultMap} (listed : shape ∈ m.resultMaps.values) :
    Checks (checkShape m shape) (ShapeSound shape) (Blames m) := by
  refine (checks_unless (fun spelled => .type listed (by simpa using spelled))
    fun _ => checks_checkFields listed fun _ held => held).of_iff ?_
  constructor
  · rintro ⟨type, fields⟩
    exact ⟨by simpa using type, fun f held => (fields f held).1, fun f held => (fields f held).2⟩
  · rintro ⟨type, properties, kinds⟩
    exact ⟨by simpa using type, fun f held => ⟨properties f held, kinds f held⟩⟩

theorem checks_checkShapes {shapes : List ResultMap}
    (listed : ∀ shape ∈ shapes, shape ∈ m.resultMaps.values) :
    Checks (checkShapes m shapes) (∀ shape ∈ shapes, ShapeSound shape) (Blames m) := by
  induction shapes with
  | nil => exact (checks_ok ()).of_iff (by simp)
  | cons shape rest ih =>
      obtain ⟨here, later⟩ := List.forall_mem_cons.mp listed
      rw [checkShapes, List.forall_mem_cons]
      exact checks_bind (checks_checkShape here) fun _ _ => ih later

/-- A second look at the kinds of a sound shape finds nothing. -/
theorem checkKinds_of_sound {shape : ResultMap} (sound : ShapeSound shape) (statement : Statement) :
    checkKinds m statement shape.fields = .ok () := by
  have known (fields : List Field) (kinds : ∀ f ∈ fields, f.kind ≠ .unknown) :
      checkKinds m statement fields = .ok () := by
    induction fields with
    | nil => rfl
    | cons f rest ih =>
        obtain ⟨here, later⟩ := List.forall_mem_cons.mp kinds
        rw [checkKinds, if_neg here]
        exact ih later
  exact known shape.fields sound.kinds

end Shapes

section Bodies

variable {m : Mapper} {statement : Statement} {shape : ResultMap} {names : List String}

theorem fragmentText_eq_ok_iff (statement : Statement) (reference : String) :
    (∃ text, m.fragmentText statement reference = .ok text) ↔ reference ∈ m.fragments.keys := by
  rw [← Table.has_eq_true_iff, Table.has, Mapper.fragmentText]
  cases m.fragments.get? reference <;> simp

theorem blaming_fragmentText {reference : String} (named : reference ∈ names) :
    Blaming (m.fragmentText statement reference) (Flaw m statement shape names) := by
  intro e failed
  have unknown : reference ∉ m.fragments.keys := by
    rw [← fragmentText_eq_ok_iff statement, failed]
    simp
  unfold Mapper.fragmentText at failed
  split at failed
  · cases failed
  · cases failed
    exact .missing named unknown

theorem blaming_walkPiece (strip : Stripping) (walk : Walk) (text : String) :
    Blaming (walkPiece m statement shape strip walk text) (Flaw m statement shape names) := by
  unfold walkPiece
  split
  · exact blaming_ok walk
  split
  · intro e failed
    cases failed
    exact .split text
  · refine blaming_map _ ?_
    intro e failed
    unfold literalNames at failed
    simp only at failed
    split at failed
    · next unended =>
        cases failed
        exact .unclosed (by simpa using unended)
    · split at failed
      · next name strange =>
          cases failed
          refine .strange (List.mem_of_find?_eq_some strange) ?_
          simpa using List.find?_some strange
      · cases failed

mutual

theorem blaming_walkBody (strip : Stripping) (walk : Walk) (body : List Node)
    (named : ∀ reference ∈ references body, reference ∈ names) :
    Blaming (walkBody m statement shape strip walk body) (Flaw m statement shape names) := by
  cases body with
  | nil => exact blaming_ok walk
  | cons node rest =>
      rw [references, List.forall_mem_append] at named
      rw [walkBody]
      exact blaming_bind (blaming_walkNode strip walk node named.1) fun next _ =>
        blaming_walkBody strip next rest named.2

theorem blaming_walkNode (strip : Stripping) (walk : Walk) (node : Node)
    (named : ∀ reference ∈ nodeReferences node, reference ∈ names) :
    Blaming (walkNode m statement shape strip walk node) (Flaw m statement shape names) := by
  cases node with
  | text value => exact blaming_walkPiece strip walk value
  | fragment reference =>
      rw [walkNode]
      exact blaming_bind (blaming_fragmentText (named reference (by simp [nodeReferences])))
        fun text _ => blaming_walkPiece strip walk text
  | conditional test body =>
      rw [walkNode]
      exact blaming_map _ (blaming_walkBody strip walk body named)
  | trim rule body =>
      rw [walkNode]
      exact blaming_bind (blaming_walkPiece strip walk rule.opening) fun opened _ =>
        blaming_bind (blaming_walkBody (strip.under rule) opened body named) fun inner _ =>
          blaming_walkPiece strip inner rule.closing

end

mutual

/-- A walk that comes to its end has resolved every reference, also in parts that may be left out. -/
theorem resolved_of_walkBody (strip : Stripping) (walk next : Walk) (body : List Node)
    (success : walkBody m statement shape strip walk body = .ok next) :
    ∀ reference ∈ references body, reference ∈ m.fragments.keys := by
  cases body with
  | nil => simp [references]
  | cons node rest =>
      obtain ⟨middle, here, later⟩ := (walkBody_cons_eq_ok walk next node rest).mp success
      rw [references, List.forall_mem_append]
      exact ⟨resolved_of_walkNode strip walk middle node here,
        resolved_of_walkBody strip middle next rest later⟩

theorem resolved_of_walkNode (strip : Stripping) (walk next : Walk) (node : Node)
    (success : walkNode m statement shape strip walk node = .ok next) :
    ∀ reference ∈ nodeReferences node, reference ∈ m.fragments.keys := by
  cases node with
  | text value => simp [nodeReferences]
  | fragment reference =>
      obtain ⟨text, found, _⟩ := (walkNode_fragment_eq_ok walk next reference).mp success
      rw [nodeReferences, List.forall_mem_singleton]
      exact (fragmentText_eq_ok_iff statement reference).mp ⟨text, found⟩
  | conditional test body =>
      obtain ⟨taken, within, _⟩ := (walkNode_conditional_eq_ok walk next test body).mp success
      exact resolved_of_walkBody strip walk taken body within
  | trim rule body =>
      obtain ⟨opened, inner, _, within, _⟩ := (walkNode_trim_eq_ok walk next rule body).mp success
      exact resolved_of_walkBody (strip.under rule) opened inner body within

end

/-- A test that is not understood is no failure. -/
theorem condition_succeeds (m : Mapper) (statement : Statement) (shape : ResultMap) (test : String) :
    ∃ spelled, (condition m statement shape test : Logged DocumentError String).outcome =
      .ok spelled := by
  unfold condition
  split
  · exact ⟨_, rfl⟩
  · exact ⟨_, rfl⟩

mutual

/-- The second walk fails on nothing but a reference, so never after the first. -/
theorem buildBody_of_resolved (target : Buffer) (free : Nat) (body : List Node)
    (resolved : ∀ reference ∈ references body, reference ∈ m.fragments.keys) :
    ∃ built, (buildBody m statement shape target free body).outcome = .ok built := by
  cases body with
  | nil => exact ⟨([], free), rfl⟩
  | cons node rest =>
      rw [references, List.forall_mem_append] at resolved
      obtain ⟨⟨first, middle⟩, here⟩ := buildNode_of_resolved target free node resolved.1
      obtain ⟨⟨more, next⟩, later⟩ := buildBody_of_resolved target middle rest resolved.2
      refine ⟨(first ++ more, next), ?_⟩
      rw [buildBody, bind_outcome, here, Except.bind, bind_outcome, later]
      rfl

theorem buildNode_of_resolved (target : Buffer) (free : Nat) (node : Node)
    (resolved : ∀ reference ∈ nodeReferences node, reference ∈ m.fragments.keys) :
    ∃ built, (buildNode m statement shape target free node).outcome = .ok built := by
  cases node with
  | text value => exact ⟨_, rfl⟩
  | fragment reference =>
      rw [nodeReferences, List.forall_mem_singleton] at resolved
      obtain ⟨text, found⟩ := (fragmentText_eq_ok_iff statement reference).mpr resolved
      rw [buildNode, bind_outcome, Logged.ofExcept, found]
      exact ⟨_, rfl⟩
  | conditional test body =>
      obtain ⟨spelled, understood⟩ := condition_succeeds m statement shape test
      obtain ⟨⟨ops, next⟩, built⟩ :=
        buildBody_of_resolved (.temporary free) (free + 1) body resolved
      rw [buildNode, bind_outcome, understood, Except.bind, bind_outcome, built]
      exact ⟨_, rfl⟩
  | trim rule body =>
      obtain ⟨⟨ops, next⟩, built⟩ :=
        buildBody_of_resolved (.temporary free) (free + 2) body resolved
      rw [buildNode, bind_outcome, built]
      exact ⟨_, rfl⟩

end

end Bodies

section Statements

variable {m : Mapper} {statement : Statement} (listed : statement ∈ m.statements.values)

theorem parameterShape_eq_ok_iff (shape : ResultMap) :
    m.parameterShape statement = .ok shape ↔
      m.shapeOfType? statement.parameterType = some shape := by
  rw [Mapper.parameterShape]
  cases m.shapeOfType? statement.parameterType <;> simp

theorem rowShape_mem {row : ResultMap} (found : m.rowShape statement = .ok row) :
    row ∈ m.resultMaps.values := by
  unfold Mapper.rowShape at found
  split at found
  · next known =>
      cases found
      obtain ⟨before, after, entries, _⟩ := List.lookup_eq_some_iff.mp known
      rw [Table.values, entries]
      simp
  · cases found

include listed

theorem checks_parameterShape : Checks (m.parameterShape statement)
    (statement.parameterType ∈ m.resultMaps.values.map (·.type)) (Blames m) := by
  have known : (∃ shape, m.parameterShape statement = .ok shape) ↔
      statement.parameterType ∈ m.resultMaps.values.map (·.type) := by
    simp only [parameterShape_eq_ok_iff, ← Option.isSome_iff_exists]
    simp [Mapper.shapeOfType?]
  refine ⟨known, ?_⟩
  intro e failed
  rw [failed] at known
  unfold Mapper.parameterShape at failed
  split at failed
  · cases failed
  · cases failed
    exact .parameter listed (by simp [← known])

theorem checks_rowShape (selects : statement.kind = .select) :
    Checks (m.rowShape statement) (statement.resultMap ∈ m.resultMaps.keys) (Blames m) := by
  have known : (∃ shape, m.rowShape statement = .ok shape) ↔
      statement.resultMap ∈ m.resultMaps.keys := by
    rw [← Table.has_eq_true_iff, Table.has, Mapper.rowShape]
    cases m.resultMaps.get? statement.resultMap <;> simp
  refine ⟨known, ?_⟩
  intro e failed
  rw [failed] at known
  unfold Mapper.rowShape at failed
  split at failed
  · cases failed
  · cases failed
    exact .row listed selects (by simp [← known])

theorem checks_placeholderSlots {shape : ResultMap}
    (found : m.shapeOfType? statement.parameterType = some shape) :
    Checks (placeholderSlots m statement shape)
      ((∀ reference ∈ references statement.body, reference ∈ m.fragments.keys) ∧
        ∀ shape, m.shapeOfType? statement.parameterType = some shape →
          ∃ count, placeholderSlots m statement shape = .ok count) (Blames m) where
  ok_iff := by
    constructor
    · rintro ⟨count, counted⟩
      obtain ⟨walk, success, _⟩ := (map_eq_ok_iff ..).mp counted
      refine ⟨resolved_of_walkBody _ _ walk statement.body success, ?_⟩
      intro other same
      rw [found, Option.some.injEq] at same
      exact ⟨count, same ▸ counted⟩
    · rintro ⟨_, accepted⟩
      exact accepted shape found
  blaming := by
    intro e failed
    have flawed : Blaming (placeholderSlots m statement shape)
        (Flaw m statement shape (references statement.body)) :=
      blaming_map _ (blaming_walkBody .none ⟨false, 0⟩ statement.body fun _ named => named)
    exact .body listed found (flawed e failed)

variable (shapes : ∀ shape ∈ m.resultMaps.values, ShapeSound shape)

include shapes

theorem checks_resolveRow : Checks (resolveRow m statement)
    (statement.kind = .select → statement.resultMap ∈ m.resultMaps.keys) (Blames m) := by
  have kinds (row : ResultMap) (found : m.rowShape statement = .ok row) :
      Checks ((checkKinds m statement row.fields).map fun _ => some row) True (Blames m) := by
    rw [checkKinds_of_sound (shapes row (rowShape_mem found))]
    exact checks_ok (some row)
  unfold resolveRow
  split
  · next selects =>
      exact (checks_bind (checks_rowShape listed selects) kinds).of_iff (by simp [selects])
  · next plain => exact (checks_ok none).of_iff (by simp [plain])

theorem checks_resolve :
    Checks (resolve m statement) (StatementSound m statement) (Blames m) := by
  refine (checks_unless (fun spelled => .id listed (by simpa using spelled)) fun _ =>
    checks_bind (checks_parameterShape listed) fun shape found =>
      checks_bind (checks_resolveRow listed shapes) fun row _ =>
        checks_map _ (checks_placeholderSlots listed
          ((parameterShape_eq_ok_iff shape).mp found))).of_iff ?_
  constructor
  · rintro ⟨id, parameter, row, includes, placeholders⟩
    exact ⟨by simpa using id, parameter, row, includes, placeholders⟩
  · rintro ⟨id, parameter, row, includes, placeholders⟩
    exact ⟨by simpa using id, parameter, row, includes, placeholders⟩

omit listed in
/-- What is checked while the text is emitted has been checked before. -/
theorem emitted_of_resolve {r : Resolved} (resolved : resolve m statement = .ok r) :
    (∃ built, (buildBody m statement r.shape .command 0 statement.body).outcome = .ok built) ∧
      checkKinds m statement r.shape.fields = .ok () := by
  obtain ⟨found, count, counted, _⟩ := resolve_eq_ok m statement r resolved
  obtain ⟨walk, success, _⟩ := (map_eq_ok_iff ..).mp counted
  have shaped := (parameterShape_eq_ok_iff r.shape).mp found
  constructor
  · exact buildBody_of_resolved _ _ _ (resolved_of_walkBody _ _ walk statement.body success)
  · exact checkKinds_of_sound (shapes r.shape (List.mem_of_find?_eq_some shaped)) statement

theorem checks_statementFunction : Checks (statementFunction m statement).outcome
    (StatementSound m statement) (Blames m) := by
  have emits (r : Resolved) (resolved : resolve m statement = .ok r) :
      Checks ((buildBody m statement r.shape .command 0 statement.body).bind fun built =>
        (Logged.ofExcept (checkKinds m statement r.shape.fields)).bind fun _ =>
          .pure (signature statement r.shape r.row,
            functionBody r.shape r.row r.slots built.1)).outcome True (Blames m) := by
    obtain ⟨⟨built, done⟩, kinds⟩ := emitted_of_resolve shapes resolved
    rw [bind_outcome, done, Except.bind, bind_outcome, Logged.ofExcept, kinds]
    exact checks_ok _
  rw [statementFunction, bind_outcome]
  exact (checks_bind (checks_resolve listed shapes) emits).of_iff (by simp)

end Statements

section Mappers

theorem checks_compile (m : Mapper) : Checks (compile m).outcome (Compilable m) (Blames m) := by
  rw [compile_outcome]
  have functions (shapes : ∀ shape ∈ m.resultMaps.values, ShapeSound shape) :
      Checks (Logged.mapList (statementFunction m) m.allStatements).outcome
        (∀ statement ∈ m.allStatements, StatementSound m statement) (Blames m) :=
    checks_mapList m.allStatements fun statement listed =>
      checks_statementFunction ((mem_allStatements m statement).mp listed) shapes
  have shapes := checks_checkShapes (m := m) fun _ listed => listed
  refine (checks_unless .space fun _ => checks_bind shapes fun _ passed =>
    checks_map (emitted m) (functions (shapes.ok_iff.mp ⟨_, passed⟩))).of_iff ?_
  simp only [mem_allStatements]
  constructor
  · rintro ⟨space, sound, statements⟩
    exact ⟨by simpa using space, sound, statements⟩
  · rintro ⟨space, sound, statements⟩
    exact ⟨by simpa using space, sound, statements⟩

theorem emitted_of_compile {m : Mapper} {c : Compiled} (success : (compile m).outcome = .ok c) :
    ∃ functions, c = emitted m functions := by
  rw [compile_outcome] at success
  split at success
  · cases success
  · obtain ⟨_, _, mapped⟩ := (bind_eq_ok_iff ..).mp success
    obtain ⟨functions, _, rfl⟩ := (map_eq_ok_iff ..).mp mapped
    exact ⟨functions, rfl⟩

theorem functionsOf_emitted (m : Mapper) (functions : List (C.Signature × List C.Stmt))
    (kind : StatementKind) :
    (emitted m functions).functionsOf kind = (m.statementsOf kind).map (·.id) := by
  -- Of the statements of one kind, all are kept for that kind and none for another.
  have kept (other : StatementKind) : (m.statementsOf other).filter (·.kind == kind) =
      if other = kind then m.statementsOf kind else [] := by
    rw [Mapper.statementsOf, List.filter_filter]
    by_cases same : other = kind
    · simp [same, Mapper.statementsOf]
    · rw [if_neg same, List.filter_eq_nil_iff]
      intro it _ both
      simp only [Bool.and_eq_true, beq_iff_eq] at both
      exact same (both.2.symm.trans both.1)
  have named : (emitted m functions).functionsOf kind =
      (m.allStatements.filter (·.kind == kind)).map (·.id) := by
    rw [Compiled.functionsOf, emitted, List.filter_map, List.map_map]
    rfl
  rw [named, Mapper.allStatements, List.filter_flatMap]
  simp only [kept]
  cases kind <;> simp [StatementKind.all]

theorem length_functions_emitted (m : Mapper) (functions : List (C.Signature × List C.Stmt)) :
    (emitted m functions).functions.length = m.statementCount := by
  rw [emitted, List.length_map, Mapper.allStatements, List.length_flatMap, Mapper.statementCount_eq]
  congr 1
  apply List.map_congr_left
  intro kind _
  rw [← Mapper.values_tableOf, Table.values, Table.size, List.length_map]

end Mappers

/-- A mapper that is built by additions is compiled exactly if it is compilable. The records are then
its types and the functions its ids, in the order of the calls; otherwise something that is wrong is
blamed, and a field type only at its shape. Where the shapes pass, no later look at the kinds of
fields fails, and no text that is emitted after the names were resolved. -/
theorem compile_built_iff (space document : String) (calls : List Addition) :
    let m := Mapper.built space document calls
    let taken := Mapper.successes space document calls
    ((∃ c, (compile m).outcome = .ok c) ↔ Compilable m) ∧
      (∀ c, (compile m).outcome = .ok c →
        c.records = (taken.filterMap Addition.shape?).map (·.type) ∧
        (∀ kind, c.functionsOf kind =
          ((taken.filterMap Addition.statement?).filter (·.kind == kind)).map (·.id)) ∧
        c.functions.length = m.statementCount) ∧
      (∀ e, (compile m).outcome = .error e → Blames m e ∧ e.document = document ∧
        (e.complaint.fault = .unsupportedType → e.element = "resultMap")) ∧
      (checkShapes m m.resultMaps.values = .ok () → ∀ statement ∈ m.statements.values,
        (∀ row, m.rowShape statement = .ok row → checkKinds m statement row.fields = .ok ()) ∧
        ∀ r, resolve m statement = .ok r →
          (∃ built, (buildBody m statement r.shape .command 0 statement.body).outcome = .ok built) ∧
            checkKinds m statement r.shape.fields = .ok ()) := by
  intro m taken
  have checks := checks_compile m
  refine ⟨checks.ok_iff, ?_, ?_, ?_⟩
  · intro c success
    obtain ⟨functions, rfl⟩ := emitted_of_compile success
    refine ⟨?_, ?_, length_functions_emitted m functions⟩
    · rw [emitted, Mapper.values_resultMaps_built]
    · intro kind
      rw [functionsOf_emitted, Mapper.statementsOf, Mapper.values_statements_built]
  · intro e failed
    have blamed := checks.blaming e failed
    exact ⟨blamed, blamed.document.trans (Mapper.document_built ..), blamed.element⟩
  · intro passed statement listed
    have shapes := (checks_checkShapes (m := m) fun _ listed => listed).ok_iff.mp ⟨(), passed⟩
    exact ⟨fun row found => checkKinds_of_sound (shapes row (rowShape_mem found)) statement,
      fun r resolved => emitted_of_resolve shapes resolved⟩

end SqlMapper.Code
