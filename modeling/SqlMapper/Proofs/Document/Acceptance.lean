import SqlMapper.Proofs.Document.Contents

/-!
Which documents are accepted. The children of the root are taken in one by one, and each is compared
with those before it; in the end the tables hold what the children stand for, in document order, and
all that is asked of a document can be said of its element tree as a whole.
-/

namespace SqlMapper.Mapper

open Xml (Content Element)

section Meaning

def shapeOf (e : Element) : ResultMap :=
  ⟨valueOf e "id", valueOf e "type", fieldsOf e.elements⟩

/-- The id and the text of the fragment that an element stands for. -/
def fragmentOf (e : Element) : String × String :=
  (valueOf e "id", String.join (e.children.filterMap Content.text?))

def statementOf (kind : StatementKind) (e : Element) : Statement :=
  ⟨kind, valueOf e "id", valueOf e "parameterType",
    if kind = .select then valueOf e "resultMap" else "", bodyOf e.children⟩

def shapesIn (elements : List Element) : List ResultMap :=
  (elements.filter (·.tag == "resultMap")).map shapeOf

def fragmentsIn (elements : List Element) : List (String × String) :=
  (elements.filter (·.tag == "sql")).map fragmentOf

def statementsIn (elements : List Element) : List Statement :=
  elements.filterMap fun e => (StatementKind.ofName? e.tag).map (statementOf · e)

/-- A mapper with what some elements stand for behind what it has. -/
def extended (m : Mapper) (elements : List Element) : Mapper :=
  { m with
    resultMaps := ⟨m.resultMaps.entries ++ (shapesIn elements).map fun shape => (shape.id, shape)⟩
    fragments := ⟨m.fragments.entries ++ fragmentsIn elements⟩
    statements := ⟨m.statements.entries ++
      (statementsIn elements).map fun statement => (statement.id, statement)⟩ }

theorem extended_nil (m : Mapper) : m.extended [] = m := by
  simp [extended, shapesIn, fragmentsIn, statementsIn]

theorem extended_cons (m : Mapper) (e : Element) (rest : List Element) :
    (m.extended [e]).extended rest = m.extended (e :: rest) := by
  have shapes : shapesIn (e :: rest) = shapesIn [e] ++ shapesIn rest := by
    rw [shapesIn, ← List.singleton_append, List.filter_append, List.map_append]
    rfl
  have fragments : fragmentsIn (e :: rest) = fragmentsIn [e] ++ fragmentsIn rest := by
    rw [fragmentsIn, ← List.singleton_append, List.filter_append, List.map_append]
    rfl
  have statements : statementsIn (e :: rest) = statementsIn [e] ++ statementsIn rest := by
    rw [statementsIn, ← List.singleton_append, List.filterMap_append]
    rfl
  simp only [extended, shapes, fragments, statements, List.map_append, List.append_assoc]

end Meaning

section Tables

/-- Nothing in a mapper is defined twice. -/
structure Distinct (m : Mapper) : Prop where
  shapeIds : m.resultMaps.keys.Nodup
  shapeTypes : (m.resultMaps.values.map (·.type)).Nodup
  fragmentIds : m.fragments.keys.Nodup
  statementIds : m.statements.keys.Nodup

theorem Distinct.of_extended {m : Mapper} {elements : List Element}
    (distinct : Distinct (m.extended elements)) : Distinct m := by
  obtain ⟨ids, types, fragments, statements⟩ := distinct
  simp only [extended, Table.keys, Table.values, List.map_append] at ids types fragments statements
  exact ⟨(List.nodup_append.mp ids).1, (List.nodup_append.mp types).1,
    (List.nodup_append.mp fragments).1, (List.nodup_append.mp statements).1⟩

section Additions

/-- A table takes an entry in exactly if its keys stay distinct. -/
theorem gives_add? {α : Type} {t : Table α} (distinct : t.keys.Nodup) {key : String} {value : α}
    {x : Except DocumentError Mapper} {next : Mapper} (m : Mapper) (element : String)
    (refused : t.add? key value = none → x = .error (m.error element key .definedTwice))
    (added : t.add? key value = some ⟨t.entries ++ [(key, value)]⟩ → x = .ok next) :
    Gives (.ofExcept x) (Table.keys ⟨t.entries ++ [(key, value)]⟩).Nodup next := by
  have keys : Table.keys ⟨t.entries ++ [(key, value)]⟩ = t.keys.concat key := by
    simp [Table.keys]
  rw [keys, List.nodup_concat]
  by_cases taken : key ∈ t.keys
  · rw [refused (if_pos ((t.has_eq_true_iff key).mpr taken))]
    exact (gives_fail rfl _).of_iff (by simp [taken])
  · rw [added ((Table.add?_eq_some_iff t _ key value).mpr ⟨taken, rfl⟩)]
    exact (gives_pure _).of_iff (by simp [taken, distinct])

variable {m : Mapper} (distinct : Distinct m)

include distinct

theorem gives_addResultMap (shape : ResultMap) {next : Mapper}
    (adds : next = { m with resultMaps := ⟨m.resultMaps.entries ++ [(shape.id, shape)]⟩ }) :
    Gives (.ofExcept (m.addResultMap shape)) (Distinct next) next := by
  subst adds
  have known : (m.shapeOfType? shape.type).isSome = true ↔
      shape.type ∈ m.resultMaps.values.map (·.type) := by
    simp [shapeOfType?]
  have types : ((m.resultMaps.entries ++ [(shape.id, shape)]).map (·.2)).map (·.type) =
      (m.resultMaps.values.map (·.type)).concat shape.type := by
    simp [Table.values]
  have whole : Distinct { m with resultMaps := ⟨m.resultMaps.entries ++ [(shape.id, shape)]⟩ } ↔
      (Table.keys ⟨m.resultMaps.entries ++ [(shape.id, shape)]⟩).Nodup ∧
        shape.type ∉ m.resultMaps.values.map (·.type) := by
    constructor
    · rintro ⟨ids, kinds, -, -⟩
      rw [Table.values, types, List.nodup_concat] at kinds
      exact ⟨ids, kinds.1⟩
    · rintro ⟨ids, fresh⟩
      refine ⟨ids, ?_, distinct.fragmentIds, distinct.statementIds⟩
      rw [Table.values, types, List.nodup_concat]
      exact ⟨fresh, distinct.shapeTypes⟩
  rw [whole, addResultMap]
  by_cases mapped : shape.type ∈ m.resultMaps.values.map (·.type)
  · rw [if_pos (known.mpr mapped)]
    exact (gives_fail rfl _).of_iff (by simp [mapped])
  · rw [if_neg (mt known.mp mapped)]
    exact (gives_add? distinct.shapeIds m "resultMap" (fun refused => by rw [refused])
      fun added => by rw [added]).of_iff (and_iff_left mapped).symm

theorem gives_addFragment (id text : String) {next : Mapper}
    (adds : next = { m with fragments := ⟨m.fragments.entries ++ [(id, text)]⟩ }) :
    Gives (.ofExcept (m.addFragment id text)) (Distinct next) next := by
  subst adds
  refine (gives_add? distinct.fragmentIds m "sql" (fun refused => by rw [addFragment, refused])
    fun added => by rw [addFragment, added]).of_iff ?_
  exact ⟨fun ids => ⟨distinct.shapeIds, distinct.shapeTypes, ids, distinct.statementIds⟩,
    Distinct.fragmentIds⟩

theorem gives_addStatement (statement : Statement) {next : Mapper}
    (adds : next =
      { m with statements := ⟨m.statements.entries ++ [(statement.id, statement)]⟩ }) :
    Gives (.ofExcept (m.addStatement statement)) (Distinct next) next := by
  subst adds
  refine (gives_add? distinct.statementIds m statement.kind.name
    (fun refused => by rw [addStatement, refused])
    fun added => by rw [addStatement, added]).of_iff ?_
  exact ⟨fun ids => ⟨distinct.shapeIds, distinct.shapeTypes, distinct.fragmentIds, ids⟩,
    Distinct.statementIds⟩

end Additions

end Tables

section Children

def ShapeReady (e : Element) : Prop :=
  Carries e ["id", "type"] ∧
    (∀ result ∈ e.elements, result.tag = "result" → Carries result fieldAttributes) ∧
    ((shapeOf e).fields.map (·.property)).Nodup

def StatementReady (kind : StatementKind) (e : Element) : Prop :=
  Carries e ["id", "parameterType"] ∧ (kind = .select → Carries e ["resultMap"]) ∧
    ∀ inner, Reaches e.children inner → Complete inner

/-- What is asked of a child of the root, whatever else the document holds. -/
structure Ready (e : Element) : Prop where
  shape : e.tag = "resultMap" → ShapeReady e
  fragment : e.tag = "sql" → Carries e ["id"]
  statement : ∀ kind : StatementKind, e.tag = kind.name → StatementReady kind e

theorem ofName?_eq_some_iff {name : String} {kind : StatementKind} :
    StatementKind.ofName? name = some kind ↔ name = kind.name := by
  constructor
  · intro found
    have same := List.find?_some found
    exact (beq_iff_eq.mp same).symm
  · rintro rfl
    cases kind <;> rfl

theorem kindName_ne (kind : StatementKind) : kind.name ≠ "resultMap" ∧ kind.name ≠ "sql" := by
  cases kind <;> decide

/-- Only a select asks for a row shape; said once, the four kinds are read alike. -/
theorem readStatement_eq (m : Mapper) (kind : StatementKind) (e : Element) :
    m.readStatement kind e = (required m.document "" e "id").bind fun id =>
      (required m.document id e "parameterType").bind fun type =>
        (if kind = .select then required m.document id e "resultMap" else .pure "").bind fun row =>
          (body m.document id e.children).bind fun found =>
            .ofExcept (m.addStatement ⟨kind, id, type, row, found⟩) := by
  cases kind <;> rfl

variable {m : Mapper} (distinct : Distinct m)

include distinct

theorem gives_readResultMap {e : Element} (tagged : e.tag = "resultMap") :
    Gives (m.readResultMap e) (ShapeReady e ∧ Distinct (m.extended [e])) (m.extended [e]) := by
  have adds : m.extended [e] =
      { m with resultMaps := ⟨m.resultMaps.entries ++ [((shapeOf e).id, shapeOf e)]⟩ } := by
    have other : StatementKind.ofName? "resultMap" = none := rfl
    simp [extended, shapesIn, fragmentsIn, statementsIn, tagged, other]
  refine (gives_bind (gives_required ..) fun _ => gives_bind (gives_required ..) fun _ =>
    gives_bind (@gives_fields _ _ _ [] List.nodup_nil) fun _ =>
      gives_addResultMap distinct (shapeOf e) adds).of_iff ?_
  have both : Carries e ["id", "type"] ↔ Carries e ["id"] ∧ Carries e ["type"] := by
    simp [Carries]
  have inner : Fielded [] e.elements ↔
      (∀ result ∈ e.elements, result.tag = "result" → Carries result fieldAttributes) ∧
        ((shapeOf e).fields.map (·.property)).Nodup := Iff.rfl
  simp only [ShapeReady, both, inner, and_assoc]

theorem gives_readFragment {e : Element} (tagged : e.tag = "sql") :
    Gives (m.readFragment e) (Carries e ["id"] ∧ Distinct (m.extended [e])) (m.extended [e]) := by
  have adds : m.extended [e] =
      { m with fragments := ⟨m.fragments.entries ++ [fragmentOf e]⟩ } := by
    have other : StatementKind.ofName? "sql" = none := rfl
    simp [extended, shapesIn, fragmentsIn, statementsIn, tagged, other]
  exact gives_bind (gives_required ..) fun _ => gives_addFragment distinct _ _ adds

theorem gives_readStatement {e : Element} {kind : StatementKind} (tagged : e.tag = kind.name) :
    Gives (m.readStatement kind e) (StatementReady kind e ∧ Distinct (m.extended [e]))
      (m.extended [e]) := by
  have adds : m.extended [e] = { m with
      statements := ⟨m.statements.entries ++ [((statementOf kind e).id, statementOf kind e)]⟩ } := by
    have named : StatementKind.ofName? kind.name = some kind := ofName?_eq_some_iff.mpr rfl
    simp [extended, shapesIn, fragmentsIn, statementsIn, tagged, named, kindName_ne kind]
  have rows : Gives (if kind = .select then required m.document (valueOf e "id") e "resultMap"
      else .pure "") (kind = .select → Carries e ["resultMap"]) (statementOf kind e).resultMap := by
    unfold statementOf
    split
    · next selects => exact (gives_required ..).of_iff (by simp [selects])
    · next plain => exact (gives_pure "").of_iff (by simp [plain])
  rw [readStatement_eq]
  refine (gives_bind (gives_required ..) fun _ => gives_bind (gives_required ..) fun _ =>
    gives_bind rows fun _ => gives_bind (gives_body ..) fun _ =>
      gives_addStatement distinct (statementOf kind e) adds).of_iff ?_
  have both : Carries e ["id", "parameterType"] ↔ Carries e ["id"] ∧ Carries e ["parameterType"] := by
    simp [Carries]
  rw [StatementReady, both, and_assoc, and_assoc, and_assoc]

/-- A child is taken in exactly if it lacks nothing and repeats nothing. -/
theorem gives_readChild (e : Element) :
    Gives (m.readChild e) (Ready e ∧ Distinct (m.extended [e])) (m.extended [e]) := by
  -- The tag tells which of the needs apply; the others say nothing of this element.
  by_cases shape : e.tag = "resultMap"
  · rw [readChild, if_pos (beq_iff_eq.mpr shape)]
    refine (gives_readResultMap distinct shape).of_iff (and_congr_left' ?_)
    refine ⟨fun ready => ⟨fun _ => ready, ?_, ?_⟩, fun ready => ready.shape shape⟩
    · simp [shape]
    · exact fun kind named => absurd (named.symm.trans shape) (kindName_ne kind).1
  by_cases fragment : e.tag = "sql"
  · rw [readChild, if_neg (by simp [shape]), if_pos (beq_iff_eq.mpr fragment)]
    refine (gives_readFragment distinct fragment).of_iff (and_congr_left' ?_)
    refine ⟨fun ready => ⟨fun found => absurd found shape, fun _ => ready, ?_⟩,
      fun ready => ready.fragment fragment⟩
    exact fun kind named => absurd (named.symm.trans fragment) (kindName_ne kind).2
  rw [readChild, if_neg (by simp [shape]), if_neg (by simp [fragment])]
  split
  · next kind named =>
      have tagged := ofName?_eq_some_iff.mp named
      refine (gives_readStatement distinct tagged).of_iff (and_congr_left' ?_)
      refine ⟨fun ready => ⟨fun found => absurd found shape, fun found => absurd found fragment, ?_⟩,
        fun ready => ready.statement kind tagged⟩
      intro other same
      rw [ofName?_eq_some_iff.mpr same, Option.some_inj] at named
      rwa [named]
  · next unknown =>
      have kept : m.extended [e] = m := by
        simp [extended, shapesIn, fragmentsIn, statementsIn, shape, fragment, unknown]
      rw [kept]
      refine (gives_map (fun _ => m) (gives_write ..)).of_iff ?_
      rw [true_iff]
      refine ⟨⟨fun found => absurd found shape, fun found => absurd found fragment, ?_⟩, distinct⟩
      intro kind named
      rw [ofName?_eq_some_iff.mpr named] at unknown
      cases unknown

/-- Children that are compared only with those before them are distinct in the end. -/
theorem gives_readChildren (elements : List Element) :
    Gives (readChildren m elements)
      ((∀ e ∈ elements, Ready e) ∧ Distinct (m.extended elements)) (m.extended elements) := by
  induction elements generalizing m with
  | nil =>
      rw [extended_nil]
      exact (gives_pure m).of_iff (by simp [distinct])
  | cons e rest ih =>
      -- The rest is compared with a mapper that has the first child already.
      have later (first : Ready e ∧ Distinct (m.extended [e])) := ih first.2
      rw [extended_cons] at later
      refine (gives_bind (gives_readChild distinct e) later).of_iff ?_
      rw [List.forall_mem_cons]
      constructor
      · rintro ⟨⟨here, -⟩, there, whole⟩
        exact ⟨⟨here, there⟩, whole⟩
      · rintro ⟨⟨here, there⟩, whole⟩
        refine ⟨⟨here, ?_⟩, there, whole⟩
        rw [← extended_cons] at whole
        exact whole.of_extended

end Children

section Documents

structure WellFormed (root : Element) : Prop where
  tagged : root.tag = "mapper"
  named : Carries root ["namespace"]
  /-- Shapes have an id and a type, and their results a column, a property of their own and a
  declared type. -/
  shapes : ∀ e ∈ root.elements, e.tag = "resultMap" → ShapeReady e
  fragments : ∀ e ∈ root.elements, e.tag = "sql" → Carries e ["id"]
  /-- Statements have an id and a parameter type, and a select has a row shape; every `if` that is
  reached has a test, and every `include` a reference. -/
  statements : ∀ e ∈ root.elements, ∀ kind : StatementKind, e.tag = kind.name →
    StatementReady kind e
  shapeIds : ((shapesIn root.elements).map (·.id)).Nodup
  shapeTypes : ((shapesIn root.elements).map (·.type)).Nodup
  fragmentIds : ((fragmentsIn root.elements).map (·.1)).Nodup
  statementIds : ((statementsIn root.elements).map (·.id)).Nodup

def described (document : String) (root : Element) : Mapper :=
  (Mapper.empty (valueOf root "namespace") document).extended root.elements

theorem distinct_empty (space document : String) : Distinct (.empty space document) :=
  ⟨List.nodup_nil, List.nodup_nil, List.nodup_nil, List.nodup_nil⟩

theorem distinct_described (document : String) (root : Element) :
    Distinct (described document root) ↔
      ((shapesIn root.elements).map (·.id)).Nodup ∧ ((shapesIn root.elements).map (·.type)).Nodup ∧
        ((fragmentsIn root.elements).map (·.1)).Nodup ∧
        ((statementsIn root.elements).map (·.id)).Nodup := by
  have tables : Distinct (described document root) ↔ _ :=
    ⟨fun ⟨ids, types, fragments, statements⟩ => (⟨ids, types, fragments, statements⟩ : _ ∧ _ ∧ _ ∧ _),
      fun ⟨ids, types, fragments, statements⟩ => ⟨ids, types, fragments, statements⟩⟩
  rw [tables]
  simp [described, extended, Mapper.empty, Table.empty, Table.keys, Table.values, Function.comp_def]

theorem wellFormed_iff (document : String) (root : Element) :
    WellFormed root ↔ root.tag = "mapper" ∧ Carries root ["namespace"] ∧
      (∀ e ∈ root.elements, Ready e) ∧ Distinct (described document root) := by
  rw [distinct_described]
  constructor
  · rintro ⟨tagged, named, shapes, fragments, statements, ids, types, texts, functions⟩
    exact ⟨tagged, named, fun e child => ⟨shapes e child, fragments e child, statements e child⟩,
      ids, types, texts, functions⟩
  · rintro ⟨tagged, named, ready, ids, types, fragments, statements⟩
    exact ⟨tagged, named, fun e child => (ready e child).shape, fun e child => (ready e child).fragment,
      fun e child => (ready e child).statement, ids, types, fragments, statements⟩

theorem gives_ofElement (document : String) (root : Element) :
    Gives (ofElement document root) (WellFormed root) (described document root) := by
  rw [wellFormed_iff document]
  unfold ofElement
  by_cases tagged : root.tag = "mapper"
  · rw [if_neg (by simp [tagged])]
    refine (gives_bind (gives_required document "" root "namespace") fun _ =>
      gives_bind (gives_readChildren (distinct_empty ..) root.elements) fun _ =>
        gives_map (fun _ => described document root) (gives_write ..)).of_iff ?_
    simp [tagged, described]
  · rw [if_pos (by simp [tagged])]
    exact (gives_fail rfl _).of_iff (by simp [tagged])

/-- The tables of a mapper list the children of a root, each in its place. -/
structure Lists (m : Mapper) (root : Element) : Prop where
  space : m.space = valueOf root "namespace"
  shapes : m.resultMaps.entries =
    (root.elements.filter (·.tag == "resultMap")).map fun e => (valueOf e "id", shapeOf e)
  fragments : m.fragments.entries = (root.elements.filter (·.tag == "sql")).map fragmentOf
  statements : ∀ kind, m.statementsOf kind =
    (root.elements.filter (·.tag == kind.name)).map (statementOf kind)

theorem filter_statementsIn (elements : List Element) (kind : StatementKind) :
    (statementsIn elements).filter (·.kind == kind) =
      (elements.filter (·.tag == kind.name)).map (statementOf kind) := by
  induction elements with
  | nil => rfl
  | cons e rest ih =>
      by_cases tagged : e.tag = kind.name
      · have found : StatementKind.ofName? e.tag = some kind := ofName?_eq_some_iff.mpr tagged
        have same : ((statementOf kind e).kind == kind) = true := beq_self_eq_true kind
        rw [List.filter_cons_of_pos (by simpa using tagged), List.map_cons, ← ih]
        simp [statementsIn, found, same]
      · rw [List.filter_cons_of_neg (by simpa using tagged), ← ih]
        cases found : StatementKind.ofName? e.tag with
        | none => simp [statementsIn, found]
        | some other =>
            have apart : ((statementOf other e).kind == kind) = false := by
              refine beq_false_of_ne ?_
              rintro rfl
              exact tagged (ofName?_eq_some_iff.mp found)
            simp [statementsIn, found, apart]

theorem lists_described (document : String) (root : Element) :
    Lists (described document root) root := by
  refine ⟨rfl, ?_, ?_, ?_⟩
  · simp [described, extended, Mapper.empty, Table.empty, shapesIn, shapeOf]
  · simp [described, extended, Mapper.empty, Table.empty, fragmentsIn]
  · intro kind
    rw [← filter_statementsIn]
    simp [statementsOf, described, extended, Mapper.empty, Table.empty, Table.values,
      Function.comp_def]

section Lookup

variable {document : String} {root e : Element} (formed : WellFormed root)
  (child : e ∈ root.elements)

include formed child

theorem statement?_described {kind : StatementKind} (tagged : e.tag = kind.name) :
    (described document root).statement? (valueOf e "id") = some (statementOf kind e) := by
  have listed : statementOf kind e ∈ statementsIn root.elements :=
    List.mem_filterMap.mpr ⟨e, child, by rw [ofName?_eq_some_iff.mpr tagged]; rfl⟩
  have distinct := ((wellFormed_iff document root).mp formed).2.2.2.statementIds
  refine Table.get?_of_mem distinct (List.mem_append_right _ ?_)
  exact List.mem_map.mpr ⟨_, listed, rfl⟩

theorem shapeOfType?_described (tagged : e.tag = "resultMap") :
    (described document root).shapeOfType? (valueOf e "type") = some (shapeOf e) := by
  have listed : shapeOf e ∈ shapesIn root.elements :=
    List.mem_map_of_mem (List.mem_filter.mpr ⟨child, beq_iff_eq.mpr tagged⟩)
  have values : (described document root).resultMaps.values = shapesIn root.elements := by
    simp [described, extended, Mapper.empty, Table.empty, Table.values, Function.comp_def]
  rw [shapeOfType?, values]
  exact find?_key_of_mem formed.shapeTypes listed

end Lookup

theorem malformed_of_parse {document : String} {bytes : List UInt8} {e : DocumentError}
    (failed : (parse document bytes).outcome = .error e) : e.complaint.fault = .malformed := by
  unfold parse at failed
  split at failed
  · cases failed
    rfl
  split at failed
  · cases failed
    rfl
  · exact (gives_ofElement document _).malformed e failed

/-- A document is accepted exactly if the root of its tree is well-formed. Then the tables list the
children of the root in order, and otherwise the document is called malformed. -/
theorem accepts_iff_wellFormed (document : String) (root : Element) :
    ((∃ m, (ofElement document root).outcome = .ok m) ↔ WellFormed root) ∧
      (∀ m, (ofElement document root).outcome = .ok m → Lists m root) ∧
      (∀ e, (ofElement document root).outcome = .error e → e.complaint.fault = .malformed) ∧
      ∀ bytes content, Xml.parse bytes = .ok content →
        (Xml.root? content = some root → parse document bytes = ofElement document root) ∧
        ∀ e, (parse document bytes).outcome = .error e → e.complaint.fault = .malformed := by
  have gives := gives_ofElement document root
  refine ⟨?_, ?_, gives.malformed, ?_⟩
  · constructor
    · rintro ⟨m, accepted⟩
      exact ((gives.ok_iff m).mp accepted).1
    · intro formed
      exact ⟨_, (gives.ok_iff _).mpr ⟨formed, rfl⟩⟩
  · intro m accepted
    obtain ⟨-, rfl⟩ := (gives.ok_iff m).mp accepted
    exact lists_described document root
  · intro bytes content read
    refine ⟨?_, fun e => malformed_of_parse⟩
    intro first
    simp only [parse, read, first]

end Documents

end SqlMapper.Mapper
