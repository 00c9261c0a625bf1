import SqlMapper.Proofs.Store.Additions

/-!
A store that is changed in place. Shapes are kept twice, by id and by type, and statements once for
each kind; an addition changes one index after the other and may be refused between two changes. The
indexes stay in step for all that, since each shows what the mapper lists.
-/

namespace SqlMapper

/-- A list of keys beside the map that knows their values. -/
structure Index (α : Type) where
  keys : List String
  value? : String → Option α

namespace Index

variable {α : Type}

def empty : Index α :=
  ⟨[], fun _ => none⟩

/-- Whether a value was put under a key, and the index after that. -/
def insert (t : Index α) (key : String) (value : α) : Bool × Index α :=
  match t.value? key with
  | some _ => (false, t)
  | none => (true, ⟨t.keys ++ [key], fun name => if name = key then some value else t.value? name⟩)

/-- The index and the table list the same keys, and find the same under each. -/
structure Shows (t : Index α) (table : Table α) : Prop where
  keys : t.keys = table.keys
  value? : ∀ key, t.value? key = table.get? key

variable {t : Index α} {table : Table α} {key : String}

theorem insert_of_not_mem (shows : t.Shows table) (free : key ∉ table.keys) (value : α) :
    (t.insert key value).1 = true ∧
      (t.insert key value).2.Shows ⟨table.entries ++ [(key, value)]⟩ := by
  have missing : table.entries.lookup key = none :=
    Option.not_isSome_iff_eq_none.mp (mt (table.has_eq_true_iff key).mp free)
  have unknown : t.value? key = none := (shows.value? key).trans missing
  rw [insert, unknown]
  refine ⟨rfl, ?_, ?_⟩
  · simp only [shows.keys, Table.keys, List.map_append, List.map_cons, List.map_nil]
  · intro name
    rw [Table.get?, List.lookup_append]
    by_cases same : name = key
    · simp [same, missing]
    · have other : (name == key) = false := beq_false_of_ne same
      simp [List.lookup_cons, same, other, shows.value?, Table.get?]

theorem insert_of_mem (shows : t.Shows table) (taken : key ∈ table.keys) (value : α) :
    t.insert key value = (false, t) := by
  obtain ⟨known, found⟩ := Option.isSome_iff_exists.mp ((table.has_eq_true_iff key).mpr taken)
  rw [insert, shows.value?, found]

end Index

structure Registry where
  document : String
  shapes : Index ResultMap
  types : String → Option ResultMap
  fragments : Index String
  statements : StatementKind → Index Statement

namespace Registry

def empty (document : String) : Registry :=
  ⟨document, .empty, fun _ => none, .empty, fun _ => .empty⟩

/-- The first statement with an id, kind by kind. -/
def find? (r : Registry) (id : String) : Option Statement :=
  StatementKind.all.findSome? fun kind => (r.statements kind).value? id

def statementCount (r : Registry) : Nat :=
  (StatementKind.all.map fun kind => (r.statements kind).keys.length).sum

def refusal (r : Registry) (element name : String) (complaint : Complaint) :
    Except DocumentError Unit :=
  .error ⟨r.document, element, name, complaint⟩

/-- The types change last, when the ids have taken the shape in. -/
def addResultMap (r : Registry) (shape : ResultMap) : Except DocumentError Unit × Registry :=
  match r.types shape.type with
  | some _ => (r.refusal "resultMap" shape.id (.typeMapped shape.type), r)
  | none =>
      let (inserted, shapes) := r.shapes.insert shape.id shape
      if inserted then
        (.ok (), { r with
          shapes
          types := fun type => if type = shape.type then some shape else r.types type })
      else (r.refusal "resultMap" shape.id .definedTwice, { r with shapes })

def addFragment (r : Registry) (id text : String) : Except DocumentError Unit × Registry :=
  let (inserted, fragments) := r.fragments.insert id text
  (if inserted then .ok () else r.refusal "sql" id .definedTwice, { r with fragments })

/-- An id is looked up under every kind, then again under its own. -/
def addStatement (r : Registry) (statement : Statement) : Except DocumentError Unit × Registry :=
  match r.find? statement.id with
  | some _ => (r.refusal statement.kind.name statement.id .definedTwice, r)
  | none =>
      let (inserted, table) := (r.statements statement.kind).insert statement.id statement
      (if inserted then .ok () else r.refusal statement.kind.name statement.id .definedTwice,
        { r with
          statements := fun kind => if kind = statement.kind then table else r.statements kind })

def add (r : Registry) : Addition → Except DocumentError Unit × Registry
  | .resultMap shape => r.addResultMap shape
  | .fragment id text => r.addFragment id text
  | .statement statement => r.addStatement statement

def run : Registry → List Addition → Registry
  | r, [] => r
  | r, a :: rest => (r.add a).2.run rest

section Refusals

variable (r : Registry)

theorem insert_eq_of_false {α : Type} {t : Index α} {key : String} {value : α}
    (refused : (t.insert key value).1 = false) : (t.insert key value).2 = t := by
  unfold Index.insert at refused ⊢
  split
  · rfl
  · next free =>
      rw [free] at refused
      cases refused

/-- A refused addition has changed no index. -/
theorem add_eq_of_error {a : Addition} {e : DocumentError} (failed : (r.add a).1 = .error e) :
    (r.add a).2 = r := by
  cases a with
  | resultMap shape =>
      rw [add, addResultMap] at failed ⊢
      cases known : r.types shape.type with
      | some _ => rfl
      | none =>
          simp only [known] at failed
          split at failed
          · cases failed
          · next refused =>
              simp only [if_neg refused, insert_eq_of_false (Bool.not_eq_true _ ▸ refused)]
  | fragment id text =>
      simp only [add, addFragment] at failed ⊢
      split at failed
      · cases failed
      · next refused => rw [insert_eq_of_false (Bool.not_eq_true _ ▸ refused)]
  | statement it =>
      rw [add, addStatement] at failed ⊢
      cases known : r.find? it.id with
      | some _ => rfl
      | none =>
          simp only [known] at failed
          split at failed
          · cases failed
          · next refused =>
              have kept : (fun kind => if kind = it.kind then r.statements it.kind
                  else r.statements kind) = r.statements := by
                funext kind
                by_cases own : kind = it.kind <;> simp [own]
              simp only [insert_eq_of_false (Bool.not_eq_true _ ▸ refused), kept]

end Refusals

structure Tracks (r : Registry) (m : Mapper) : Prop where
  document : r.document = m.document
  shapes : r.shapes.Shows m.resultMaps
  types : ∀ type, r.types type = m.shapeOfType? type
  fragments : r.fragments.Shows m.fragments
  statements : ∀ kind, (r.statements kind).Shows (m.tableOf kind)

namespace Tracks

variable {r : Registry} {m : Mapper} (tracks : Tracks r m) (distinct : m.Distinct)

include tracks

theorem statementCount_eq : r.statementCount = m.statementCount := by
  rw [Mapper.statementCount_eq, statementCount]
  congr 1
  apply List.map_congr_left
  intro kind _
  rw [(tracks.statements kind).keys, Table.keys, Table.size, List.length_map]

include distinct

/-- Going through the kinds finds the one statement with that id. -/
theorem find?_eq (id : String) : r.find? id = m.statement? id := by
  have value? (kind : StatementKind) : (r.statements kind).value? id =
      (m.statement? id).filter (·.kind == kind) := by
    rw [(tracks.statements kind).value?, Mapper.get?_tableOf distinct]
  simp only [find?, value?]
  cases m.statement? id with
  | none => rfl
  | some it => cases spelled : it.kind <;> simp [StatementKind.all, spelled]

/-- What the mapper takes in the indexes take in, and show. -/
theorem add_ok {a : Addition} {next : Mapper} (added : m.add a = .ok next) :
    (r.add a).1 = .ok () ∧ Tracks (r.add a).2 next := by
  cases a with
  | resultMap shape =>
      simp only [Mapper.add, Mapper.addResultMap] at added
      split at added
      · cases added
      split at added
      · next unmapped _ table grown =>
          cases added
          obtain ⟨free, rfl⟩ := (Table.add?_eq_some_iff ..).mp grown
          obtain ⟨inserted, shows⟩ := Index.insert_of_not_mem tracks.shapes free shape
          have fresh := Option.not_isSome_iff_eq_none.mp unmapped
          have unknown : r.types shape.type = none := (tracks.types _).trans fresh
          simp only [add, addResultMap, unknown, inserted, if_true, true_and]
          refine ⟨tracks.document, shows, ?_, tracks.fragments, tracks.statements⟩
          intro type
          simp only [Mapper.shapeOfType?_of_new fresh, tracks.types]
      · cases added
  | fragment id text =>
      simp only [Mapper.add, Mapper.addFragment] at added
      split at added
      · next _ table grown =>
          cases added
          obtain ⟨free, rfl⟩ := (Table.add?_eq_some_iff ..).mp grown
          obtain ⟨inserted, shows⟩ := Index.insert_of_not_mem tracks.fragments free text
          simp only [add, addFragment, inserted, if_true, true_and]
          exact ⟨tracks.document, tracks.shapes, tracks.types, shows, tracks.statements⟩
      · cases added
  | statement it =>
      simp only [Mapper.add, Mapper.addStatement] at added
      split at added
      · next _ table grown =>
          cases added
          obtain ⟨free, rfl⟩ := (Table.add?_eq_some_iff ..).mp grown
          have unknown : r.find? it.id = none := by
            rw [tracks.find?_eq distinct]
            exact Option.not_isSome_iff_eq_none.mp (mt (m.statements.has_eq_true_iff it.id).mp free)
          -- An id that no kind knows is new to the table of its own kind.
          have new : it.id ∉ (m.tableOf it.kind).keys := fun listed =>
            free ((List.filter_sublist.map _).subset listed)
          obtain ⟨inserted, shows⟩ :=
            Index.insert_of_not_mem (tracks.statements it.kind) new it
          simp only [add, addStatement, unknown, inserted, if_true, true_and]
          refine ⟨tracks.document, tracks.shapes, tracks.types, tracks.fragments, ?_⟩
          intro kind
          rw [Mapper.tableOf_of_new]
          by_cases own : kind = it.kind
          · subst own
            simpa using shows
          · simpa [own] using tracks.statements kind
      · cases added

/-- What the mapper refuses the indexes refuse, with the same complaint. -/
theorem add_error {a : Addition} {e : DocumentError} (refused : m.add a = .error e) :
    (r.add a).1 = .error e := by
  cases a with
  | resultMap shape =>
      simp only [Mapper.add, Mapper.addResultMap, Mapper.error, ← tracks.document] at refused
      split at refused
      · next mapped =>
          obtain ⟨known, found⟩ := Option.isSome_iff_exists.mp mapped
          cases refused
          simp only [add, addResultMap, tracks.types, found, refusal]
      · next unmapped =>
          split at refused
          · cases refused
          · next full =>
              -- The index of the types agrees, so only the ids can clash.
              have unknown : r.types shape.type = none :=
                (tracks.types _).trans (Option.not_isSome_iff_eq_none.mp unmapped)
              have stays := Index.insert_of_mem tracks.shapes (Table.mem_keys_of_add?_eq_none full) shape
              cases refused
              simp only [add, addResultMap, unknown, stays, Bool.false_eq_true, if_false, refusal]
  | fragment id text =>
      simp only [Mapper.add, Mapper.addFragment, Mapper.error, ← tracks.document] at refused
      split at refused
      · cases refused
      · next full =>
          have stays := Index.insert_of_mem tracks.fragments (Table.mem_keys_of_add?_eq_none full) text
          cases refused
          simp only [add, addFragment, stays, Bool.false_eq_true, if_false, refusal]
  | statement it =>
      simp only [Mapper.add, Mapper.addStatement, Mapper.error, ← tracks.document] at refused
      split at refused
      · cases refused
      · next full =>
          obtain ⟨known, found⟩ := Option.isSome_iff_exists.mp
            ((m.statements.has_eq_true_iff it.id).mpr (Table.mem_keys_of_add?_eq_none full))
          have known : r.find? it.id = some known := (tracks.find?_eq distinct it.id).trans found
          cases refused
          simp only [add, addStatement, known, refusal]

/-- One addition, taken in or not, keeps the indexes in step. -/
theorem add (a : Addition) :
    (r.add a).1 = (m.add a).map (fun _ => ()) ∧ Tracks (r.add a).2 (m.after a) := by
  cases outcome : m.add a with
  | ok next =>
      obtain ⟨done, shown⟩ := tracks.add_ok distinct outcome
      rw [Mapper.after, outcome]
      exact ⟨done, shown⟩
  | error e =>
      have refused := tracks.add_error distinct outcome
      rw [Mapper.after_eq_of_error outcome, add_eq_of_error r refused]
      exact ⟨refused, tracks⟩

theorem run (calls : List Addition) : Tracks (r.run calls) (m.run calls) := by
  induction calls generalizing r m with
  | nil => exact tracks
  | cons a rest ih => exact ih (tracks.add distinct a).2 (Mapper.distinct_after distinct a)

end Tracks

theorem tracks_empty (space document : String) :
    Tracks (.empty document) (.empty space document) :=
  ⟨rfl, ⟨rfl, fun _ => rfl⟩, fun _ => rfl, ⟨rfl, fun _ => rfl⟩, fun _ => ⟨rfl, fun _ => rfl⟩⟩

theorem tracks_built (space document : String) (calls : List Addition) :
    Tracks ((Registry.empty document).run calls) (Mapper.built space document calls) :=
  (tracks_empty space document).run (Mapper.distinct_empty space document) calls

end Registry

namespace Mapper

/-- All tables and lookups of a mapper agree. -/
structure Consistent (m : Mapper) : Prop where
  shapes : m.resultMaps.Sound
  fragments : m.fragments.Sound
  statements : ∀ kind, (m.tableOf kind).Sound
  shapeIds : ∀ id shape, m.resultMaps.get? id = some shape ↔
    shape ∈ m.resultMaps.values ∧ shape.id = id
  shapeTypes : ∀ type shape, m.shapeOfType? type = some shape ↔
    shape ∈ m.resultMaps.values ∧ shape.type = type
  own : ∀ kind id statement, (m.tableOf kind).get? id = some statement →
    statement.kind = kind ∧ statement.id = id
  apart : ∀ kind other id, id ∈ (m.tableOf kind).keys → id ∈ (m.tableOf other).keys → kind = other
  found : ∀ id statement, m.statement? id = some statement ↔
    ∃ kind, (m.tableOf kind).get? id = some statement
  counted : m.statementCount = (StatementKind.all.map fun kind => (m.tableOf kind).keys.length).sum

theorem consistent_of_distinct {m : Mapper} (distinct : Distinct m) (keyed : Keyed m) :
    Consistent m where
  shapes := Table.sound_of_nodup distinct.shapeIds
  fragments := Table.sound_of_nodup distinct.fragmentIds
  statements := fun kind => Table.sound_of_nodup (nodup_keys_tableOf distinct kind)
  shapeIds := by
    intro id shape
    rw [Table.get?_eq_some_iff distinct.shapeIds, Table.values, List.mem_map]
    constructor
    · intro listed
      exact ⟨⟨_, listed, rfl⟩, (keyed.shapes _ listed).symm⟩
    · rintro ⟨⟨⟨key, _⟩, listed, rfl⟩, rfl⟩
      exact keyed.shapes _ listed ▸ listed
  shapeTypes := shapeOfType?_eq_some_iff distinct
  own := by
    intro kind id it found
    rw [Table.get?_eq_some_iff (nodup_keys_tableOf distinct kind), tableOf, List.mem_filter] at found
    obtain ⟨listed, spelled⟩ := found
    exact ⟨beq_iff_eq.mp spelled, (keyed.statements _ listed).symm⟩
  apart := fun _ _ _ first second => kind_eq_of_mem_keys distinct first second
  found := by
    intro id it
    constructor
    · intro found
      exact ⟨it.kind, (statement?_eq_some_iff distinct id it).mp found⟩
    · rintro ⟨kind, found⟩
      rw [get?_tableOf distinct, Option.filter_eq_some_iff] at found
      exact found.1
  counted := by
    simp only [statementCount_eq, Table.size, Table.keys, List.length_map]

variable (space document : String) (calls : List Addition)

theorem statementCount_built : (built space document calls).statementCount =
    ((successes space document calls).filterMap Addition.statement?).length := by
  rw [statementCount, Table.size, entries_statements_built, List.length_map]

theorem built_concat (a : Addition) :
    built space document (calls ++ [a]) = (built space document calls).after a := by
  have run_concat (m : Mapper) : m.run (calls ++ [a]) = (m.run calls).after a := by
    induction calls generalizing m with
    | nil => rfl
    | cons first rest ih => exact ih (m.after first)
  exact run_concat _

/-- After any calls all tables and lookups agree, the statements are those whose calls succeeded,
and the indexes that are changed in place show the same. One call more has the same outcome on
either; if it fails, it has changed nothing. -/
theorem built_consistent (space document : String) (calls : List Addition) :
    let m := built space document calls
    let r := (Registry.empty document).run calls
    Consistent m ∧
      m.statementCount = ((successes space document calls).filterMap Addition.statement?).length ∧
      r.Tracks m ∧ (∀ id, r.find? id = m.statement? id) ∧ r.statementCount = m.statementCount ∧
      ∀ a, (r.add a).1 = (m.add a).map (fun _ => ()) ∧
        ∀ e, m.add a = .error e → (r.add a).2 = r ∧ built space document (calls ++ [a]) = m := by
  intro m r
  have distinct := distinct_built space document calls
  have tracks := Registry.tracks_built space document calls
  refine ⟨consistent_of_distinct distinct (keyed_built ..), statementCount_built .., tracks,
    tracks.find?_eq distinct, tracks.statementCount_eq, ?_⟩
  intro a
  refine ⟨(tracks.add distinct a).1, ?_⟩
  intro e failed
  constructor
  · exact Registry.add_eq_of_error r (tracks.add_error distinct failed)
  · rw [built_concat]
    exact after_eq_of_error failed

end Mapper
end SqlMapper
