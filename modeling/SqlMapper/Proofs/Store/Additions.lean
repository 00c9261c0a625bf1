import Mathlib.Algebra.GroupWithZero.Nat
import SqlMapper.Proofs.Document.Acceptance

/-!
Mappers that are built by additions alone. An addition that is refused is passed over, so the tables
list what the other additions bring, in the order in which they came; all lookups then find exactly
what is listed.
-/

namespace SqlMapper

/-- One addition to a mapper. -/
inductive Addition where
  | resultMap (shape : ResultMap)
  | fragment (id text : String)
  | statement (statement : Statement)

namespace Addition

def shape? : Addition → Option ResultMap
  | .resultMap shape => some shape
  | _ => none

def fragment? : Addition → Option (String × String)
  | .fragment id text => some (id, text)
  | _ => none

def statement? : Addition → Option Statement
  | .statement it => some it
  | _ => none

end Addition

namespace Table

variable {α : Type}

/-- Nothing is listed twice, what is found is what is listed, and the values come in the order of
their keys. -/
structure Sound (t : Table α) : Prop where
  distinct : t.keys.Nodup
  found_iff : ∀ key, (t.get? key).isSome = true ↔ key ∈ t.keys
  values_follow : t.keys.map t.get? = t.values.map some

theorem sound_of_nodup {t : Table α} (distinct : t.keys.Nodup) : t.Sound where
  distinct := distinct
  found_iff := t.has_eq_true_iff
  values_follow := by
    rw [keys, values, List.map_map, List.map_map]
    apply List.map_congr_left
    rintro ⟨key, value⟩ listed
    exact get?_of_mem distinct listed

theorem get?_eq_some_iff {t : Table α} (distinct : t.keys.Nodup) (key : String) (value : α) :
    t.get? key = some value ↔ (key, value) ∈ t.entries := by
  constructor
  · intro found
    obtain ⟨entry, listed, rfl⟩ := List.mem_map.mp ((t.has_eq_true_iff key).mp (by
      rw [has, found]
      rfl))
    rw [get?_of_mem distinct listed, Option.some.injEq] at found
    exact found ▸ listed
  · exact get?_of_mem distinct

theorem mem_keys_of_add?_eq_none {t : Table α} {key : String} {value : α}
    (refused : t.add? key value = none) : key ∈ t.keys := by
  by_contra free
  rw [(add?_eq_some_iff t _ key value).mpr ⟨free, rfl⟩] at refused
  cases refused

end Table

namespace Mapper

def add (m : Mapper) : Addition → Except DocumentError Mapper
  | .resultMap shape => m.addResultMap shape
  | .fragment id text => m.addFragment id text
  | .statement statement => m.addStatement statement

/-- The mapper after an addition; one that is refused leaves it as it is. -/
def after (m : Mapper) (a : Addition) : Mapper :=
  match m.add a with
  | .ok next => next
  | .error _ => m

def run : Mapper → List Addition → Mapper
  | m, [] => m
  | m, a :: rest => (m.after a).run rest

/-- The additions that are not refused. -/
def taken : Mapper → List Addition → List Addition
  | _, [] => []
  | m, a :: rest =>
      match m.add a with
      | .ok next => a :: next.taken rest
      | .error _ => m.taken rest

/-- A mapper with what some additions bring behind what it has. -/
def listing (m : Mapper) (additions : List Addition) : Mapper :=
  { m with
    resultMaps := ⟨m.resultMaps.entries ++
      (additions.filterMap Addition.shape?).map fun shape => (shape.id, shape)⟩
    fragments := ⟨m.fragments.entries ++ additions.filterMap Addition.fragment?⟩
    statements := ⟨m.statements.entries ++
      (additions.filterMap Addition.statement?).map fun statement => (statement.id, statement)⟩ }

section Steps

variable {m next : Mapper} {a : Addition}

theorem listing_nil (m : Mapper) : m.listing [] = m := by
  simp [listing]

theorem listing_append (m : Mapper) (first second : List Addition) :
    (m.listing first).listing second = m.listing (first ++ second) := by
  simp only [listing, List.filterMap_append, List.map_append, List.append_assoc]

/-- An addition that is taken in keeps everything distinct, and brings itself. -/
theorem add_eq_ok (distinct : Distinct m) (taken : m.add a = .ok next) :
    Distinct next ∧ next = m.listing [a] := by
  -- What each kind of addition brings is known from the reading of documents.
  have read {listed : Mapper} (gives : Gives (.ofExcept (m.add a)) (Distinct listed) listed) :
      Distinct next ∧ next = listed := by
    obtain ⟨whole, same⟩ := (gives.ok_iff next).mp taken
    exact ⟨same ▸ whole, same⟩
  cases a with
  | resultMap shape =>
      refine read (gives_addResultMap distinct shape ?_)
      simp [listing, List.filterMap, Addition.shape?, Addition.fragment?, Addition.statement?]
  | fragment id text =>
      refine read (gives_addFragment distinct id text ?_)
      simp [listing, List.filterMap, Addition.shape?, Addition.fragment?, Addition.statement?]
  | statement it =>
      refine read (gives_addStatement distinct it ?_)
      simp [listing, List.filterMap, Addition.shape?, Addition.fragment?, Addition.statement?]

theorem after_eq_of_error {e : DocumentError} (refused : m.add a = .error e) : m.after a = m := by
  rw [after, refused]

theorem distinct_after (distinct : Distinct m) (a : Addition) : Distinct (m.after a) := by
  cases outcome : m.add a with
  | error e => rwa [after_eq_of_error outcome]
  | ok next =>
      rw [after, outcome]
      exact (add_eq_ok distinct outcome).1

end Steps

/-- After any additions everything is still distinct, and exactly what was taken in is listed. -/
theorem run_eq_listing {m : Mapper} (distinct : Distinct m) (calls : List Addition) :
    Distinct (m.run calls) ∧ m.run calls = m.listing (m.taken calls) := by
  induction calls generalizing m with
  | nil => exact ⟨distinct, (listing_nil m).symm⟩
  | cons a rest ih =>
      obtain ⟨whole, listed⟩ := ih (distinct_after distinct a)
      refine ⟨whole, ?_⟩
      rw [run, listed, taken]
      cases outcome : m.add a with
      | error e => rw [after_eq_of_error outcome]
      | ok next =>
          obtain ⟨_, same⟩ := add_eq_ok distinct outcome
          have first : m.after a = next := by rw [after, outcome]
          rw [first]
          calc next.listing (next.taken rest)
              = (m.listing [a]).listing (next.taken rest) := congrArg (listing · _) same
            _ = m.listing (a :: next.taken rest) := listing_append m [a] _

section Built

variable (space document : String) (calls : List Addition)

def built : Mapper :=
  (Mapper.empty space document).run calls

def successes : List Addition :=
  (Mapper.empty space document).taken calls

theorem distinct_built : Distinct (built space document calls) :=
  (run_eq_listing (distinct_empty space document) calls).1

theorem built_eq : built space document calls =
    (Mapper.empty space document).listing (successes space document calls) :=
  (run_eq_listing (distinct_empty space document) calls).2

theorem document_built : (built space document calls).document = document := by
  rw [built_eq]
  rfl

theorem entries_resultMaps_built : (built space document calls).resultMaps.entries =
    ((successes space document calls).filterMap Addition.shape?).map
      fun shape => (shape.id, shape) := by
  rw [built_eq]
  exact List.nil_append _

theorem entries_statements_built : (built space document calls).statements.entries =
    ((successes space document calls).filterMap Addition.statement?).map
      fun statement => (statement.id, statement) := by
  rw [built_eq]
  exact List.nil_append _

theorem values_resultMaps_built : (built space document calls).resultMaps.values =
    (successes space document calls).filterMap Addition.shape? := by
  simp [Table.values, entries_resultMaps_built, Function.comp_def]

theorem values_statements_built : (built space document calls).statements.values =
    (successes space document calls).filterMap Addition.statement? := by
  simp [Table.values, entries_statements_built, Function.comp_def]

end Built

section Lookups

def tableOf (m : Mapper) (kind : StatementKind) : Table Statement :=
  ⟨m.statements.entries.filter fun entry => entry.2.kind == kind⟩

theorem values_tableOf (m : Mapper) (kind : StatementKind) :
    (m.tableOf kind).values = m.statementsOf kind := by
  rw [statementsOf, Table.values, Table.values, tableOf, List.filter_map]
  rfl

theorem nodup_keys_tableOf {m : Mapper} (distinct : Distinct m) (kind : StatementKind) :
    (m.tableOf kind).keys.Nodup :=
  distinct.statementIds.sublist (List.filter_sublist.map _)

/-- A statement that is put behind the others is behind those of its kind. -/
theorem tableOf_of_new (m : Mapper) (statement : Statement) (kind : StatementKind) :
    tableOf { m with statements := ⟨m.statements.entries ++ [(statement.id, statement)]⟩ } kind =
      if kind = statement.kind then ⟨(m.tableOf kind).entries ++ [(statement.id, statement)]⟩
      else m.tableOf kind := by
  by_cases own : kind = statement.kind
  · subst own
    simp [tableOf]
  · have other : (statement.kind == kind) = false := beq_false_of_ne (Ne.symm own)
    simp [tableOf, own, other]

theorem shapeOfType?_of_new {m : Mapper} {shape : ResultMap}
    (fresh : m.shapeOfType? shape.type = none) (type : String) :
    shapeOfType? { m with resultMaps := ⟨m.resultMaps.entries ++ [(shape.id, shape)]⟩ } type =
      if type = shape.type then some shape else m.shapeOfType? type := by
  have split : shapeOfType? { m with resultMaps := ⟨m.resultMaps.entries ++ [(shape.id, shape)]⟩ }
      type = (m.shapeOfType? type).or (if shape.type == type then some shape else none) := by
    simp [shapeOfType?, Table.values, List.find?_append]
  rw [split]
  by_cases own : type = shape.type
  · subst own
    simp [fresh]
  · simp [own, Ne.symm own]

/-- Shapes and statements are listed under their own ids. -/
structure Keyed (m : Mapper) : Prop where
  shapes : ∀ entry ∈ m.resultMaps.entries, entry.1 = entry.2.id
  statements : ∀ entry ∈ m.statements.entries, entry.1 = entry.2.id

theorem keyed_built (space document : String) (calls : List Addition) :
    Keyed (built space document calls) where
  shapes := by
    rw [entries_resultMaps_built]
    exact List.forall_mem_map.mpr fun _ _ => rfl
  statements := by
    rw [entries_statements_built]
    exact List.forall_mem_map.mpr fun _ _ => rfl

variable {m : Mapper} (distinct : Distinct m)

include distinct

theorem shapeOfType?_eq_some_iff (type : String) (shape : ResultMap) :
    m.shapeOfType? type = some shape ↔ shape ∈ m.resultMaps.values ∧ shape.type = type := by
  constructor
  · intro found
    have same := List.find?_some found
    exact ⟨List.mem_of_find?_eq_some found, beq_iff_eq.mp same⟩
  · rintro ⟨listed, rfl⟩
    exact find?_key_of_mem distinct.shapeTypes listed

/-- The table of a kind finds what the mapper finds, if it is of that kind. -/
theorem get?_tableOf (kind : StatementKind) (id : String) :
    (m.tableOf kind).get? id = (m.statement? id).filter (·.kind == kind) := by
  have members (statement : Statement) : (m.tableOf kind).get? id = some statement ↔
      m.statement? id = some statement ∧ statement.kind = kind := by
    rw [statement?, Table.get?_eq_some_iff distinct.statementIds,
      Table.get?_eq_some_iff (nodup_keys_tableOf distinct kind), tableOf, List.mem_filter, beq_iff_eq]
  apply Option.ext
  intro statement
  rw [members, Option.filter_eq_some_iff, beq_iff_eq]

/-- A statement is found by its id exactly if it is listed with its kind. -/
theorem statement?_eq_some_iff (id : String) (statement : Statement) :
    m.statement? id = some statement ↔
      (m.tableOf statement.kind).get? id = some statement := by
  rw [get?_tableOf distinct, Option.filter_eq_some_iff, beq_self_eq_true, and_iff_left rfl]

/-- An id stands in the table of one kind at most. -/
theorem kind_eq_of_mem_keys {kind other : StatementKind} {id : String}
    (first : id ∈ (m.tableOf kind).keys) (second : id ∈ (m.tableOf other).keys) :
    kind = other := by
  rw [← Table.has_eq_true_iff, Table.has, get?_tableOf distinct, Option.isSome_iff_exists]
    at first second
  obtain ⟨it, here⟩ := first
  obtain ⟨again, there⟩ := second
  rw [Option.filter_eq_some_iff, beq_iff_eq] at here there
  obtain ⟨found, rfl⟩ := here
  obtain ⟨refound, rfl⟩ := there
  rw [Option.some.inj (found.symm.trans refound)]

end Lookups

theorem statementCount_eq (m : Mapper) :
    m.statementCount = ((StatementKind.all.map fun kind => (m.tableOf kind).size)).sum := by
  have split (entries : List (String × Statement)) : entries.length =
      (StatementKind.all.map fun kind =>
        (entries.filter fun entry => entry.2.kind == kind).length).sum := by
    induction entries with
    | nil => rfl
    | cons entry rest ih =>
        rw [List.length_cons, ih]
        cases spelled : entry.2.kind <;>
          simp [StatementKind.all, List.filter_cons, spelled] <;> omega
  exact split m.statements.entries

end Mapper
end SqlMapper
