/-!
Tables keyed by name that remember the order of insertion. A key is inserted once: a second
insertion is refused and changes nothing, so the keys of a table stay distinct.
-/
namespace SqlMapper

structure Table (α : Type) where
  entries : List (String × α) := []

/-- With distinct keys, a value is found by its key. -/
theorem find?_key_of_mem {α : Type} {key : α → String} {values : List α}
    (distinct : (values.map key).Nodup) {a : α} (listed : a ∈ values) :
    values.find? (fun b => key b == key a) = some a := by
  induction values with
  | nil => cases listed
  | cons first rest ih =>
      rw [List.map_cons, List.nodup_cons] at distinct
      rcases List.mem_cons.mp listed with rfl | later
      · simp
      · have other : (key first == key a) = false := by
          apply beq_false_of_ne
          intro same
          exact distinct.1 (same ▸ List.mem_map_of_mem later)
        rw [List.find?_cons, other]
        exact ih distinct.2 later

namespace Table

variable {α : Type}

def empty : Table α :=
  ⟨[]⟩

def keys (t : Table α) : List String :=
  t.entries.map (·.1)

def values (t : Table α) : List α :=
  t.entries.map (·.2)

def size (t : Table α) : Nat :=
  t.entries.length

def get? (t : Table α) (key : String) : Option α :=
  t.entries.lookup key

def has (t : Table α) (key : String) : Bool :=
  (t.get? key).isSome

/-- The table with one entry more, unless the key is taken. -/
def add? (t : Table α) (key : String) (value : α) : Option (Table α) :=
  if t.has key then none else some ⟨t.entries ++ [(key, value)]⟩

/-- The keys are the names under which something is found. -/
theorem has_eq_true_iff (t : Table α) (key : String) : t.has key = true ↔ key ∈ t.keys := by
  rcases t with ⟨entries⟩
  simp only [has, get?, keys]
  induction entries with
  | nil => simp
  | cons entry rest ih =>
      rw [List.lookup_cons]
      by_cases same : key = entry.1
      · simp [same]
      · have other : (key == entry.1) = false := by simp [same]
        simp [other, ih, same]

theorem get?_of_mem {t : Table α} (distinct : t.keys.Nodup) {key : String} {value : α}
    (listed : (key, value) ∈ t.entries) : t.get? key = some value := by
  rcases t with ⟨entries⟩
  simp only [get?, keys] at distinct ⊢
  induction entries with
  | nil => cases listed
  | cons entry rest ih =>
      rw [List.map_cons, List.nodup_cons] at distinct
      rw [List.lookup_cons]
      rcases List.mem_cons.mp listed with rfl | later
      · simp
      · have other : (key == entry.1) = false := by
          apply beq_false_of_ne
          rintro rfl
          exact distinct.1 (List.mem_map.mpr ⟨_, later, rfl⟩)
        rw [other]
        exact ih distinct.2 later

/-- An insertion succeeds exactly if the key is not taken. -/
theorem add?_eq_some_iff (t u : Table α) (key : String) (value : α) :
    t.add? key value = some u ↔ key ∉ t.keys ∧ u = ⟨t.entries ++ [(key, value)]⟩ := by
  rw [← has_eq_true_iff]
  unfold add?
  split
  · next taken => simp [taken]
  · next free =>
      rw [Option.some.injEq]
      exact ⟨fun same => ⟨free, same.symm⟩, fun found => found.2.symm⟩

end Table
end SqlMapper
