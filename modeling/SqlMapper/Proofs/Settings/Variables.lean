import SqlMapper.Proofs.Lookup
import SqlMapper.Settings.Variables

/-!
What an environment holds after a file of variables was put into it. Of a file the last entry of a
name counts, if an environment can hold it. When a file is added, the variables that were there come
before those of the file; when its variables replace others, those of the file come first.
-/

namespace SqlMapper.Variables

/-- The value that a file of variables gives a name. -/
def lastValue? (entries : List (String × String)) (name : String) : Option String :=
  (entries.reverse.lookup name).filter fun value => isStorable (name, value)

theorem lookup_set (name value : String) (environment : List (String × String)) (other : String) :
    (set name value environment).lookup other =
      if other = name then some value else environment.lookup other := by
  rw [set, lookup_cons_ite, lookup_filter_ne]
  by_cases same : other = name
  · simp [same]
  · simp [same]

/-- What is set last counts, and what is not set at all stays. -/
theorem lookup_foldl_set (entries environment : List (String × String)) (name : String) :
    (entries.foldl (fun known entry => set entry.1 entry.2 known) environment).lookup name =
      (entries.reverse.lookup name).or (environment.lookup name) := by
  induction entries generalizing environment with
  | nil => rfl
  | cons first rest ih =>
      rw [List.foldl_cons, ih, lookup_set, List.reverse_cons, List.lookup_append, Option.or_assoc,
        lookup_cons_ite]
      by_cases same : name = first.1
      · simp [same]
      · simp [same]

theorem nodup_set (name value : String) {environment : List (String × String)}
    (unique : (environment.map Prod.fst).Nodup) :
    ((set name value environment).map Prod.fst).Nodup := by
  rw [set, List.map_cons, List.nodup_cons]
  constructor
  · simp
  · exact unique.sublist (List.filter_sublist.map Prod.fst)

theorem nodup_foldl_set (entries : List (String × String)) {environment : List (String × String)}
    (unique : (environment.map Prod.fst).Nodup) :
    ((entries.foldl (fun known entry => set entry.1 entry.2 known) environment).map
      Prod.fst).Nodup := by
  induction entries generalizing environment with
  | nil => exact unique
  | cons first rest ih =>
      apply ih
      exact nodup_set first.1 first.2 unique

theorem lookup_lastValues (entries : List (String × String)) (name : String) :
    (lastValues entries).lookup name = lastValue? entries name := by
  have unique := @nodup_foldl_set entries [] (by simp)
  rw [lastValues, lookup_filter_of_nodup isStorable unique, lookup_foldl_set]
  simp [lastValue?]

theorem nodup_lastValues (entries : List (String × String)) :
    ((lastValues entries).map Prod.fst).Nodup := by
  have unique := @nodup_foldl_set entries [] (by simp)
  exact unique.sublist (List.filter_sublist.map Prod.fst)

theorem lookup_addOne (known : List (String × String)) (entry : String × String) (name : String) :
    (if known.any fun old => old.1 == entry.1 then known else known ++ [entry]).lookup name =
      (known.lookup name).or ([entry].lookup name) := by
  split
  · next there =>
      obtain ⟨old, member, same⟩ := List.any_eq_true.mp there
      rw [lookup_cons_ite]
      by_cases here : name = entry.1
      · have held : (known.lookup name).isSome := by
          rw [List.lookup_isSome_iff]
          exact ⟨old, member, beq_iff_eq.mpr (here.trans (beq_iff_eq.mp same).symm)⟩
        obtain ⟨value, found⟩ := Option.isSome_iff_exists.mp held
        simp [found]
      · simp [here]
  · rw [List.lookup_append]

/-- Adding keeps the variables that are there. -/
theorem lookup_addAll (environment more : List (String × String)) (name : String) :
    (addAll environment more).lookup name =
      (environment.lookup name).or (lastValue? more name) := by
  rw [← lookup_lastValues, addAll]
  induction lastValues more generalizing environment with
  | nil => simp
  | cons first rest ih =>
      rw [List.foldl_cons, ih, lookup_addOne, Option.or_assoc, ← List.lookup_append,
        List.singleton_append]

/-- Replacing prefers the variables of the file. -/
theorem lookup_replaceAll (environment more : List (String × String)) (name : String) :
    (replaceAll environment more).lookup name =
      (lastValue? more name).or (environment.lookup name) := by
  rw [replaceAll, lookup_foldl_set, lookup_reverse_of_nodup (nodup_lastValues more),
    lookup_lastValues]

end SqlMapper.Variables
