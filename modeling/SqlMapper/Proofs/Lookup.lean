import Mathlib.Data.List.Nodup

/-!
Looking names up in a list of names and values: the first entry of a name counts. Where no name
occurs twice the order of the entries does not matter, and a value is found among the entries that
pass a test exactly if it passes itself.
-/

namespace SqlMapper

variable {α : Type}

theorem lookup_cons_ite (entry : String × α) (rest : List (String × α)) (name : String) :
    (entry :: rest).lookup name = if name = entry.1 then some entry.2 else rest.lookup name := by
  rcases entry with ⟨known, held⟩
  rw [List.lookup_cons]
  by_cases same : name = known
  · simp [same]
  · simp [beq_false_of_ne same, same]

theorem lookup_filter_ne (entries : List (String × α)) (key other : String) :
    (entries.filter fun entry => entry.1 != key).lookup other =
      if other = key then none else entries.lookup other := by
  induction entries with
  | nil => simp
  | cons first rest ih =>
      by_cases here : first.1 = key
      · rw [List.filter_cons_of_neg (by simp [here]), ih, lookup_cons_ite, here]
        split <;> rfl
      · rw [List.filter_cons_of_pos (by simpa using here), lookup_cons_ite, ih, lookup_cons_ite]
        by_cases same : other = first.1
        · simp [same, here]
        · simp [same]

theorem lookup_eq_none_of_not_mem {entries : List (String × α)} {name : String}
    (absent : name ∉ entries.map Prod.fst) : entries.lookup name = none := by
  apply List.lookup_eq_none_iff.mpr
  intro entry member
  have differs : name ≠ entry.1 := by
    intro same
    exact absent (List.mem_map.mpr ⟨entry, member, same.symm⟩)
  simpa using differs

theorem lookup_filter_of_nodup (keep : String × α → Bool) {entries : List (String × α)}
    (unique : (entries.map Prod.fst).Nodup) (name : String) :
    (entries.filter keep).lookup name =
      (entries.lookup name).filter fun value => keep (name, value) := by
  induction entries with
  | nil => rfl
  | cons first rest ih =>
      rcases first with ⟨known, held⟩
      obtain ⟨fresh, unique⟩ := List.nodup_cons.mp unique
      have found := ih unique
      by_cases same : name = known
      · subst name
        rw [lookup_eq_none_of_not_mem fresh] at found
        cases kept : keep (known, held) with
        | true => simp [Option.filter, kept]
        | false => simpa [List.filter_cons, Option.filter, kept] using found
      · rw [List.filter_cons]
        split <;> simpa [lookup_cons_ite, same] using found

theorem lookup_reverse_of_nodup {entries : List (String × α)}
    (unique : (entries.map Prod.fst).Nodup) (name : String) :
    entries.reverse.lookup name = entries.lookup name := by
  induction entries with
  | nil => rfl
  | cons first rest ih =>
      obtain ⟨fresh, unique⟩ := List.nodup_cons.mp unique
      rw [List.reverse_cons, List.lookup_append, ih unique, lookup_cons_ite, lookup_cons_ite]
      by_cases same : name = first.1
      · subst name
        simp [lookup_eq_none_of_not_mem fresh]
      · simp [same]

end SqlMapper
