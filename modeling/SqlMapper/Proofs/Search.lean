import Mathlib.Data.List.Infix
import SqlMapper.Text.Search

/-!
What a search in a text finds. The cut is made at the first occurrence, none is made where the
needle does not occur, and nothing that is put behind an occurrence makes an earlier one.
-/

namespace SqlMapper.Text

variable {needle text before after : List Char}

/-- A text parted at the first place where a needle stands. -/
structure FirstAt (needle text before after : List Char) : Prop where
  whole : text = before ++ needle ++ after
  first : ∀ sooner later, text = sooner ++ needle ++ later → before.length ≤ sooner.length

theorem FirstAt.stands (first : FirstAt needle text before after) : needle <:+: text :=
  ⟨before, after, first.whole.symm⟩

theorem FirstAt.unique {other rest : List Char} (first : FirstAt needle text before after)
    (second : FirstAt needle text other rest) : before = other ∧ after = rest := by
  have lengths : before.length = other.length :=
    Nat.le_antisymm (first.first _ _ second.whole) (second.first _ _ first.whole)
  have same : before ++ (needle ++ after) = other ++ (needle ++ rest) := by
    rw [← List.append_assoc, ← List.append_assoc, ← first.whole, ← second.whole]
  obtain ⟨fronts, backs⟩ := List.append_inj same lengths
  exact ⟨fronts, List.append_cancel_left backs⟩

/-- Where a needle does not stand in front, its first place in the rest is the first of all. -/
theorem FirstAt.cons {c : Char} {rest : List Char} (first : FirstAt needle rest before after)
    (apart : ¬ needle <+: c :: rest) : FirstAt needle (c :: rest) (c :: before) after where
  whole := by rw [first.whole, List.cons_append, List.cons_append]
  first := by
    intro sooner later same
    cases sooner with
    | nil => exact absurd ⟨later, same.symm⟩ apart
    | cons d sooner =>
        have tails : rest = sooner ++ needle ++ later := by
          simpa using (List.cons.inj same).2
        simpa using first.first sooner later tails

theorem cut_spec (needle text : List Char) :
    match cut needle text with
    | some found => FirstAt needle text found.1 found.2
    | none => ¬ needle <:+: text := by
  induction text with
  | nil =>
      cases needle with
      | nil => exact ⟨rfl, fun _ _ _ => Nat.zero_le _⟩
      | cons c rest => simp [cut]
  | cons c rest ih =>
      rw [cut]
      cases here : needle.isPrefixOf? (c :: rest) with
      | some after =>
          have whole : needle ++ after = c :: rest :=
            List.isPrefixOf?_eq_some_iff_append_eq.mp here
          exact ⟨whole.symm, fun _ _ _ => Nat.zero_le _⟩
      | none =>
          have apart : ¬ needle <+: c :: rest := by
            rintro ⟨after, whole⟩
            rw [List.isPrefixOf?_eq_some_iff_append_eq.mpr whole] at here
            cases here
          cases later : cut needle rest with
          | some found =>
              rw [later] at ih
              exact ih.cons apart
          | none =>
              rw [later] at ih
              simp only [Option.map_none, List.infix_cons_iff, not_or]
              exact ⟨apart, ih⟩

theorem cut_eq_some_iff : cut needle text = some (before, after) ↔
    FirstAt needle text before after := by
  have spec := cut_spec needle text
  cases found : cut needle text with
  | none =>
      rw [found] at spec
      constructor
      · intro some
        cases some
      · intro first
        exact absurd first.stands spec
  | some parts =>
      rw [found] at spec
      constructor
      · intro same
        cases same
        exact spec
      · intro first
        obtain ⟨fronts, backs⟩ := spec.unique first
        exact congrArg some (Prod.ext fronts backs)

theorem occurs_eq_true_iff : occurs needle text = true ↔ needle <:+: text := by
  have spec := cut_spec needle text
  unfold occurs
  cases found : cut needle text with
  | none =>
      rw [found] at spec
      simpa using spec
  | some parts =>
      rw [found] at spec
      simpa using spec.stands

theorem exists_firstAt (occurring : needle <:+: text) :
    ∃ before after, FirstAt needle text before after := by
  obtain ⟨parts, found⟩ := Option.isSome_iff_exists.mp (occurs_eq_true_iff.mpr occurring)
  exact ⟨parts.1, parts.2, cut_eq_some_iff.mp found⟩

/-- The first occurrence stays the first one, whatever is put behind it. -/
theorem FirstAt.behind (first : FirstAt needle text before after) (rest : List Char) :
    FirstAt needle (before ++ needle ++ rest) before rest where
  whole := rfl
  first := by
    intro sooner later same
    by_contra shorter
    rw [Nat.not_le] at shorter
    -- An earlier occurrence would end before the first one does, so it would be in the old text.
    have front : before ++ needle <+: before ++ needle ++ rest := List.prefix_append _ _
    have within : sooner ++ needle <+: before ++ needle := by
      refine List.prefix_of_prefix_length_le ⟨later, same.symm⟩ front ?_
      simp only [List.length_append]
      omega
    obtain ⟨between, split⟩ := within
    have whole : text = sooner ++ needle ++ (between ++ after) := by
      rw [first.whole, ← split, List.append_assoc]
    exact absurd (first.first _ _ whole) (Nat.not_le.mpr shorter)

/-- A word cannot reach over a character that it does not hold. -/
theorem infix_separated_iff {separator : Char} (absent : separator ∉ needle) :
    needle <:+: before ++ separator :: after ↔ needle <:+: before ∨ needle <:+: after := by
  constructor
  · intro occurring
    rcases List.infix_append_iff.mp occurring with left | right | ⟨front, back, rfl, reaches, begins⟩
    · exact .inl left
    · rcases List.infix_cons_iff.mp right with start | inside
      · cases needle with
        | nil => exact .inl List.nil_infix
        | cons c rest =>
            obtain ⟨rfl, _⟩ := List.cons_prefix_cons.mp start
            exact absurd List.mem_cons_self absent
      · exact .inr inside
    · cases back with
      | nil =>
          rw [List.append_nil]
          exact .inl reaches.isInfix
      | cons c rest =>
          obtain ⟨rfl, _⟩ := List.cons_prefix_cons.mp begins
          exact absurd (List.mem_append_right front List.mem_cons_self) absent
  · rintro (left | right)
    · exact left.trans (List.prefix_append _ _).isInfix
    · exact right.trans ((List.suffix_cons separator after).trans (List.suffix_append _ _)).isInfix

end SqlMapper.Text
