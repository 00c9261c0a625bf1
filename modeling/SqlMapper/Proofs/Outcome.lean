import Mathlib.Data.List.Forall2
import SqlMapper.Log.Entry

/-!
When a chain of steps succeeds: each step does, and the outcome is that of the last one.
-/

namespace SqlMapper.Outcome

variable {ε δ α β : Type}

theorem bind_eq_ok_iff (first : Except ε α) (next : α → Except ε β) (result : β) :
    first.bind next = .ok result ↔ ∃ value, first = .ok value ∧ next value = .ok result := by
  cases first <;> simp [Except.bind]

theorem map_eq_ok_iff (first : Except ε α) (f : α → β) (result : β) :
    first.map f = .ok result ↔ ∃ value, first = .ok value ∧ f value = result := by
  cases first <;> simp [Except.map]

theorem bind_eq_error_iff (first : Except ε α) (next : α → Except ε β) (cause : ε) :
    first.bind next = .error cause ↔
      first = .error cause ∨ ∃ value, first = .ok value ∧ next value = .error cause := by
  cases first <;> simp [Except.bind]

theorem map_eq_error_iff (first : Except ε α) (f : α → β) (cause : ε) :
    first.map f = .error cause ↔ first = .error cause := by
  cases first <;> simp [Except.map]

theorem mapError_eq_ok_iff (first : Except ε α) (f : ε → δ) (result : α) :
    first.mapError f = .ok result ↔ first = .ok result := by
  cases first with
  | error cause =>
      have failed : (Except.error cause : Except ε α).mapError f = .error (f cause) := rfl
      simp [failed]
  | ok value =>
      have kept : (Except.ok value : Except ε α).mapError f = .ok value := rfl
      simp [kept]

theorem mapError_eq_error_iff (first : Except ε α) (f : ε → δ) (cause : δ) :
    first.mapError f = .error cause ↔ ∃ origin, first = .error origin ∧ f origin = cause := by
  cases first with
  | error origin =>
      have failed : (Except.error origin : Except ε α).mapError f = .error (f origin) := rfl
      simp [failed]
  | ok value =>
      have kept : (Except.ok value : Except ε α).mapError f = .ok value := rfl
      simp [kept]

/-- Outcomes with the same image have failed alike, or are both results with the same image. -/
theorem map_eq_map_cases {f : α → β} {first second : Except ε α}
    (same : first.map f = second.map f) :
    (∃ cause, first = .error cause ∧ second = .error cause) ∨
      ∃ a b, first = .ok a ∧ second = .ok b ∧ f a = f b := by
  cases first with
  | error cause =>
      cases second with
      | error other =>
          cases same
          exact .inl ⟨cause, rfl, rfl⟩
      | ok b => cases same
  | ok a =>
      cases second with
      | error other => cases same
      | ok b => exact .inr ⟨a, b, rfl, rfl, Except.ok.inj same⟩

theorem bind_outcome (first : Logged ε α) (next : α → Logged ε β) :
    (first.bind next).outcome = first.outcome.bind fun value => (next value).outcome := by
  unfold Logged.bind
  cases first.outcome <;> rfl

theorem log_bind {first : Logged ε α} {value : α} (done : first.outcome = .ok value)
    (next : α → Logged ε β) : (first.bind next).log = first.log ++ (next value).log := by
  simp [Logged.bind, done]

theorem mapList_eq_ok_iff (f : α → Logged ε β) (items : List α) (results : List β) :
    (Logged.mapList f items).outcome = .ok results ↔
      List.Forall₂ (fun item result => (f item).outcome = .ok result) items results := by
  induction items generalizing results with
  | nil =>
      rw [List.forall₂_nil_left_iff]
      constructor
      · intro same
        cases same
        rfl
      · rintro rfl
        rfl
  | cons first rest ih =>
      simp only [Logged.mapList, Logged.bind_outcome_eq_ok_iff, ih, List.forall₂_cons_left_iff]
      constructor
      · rintro ⟨head, done, tail, others, same⟩
        cases same
        exact ⟨head, tail, done, others, rfl⟩
      · rintro ⟨head, tail, done, others, rfl⟩
        exact ⟨head, done, tail, others, rfl⟩

-- The steps are independent of one another, so each has its own outcome in the list.
theorem mapList_member (f : α → Logged ε β) (items : List α) (results : List β)
    (success : (Logged.mapList f items).outcome = .ok results) (item : α) (member : item ∈ items) :
    ∃ result ∈ results, (f item).outcome = .ok result := by
  rw [mapList_eq_ok_iff] at success
  induction success with
  | nil => cases member
  | cons done _ ih =>
      rcases List.mem_cons.mp member with rfl | later
      · exact ⟨_, List.mem_cons_self, done⟩
      · obtain ⟨result, listed, made⟩ := ih later
        exact ⟨result, List.mem_cons_of_mem _ listed, made⟩

theorem mapList_source {f : α → Logged ε β} {items : List α} {results : List β} {result : β}
    (success : (Logged.mapList f items).outcome = .ok results) (member : result ∈ results) :
    ∃ item ∈ items, (f item).outcome = .ok result := by
  rw [mapList_eq_ok_iff] at success
  induction success with
  | nil => cases member
  | cons done _ ih =>
      rcases List.mem_cons.mp member with rfl | later
      · exact ⟨_, List.mem_cons_self, done⟩
      · obtain ⟨item, listed, made⟩ := ih later
        exact ⟨item, List.mem_cons_of_mem _ listed, made⟩

/-- Steps that all succeed log one after the other. -/
theorem log_mapList {f : α → Logged ε β} {items : List α} {results : List β}
    (success : (Logged.mapList f items).outcome = .ok results) :
    (Logged.mapList f items).log = items.flatMap fun item => (f item).log := by
  induction items generalizing results with
  | nil => rfl
  | cons first rest ih =>
      simp only [Logged.mapList, Logged.bind_outcome_eq_ok_iff] at success
      obtain ⟨head, done, tail, others, _⟩ := success
      rw [Logged.mapList, log_bind done, log_bind others, ih others]
      simp [Logged.pure]

end SqlMapper.Outcome
