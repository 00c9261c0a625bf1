import SqlMapper.Proofs.Outcome
import SqlMapper.Proofs.Records

/-!
Typing of records. A record that starts as a new one of its shape and goes through any calls, also ones
that fail, keeps the properties of the shape and holds under each of them a value of the kind of its
field. A call that fails leaves the record as it is, and a call that succeeds changes one property.
-/

namespace SqlMapper

namespace Record

/-- The properties that have a value, in the order of their values. -/
def keys (r : Record) : List String :=
  r.entries.map (·.1)

/-- The values that a field can hold: those of its kind, and the missing text if the kind is unknown. -/
def Holds : FieldKind → Value → Prop
  | .integer, value => ∃ n, value = .int n
  | .floatingPoint, value => ∃ x, value = .float x
  | .text, value => ∃ content, value = .text content
  | .unknown, value => value = .text none

/-- One call on a record that is kept: what is left of the record, and the complaint if it fails. -/
def call (shape : ResultMap) (r : Record) (property raw : String) : Record × Option SetError :=
  match r.set shape property raw with
  | .ok next => (next, none)
  | .error cause => (r, some cause)

/-- A new record after calls, of which any may fail. -/
def afterCalls (shape : ResultMap) (calls : List (String × String)) : Record :=
  calls.foldl (fun r next => (r.call shape next.1 next.2).1) (ofShape shape)

/-- The complaints about a text: the shape has no such property, the text is no number although the
field holds numbers, or the kind of the field is unknown. -/
inductive Refused (shape : ResultMap) (property raw : String) : SetError → Prop where
  | noField (foreign : ∀ f ∈ shape.fields, f.property ≠ property) :
      Refused shape property raw (.noField shape.type property)
  | notInteger {f : Field} {cause : Number.ReadError} (found : shape.field? property = some f)
      (kind : f.kind = .integer) (other : raw ≠ "null")
      (unread : Number.readInteger raw = .error cause) :
      Refused shape property raw (.notInteger property raw cause)
  | notNumber {f : Field} {cause : Number.ReadError} (found : shape.field? property = some f)
      (kind : f.kind = .floatingPoint) (other : raw ≠ "null")
      (unread : Number.readFloat raw = .error cause) :
      Refused shape property raw (.notNumber property raw cause)
  | unsupported {f : Field} (found : shape.field? property = some f) (kind : f.kind = .unknown)
      (other : raw ≠ "null") : Refused shape property raw (.unsupported property)

/-- The record has the properties of the shape, each with a value that its field can hold. -/
structure Typed (shape : ResultMap) (r : Record) : Prop where
  keys : r.keys = shape.fields.map (·.property)
  holds : ∀ f ∈ shape.fields, ∃ value, r.get? f.property = some value ∧ Holds f.kind value

/-- What a call does: it fails for one of the reasons above and for no other, and then leaves the record
as it is, or it gives its property a value that the field can hold, and changes nothing else. -/
structure Settles (shape : ResultMap) (r : Record) (property raw : String) : Prop where
  failed : ∀ cause, (r.call shape property raw).2 = some cause ↔ Refused shape property raw cause
  unchanged : (r.call shape property raw).2 ≠ none → (r.call shape property raw).1 = r
  changed : (r.call shape property raw).2 = none →
    (∃ f ∈ shape.fields, f.property = property ∧ ∃ value,
      (r.call shape property raw).1.get? property = some value ∧ Holds f.kind value) ∧
    ∀ other, other ≠ property → (r.call shape property raw).1.get? other = r.get? other

variable {shape : ResultMap} {r : Record} {property raw : String}

section Keys

theorem keys_put_of_mem (value : Value) (held : property ∈ r.keys) :
    (r.put property value).keys = r.keys := by
  obtain ⟨entries⟩ := r
  show (putEntry property value entries).map Prod.fst = entries.map Prod.fst
  replace held : property ∈ entries.map Prod.fst := held
  induction entries with
  | nil => cases held
  | cons entry rest ih =>
      by_cases here : entry.1 = property
      · simp [putEntry, here]
      · have later : property ∈ rest.map Prod.fst :=
          (List.mem_cons.mp held).resolve_left (Ne.symm here)
        simp [putEntry, here, ih later]

theorem keys_put_of_not_mem (value : Value) (absent : property ∉ r.keys) :
    (r.put property value).keys = r.keys ++ [property] := by
  obtain ⟨entries⟩ := r
  show (putEntry property value entries).map Prod.fst = entries.map Prod.fst ++ [property]
  replace absent : property ∉ entries.map Prod.fst := absent
  induction entries with
  | nil => rfl
  | cons entry rest ih =>
      obtain ⟨other, later⟩ := not_or.mp (mt List.mem_cons.mpr absent)
      simp [putEntry, Ne.symm other, ih later]

/-- Missing values that are put under new and distinct properties add these in their order. -/
theorem keys_foldl_put (fields : List Field) (r : Record)
    (distinct : (r.keys ++ fields.map (·.property)).Nodup) :
    (fields.foldl (fun r f => r.put f.property (missing f.kind)) r).keys =
      r.keys ++ fields.map (·.property) := by
  induction fields generalizing r with
  | nil => simp
  | cons first rest ih =>
      have fresh : first.property ∉ r.keys := by
        intro held
        exact (List.nodup_append.mp distinct).2.2 _ held _ List.mem_cons_self rfl
      have grown := keys_put_of_not_mem (missing first.kind) fresh
      have split : r.keys ++ (first :: rest).map (·.property) =
          (r.put first.property (missing first.kind)).keys ++ rest.map (·.property) := by
        rw [grown, List.map_cons, List.append_assoc, List.singleton_append]
      rw [List.foldl_cons, split, ih]
      exact split ▸ distinct

end Keys

section Calls

theorem holds_missing (kind : FieldKind) : Holds kind (missing kind) := by
  cases kind with
  | integer | floatingPoint | text => exact ⟨_, rfl⟩
  | unknown => rfl

theorem holds_of_kind {value : Value} {kind : FieldKind} (same : value.kind = kind) :
    Holds kind value := by
  subst same
  cases value <;> exact ⟨_, rfl⟩

/-- What is read for a field can be held by it; for an unknown kind only the word null is read. -/
theorem holds_read {f : Field} {value : Value} (done : read f raw = .ok value) :
    Holds f.kind value := by
  by_cases known : f.kind = .unknown
  · unfold read at done
    simp only [known] at done ⊢
    split at done
    · cases done
      rfl
    · cases done
  · exact holds_of_kind (kind_read known done)

theorem property_of_field? {f : Field} (found : shape.field? property = some f) :
    f.property = property := by
  simpa using List.find?_some found

/-- A call succeeds with a property of the shape, and puts a value there that its field can hold. -/
theorem set_eq_ok {next : Record} (done : r.set shape property raw = .ok next) :
    ∃ f ∈ shape.fields, f.property = property ∧ ∃ value, Holds f.kind value ∧
      next = r.put property value := by
  unfold set at done
  split at done
  · cases done
  · next f found =>
      obtain ⟨value, isRead, rfl⟩ := (Outcome.map_eq_ok_iff _ _ _).mp done
      exact ⟨f, List.mem_of_find?_eq_some found, property_of_field? found, value,
        holds_read isRead, rfl⟩

theorem refused_of_read {f : Field} {cause : SetError} (found : shape.field? property = some f)
    (unread : read f raw = .error cause) : Refused shape property raw cause := by
  have named := property_of_field? found
  unfold read at unread
  split at unread
  · cases unread
  · next filled =>
      have other : raw ≠ "null" := by simpa using filled
      cases kind : f.kind with
      | integer =>
          simp only [kind] at unread
          split at unread
          · cases unread
          · next unread' =>
              cases unread
              exact named ▸ .notInteger (named ▸ found) kind other unread'
      | floatingPoint =>
          simp only [kind] at unread
          split at unread
          · cases unread
          · next unread' =>
              cases unread
              exact named ▸ .notNumber (named ▸ found) kind other unread'
      | text =>
          simp only [kind] at unread
          cases unread
      | unknown =>
          simp only [kind] at unread
          cases unread
          exact named ▸ .unsupported (named ▸ found) kind other

theorem set_eq_error_iff (cause : SetError) :
    r.set shape property raw = .error cause ↔ Refused shape property raw cause := by
  constructor
  · intro failed
    unfold set at failed
    split at failed
    · next absent =>
        cases failed
        refine .noField fun f listed same => ?_
        have differs := List.find?_eq_none.mp absent f listed
        simp [same] at differs
    · next f found =>
        cases isRead : read f raw with
        | ok value =>
            rw [isRead] at failed
            cases failed
        | error other =>
            rw [isRead] at failed
            cases failed
            exact refused_of_read found isRead
  · intro refused
    cases refused with
    | noField foreign =>
        have absent : shape.field? property = none := by
          rw [ResultMap.field?, List.find?_eq_none]
          intro f listed
          simpa using foreign f listed
        simp [set, absent]
    | notInteger found kind other unread =>
        simp [set, found, read, kind, other, unread, property_of_field? found, Except.map]
    | notNumber found kind other unread =>
        simp [set, found, read, kind, other, unread, property_of_field? found, Except.map]
    | unsupported found kind other =>
        simp [set, found, read, kind, other, property_of_field? found, Except.map]

theorem call_eq_some_iff (cause : SetError) :
    (r.call shape property raw).2 = some cause ↔ r.set shape property raw = .error cause := by
  unfold call
  cases r.set shape property raw <;> simp

theorem call_cases (shape : ResultMap) (r : Record) (property raw : String) :
    (∃ cause, r.call shape property raw = (r, some cause) ∧ Refused shape property raw cause) ∨
      ∃ f ∈ shape.fields, f.property = property ∧ ∃ value, Holds f.kind value ∧
        r.call shape property raw = (r.put property value, none) := by
  unfold call
  cases done : r.set shape property raw with
  | error cause => exact .inl ⟨cause, rfl, (set_eq_error_iff cause).mp done⟩
  | ok next =>
      obtain ⟨f, listed, named, value, held, rfl⟩ := set_eq_ok done
      exact .inr ⟨f, listed, named, value, held, rfl⟩

end Calls

section Runs

theorem typed_ofShape (distinct : (shape.fields.map (·.property)).Nodup) :
    Typed shape (ofShape shape) where
  keys := keys_foldl_put shape.fields empty distinct
  holds := by
    intro f listed
    rcases get?_foldl_put shape.fields empty f.property with ⟨_, apart⟩ | ⟨g, other, named, held⟩
    · exact absurd rfl (apart f listed)
    · obtain rfl := List.inj_on_of_nodup_map distinct other listed named
      exact ⟨_, held, holds_missing g.kind⟩

/-- A value that the field of its property can hold keeps the record typed. -/
theorem Typed.put (typed : Typed shape r) (distinct : (shape.fields.map (·.property)).Nodup)
    {f : Field} (listed : f ∈ shape.fields) {value : Value} (held : Holds f.kind value) :
    Typed shape (r.put f.property value) where
  keys := by
    rw [keys_put_of_mem value, typed.keys]
    rw [typed.keys]
    exact List.mem_map_of_mem listed
  holds := by
    intro g other
    by_cases same : g.property = f.property
    · obtain rfl := List.inj_on_of_nodup_map distinct other listed same
      exact ⟨value, by simp, held⟩
    · obtain ⟨old, found, fits⟩ := typed.holds g other
      exact ⟨old, by simp [same, found], fits⟩

theorem Typed.call (typed : Typed shape r) (distinct : (shape.fields.map (·.property)).Nodup)
    (property raw : String) : Typed shape (r.call shape property raw).1 := by
  rcases call_cases shape r property raw with ⟨cause, kept, _⟩ | ⟨f, listed, rfl, value, held, done⟩
  · rw [kept]
    exact typed
  · rw [done]
    exact typed.put distinct listed held

theorem typed_afterCalls (distinct : (shape.fields.map (·.property)).Nodup)
    (calls : List (String × String)) : Typed shape (afterCalls shape calls) := by
  unfold afterCalls
  generalize start : ofShape shape = r
  have typed : Typed shape r := start ▸ typed_ofShape distinct
  clear start
  induction calls generalizing r with
  | nil => exact typed
  | cons next rest ih => exact ih _ (typed.call distinct next.1 next.2)

theorem settles (shape : ResultMap) (r : Record) (property raw : String) :
    Settles shape r property raw where
  failed := fun cause => (call_eq_some_iff cause).trans (set_eq_error_iff cause)
  unchanged := by
    intro failed
    rcases call_cases shape r property raw with ⟨cause, kept, _⟩ | ⟨f, _, _, value, _, done⟩
    · rw [kept]
    · rw [done] at failed
      exact absurd rfl failed
  changed := by
    intro succeeded
    rcases call_cases shape r property raw with ⟨cause, kept, _⟩ | ⟨f, listed, named, value, held, done⟩
    · rw [kept] at succeeded
      cases succeeded
    · rw [done]
      exact ⟨⟨f, listed, named, value, by simp, held⟩, fun other apart => by simp [apart]⟩

end Runs

end Record

end SqlMapper
