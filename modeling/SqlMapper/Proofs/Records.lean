import Mathlib.Data.List.Nodup
import SqlMapper.Sql.Record
import SqlMapper.Table

/-!
Records of a shape: those that are reached from a new record by setting properties. They hold a
value of the right kind for each field, and no other values.
-/

namespace SqlMapper

def Value.kind : Value → FieldKind
  | .int _ => .integer
  | .float _ => .floatingPoint
  | .text _ => .text

/-- With distinct properties, a field is found by its property. -/
theorem ResultMap.field?_of_mem {shape : ResultMap} {f : Field}
    (distinct : (shape.fields.map (·.property)).Nodup) (listed : f ∈ shape.fields) :
    shape.field? f.property = some f :=
  find?_key_of_mem distinct listed

namespace Record

/-- The record holds a value of the right kind for each field. -/
def Fits (record : Record) (shape : ResultMap) : Prop :=
  ∀ f ∈ shape.fields, ∃ value, record.get? f.property = some value ∧ value.kind = f.kind

/-- Setting a property either fails, which leaves the record as it is, or gives the next record. -/
inductive Reached (shape : ResultMap) : Record → Prop where
  | new : Reached shape (ofShape shape)
  | set {before after : Record} {property raw : String} (earlier : Reached shape before)
      (done : before.set shape property raw = .ok after) : Reached shape after

theorem lookup_putEntry (entries : List (String × Value)) (property name : String) (value : Value) :
    (putEntry property value entries).lookup name =
      if name = property then some value else entries.lookup name := by
  induction entries with
  | nil =>
      by_cases same : name = property
      · simp [putEntry, same]
      · have other : (name == property) = false := beq_false_of_ne same
        simp [putEntry, List.lookup_cons, same, other]
  | cons entry rest ih =>
      rcases entry with ⟨key, old⟩
      rw [putEntry]
      by_cases here : key = property
      · by_cases same : name = property
        · simp [here, same]
        · have other : (name == property) = false := beq_false_of_ne same
          simp [here, List.lookup_cons, same, other]
      · rw [if_neg (by simpa using here), List.lookup_cons, List.lookup_cons, ih]
        by_cases this : name = key
        · simp [this, here]
        · have other : (name == key) = false := beq_false_of_ne this
          simp [other]

@[simp]
theorem get?_put (record : Record) (property name : String) (value : Value) :
    (record.put property value).get? name =
      if name = property then some value else record.get? name :=
  lookup_putEntry record.entries property name value

/-- The missing value of a known kind is of that kind. -/
theorem kind_missing {kind : FieldKind} (known : kind ≠ .unknown) : (missing kind).kind = kind := by
  cases kind with
  | unknown => exact absurd rfl known
  | integer | floatingPoint | text => rfl

theorem kind_read {f : Field} {raw : String} {value : Value} (known : f.kind ≠ .unknown)
    (done : read f raw = .ok value) : value.kind = f.kind := by
  unfold read at done
  split at done
  · cases done
    exact kind_missing known
  split at done
  · next kind =>
      split at done
      · cases done
        exact kind.symm
      · cases done
  · next kind =>
      split at done
      · cases done
        exact kind.symm
      · cases done
  · next kind =>
      cases done
      exact kind.symm
  · cases done

/-- What a chain of insertions of missing values leaves under a name: the last one there, or what
was there before. -/
theorem get?_foldl_put (fields : List Field) (record : Record) (name : String) :
    ((fields.foldl (fun r f => r.put f.property (missing f.kind)) record).get? name =
        record.get? name ∧ ∀ f ∈ fields, f.property ≠ name) ∨
      ∃ f ∈ fields, f.property = name ∧
        (fields.foldl (fun r f => r.put f.property (missing f.kind)) record).get? name =
          some (missing f.kind) := by
  induction fields generalizing record with
  | nil => exact .inl ⟨rfl, by simp⟩
  | cons first rest ih =>
      rw [List.foldl_cons]
      rcases ih (record.put first.property (missing first.kind)) with ⟨same, apart⟩ | ⟨f, listed, named, held⟩
      · rw [same, get?_put]
        by_cases here : name = first.property
        · refine .inr ⟨first, List.mem_cons_self, here.symm, ?_⟩
          rw [if_pos here]
        · refine .inl ⟨if_neg here, ?_⟩
          rw [List.forall_mem_cons]
          exact ⟨fun equal => here equal.symm, apart⟩
      · exact .inr ⟨f, List.mem_cons_of_mem first listed, named, held⟩

variable {shape : ResultMap} {record : Record}

/-- The value under a name is of the kind of a field of that name. -/
theorem field_of_reached (known : ∀ f ∈ shape.fields, f.kind ≠ .unknown)
    (reached : Reached shape record) (name : String) :
    (record.get? name = none ∧ ∀ f ∈ shape.fields, f.property ≠ name) ∨
      ∃ f ∈ shape.fields, f.property = name ∧
        ∃ value, record.get? name = some value ∧ value.kind = f.kind := by
  induction reached with
  | new =>
      rcases get?_foldl_put shape.fields empty name with ⟨absent, apart⟩ | ⟨f, listed, named, held⟩
      · exact .inl ⟨absent, apart⟩
      · exact .inr ⟨f, listed, named, _, held, kind_missing (known f listed)⟩
  | @set before after property raw _ done ih =>
      unfold set at done
      split at done
      · cases done
      · next f found =>
          obtain ⟨value, isRead, rfl⟩ : ∃ value, read f raw = .ok value ∧ before.put property value = after := by
            cases isRead : read f raw with
            | error cause => rw [isRead] at done; cases done
            | ok value => rw [isRead] at done; cases done; exact ⟨value, rfl, rfl⟩
          have listed := List.mem_of_find?_eq_some found
          have named : f.property = property := by simpa using List.find?_some found
          rw [get?_put]
          by_cases here : name = property
          · rw [if_pos here]
            exact .inr ⟨f, listed, named.trans here.symm, value, rfl, kind_read (known f listed) isRead⟩
          · rw [if_neg here]
            exact ih

theorem fits_of_reached (known : ∀ f ∈ shape.fields, f.kind ≠ .unknown)
    (distinct : (shape.fields.map (·.property)).Nodup) (reached : Reached shape record) :
    record.Fits shape := by
  intro f listed
  rcases field_of_reached known reached f.property with ⟨_, apart⟩ | ⟨g, other, named, held⟩
  · exact absurd rfl (apart f listed)
  · rwa [List.inj_on_of_nodup_map distinct other listed named] at held

/-- A name that is no property has no value. -/
theorem get?_of_reached (known : ∀ f ∈ shape.fields, f.kind ≠ .unknown)
    (reached : Reached shape record) {name : String} (foreign : ∀ f ∈ shape.fields, f.property ≠ name) :
    record.get? name = none := by
  rcases field_of_reached known reached name with ⟨absent, _⟩ | ⟨f, listed, named, _⟩
  · exact absent
  · exact absurd named (foreign f listed)

end Record
end SqlMapper
