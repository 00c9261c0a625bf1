import Mathlib.Data.List.Nodup
import SqlMapper.Mapper.Document

/-!
What makes the inside of a document readable. A body is read from the elements that are reached
through `if` and `trim` alone, a shape from its `result` elements; each reader succeeds exactly if
those carry what they need, and then it finds what they stand for. What it finds is said here without
the log and without failures.
-/

namespace SqlMapper.Mapper

open Xml (Content Element)

section Readers

variable {α β : Type}

/-- A reader that succeeds exactly if all is `ready`, finds `value` then, and calls the document
malformed otherwise. -/
structure Gives (x : Reading α) (ready : Prop) (value : α) : Prop where
  ok_iff : ∀ result, x.outcome = .ok result ↔ ready ∧ result = value
  malformed : ∀ e, x.outcome = .error e → e.complaint.fault = .malformed

theorem gives_pure (value : α) : Gives (.pure value) True value where
  ok_iff := by simp [Logged.pure, eq_comm]
  malformed := by simp [Logged.pure]

theorem gives_fail {e : DocumentError} (fault : e.complaint.fault = .malformed) (value : α) :
    Gives (.fail e) False value where
  ok_iff := by simp [Logged.fail]
  malformed := by
    intro other failed
    cases failed
    exact fault

theorem gives_write (level : Log.Level) (message : String) (details : List (String × Log.Detail)) :
    Gives (.write level message details) True () where
  ok_iff := by simp [Logged.write]
  malformed := by simp [Logged.write]

/-- The second reader matters only where the first one is ready. -/
theorem gives_bind {x : Reading α} {next : α → Reading β} {first second : Prop} {a : α} {b : β}
    (one : Gives x first a) (two : first → Gives (next a) second b) :
    Gives (x.bind next) (first ∧ second) b where
  ok_iff := by
    intro result
    rw [Logged.bind_outcome_eq_ok_iff]
    constructor
    · rintro ⟨value, done, later⟩
      obtain ⟨ready, rfl⟩ := (one.ok_iff value).mp done
      obtain ⟨rest, rfl⟩ := ((two ready).ok_iff result).mp later
      exact ⟨⟨ready, rest⟩, rfl⟩
    · rintro ⟨⟨ready, rest⟩, rfl⟩
      exact ⟨a, (one.ok_iff a).mpr ⟨ready, rfl⟩, ((two ready).ok_iff _).mpr ⟨rest, rfl⟩⟩
  malformed := by
    intro e failed
    unfold Logged.bind at failed
    split at failed
    · next value done =>
        obtain ⟨ready, rfl⟩ := (one.ok_iff value).mp done
        exact (two ready).malformed e failed
    · next cause stopped =>
        cases failed
        exact one.malformed _ stopped

theorem gives_map {x : Reading α} {ready : Prop} {a : α} (f : α → β) (gives : Gives x ready a) :
    Gives (x.bind fun value => .pure (f value)) ready (f a) :=
  and_true ready ▸ gives_bind gives fun _ => gives_pure (f a)

theorem Gives.of_iff {x : Reading α} {ready other : Prop} {value : α} (gives : Gives x ready value)
    (same : ready ↔ other) : Gives x other value := by
  rwa [← propext same]

end Readers

section Attributes

def Carries (e : Element) (names : List String) : Prop :=
  ∀ name ∈ names, (e.attribute? name).isSome = true

instance (e : Element) (names : List String) : Decidable (Carries e names) :=
  inferInstanceAs (Decidable (∀ name ∈ names, _))

def valueOf (e : Element) (name : String) : String :=
  (e.attribute? name).getD ""

theorem gives_required (document owner : String) (e : Element) (name : String) :
    Gives (required document owner e name) (Carries e [name]) (valueOf e name) := by
  rw [required, valueOf]
  cases found : e.attribute? name with
  | none => exact (gives_fail rfl _).of_iff (by simp [Carries, found])
  | some value => exact (gives_pure value).of_iff (by simp [Carries, found])

end Attributes

section Bodies

/-- The elements that a body is read from: those among its contents, and those inside of an `if` or
a `trim` that it is read from. -/
inductive Reaches (contents : List Content) : Element → Prop
  | direct {e : Element} (listed : e ∈ contents.filterMap Content.element?) : Reaches contents e
  | inside {outer e : Element} (reached : Reaches contents outer)
      (opens : outer.tag = "if" ∨ outer.tag = "trim") (listed : e ∈ outer.elements) :
      Reaches contents e

/-- An element of a body that lacks nothing. -/
def Complete (e : Element) : Prop :=
  (e.tag = "if" → Carries e ["test"]) ∧ (e.tag = "include" → Carries e ["refid"])

mutual

def bodyOf : List Content → List Node
  | [] => []
  | content :: rest => prepend (nodeOf content) (bodyOf rest)

/-- The node that a content stands for, if it stands for one. -/
def nodeOf : Content → Option Node
  | .text data => if data == "" then none else some (.text data)
  | .element name attributes children =>
      let e : Element := ⟨name, attributes, children⟩
      if e.tag == "if" then some (.conditional (valueOf e "test") (bodyOf children))
      else if e.tag == "trim" then some (.trim (trimRule e) (bodyOf children))
      else if e.tag == "include" then some (.fragment (valueOf e "refid"))
      else none
  | .comment _ | .instruction .. | .directive _ => none

end

theorem not_reaches_nil {e : Element} : ¬ Reaches [] e := by
  intro reached
  induction reached with
  | direct listed => cases listed
  | inside _ _ _ ih => exact ih

theorem Reaches.mono {inner outer : List Content} (within : inner ⊆ outer) {e : Element}
    (reached : Reaches inner e) : Reaches outer e := by
  induction reached with
  | direct listed =>
      obtain ⟨content, member, found⟩ := List.mem_filterMap.mp listed
      exact .direct (List.mem_filterMap.mpr ⟨content, within member, found⟩)
  | inside _ opens listed ih => exact .inside ih opens listed

theorem reaches_cons (content : Content) (rest : List Content) (e : Element) :
    Reaches (content :: rest) e ↔ Reaches [content] e ∨ Reaches rest e := by
  constructor
  · intro reached
    induction reached with
    | direct listed =>
        obtain ⟨origin, member, found⟩ := List.mem_filterMap.mp listed
        rcases List.mem_cons.mp member with rfl | later
        · exact .inl (.direct (List.mem_filterMap.mpr ⟨origin, List.mem_singleton_self _, found⟩))
        · exact .inr (.direct (List.mem_filterMap.mpr ⟨origin, later, found⟩))
    | inside _ opens listed ih =>
        rcases ih with first | later
        · exact .inl (.inside first opens listed)
        · exact .inr (.inside later opens listed)
  · rintro (first | later)
    · exact first.mono (by simp)
    · exact later.mono (List.subset_cons_self _ _)

theorem reaches_element {name : Xml.Name} {attributes : List Xml.Attribute}
    {children : List Content} {e : Element} :
    Reaches [.element name attributes children] e ↔
      e = ⟨name, attributes, children⟩ ∨
        (name.tag = "if" ∨ name.tag = "trim") ∧ Reaches children e := by
  have itself : Reaches [.element name attributes children] ⟨name, attributes, children⟩ :=
    .direct (by simp [Content.element?])
  constructor
  · intro reached
    induction reached with
    | direct listed =>
        left
        simpa [Content.element?] using listed
    | inside _ opens listed ih =>
        right
        rcases ih with rfl | ⟨outer, within⟩
        · exact ⟨opens, .direct listed⟩
        · exact ⟨outer, .inside within opens listed⟩
  · rintro (rfl | ⟨opens, within⟩)
    · exact itself
    · induction within with
      | direct listed => exact .inside itself opens listed
      | inside _ inner listed ih => exact .inside ih inner listed

/-- What is no element leads to none. -/
theorem not_reaches_of_none (content : Content) (other : content.element? = none) {e : Element} :
    ¬ Reaches [content] e := by
  intro reached
  induction reached with
  | direct listed => simp [other] at listed
  | inside _ _ _ ih => exact ih

variable (document owner : String)

-- An element is asked for its attributes before its children are read, so what is reached is split
-- in the same way: the element itself, then what is reached inside of it.
mutual

theorem gives_body (contents : List Content) :
    Gives (body document owner contents) (∀ e, Reaches contents e → Complete e)
      (bodyOf contents) := by
  cases contents with
  | nil =>
      rw [body, bodyOf]
      exact (gives_pure []).of_iff (by simp [not_reaches_nil])
  | cons content rest =>
      rw [body, bodyOf]
      refine (gives_bind (gives_node content) fun _ => gives_map _ (gives_body rest)).of_iff ?_
      rw [← forall_and]
      refine forall_congr' fun e => ?_
      rw [reaches_cons content rest, or_imp]

theorem gives_node (content : Content) :
    Gives (node document owner content) (∀ e, Reaches [content] e → Complete e)
      (nodeOf content) := by
  cases content with
  | text data =>
      rw [node, nodeOf]
      exact (gives_pure _).of_iff (by simp [not_reaches_of_none (.text data) rfl])
  | comment data =>
      rw [node, nodeOf]
      exact (gives_pure _).of_iff (by simp [not_reaches_of_none (.comment data) rfl])
  | instruction target data =>
      rw [node, nodeOf]
      exact (gives_pure _).of_iff
        (by simp [not_reaches_of_none (.instruction target data) rfl])
  | directive data =>
      rw [node, nodeOf]
      exact (gives_pure _).of_iff (by simp [not_reaches_of_none (.directive data) rfl])
  | element name attributes children =>
      rw [node, nodeOf]
      have tag : (Element.mk name attributes children).tag = name.tag := rfl
      have itself : Complete ⟨name, attributes, children⟩ ↔
          (name.tag = "if" → Carries ⟨name, attributes, children⟩ ["test"]) ∧
            (name.tag = "include" → Carries ⟨name, attributes, children⟩ ["refid"]) := Iff.rfl
      simp only [reaches_element, forall_eq_or_imp, itself, tag]
      -- The tag decides what is required; an element of another tag is passed over.
      by_cases conditional : name.tag = "if"
      · simp only [conditional, beq_self_eq_true, if_true]
        exact (gives_bind (gives_required ..) fun _ => gives_map _ (gives_body children)).of_iff (by simp)
      by_cases trimmed : name.tag = "trim"
      · simp only [trimmed, beq_self_eq_true, if_true]
        exact (gives_map _ (gives_body children)).of_iff (by simp)
      by_cases included : name.tag = "include"
      · simp only [included, beq_self_eq_true, if_true]
        exact (gives_map _ (gives_required ..)).of_iff (by simp)
      · simp only [beq_false_of_ne conditional, beq_false_of_ne trimmed, beq_false_of_ne included,
          Bool.false_eq_true, if_false]
        exact (gives_map (fun _ => none) (gives_write ..)).of_iff
          (by simp [conditional, trimmed, included])

end

end Bodies

section Fields

/-- The attributes of one field. -/
def fieldAttributes : List String :=
  ["column", "property", "yo_type"]

def readField (e : Element) : Field :=
  .make (valueOf e "column") (valueOf e "property") (valueOf e "yo_type")

/-- The fields that the elements of a shape stand for. -/
def fieldsOf (elements : List Element) : List Field :=
  (elements.filter (·.tag == "result")).map readField

theorem carries_fieldAttributes (e : Element) :
    Carries e fieldAttributes ↔
      Carries e ["column"] ∧ Carries e ["property"] ∧ Carries e ["yo_type"] := by
  simp [Carries, fieldAttributes]

/-- What is asked of the elements of a shape when some fields are there already. -/
def Fielded (done : List Field) (elements : List Element) : Prop :=
  (∀ e ∈ elements, e.tag = "result" → Carries e fieldAttributes) ∧
    ((done ++ fieldsOf elements).map (·.property)).Nodup

theorem fielded_cons_result {done : List Field} {e : Element} (tagged : e.tag = "result")
    (rest : List Element) :
    Fielded done (e :: rest) ↔ Carries e fieldAttributes ∧ Fielded (done ++ [readField e]) rest := by
  simp [Fielded, fieldsOf, tagged, and_assoc]

theorem fielded_cons_other {done : List Field} {e : Element} (tagged : e.tag ≠ "result")
    (rest : List Element) : Fielded done (e :: rest) ↔ Fielded done rest := by
  simp [Fielded, fieldsOf, tagged]

/-- A field is taken in if its property is new. -/
theorem gives_taken (document id : String) (rest : List Element)
    (later : ∀ {done : List Field}, (done.map (·.property)).Nodup →
      Gives (fields document id done rest) (Fielded done rest) (done ++ fieldsOf rest))
    {done : List Field} (distinct : (done.map (·.property)).Nodup) (f : Field) :
    Gives (if done.any fun g => g.property == f.property then
        .fail ⟨document, "resultMap", id, .propertyMapped f.property⟩
      else fields document id (done ++ [f]) rest)
      (Fielded (done ++ [f]) rest) (done ++ [f] ++ fieldsOf rest) := by
  have known : done.any (fun g => g.property == f.property) = true ↔
      f.property ∈ done.map (·.property) := by simp
  by_cases mapped : f.property ∈ done.map (·.property)
  · rw [if_pos (known.mpr mapped)]
    refine (gives_fail rfl _).of_iff ?_
    rw [false_iff]
    rintro ⟨-, repeated⟩
    rw [List.map_append, List.map_append] at repeated
    have both := (List.nodup_append.mp repeated).1
    exact (List.nodup_append.mp both).2.2 _ mapped _ (by simp) rfl
  · rw [if_neg (mt known.mp mapped)]
    apply later
    rw [List.map_append, List.map_singleton, ← List.concat_eq_append]
    exact distinct.concat mapped

-- The properties of the fields so far are compared with each new one, so their list stays distinct.
theorem gives_fields (document id : String) (elements : List Element) {done : List Field}
    (distinct : (done.map (·.property)).Nodup) :
    Gives (fields document id done elements) (Fielded done elements)
      (done ++ fieldsOf elements) := by
  induction elements generalizing done with
  | nil =>
      rw [fields, fieldsOf, List.filter_nil, List.map_nil, List.append_nil]
      exact (gives_pure done).of_iff (by simp [Fielded, fieldsOf, distinct])
  | cons e rest ih =>
      rw [fields]
      by_cases tagged : e.tag = "result"
      · rw [if_pos (beq_iff_eq.mpr tagged)]
        have listed : fieldsOf (e :: rest) = readField e :: fieldsOf rest := by
          simp [fieldsOf, tagged]
        have last := gives_taken document id rest ih distinct (readField e)
        rw [listed, List.append_cons]
        refine (gives_bind (gives_required ..) fun _ => gives_bind (gives_required ..) fun _ =>
          gives_bind (gives_required ..) fun _ => last).of_iff ?_
        rw [fielded_cons_result tagged, carries_fieldAttributes, and_assoc, and_assoc]
      · rw [if_neg (by simpa using tagged)]
        have skipped : fieldsOf (e :: rest) = fieldsOf rest := by simp [fieldsOf, tagged]
        rw [skipped]
        exact (gives_bind (gives_write ..) fun _ => ih distinct).of_iff
          (by rw [true_and, fielded_cons_other tagged])

end Fields

end SqlMapper.Mapper
