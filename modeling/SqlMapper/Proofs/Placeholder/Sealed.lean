import SqlMapper.Proofs.Placeholder.Seams
import SqlMapper.Proofs.Preparation

/-!
Bodies that are accepted piece by piece. A sealed text ends outside of any placeholder and in no hash,
so it can stand in front of anything; where all pieces are sealed, also behind what a trim removes,
the walk over a body has nothing to refuse.
-/

namespace SqlMapper.Placeholder

open Code

section Texts

variable {shape : ResultMap}

/-- All placeholders are closed and name fields, and no other one begins at the end. -/
structure Sealed (shape : ResultMap) (text : List Char) : Prop where
  closed : closed text = true
  known : ∀ name ∈ names text, (shape.field? name).isSome = true
  ends : text.getLast? ≠ some '#'

theorem sealed_nil : Sealed shape [] :=
  ⟨rfl, by simp [names, scan], by simp⟩

theorem sealed_append {first second : List Char} (left : Sealed shape first)
    (right : Sealed shape second) : Sealed shape (first ++ second) := by
  have apart : first.getLast? = some '#' → second.head? ≠ some '{' := fun last => absurd last left.ends
  refine ⟨?_, ?_, ?_⟩
  · rw [closed_append first second left.closed apart]
    exact right.closed
  · rw [names_append first second left.closed apart, List.forall_mem_append]
    exact ⟨left.known, right.known⟩
  · cases second with
    | nil =>
        rw [List.append_nil]
        exact left.ends
    | cons c rest =>
        rw [List.getLast?_append_of_ne_nil _ (List.cons_ne_nil c rest)]
        exact right.ends

/-- A text in which no placeholder opens, whatever follows it, is sealed. -/
theorem sealed_clear {text : List Char} (kept : Sql.clear text = true) : Sealed shape text := by
  have scanned : scan none text = ([], true) ∧ text.getLast? ≠ some '#' := by
    induction text with
    | nil => exact ⟨rfl, by simp⟩
    | cons c rest ih =>
        rw [Sql.clear, Bool.and_eq_true] at kept
        obtain ⟨later, last⟩ := ih kept.2
        have unbraced : c = '#' → rest.head?.any (· != '{') = true := by
          rintro rfl
          simpa using kept.1
        constructor
        · rw [scan_none_cons c rest, later]
          intro hash brace
          simpa [brace] using unbraced hash
        · cases rest with
          | nil =>
              intro hash
              simpa using unbraced (by simpa using hash)
          | cons d more => rwa [List.getLast?_cons_cons]
  obtain ⟨read, last⟩ := scanned
  exact ⟨by rw [closed, read], by simp [names, read], last⟩

theorem sealed_placeholder {name : List Char} (inside : '}' ∉ name)
    (found : (shape.field? (String.ofList name)).isSome = true) :
    Sealed shape ('#' :: '{' :: (name ++ ['}'])) := by
  have read (before : List Char) : scan (some before) (name ++ ['}']) =
      ([String.ofList (before.reverse ++ name)], true) := by
    clear found
    induction name generalizing before with
    | nil => simp [scan]
    | cons c rest ih =>
        have other : c ≠ '}' := fun same => inside (same ▸ List.mem_cons_self)
        rw [List.cons_append, scan, if_neg other, ih fun later => inside (List.mem_cons_of_mem c later)]
        simp
  have whole : scan none ('#' :: '{' :: (name ++ ['}'])) = ([String.ofList name], true) := by
    rw [scan, read]
    rfl
  refine ⟨by rw [closed, whole], ?_, ?_⟩
  · rw [names, whole]
    exact List.forall_mem_singleton.mpr found
  · simp [List.getLast?_cons]

theorem sealed_intercalate {between : List Char} (separates : Sealed shape between)
    {pieces : List (List Char)} (each : ∀ piece ∈ pieces, Sealed shape piece) :
    Sealed shape (between.intercalate pieces) := by
  induction pieces with
  | nil => exact sealed_nil
  | cons first rest ih =>
      obtain ⟨here, later⟩ := List.forall_mem_cons.mp each
      cases rest with
      | nil => simpa using here
      | cons second rest =>
          rw [List.intercalate_cons_cons]
          exact sealed_append (sealed_append here separates) (ih later)

end Texts

section Walks

variable {m : Mapper} {statement : Statement} {shape : ResultMap} {strip : Stripping}

/-- A literal is walked over from a text that ends in no hash to another one. -/
def PassesPiece (m : Mapper) (statement : Statement) (shape : ResultMap) (strip : Stripping)
    (text : String) : Prop :=
  ∀ count, ∃ next, walkPiece m statement shape strip ⟨false, count⟩ text = .ok ⟨false, next⟩

/-- A body is walked over from a text that ends in no hash to another one. -/
def Passes (m : Mapper) (statement : Statement) (shape : ResultMap) (strip : Stripping)
    (body : List Node) : Prop :=
  ∀ count, ∃ next, walkBody m statement shape strip ⟨false, count⟩ body = .ok ⟨false, next⟩

theorem passesPiece_of_sealed {text : String} (isSealed : Sealed shape text.toList)
    (ends : strip.endsHash text.toList = false) : PassesPiece m statement shape strip text := by
  intro count
  have known : (names text.toList).find? (fun name => (shape.field? name).isNone) = none := by
    rw [List.find?_eq_none]
    intro name listed
    simpa [Option.isSome_iff_ne_none] using isSealed.known name listed
  have read : literalNames m statement shape text = .ok (names text.toList) := by
    simp [literalNames, placeholders_eq, isSealed.closed, known]
  unfold walkPiece
  split
  · exact ⟨count, rfl⟩
  · exact ⟨count + (names text.toList).length, by simp [read, ends, Except.map]⟩

theorem passesPiece_none {text : String} (isSealed : Sealed shape text.toList) :
    PassesPiece m statement shape .none text := by
  refine passesPiece_of_sealed isSealed ?_
  rw [← Bool.not_eq_true, endsHash_none]
  exact isSealed.ends

theorem passes_nil : Passes m statement shape strip [] :=
  fun count => ⟨count, rfl⟩

theorem passes_text {text : String} {rest : List Node}
    (here : PassesPiece m statement shape strip text) (later : Passes m statement shape strip rest) :
    Passes m statement shape strip (.text text :: rest) := by
  intro count
  obtain ⟨middle, passed⟩ := here count
  obtain ⟨next, success⟩ := later middle
  exact ⟨next, by rw [walkBody, walkNode, passed, Except.bind, success]⟩

theorem passes_fragment {reference text : String} {rest : List Node}
    (found : m.fragmentText statement reference = .ok text)
    (here : PassesPiece m statement shape strip text) (later : Passes m statement shape strip rest) :
    Passes m statement shape strip (.fragment reference :: rest) := by
  intro count
  obtain ⟨middle, passed⟩ := here count
  obtain ⟨next, success⟩ := later middle
  exact ⟨next, by rw [walkBody, walkNode, found, Except.bind, passed, Except.bind, success]⟩

theorem passes_conditional {test : String} {body rest : List Node}
    (inside : Passes m statement shape strip body) (later : Passes m statement shape strip rest) :
    Passes m statement shape strip (.conditional test body :: rest) := by
  intro count
  obtain ⟨middle, passed⟩ := inside count
  obtain ⟨next, success⟩ := later middle
  exact ⟨next, by rw [walkBody, walkNode, passed, Except.map, Except.bind, Bool.or_false, success]⟩

theorem passes_trim {rule : TrimRule} {body rest : List Node}
    (opens : PassesPiece m statement shape strip rule.opening)
    (inside : Passes m statement shape (strip.under rule) body)
    (closes : PassesPiece m statement shape strip rule.closing)
    (later : Passes m statement shape strip rest) :
    Passes m statement shape strip (.trim rule body :: rest) := by
  intro count
  obtain ⟨opened, first⟩ := opens count
  obtain ⟨inner, within⟩ := inside opened
  obtain ⟨middle, last⟩ := closes inner
  obtain ⟨next, success⟩ := later middle
  exact ⟨next, by rw [walkBody, walkNode, first, Except.bind, within, Except.bind, last, Except.bind,
    success]⟩

theorem placeholderSlots_of_passes (passes : Passes m statement shape .none statement.body) :
    ∃ count, placeholderSlots m statement shape = .ok count := by
  obtain ⟨next, success⟩ := passes 0
  exact ⟨next, by rw [placeholderSlots, success, Except.map]⟩

end Walks

end SqlMapper.Placeholder
