import SqlMapper.Code.Slots
import SqlMapper.Proofs.Placeholder.Scan
import SqlMapper.Proofs.Rendering

/-!
The walk over a body looks at every literal that can be emitted: each is closed, names fields only,
and is counted. What one record makes a body emit is therefore never more than what was counted.
-/

namespace SqlMapper.Placeholder

open Code Outcome Sql

/-- A literal whose placeholders are closed and name fields. -/
def Checked (shape : ResultMap) (literal : String) : Prop :=
  closed literal.toList = true ∧ ∀ name ∈ names literal.toList, (shape.field? name).isSome

/-- The placeholders of several literals, one literal after the other. -/
def literalsNames (literals : List String) : List String :=
  literals.flatMap fun literal => names literal.toList

variable {m : Mapper} {statement : Statement} {shape : ResultMap} {strip : Stripping}

section Steps

theorem literalNames_eq_ok (literal : String) (found : List String)
    (success : literalNames m statement shape literal = .ok found) :
    Checked shape literal ∧ found = names literal.toList := by
  rw [literalNames, placeholders_eq] at success
  simp only at success
  split at success
  · cases success
  · next ended =>
      split at success
      · cases success
      · next none =>
          cases success
          refine ⟨⟨by simpa using ended, ?_⟩, rfl⟩
          intro name member
          have known := List.find?_eq_none.mp none name member
          simpa [Option.isSome_iff_ne_none] using known

/-- One literal: it is counted, and the hash flag says whether it may end in a hash. An empty one
changes nothing. -/
theorem walkPiece_eq_ok (walk next : Walk) (literal : String)
    (success : walkPiece m statement shape strip walk literal = .ok next) :
    Checked shape literal ∧ next.count = walk.count + (names literal.toList).length ∧
      (literal = "" ∧ next.hash = walk.hash ∨
        literal ≠ "" ∧ next.hash = strip.endsHash literal.toList ∧
          (walk.hash = true → strip.startsBrace literal.toList = false)) := by
  unfold walkPiece at success
  split at success
  · next empty =>
      have empty : literal = "" := by simpa using empty
      subst literal
      cases success
      exact ⟨⟨rfl, by simp [names, scan]⟩, rfl, .inl ⟨rfl, rfl⟩⟩
  · next written =>
      have written : literal ≠ "" := by simpa using written
      split at success
      · cases success
      · next apart =>
          obtain ⟨found, listed, rfl⟩ := (map_eq_ok_iff _ _ _).mp success
          obtain ⟨checked, rfl⟩ := literalNames_eq_ok literal found listed
          refine ⟨checked, rfl, .inr ⟨written, rfl, ?_⟩⟩
          intro hash
          simpa [hash] using apart

theorem walkBody_cons_eq_ok (walk next : Walk) (node : Node) (rest : List Node) :
    walkBody m statement shape strip walk (node :: rest) = .ok next ↔
      ∃ middle, walkNode m statement shape strip walk node = .ok middle ∧
        walkBody m statement shape strip middle rest = .ok next := by
  rw [walkBody, bind_eq_ok_iff]

theorem walkNode_fragment_eq_ok (walk next : Walk) (reference : String) :
    walkNode m statement shape strip walk (.fragment reference) = .ok next ↔
      ∃ value, m.fragmentText statement reference = .ok value ∧
        walkPiece m statement shape strip walk value = .ok next := by
  rw [walkNode, bind_eq_ok_iff]

theorem walkNode_conditional_eq_ok (walk next : Walk) (test : String) (body : List Node) :
    walkNode m statement shape strip walk (.conditional test body) = .ok next ↔
      ∃ taken, walkBody m statement shape strip walk body = .ok taken ∧
        ⟨walk.hash || taken.hash, taken.count⟩ = next := by
  rw [walkNode, map_eq_ok_iff]

theorem walkNode_trim_eq_ok (walk next : Walk) (rule : TrimRule) (body : List Node) :
    walkNode m statement shape strip walk (.trim rule body) = .ok next ↔
      ∃ opened inner, walkPiece m statement shape strip walk rule.opening = .ok opened ∧
        walkBody m statement shape (strip.under rule) opened body = .ok inner ∧
        walkPiece m statement shape strip inner rule.closing = .ok next := by
  rw [walkNode, bind_eq_ok_iff]
  simp only [bind_eq_ok_iff]
  constructor
  · rintro ⟨opened, first, inner, within, last⟩
    exact ⟨opened, inner, first, within, last⟩
  · rintro ⟨opened, inner, first, within, last⟩
    exact ⟨opened, first, inner, within, last⟩

theorem walkBody_text (walk next : Walk) (value : String) (rest : List Node)
    (success : walkBody m statement shape strip walk (.text value :: rest) = .ok next) :
    ∃ middle, walkPiece m statement shape strip walk value = .ok middle ∧
      walkBody m statement shape strip middle rest = .ok next := by
  obtain ⟨middle, here, later⟩ := (walkBody_cons_eq_ok walk next _ rest).mp success
  rw [walkNode] at here
  exact ⟨middle, here, later⟩

theorem walkBody_fragment (walk next : Walk) (reference value : String) (rest : List Node)
    (found : m.fragmentText statement reference = .ok value)
    (success : walkBody m statement shape strip walk (.fragment reference :: rest) = .ok next) :
    ∃ middle, walkPiece m statement shape strip walk value = .ok middle ∧
      walkBody m statement shape strip middle rest = .ok next := by
  obtain ⟨middle, here, later⟩ := (walkBody_cons_eq_ok walk next _ rest).mp success
  obtain ⟨same, listed, piece⟩ := (walkNode_fragment_eq_ok walk middle reference).mp here
  rw [found] at listed
  cases listed
  exact ⟨middle, piece, later⟩

end Steps

mutual

/-- A part that is left out may have been counted, never the other way round. -/
theorem walkBody_count_le (strip : Stripping) (walk next : Walk) (body : List Node)
    (success : walkBody m statement shape strip walk body = .ok next) :
    walk.count ≤ next.count := by
  cases body with
  | nil =>
      rw [walkBody] at success
      cases success
      exact Nat.le_refl _
  | cons node rest =>
      obtain ⟨middle, here, later⟩ := (walkBody_cons_eq_ok walk next node rest).mp success
      exact Nat.le_trans (walkNode_count_le strip walk middle node here)
        (walkBody_count_le strip middle next rest later)

theorem walkNode_count_le (strip : Stripping) (walk next : Walk) (node : Node)
    (success : walkNode m statement shape strip walk node = .ok next) :
    walk.count ≤ next.count := by
  cases node with
  | text value =>
      rw [walkNode] at success
      have counted := (walkPiece_eq_ok walk next value success).2.1
      omega
  | fragment reference =>
      obtain ⟨value, _, piece⟩ := (walkNode_fragment_eq_ok walk next reference).mp success
      have counted := (walkPiece_eq_ok walk next value piece).2.1
      omega
  | conditional test body =>
      obtain ⟨taken, within, rfl⟩ := (walkNode_conditional_eq_ok walk next test body).mp success
      exact walkBody_count_le strip walk taken body within
  | trim rule body =>
      obtain ⟨opened, inner, first, within, last⟩ :=
        (walkNode_trim_eq_ok walk next rule body).mp success
      have before := (walkPiece_eq_ok walk opened _ first).2.1
      have between := walkBody_count_le (strip.under rule) opened inner body within
      have after := (walkPiece_eq_ok inner next _ last).2.1
      omega

end

variable {record : Record}

/-- Every emitted literal was checked and counted, whatever conditionals are taken. -/
theorem checked_of_walkBody {body : List Node} {output : List Char} {literals : List String}
    (rendered : Renders m statement record body output literals) (strip : Stripping)
    (walk next : Walk) (success : walkBody m statement shape strip walk body = .ok next) :
    (∀ literal ∈ literals, Checked shape literal) ∧
      walk.count + (literalsNames literals).length ≤ next.count := by
  -- Along the rendering, not the body: the parts that are skipped only make the count larger.
  induction rendered generalizing strip walk next with
  | done =>
      have grown := walkBody_count_le strip walk next [] success
      exact ⟨by simp, by simpa [literalsNames] using grown⟩
  | @text value rest output literals _ ih =>
      obtain ⟨middle, piece, later⟩ := walkBody_text _ _ _ _ success
      obtain ⟨checked, counted, _⟩ := walkPiece_eq_ok walk middle value piece
      obtain ⟨others, grown⟩ := ih strip middle next later
      refine ⟨List.forall_mem_cons.mpr ⟨checked, others⟩, ?_⟩
      simp only [literalsNames, List.flatMap_cons, List.length_append] at grown ⊢
      omega
  | @fragment reference value rest output literals found _ ih =>
      obtain ⟨middle, piece, later⟩ := walkBody_fragment _ _ _ _ _ found success
      obtain ⟨checked, counted, _⟩ := walkPiece_eq_ok walk middle value piece
      obtain ⟨others, grown⟩ := ih strip middle next later
      refine ⟨List.forall_mem_cons.mpr ⟨checked, others⟩, ?_⟩
      simp only [literalsNames, List.flatMap_cons, List.length_append] at grown ⊢
      omega
  | @skipped test body rest output literals _ _ ih =>
      obtain ⟨middle, here, later⟩ := (walkBody_cons_eq_ok _ _ _ _).mp success
      have before := walkNode_count_le strip walk middle _ here
      obtain ⟨others, grown⟩ := ih strip middle next later
      exact ⟨others, by omega⟩
  | @taken test body rest inner output own literals _ _ _ within after =>
      obtain ⟨middle, here, later⟩ := (walkBody_cons_eq_ok _ _ _ _).mp success
      obtain ⟨taken, inside, rfl⟩ := (walkNode_conditional_eq_ok _ _ _ _).mp here
      obtain ⟨ownChecked, ownGrown⟩ := within strip walk taken inside
      obtain ⟨others, grown⟩ := after strip _ next later
      refine ⟨?_, ?_⟩
      · intro literal member
        rcases List.mem_append.mp member with here | there
        · exact ownChecked literal here
        · exact others literal there
      · simp only [literalsNames, List.flatMap_append, List.length_append] at ownGrown grown ⊢
        omega
  | @trimmed rule body rest inner output own literals _ _ within after =>
      obtain ⟨middle, here, later⟩ := (walkBody_cons_eq_ok _ _ _ _).mp success
      obtain ⟨opened, ended, first, inside, last⟩ := (walkNode_trim_eq_ok _ _ _ _).mp here
      obtain ⟨openingChecked, openingCount, _⟩ := walkPiece_eq_ok walk opened _ first
      obtain ⟨ownChecked, ownGrown⟩ := within (strip.under rule) opened ended inside
      obtain ⟨closingChecked, closingCount, _⟩ := walkPiece_eq_ok ended middle _ last
      obtain ⟨others, grown⟩ := after strip middle next later
      refine ⟨?_, ?_⟩
      · intro literal member
        simp only [List.cons_append, List.mem_cons, List.mem_append] at member
        rcases member with same | here | same | there
        · exact same ▸ openingChecked
        · exact ownChecked literal here
        · exact same ▸ closingChecked
        · exact others literal there
      · simp only [literalsNames, List.flatMap_append, List.flatMap_cons, List.cons_append,
          List.length_append] at ownGrown grown ⊢
        omega

end SqlMapper.Placeholder
