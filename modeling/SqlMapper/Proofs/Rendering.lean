import SqlMapper.Proofs.Outcome
import SqlMapper.Sql.Rendering

/-!
One successful rendering, step by step: which parts of a body are taken for a record, the literals
that they contribute, and the text that comes out. A trim contributes what it opens with, the
literals of its content and what it closes with, whatever it strips.
-/

namespace SqlMapper.Sql

open Outcome

mutual

/-- The literals that a body contributes for a record, in order. -/
def emittedBody (m : Mapper) (statement : Statement) (record : Record) :
    List Node → Except RenderError (List String)
  | [] => .ok []
  | node :: rest =>
      (emittedNode m statement record node).bind fun first =>
        (emittedBody m statement record rest).map (first ++ ·)

def emittedNode (m : Mapper) (statement : Statement) (record : Record) :
    Node → Except RenderError (List String)
  | .text value => .ok [value]
  | .fragment reference =>
      ((m.fragmentText statement reference).mapError .document).map fun value => [value]
  | .conditional test body =>
      (testHolds statement record test).bind fun holds =>
        if holds then emittedBody m statement record body else .ok []
  | .trim rule body =>
      (emittedBody m statement record body).map fun inner =>
        rule.opening :: inner ++ [rule.closing]

end

variable (m : Mapper) (statement : Statement) (record : Record)

/-- A body, the text that it renders to, and the literals that it contributes. -/
inductive Renders : List Node → List Char → List String → Prop
  | done : Renders [] [] []
  | text {value rest output literals} (later : Renders rest output literals) :
      Renders (.text value :: rest) (value.toList ++ output) (value :: literals)
  | fragment {reference value rest output literals}
      (found : m.fragmentText statement reference = .ok value)
      (later : Renders rest output literals) :
      Renders (.fragment reference :: rest) (value.toList ++ output) (value :: literals)
  | skipped {test body rest output literals}
      (fails : testHolds statement record test = .ok false)
      (later : Renders rest output literals) :
      Renders (.conditional test body :: rest) output literals
  | taken {test body rest inner output own literals}
      (holds : testHolds statement record test = .ok true)
      (within : Renders body inner own) (later : Renders rest output literals) :
      Renders (.conditional test body :: rest) (inner ++ output) (own ++ literals)
  | trimmed {rule body rest inner output own literals}
      (within : Renders body inner own) (later : Renders rest output literals) :
      Renders (.trim rule body :: rest) (trimChars rule inner ++ output)
        (rule.opening :: own ++ rule.closing :: literals)

variable {m statement record}

theorem renderBody_cons_eq_ok (node : Node) (rest : List Node) (text : String) :
    renderBody m statement record (node :: rest) = .ok text ↔
      ∃ first more, renderNode m statement record node = .ok first ∧
        renderBody m statement record rest = .ok more ∧ first ++ more = text := by
  rw [renderBody, bind_eq_ok_iff]
  simp only [map_eq_ok_iff]
  constructor
  · rintro ⟨first, here, more, later, joined⟩
    exact ⟨first, more, here, later, joined⟩
  · rintro ⟨first, more, here, later, joined⟩
    exact ⟨first, here, more, later, joined⟩

mutual

theorem renders_of_renderBody (body : List Node) (text : String)
    (success : renderBody m statement record body = .ok text) :
    ∃ literals, Renders m statement record body text.toList literals := by
  cases body with
  | nil =>
      rw [renderBody] at success
      cases success
      exact ⟨[], .done⟩
  | cons node rest =>
      obtain ⟨first, more, here, later, rfl⟩ := (renderBody_cons_eq_ok node rest text).mp success
      obtain ⟨literals, tail⟩ := renders_of_renderBody rest more later
      rw [String.toList_append]
      exact renders_of_renderNode node first here rest more.toList literals tail

theorem renders_of_renderNode (node : Node) (first : String)
    (success : renderNode m statement record node = .ok first) (rest : List Node)
    (output : List Char) (literals : List String)
    (later : Renders m statement record rest output literals) :
    ∃ all, Renders m statement record (node :: rest) (first.toList ++ output) all := by
  cases node with
  | text value =>
      rw [renderNode] at success
      cases success
      exact ⟨_, .text later⟩
  | fragment reference =>
      rw [renderNode, mapError_eq_ok_iff] at success
      exact ⟨_, .fragment success later⟩
  | conditional test body =>
      rw [renderNode, bind_eq_ok_iff] at success
      obtain ⟨holds, decided, success⟩ := success
      cases holds with
      | false =>
          simp only [Bool.false_eq_true, ↓reduceIte, Except.ok.injEq] at success
          subst first
          exact ⟨_, .skipped decided later⟩
      | true =>
          obtain ⟨own, within⟩ := renders_of_renderBody body first success
          exact ⟨_, .taken decided within later⟩
  | trim rule body =>
      rw [renderNode, map_eq_ok_iff] at success
      obtain ⟨inner, success, rfl⟩ := success
      obtain ⟨own, within⟩ := renders_of_renderBody body inner success
      rw [trim, String.toList_ofList]
      exact ⟨_, .trimmed within later⟩

end

theorem emittedBody_of_renders {body : List Node} {output : List Char} {literals : List String}
    (rendered : Renders m statement record body output literals) :
    emittedBody m statement record body = .ok literals := by
  induction rendered with
  | done => rw [emittedBody]
  | text _ ih => simp [emittedBody, emittedNode, ih, Except.bind, Except.map]
  | fragment found _ ih =>
      have known := (mapError_eq_ok_iff _ RenderError.document _).mpr found
      simp [emittedBody, emittedNode, known, ih, Except.bind, Except.map]
  | skipped fails _ ih =>
      simp [emittedBody, emittedNode, fails, ih, Except.bind, Except.map]
  | taken holds _ _ inner outer =>
      simp [emittedBody, emittedNode, holds, inner, outer, Except.bind, Except.map]
  | trimmed _ _ inner outer =>
      simp [emittedBody, emittedNode, inner, outer, Except.bind, Except.map]

/-- A statement that renders has its literals, which rendering put together. -/
theorem renders_of_render (sql : String) (success : render m statement record = .ok sql) :
    ∃ literals, Renders m statement record statement.body sql.toList literals ∧
      emittedBody m statement record statement.body = .ok literals := by
  rw [render, bind_eq_ok_iff] at success
  obtain ⟨_, _, success⟩ := success
  obtain ⟨literals, rendered⟩ := renders_of_renderBody statement.body sql success
  exact ⟨literals, rendered, emittedBody_of_renders rendered⟩

section Static

mutual

/-- The literals that can reach the text of a body. -/
def bodyLiterals (m : Mapper) : List Node → List String
  | [] => []
  | node :: rest => nodeLiterals m node ++ bodyLiterals m rest

def nodeLiterals (m : Mapper) : Node → List String
  | .text value => [value]
  | .fragment reference => (m.fragments.get? reference).toList
  | .conditional _ body => bodyLiterals m body
  | .trim rule body => rule.opening :: bodyLiterals m body ++ [rule.closing]

end

mutual

def bodyRules : List Node → List TrimRule
  | [] => []
  | node :: rest => nodeRules node ++ bodyRules rest

def nodeRules : Node → List TrimRule
  | .text _ => []
  | .fragment _ => []
  | .conditional _ body => bodyRules body
  | .trim rule body => rule :: bodyRules body

end

theorem fragments_get?_of_fragmentText (reference value : String)
    (found : m.fragmentText statement reference = .ok value) :
    m.fragments.get? reference = some value := by
  unfold Mapper.fragmentText at found
  split at found
  · next listed => cases found; exact listed
  · cases found

/-- Nothing else than the literals of a body reaches its text. -/
theorem literals_of_renders {body : List Node} {output : List Char} {literals : List String}
    (rendered : Renders m statement record body output literals) :
    ∀ literal ∈ literals, literal ∈ bodyLiterals m body := by
  induction rendered with
  | done => simp
  | text _ ih =>
      intro literal member
      rcases List.mem_cons.mp member with same | later
      · simp [bodyLiterals, nodeLiterals, same]
      · simp [bodyLiterals, ih literal later]
  | fragment found _ ih =>
      intro literal member
      have listed := fragments_get?_of_fragmentText _ _ found
      rcases List.mem_cons.mp member with same | later
      · simp [bodyLiterals, nodeLiterals, listed, same]
      · simp [bodyLiterals, ih literal later]
  | skipped _ _ ih =>
      intro literal member
      simp [bodyLiterals, ih literal member]
  | taken _ _ _ inner outer =>
      intro literal member
      rcases List.mem_append.mp member with own | later
      · simp [bodyLiterals, nodeLiterals, inner literal own]
      · simp [bodyLiterals, outer literal later]
  | trimmed _ _ inner outer =>
      intro literal member
      simp only [List.cons_append, List.mem_cons, List.mem_append] at member
      rcases member with first | own | last | later
      · simp [bodyLiterals, nodeLiterals, first]
      · simp [bodyLiterals, nodeLiterals, inner literal own]
      · simp [bodyLiterals, nodeLiterals, last]
      · simp [bodyLiterals, outer literal later]

end Static

end SqlMapper.Sql
