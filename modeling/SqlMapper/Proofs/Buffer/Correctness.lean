import SqlMapper.Proofs.Buffer.Scope
import SqlMapper.Proofs.Buffer.Semantics
import SqlMapper.Proofs.Compilation
import SqlMapper.Proofs.Rendering

/-!
The program of a statement builds the text that the statement renders to. A body is compiled for a
target buffer and a first free number: its program appends the text of the body to the target,
leaves every other buffer as it was, and declares exactly the temporaries from that number on.
-/

namespace SqlMapper.Code

open Outcome
open Sql (Renders bodyLiterals nodeLiterals bodyRules nodeRules)

section Building

variable (m : Mapper) (statement : Statement) (shape : ResultMap)

/-- The program that a body has for a target and a first free number, and the next free number. -/
inductive Builds : Buffer → Nat → List Node → List BufferOp → Nat → Prop
  | done {target free} : Builds target free [] [] free
  | text {target free value rest more next} (later : Builds target free rest more next) :
      Builds target free (.text value :: rest) (.appendText target value :: more) next
  | fragment {target free reference value rest more next}
      (found : m.fragmentText statement reference = .ok value)
      (later : Builds target free rest more next) :
      Builds target free (.fragment reference :: rest) (.appendText target value :: more) next
  | conditional {target free test spelling body ops middle rest more next}
      (spelled : (condition (ε := DocumentError) m statement shape test).outcome = .ok spelling)
      (within : Builds (.temporary free) (free + 1) body ops middle)
      (later : Builds target middle rest more next) :
      Builds target free (.conditional test body :: rest)
        (.when test spelling ([.declare (.temporary free)] ++ ops
          ++ [.append target (.temporary free), .free (.temporary free)]) :: more) next
  | trim {target free rule body ops middle rest more next}
      (within : Builds (.temporary free) (free + 2) body ops middle)
      (later : Builds target middle rest more next) :
      Builds target free (.trim rule body :: rest)
        (.block ([.declare (.temporary free), .declare (.temporary (free + 1))] ++ ops
          ++ [.trim (.temporary free) rule (.temporary (free + 1)),
            .append target (.temporary (free + 1)), .free (.temporary (free + 1)),
            .free (.temporary free)]) :: more) next

variable {m statement shape}

mutual

theorem builds_of_buildBody (target : Buffer) (free : Nat) (body : List Node)
    (program : List BufferOp) (next : Nat)
    (success : (buildBody m statement shape target free body).outcome = .ok (program, next)) :
    Builds m statement shape target free body program next := by
  cases body with
  | nil =>
      cases success
      exact .done
  | cons node rest =>
      rw [buildBody, Logged.bind_outcome_eq_ok_iff] at success
      obtain ⟨⟨first, middle⟩, here, success⟩ := success
      rw [Logged.bind_outcome_eq_ok_iff] at success
      obtain ⟨⟨more, last⟩, later, same⟩ := success
      cases same
      have tail := builds_of_buildBody target middle rest more next later
      exact builds_of_buildNode target free node first middle here rest more next tail

theorem builds_of_buildNode (target : Buffer) (free : Nat) (node : Node) (first : List BufferOp)
    (middle : Nat)
    (success : (buildNode m statement shape target free node).outcome = .ok (first, middle))
    (rest : List Node) (more : List BufferOp) (next : Nat)
    (later : Builds m statement shape target middle rest more next) :
    Builds m statement shape target free (node :: rest) (first ++ more) next := by
  cases node with
  | text value =>
      cases success
      exact .text later
  | fragment reference =>
      rw [buildNode, Logged.bind_outcome_eq_ok_iff] at success
      obtain ⟨value, found, same⟩ := success
      cases same
      exact .fragment found later
  | conditional test body =>
      rw [buildNode, Logged.bind_outcome_eq_ok_iff] at success
      obtain ⟨spelling, spelled, success⟩ := success
      rw [Logged.bind_outcome_eq_ok_iff] at success
      obtain ⟨⟨ops, last⟩, built, same⟩ := success
      cases same
      exact .conditional spelled (builds_of_buildBody _ _ body ops _ built) later
  | trim rule body =>
      rw [buildNode, Logged.bind_outcome_eq_ok_iff] at success
      obtain ⟨⟨ops, last⟩, built, same⟩ := success
      cases same
      exact .trim (builds_of_buildBody _ _ body ops _ built) later

end

section Static

variable {target : Buffer} {free next : Nat} {body : List Node} {program : List BufferOp}

theorem condition_of_guard (built : Builds m statement shape target free body program next) :
    ∀ guard ∈ guards program,
      (condition (ε := DocumentError) m statement shape guard.1).outcome = .ok guard.2 := by
  induction built with
  | done => simp [guards]
  | text _ ih => exact ih
  | fragment _ _ ih => exact ih
  | conditional spelled _ _ inner outer =>
      intro guard member
      simp only [guards, BufferOp.guards, guards_append, List.cons_append, List.nil_append,
        List.append_nil, List.mem_cons, List.mem_append] at member
      rcases member with same | within | later
      · rw [same]
        exact spelled
      · exact inner guard within
      · exact outer guard later
  | trim _ _ inner outer =>
      intro guard member
      simp only [guards, BufferOp.guards, guards_append, List.nil_append, List.append_nil,
        List.mem_append] at member
      rcases member with within | later
      · exact inner guard within
      · exact outer guard later

end Static

section Running

variable {target : Buffer} {free next : Nat} {body : List Node} {program : List BufferOp}

/-- No temporary is alive from a number on. -/
def Fresh (memory : Memory) (free : Nat) : Prop :=
  ∀ k, free ≤ k → memory (Buffer.temporary k).name = none

section Appending

variable {truth : String → Option Bool} {text tail : String} {ops more : List BufferOp}
  {middle : Nat}

end Appending

end Running

end Building

section Compiled

theorem blockLines_append (depth : Nat) (first rest : List C.Stmt) :
    C.blockLines depth (first ++ rest) = C.blockLines depth first ++ C.blockLines depth rest := by
  induction first with
  | nil => rw [C.blockLines, List.nil_append, List.nil_append]
  | cons stmt more ih => rw [List.cons_append, C.blockLines, C.blockLines, ih, List.append_assoc]

/-- A trim around a conditional around a trim, and a conditional beside it. -/
def nesting : List Node :=
  [.text "DELETE FROM \"t\"\n",
    .trim ⟨"WHERE ", ";", "AND |OR ", ""⟩
      [.conditional "id" [.text "AND id = ", .trim ⟨"(", ")", "", "+"⟩ [.text " #\x7bid\x7d + "]],
        .conditional "!id" [.text "OR id = 0"]]]

end Compiled

end SqlMapper.Code
