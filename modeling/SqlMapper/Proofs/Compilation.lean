import SqlMapper.Code.Compiled
import SqlMapper.Proofs.Outcome

/-!
What acceptance by the compiler says about a mapper: the namespace and every shape can be expressed
in C, and every statement is resolved, has a program, and has its function in the source.
-/

namespace SqlMapper.Code

open Outcome

def Accepted (m : Mapper) : Prop :=
  ∃ compiled, (compile m).outcome = .ok compiled

theorem toOption_isSome_iff_accepted (m : Mapper) :
    (compile m).outcome.toOption.isSome = true ↔ Accepted m := by
  unfold Accepted
  cases (compile m).outcome <;> simp [Except.toOption]

instance (m : Mapper) : Decidable (Accepted m) :=
  decidable_of_iff _ (toOption_isSome_iff_accepted m)

theorem mem_allStatements (m : Mapper) (statement : Statement) :
    statement ∈ m.allStatements ↔ statement ∈ m.statements.values := by
  simp only [Mapper.allStatements, Mapper.statementsOf, List.mem_flatMap, List.mem_filter,
    beq_iff_eq]
  constructor
  · rintro ⟨_, _, member, _⟩
    exact member
  · intro member
    have listed : statement.kind ∈ StatementKind.all := by cases statement.kind <;> decide
    exact ⟨statement.kind, listed, member, rfl⟩

/-- The capital of a character of an identifier is such a character. -/
theorem isIdentifierTail_of_mem_capitals {c capital : Char} (tail : C.isIdentifierTail c = true)
    (member : capital ∈ Text.Upper.capitals c) : C.isIdentifierTail capital = true := by
  have low := (C.printable_of_isIdentifierTail tail).2
  have ascii : ∀ n : Fin 0x80, C.isIdentifierTail (Char.ofNat n) = true →
      C.isIdentifierTail (Char.ofNat n).toUpper = true := by decide
  have kept := ascii ⟨c.toNat, low⟩
  rw [Char.ofNat_toNat] at kept
  rw [Text.Upper.capitals, if_pos low, List.mem_singleton] at member
  rw [member]
  exact kept tail

theorem isIdentifierTail_of_mem_guard {space : String} (formed : C.isIdentifier space = true) :
    ∀ c ∈ (guard space).toList, C.isIdentifierTail c = true := by
  have start : "YB_".toList.all C.isIdentifierTail = true := by decide
  have ending : "_H__".toList.all C.isIdentifierTail = true := by decide
  simp only [guard, String.toList_append, List.forall_mem_append]
  refine ⟨⟨List.all_eq_true.mp start, ?_⟩, List.all_eq_true.mp ending⟩
  intro capital member
  rw [Text.upper, String.toList_ofList, List.mem_flatMap] at member
  obtain ⟨c, spelled, capitals⟩ := member
  exact isIdentifierTail_of_mem_capitals (C.isIdentifierTail_of_mem formed c spelled) capitals

/-- What comes out for a mapper whose statements have become functions. -/
def emitted (m : Mapper) (functions : List (C.Signature × List C.Stmt)) : Compiled where
  space := m.space
  document := m.document
  header := headerItems m.space m.resultMaps.values (functions.map (·.1))
  source := sourceItems m.space m.resultMaps.values functions
  records := m.resultMaps.values.map (·.type)
  functions := m.allStatements.map fun s => (s.kind, s.id)

theorem compile_outcome (m : Mapper) : (compile m).outcome =
    if C.isIdentifier m.space = false then .error (m.error "mapper" m.space .spaceForm)
    else (checkShapes m m.resultMaps.values).bind fun _ =>
      (Logged.mapList (statementFunction m) m.allStatements).outcome.map (emitted m) := by
  cases spelled : C.isIdentifier m.space with
  | false => simp [compile, spelled, bind, Logged.bind, Logged.write, Logged.fail]
  | true =>
      simp only [compile, spelled, bind, Bool.not_true, Bool.false_eq_true, ↓reduceIte,
        bind_outcome, Logged.write, Logged.ofExcept, Except.bind]
      cases checkShapes m m.resultMaps.values with
      | error e => rfl
      | ok _ => cases (Logged.mapList (statementFunction m) m.allStatements).outcome <;> rfl

theorem compile_eq_ok (m : Mapper) (compiled : Compiled)
    (success : (compile m).outcome = .ok compiled) :
    C.isIdentifier m.space = true ∧ checkShapes m m.resultMaps.values = .ok () ∧
      ∃ functions, (Logged.mapList (statementFunction m) m.allStatements).outcome = .ok functions ∧
        compiled.space = m.space ∧
        compiled.header = headerItems m.space m.resultMaps.values (functions.map (·.1)) ∧
        compiled.source = sourceItems m.space m.resultMaps.values functions := by
  rw [compile_outcome] at success
  split at success
  · cases success
  · next spelled =>
      obtain ⟨_, shapes, success⟩ := (bind_eq_ok_iff ..).mp success
      obtain ⟨functions, built, rfl⟩ := (map_eq_ok_iff ..).mp success
      exact ⟨by simpa using spelled, shapes, functions, built, rfl, rfl, rfl⟩

theorem function_of_compile (m : Mapper) (compiled : Compiled)
    (success : (compile m).outcome = .ok compiled) (statement : Statement)
    (member : statement ∈ m.statements.values) :
    ∃ resolved program next, resolve m statement = .ok resolved ∧
      (buildBody m statement resolved.shape .command 0 statement.body).outcome
        = .ok (program, next) ∧
      C.Item.function (signature statement resolved.shape resolved.row)
        (functionBody resolved.shape resolved.row resolved.slots program) ∈ compiled.source := by
  obtain ⟨_, _, functions, built, _, _, source⟩ := compile_eq_ok m compiled success
  have listed := (mem_allStatements m statement).mpr member
  obtain ⟨function, found, done⟩ := mapList_member _ _ _ built statement listed
  rw [statementFunction, Logged.bind_outcome_eq_ok_iff] at done
  obtain ⟨resolved, isResolved, done⟩ := done
  rw [Logged.bind_outcome_eq_ok_iff] at done
  obtain ⟨⟨program, next⟩, isBuilt, done⟩ := done
  rw [Logged.bind_outcome_eq_ok_iff] at done
  obtain ⟨_, _, same⟩ := done
  cases same
  refine ⟨resolved, program, next, isResolved, isBuilt, ?_⟩
  rw [source, sourceItems, List.mem_append]
  right
  rw [List.mem_flatMap]
  exact ⟨_, found, List.mem_cons_self⟩

/-- What is resolved for a statement: its shape, and room for the placeholders that are counted. -/
theorem resolve_eq_ok (m : Mapper) (statement : Statement) (resolved : Resolved)
    (success : resolve m statement = .ok resolved) :
    m.parameterShape statement = .ok resolved.shape ∧
      ∃ count, placeholderSlots m statement resolved.shape = .ok count ∧
        resolved.slots = max 1 count := by
  unfold resolve at success
  split at success
  · cases success
  · rw [bind_eq_ok_iff] at success
    obtain ⟨shape, shapeFound, success⟩ := success
    rw [bind_eq_ok_iff] at success
    obtain ⟨row, _, success⟩ := success
    rw [map_eq_ok_iff] at success
    obtain ⟨count, counted, rfl⟩ := success
    exact ⟨shapeFound, count, counted, rfl⟩

section Small

def identified : ResultMap :=
  ⟨"R", "rec", [.make "id" "id" "int64_t"]⟩

def deletion (body : List Node) : Statement :=
  ⟨.delete, "d", "rec", "", body⟩

/-- A mapper with one shape of one field and one statement. -/
def deleting (body : List Node) : Mapper :=
  ⟨"x", "m.xml", ⟨[("R", identified)]⟩, .empty, ⟨[("d", deletion body)]⟩⟩

end Small

end SqlMapper.Code
