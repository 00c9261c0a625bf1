import SqlMapper.Proofs.Compilation
import SqlMapper.Proofs.Placeholder.Seams

/-!
What the check at compile time says about the text at run time. The placeholders in the literals of
a statement are always bound, within the slots that are counted. A trim can still put one together
that the check has not seen: out of pieces between which all is stripped, or by cutting into a
placeholder. Main statements: exactly when an accepted statement can be bound, and two ways of
writing one that rule such placeholders out.
-/

namespace SqlMapper.Placeholder

open Code Outcome Sql

section Bodies

variable {m : Mapper} {statement : Statement} {shape : ResultMap} {record : Record}

def written (literals : List String) : List (List Char) :=
  (literals.map String.toList).filter fun piece => !piece.isEmpty

theorem written_append (first second : List String) :
    written (first ++ second) = written first ++ written second := by
  simp [written]

theorem written_cons (literal : String) (rest : List String) :
    written (literal :: rest) = written [literal] ++ written rest :=
  written_append [literal] rest

theorem flatten_written (literals : List String) :
    (written literals).flatten = literals.flatMap String.toList := by
  induction literals with
  | nil => rfl
  | cons literal rest ih =>
      rw [written_cons, List.flatten_append, ih, List.flatMap_cons]
      cases chars : literal.toList <;> simp [written, chars]

theorem names_written (literals : List String) :
    (written literals).flatMap names = literalsNames literals := by
  induction literals with
  | nil => rfl
  | cons literal rest ih =>
      rw [written_cons, List.flatMap_append, ih, literalsNames, literalsNames, List.flatMap_cons]
      cases chars : literal.toList <;> simp [written, chars, names, scan]

theorem mem_written (literals : List String) (piece : List Char) (member : piece ∈ written literals) :
    piece ≠ [] ∧ ∃ literal ∈ literals, literal.toList = piece := by
  rw [written, List.mem_filter, List.mem_map] at member
  exact ⟨by simpa using member.2, member.1⟩

theorem chained_of_walkPiece (strip : Stripping) (walk next : Walk) (literal : String)
    (success : walkPiece m statement shape strip walk literal = .ok next) :
    Chained strip walk.hash (written [literal]) next.hash := by
  obtain ⟨_, _, empty | filled⟩ := walkPiece_eq_ok walk next literal success
  · have none : written [literal] = [] := by simp [written, empty.1]
    rw [none]
    exact fun hash => empty.2.trans hash
  · have one : written [literal] = [literal.toList] := by simp [written, filled.1]
    rw [one]
    exact ⟨filled.2.2, fun ends => filled.2.1.trans ends⟩

/-- Without trims the hash flag follows the literals, whatever conditionals are taken: one that is
left out passes the flag on. -/
theorem chained_of_walkBody {body : List Node} {output : List Char} {literals : List String}
    (rendered : Renders m statement record body output literals) (bare : bodyRules body = [])
    (strip : Stripping) (walk next : Walk)
    (success : walkBody m statement shape strip walk body = .ok next) :
    output = (written literals).flatten ∧ Chained strip walk.hash (written literals) next.hash := by
  induction rendered generalizing walk next with
  | done =>
      rw [walkBody] at success
      cases success
      exact ⟨rfl, id⟩
  | @text value rest output literals _ ih =>
      obtain ⟨middle, piece, later⟩ := walkBody_text _ _ _ _ success
      obtain ⟨joined, chain⟩ := ih (by simpa [bodyRules, nodeRules] using bare) middle next later
      rw [written_cons]
      refine ⟨?_, chained_append (chained_of_walkPiece strip walk middle value piece) chain⟩
      rw [List.flatten_append, ← joined, flatten_written]
      simp
  | @fragment reference value rest output literals found _ ih =>
      obtain ⟨middle, piece, later⟩ := walkBody_fragment _ _ _ _ _ found success
      obtain ⟨joined, chain⟩ := ih (by simpa [bodyRules, nodeRules] using bare) middle next later
      rw [written_cons]
      refine ⟨?_, chained_append (chained_of_walkPiece strip walk middle value piece) chain⟩
      rw [List.flatten_append, ← joined, flatten_written]
      simp
  | @skipped test body rest output literals _ _ ih =>
      obtain ⟨middle, here, later⟩ := (walkBody_cons_eq_ok _ _ _ _).mp success
      obtain ⟨taken, _, rfl⟩ := (walkNode_conditional_eq_ok _ _ _ _).mp here
      rw [bodyRules, List.append_eq_nil_iff] at bare
      obtain ⟨joined, chain⟩ := ih bare.2 _ next later
      -- A flag that was set before the conditional is still set behind it.
      exact ⟨joined, chained_mono chain (fun hash => by simp [hash]) id⟩
  | @taken test body rest inner output own literals _ _ _ within after =>
      obtain ⟨middle, here, later⟩ := (walkBody_cons_eq_ok _ _ _ _).mp success
      obtain ⟨taken, inside, rfl⟩ := (walkNode_conditional_eq_ok _ _ _ _).mp here
      rw [bodyRules, List.append_eq_nil_iff] at bare
      obtain ⟨innerJoined, innerChain⟩ := within bare.1 walk taken inside
      obtain ⟨joined, chain⟩ := after bare.2 _ next later
      have passed := chained_mono innerChain id fun hash =>
        (by simp [hash] : (walk.hash || taken.hash) = true)
      rw [written_append]
      exact ⟨by rw [List.flatten_append, ← innerJoined, ← joined], chained_append passed chain⟩
  | @trimmed rule body rest inner output own literals _ _ _ _ =>
      simp [bodyRules, nodeRules] at bare

mutual

/-- The trims of a body stand in no other trim, strip plain characters, and leave something of each
literal in them. -/
def SolidBody (m : Mapper) : List Node → Prop
  | [] => True
  | node :: rest => SolidNode m node ∧ SolidBody m rest

def SolidNode (m : Mapper) : Node → Prop
  | .text _ => True
  | .fragment _ => True
  | .conditional _ body => SolidBody m body
  | .trim rule body =>
      PlainRule rule ∧ bodyRules body = [] ∧
        ∀ literal ∈ bodyLiterals m body, literal ≠ "" → Outlasts rule literal.toList

end

theorem pieced_of_walkPiece (walk next : Walk) (literal : String)
    (success : walkPiece m statement shape .none walk literal = .ok next) :
    Pieced walk.hash literal.toList (names literal.toList) next.hash := by
  have checked := (walkPiece_eq_ok walk next literal success).1
  refine ⟨written [literal], ?_, ?_, ?_, chained_of_walkPiece .none walk next literal success⟩
  · simp [flatten_written]
  · simp [names_written, literalsNames]
  · intro piece member
    obtain ⟨filled, other, listed, rfl⟩ := mem_written [literal] piece member
    rw [List.mem_singleton.mp listed]
    exact ⟨checked.1, by rwa [List.mem_singleton.mp listed] at filled⟩

/-- The text of a solid body is put together from pieces that are read apart. -/
theorem pieced_of_solid {body : List Node} {output : List Char} {literals : List String}
    (rendered : Renders m statement record body output literals) (solid : SolidBody m body)
    (walk next : Walk) (success : walkBody m statement shape .none walk body = .ok next) :
    Pieced walk.hash output (literalsNames literals) next.hash := by
  induction rendered generalizing walk next with
  | done =>
      rw [walkBody] at success
      cases success
      exact ⟨[], rfl, rfl, by simp, id⟩
  | @text value rest output literals _ ih =>
      obtain ⟨middle, piece, later⟩ := walkBody_text _ _ _ _ success
      exact pieced_append (pieced_of_walkPiece walk middle value piece)
        (ih solid.2 middle next later)
  | @fragment reference value rest output literals found _ ih =>
      obtain ⟨middle, piece, later⟩ := walkBody_fragment _ _ _ _ _ found success
      exact pieced_append (pieced_of_walkPiece walk middle value piece)
        (ih solid.2 middle next later)
  | @skipped test body rest output literals _ _ ih =>
      obtain ⟨middle, here, later⟩ := (walkBody_cons_eq_ok _ _ _ _).mp success
      obtain ⟨taken, _, rfl⟩ := (walkNode_conditional_eq_ok _ _ _ _).mp here
      exact pieced_mono (ih solid.2 _ next later) (fun hash => by simp [hash]) id
  | @taken test body rest inner output own literals _ _ _ within after =>
      obtain ⟨middle, here, later⟩ := (walkBody_cons_eq_ok _ _ _ _).mp success
      obtain ⟨taken, inside, rfl⟩ := (walkNode_conditional_eq_ok _ _ _ _).mp here
      have solidInside : SolidBody m body := solid.1
      have passed := pieced_mono (within solidInside walk taken inside) id fun hash =>
        (by simp [hash] : (walk.hash || taken.hash) = true)
      simpa [literalsNames] using pieced_append passed (after solid.2 _ next later)
  | @trimmed rule body rest inner output own literals within _ _ after =>
      obtain ⟨middle, here, later⟩ := (walkBody_cons_eq_ok _ _ _ _).mp success
      obtain ⟨opened, ended, first, inside, last⟩ := (walkNode_trim_eq_ok _ _ _ _).mp here
      obtain ⟨isPlain, bare, outlasts⟩ : PlainRule rule ∧ bodyRules body = [] ∧
        ∀ literal ∈ bodyLiterals m body, literal ≠ "" → Outlasts rule literal.toList := solid.1
      -- A trim cuts the joined literals at their ends, and no literal is cut away.
      obtain ⟨joined, chain⟩ := chained_of_walkBody within bare _ opened ended inside
      obtain ⟨checked, _⟩ := checked_of_walkBody within _ opened ended inside
      obtain ⟨cut, wrapped⟩ := trimChars_cut rule inner
      have core : Pieced opened.hash cut.core ((written own).flatMap names) ended.hash := by
        apply pieced_core isPlain (written own) joined _ _ _ _ chain cut
        · intro piece member
          obtain ⟨filled, literal, listed, rfl⟩ := mem_written own piece member
          apply outlasts literal (literals_of_renders within literal listed)
          intro empty
          simp [empty] at filled
        · intro piece member
          obtain ⟨filled, literal, listed, rfl⟩ := mem_written own piece member
          exact ⟨(checked literal listed).1, filled⟩
      rw [names_written] at core
      have opening := pieced_append (pieced_of_walkPiece walk opened rule.opening first) core
      have closing := pieced_append opening (pieced_of_walkPiece ended middle rule.closing last)
      rw [wrapped]
      simpa [literalsNames] using pieced_append closing (after solid.2 middle next later)

/-- Two ways to write a body whose text has no placeholders but those in its literals: solid trims,
or any trims that strip plain characters where no hash stands alone, or no brace does. -/
def Seamless (m : Mapper) (body : List Node) : Prop :=
  SolidBody m body ∨
    (∀ rule ∈ bodyRules body, PlainRule rule) ∧
      ((∀ literal ∈ bodyLiterals m body, HashesOpen literal.toList) ∨
        ∀ literal ∈ bodyLiterals m body, BracesOpened literal.toList)

theorem scan_of_seamless {body : List Node} {output : List Char} {literals : List String}
    (rendered : Renders m statement record body output literals) (seamless : Seamless m body)
    (next : Walk) (success : walkBody m statement shape .none ⟨false, 0⟩ body = .ok next) :
    scan none output = (literalsNames literals, true) := by
  rcases seamless with solid | ⟨rules, hashes | braces⟩
  · obtain ⟨pieces, rfl, listed, whole, chain⟩ :=
      pieced_of_solid rendered solid ⟨false, 0⟩ next success
    have read := scan_chained pieces false next.hash [] chain whole rfl (by simp)
    simpa [listed, names, scan] using read
  · have ended := (checked_of_walkBody rendered .none _ next success).1
    exact (scan_of_plain hashesOpen_separating rendered rules
      (fun literal member => hashes literal (literals_of_renders rendered literal member))
      fun literal member => (ended literal member).1).2
  · have ended := (checked_of_walkBody rendered .none _ next success).1
    exact (scan_of_plain bracesOpened_separating rendered rules
      (fun literal member => braces literal (literals_of_renders rendered literal member))
      fun literal member => (ended literal member).1).2

end Bodies

section Acceptance

/-- A text that can be prepared with at most `bound` bindings. -/
def BindsWithin (shape : ResultMap) (record : Record) (bound : Nat) (sql : String) : Prop :=
  ∃ prepared bindings, prepare shape record sql = .ok (prepared, bindings) ∧
    bindings.length ≤ bound

/-- The placeholders in a list of literals, each read by itself. -/
def literalPlaceholders (literals : List String) : List String :=
  literals.flatMap fun literal => (placeholders literal).1

theorem literalPlaceholders_eq (literals : List String) :
    literalPlaceholders literals = literalsNames literals := by
  simp only [literalPlaceholders, literalsNames, placeholders_eq]

theorem bindsWithin_iff (shape : ResultMap) (record : Record) (bound : Nat) (sql : String) :
    BindsWithin shape record bound sql ↔
      (∀ name ∈ (placeholders sql).1, (shape.field? name).isSome) ∧
        (placeholders sql).1.length ≤ bound := by
  rw [placeholders_eq]
  constructor
  · rintro ⟨prepared, bindings, success, short⟩
    obtain ⟨known, listed⟩ := (prepare_eq_ok_iff shape record sql _).mp
      ⟨prepared, bindings, success, rfl⟩
    exact ⟨known, by rw [listed]; simpa using short⟩
  · rintro ⟨known, short⟩
    obtain ⟨prepared, bindings, success, listed⟩ :=
      (prepare_eq_ok_iff shape record sql _).mpr ⟨known, rfl⟩
    refine ⟨prepared, bindings, success, ?_⟩
    have same := congrArg List.length listed
    rw [List.length_map] at same
    rw [same]
    exact short

/-- The walk over an accepted statement, with the shape and the count that it ends with. -/
theorem walk_of_accepted (m : Mapper) (accepted : Accepted m) (statement : Statement)
    (member : statement ∈ m.statements.values) :
    ∃ shape walk, m.parameterShape statement = .ok shape ∧
      walkBody m statement shape .none ⟨false, 0⟩ statement.body = .ok walk ∧
      placeholderSlots m statement shape = .ok walk.count := by
  obtain ⟨compiled, success⟩ := accepted
  obtain ⟨resolved, _, _, isResolved, _, _⟩ :=
    function_of_compile m compiled success statement member
  obtain ⟨found, count, counted, _⟩ := resolve_eq_ok m statement resolved isResolved
  have walked := counted
  rw [placeholderSlots, map_eq_ok_iff] at walked
  obtain ⟨walk, walked, rfl⟩ := walked
  exact ⟨resolved.shape, walk, found, walked, counted⟩

/-- The text of an accepted statement is bound within its slots exactly if each placeholder that
none of its literals holds happens to name a field, and all of them fit. A statement without seams
has no such placeholders. -/
theorem accepted_bindsWithin_iff (m : Mapper) (accepted : Accepted m) (statement : Statement)
    (member : statement ∈ m.statements.values) (record : Record) (sql : String)
    (rendered : render m statement record = .ok sql) :
    ∃ shape count literals, m.parameterShape statement = .ok shape ∧
      placeholderSlots m statement shape = .ok count ∧
      emittedBody m statement record statement.body = .ok literals ∧
      (BindsWithin shape record (max 1 count) sql ↔
        (∀ name ∈ (placeholders sql).1, name ∉ literalPlaceholders literals →
          (shape.field? name).isSome) ∧ (placeholders sql).1.length ≤ max 1 count) ∧
      (Seamless m statement.body →
        (placeholders sql).1 = literalPlaceholders literals ∧
          BindsWithin shape record (max 1 count) sql) := by
  obtain ⟨shape, walk, found, walked, counted⟩ := walk_of_accepted m accepted statement member
  obtain ⟨literals, derived, emitted⟩ := renders_of_render sql rendered
  obtain ⟨checked, enough⟩ := checked_of_walkBody derived .none _ walk walked
  have known : ∀ name ∈ literalPlaceholders literals, (shape.field? name).isSome := by
    intro name listed
    rw [literalPlaceholders_eq, literalsNames, List.mem_flatMap] at listed
    obtain ⟨literal, emittedHere, held⟩ := listed
    exact (checked literal emittedHere).2 name held
  refine ⟨shape, walk.count, literals, found, counted, emitted, ?_, ?_⟩
  · rw [bindsWithin_iff]
    constructor
    · rintro ⟨fields, short⟩
      exact ⟨fun name listed _ => fields name listed, short⟩
    · rintro ⟨fields, short⟩
      refine ⟨fun name listed => ?_, short⟩
      by_cases held : name ∈ literalPlaceholders literals
      · exact known name held
      · exact fields name listed held
  · intro seamless
    have read := scan_of_seamless derived seamless walk walked
    have same : (placeholders sql).1 = literalPlaceholders literals := by
      rw [placeholders_eq, literalPlaceholders_eq, names, read]
    refine ⟨same, (bindsWithin_iff shape record _ sql).mpr ?_⟩
    rw [same]
    refine ⟨known, ?_⟩
    rw [literalPlaceholders_eq]
    simp only [Nat.zero_add] at enough
    omega

/-- A hash that stands alone, and a trim that strips a token before a placeholder. -/
def filtering : List Node :=
  [.text "DELETE FROM t WHERE tag = '#'",
    .trim ⟨" AND ", "", "AND ", ""⟩ [.conditional "id" [.text " AND id = #\x7bid\x7d"]]]

theorem filtering_seamless : Seamless (deleting filtering) filtering := by
  refine .inl ⟨trivial, ⟨?_, rfl, ?_⟩, trivial⟩
  · exact List.all_eq_true.mp rfl
  · intro literal member _
    rw [List.mem_singleton.mp member]
    unfold Outlasts
    decide

theorem filtering_bindsWithin :
    Seamless (deleting filtering) filtering ∧
      BindsWithin identified ⟨[("id", .int 7)]⟩ 1
        "DELETE FROM t WHERE tag = '#' AND id = #\x7bid\x7d" := by
  obtain ⟨shape, count, _, found, counted, _, _, bound⟩ :=
    accepted_bindsWithin_iff (deleting filtering) (by decide +kernel) (deletion filtering)
      (List.mem_singleton.mpr rfl) ⟨[("id", .int 7)]⟩ _ rfl
  have sameShape : identified = shape := Except.ok.inj found
  subst sameShape
  have one : 1 = count := Except.ok.inj counted
  subst one
  exact ⟨filtering_seamless, (bound filtering_seamless).2⟩

/-- A trim around a blank, which is all stripped, between a hash and a brace. -/
def splitting : List Node :=
  [.text "DELETE FROM t WHERE id = #", .trim ⟨"", "", "", ""⟩ [.text " "], .text "\x7bnosuch\x7d"]

/-- The check accepts the statement, but its text has a placeholder that names no field. -/
theorem splitting_accepted_unbound :
    Accepted (deleting splitting) ∧
      ∃ statement ∈ (deleting splitting).statements.values, ∃ shape sql,
        (deleting splitting).parameterShape statement = .ok shape ∧
        render (deleting splitting) statement (Record.ofShape shape) = .ok sql ∧
        prepare shape (Record.ofShape shape) sql = .error "nosuch" :=
  ⟨by decide +kernel, _, List.mem_singleton.mpr rfl, _, _, rfl, rfl, rfl⟩

end Acceptance

end SqlMapper.Placeholder
