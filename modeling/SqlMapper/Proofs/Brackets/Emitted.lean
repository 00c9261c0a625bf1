import SqlMapper.Proofs.Brackets.Printed
import SqlMapper.Proofs.Buffer.Correctness
import SqlMapper.Proofs.Compilation.Conditions
import SqlMapper.Proofs.Noninterference
import SqlMapper.Proofs.Predicate.Spelling

/-!
The files of an accepted mapper are well bracketed. What the mapper brings into the code are
identifiers, numbers, literals, and conditions; the brackets of a condition are paired if its test is
understood.
-/

namespace SqlMapper.Predicate

open C (Paired Turns paired_of_inert paired_identifier)

section Conditions

theorem paired_number {digits : String} (formed : IsNumber digits.toList) : Paired digits := by
  have digit {c : Char} (isDigit : c.isDigit = true) : C.isInert c = true :=
    C.isInert_of_isIdentifierTail (by simp [C.isIdentifierTail, isDigit])
  have digits {text : List Char} (all : IsDigits text) : ∀ c ∈ text, C.isInert c = true :=
    fun c member => digit (all.2 c member)
  obtain ⟨whole, part, power, isWhole, isPart, isPower, spelled⟩ := formed
  apply paired_of_inert
  rw [spelled]
  simp only [List.forall_mem_append]
  refine ⟨⟨digits isWhole, ?_⟩, ?_⟩
  · rcases isPart with rfl | ⟨fraction, all, rfl⟩
    · exact List.forall_mem_nil _
    · exact List.forall_mem_cons.mpr ⟨by decide, digits all⟩
  · rcases isPower with rfl | ⟨mark, sign, exponent, marks, signs, all, rfl⟩
    · exact List.forall_mem_nil _
    · simp only [List.cons_append, List.forall_mem_cons, List.forall_mem_append]
      refine ⟨?_, ?_, digits all⟩
      · rcases marks with rfl | rfl <;> decide
      · rcases signs with rfl | rfl | rfl <;> exact List.all_eq_true.mp (by decide)

variable (isField : String → Bool)

theorem paired_minusSign (negative : Bool) : Paired (minusSign negative) := by
  cases negative <;> decide

-- The induction is on the precedence levels of a test. Brackets come from groups, and from a negation
-- that would bind too tightly without them.
mutual

theorem paired_expression (e : Expression) (formed : e.Formed) : Paired (e.render isField) := by
  cases e with
  | one first => exact paired_conjunction first formed
  | or first rest =>
      have sign : Paired " || " := by decide
      exact ((paired_conjunction first formed.1).append sign).append
        (paired_expression rest formed.2)

theorem paired_conjunction (c : Conjunction) (formed : c.Formed) : Paired (c.render isField) := by
  cases c with
  | one first => exact paired_term first formed
  | and first rest =>
      have sign : Paired " && " := by decide
      exact ((paired_term first formed.1).append sign).append (paired_conjunction rest formed.2)

theorem paired_term (t : Term) (formed : t.Formed) : Paired (t.render isField) := by
  cases t with
  | not inner =>
      have within := paired_term inner formed
      have sign : Paired "!" := by decide
      have opens : Turns "!(" [] ['('] := by decide
      rw [Term.render]
      split
      · exact sign.append within
      · exact within.between opens (by decide)
  | operand left => exact paired_operand left formed
  | compare left op right =>
      have blank : Paired " " := by decide
      have symbol : Paired op.symbol := by cases op <;> decide
      exact ((((paired_operand left formed.1).append blank).append symbol).append blank).append
        (paired_operand right formed.2)

theorem paired_operand (o : Operand) (formed : o.Formed) : Paired (o.render isField) := by
  cases o with
  | number negative digits => exact (paired_minusSign negative).append (paired_number formed)
  | name negative identifier =>
      have access : Paired (if isField identifier then "n->" else "") := by split <;> decide
      exact ((paired_minusSign negative).append access).append (paired_identifier formed)
  | group negative inner =>
      have opens : Turns "(" [] ['('] := by decide
      exact (paired_expression inner formed).between
        (C.turns_append (paired_minusSign negative) opens) (by decide)

end

end Conditions

end SqlMapper.Predicate

namespace SqlMapper.Code

open C (Paired blockTame paired_identifier)
open Outcome

section Programs

variable {m : Mapper} {statement : Statement} {shape : ResultMap} {target : Buffer} {free next : Nat}
  {body : List Node} {program : List BufferOp}

theorem test_of_guard (built : Builds m statement shape target free body program next) :
    ∀ guard ∈ guards program, guard.1 ∈ Sql.bodyTests body := by
  induction built with
  | done => simp [guards]
  | text _ ih => exact ih
  | fragment _ _ ih => exact ih
  | conditional _ _ _ inner outer =>
      intro guard member
      simp only [guards, BufferOp.guards, guards_append, List.cons_append, List.nil_append,
        List.append_nil, List.mem_cons, List.mem_append] at member
      rw [Sql.bodyTests, Sql.nodeTests, List.cons_append, List.mem_cons, List.mem_append]
      rcases member with rfl | within | later
      · exact .inl rfl
      · exact .inr (.inl (inner guard within))
      · exact .inr (.inr (outer guard later))
  | trim _ _ inner outer =>
      intro guard member
      simp only [guards, BufferOp.guards, guards_append, List.nil_append, List.append_nil,
        List.mem_append] at member
      rw [Sql.bodyTests, Sql.nodeTests, List.mem_append]
      rcases member with within | later
      · exact .inl (inner guard within)
      · exact .inr (outer guard later)

/-- A test that is understood becomes a condition with paired brackets. -/
theorem paired_condition {test spelling : String} (understood : ∃ e, Predicate.parse test = .ok e)
    (spelled : (condition (ε := DocumentError) m statement shape test).outcome = .ok spelling) :
    Paired spelling := by
  obtain ⟨e, parsed⟩ := understood
  rw [condition, parsed] at spelled
  cases spelled
  exact Predicate.paired_expression _ e (Predicate.formed_of_parse test e parsed)

theorem paired_bufferName (b : Buffer) : Paired b.name := by
  cases b with
  | command => decide
  | temporary number =>
      have stem : Paired "tmp_" := by decide
      exact stem.append (C.paired_toString number)

-- The texts of a program become literals, so brackets can only come from the conditions of its guards.
mutual

theorem tame_bufferStmts (program : List BufferOp)
    (paired : ∀ guard ∈ guards program, Paired guard.2) : blockTame (bufferStmts program) = true := by
  cases program with
  | nil => rfl
  | cons op rest =>
      rw [guards, List.forall_mem_append] at paired
      rw [bufferStmts, blockTame, tame_toC op paired.1, tame_bufferStmts rest paired.2]
      rfl

theorem tame_toC (op : BufferOp) (paired : ∀ guard ∈ op.guards, Paired guard.2) :
    op.toC.isTame = true := by
  cases op with
  | declare | appendText | append | trim | free =>
      simp +decide [BufferOp.toC, paired_bufferName]
  | when test condition body =>
      rw [BufferOp.guards, List.forall_mem_cons] at paired
      simp [BufferOp.toC, paired.1, tame_bufferStmts body paired.2]
  | block body => exact tame_bufferStmts body paired

end

end Programs

section Functions

theorem paired_nullMacro (kind : FieldKind) : Paired kind.nullMacro := by
  cases kind <;> decide

theorem paired_bufferType (kind : FieldKind) : Paired (bufferType kind) := by
  cases kind <;> decide

theorem tame_memberOf {object property : String} (known : Paired object)
    (formed : C.isIdentifier property = true) : (memberOf object property).isTame = true := by
  simp [memberOf, known, paired_identifier formed]

theorem tame_bindField {f : Field} (formed : C.isIdentifier f.property = true) :
    (bindField f).isTame = true := by
  have value := tame_memberOf (by decide : Paired "n") formed
  have null := paired_nullMacro f.kind
  have type := paired_bufferType f.kind
  unfold bindField
  split <;> simp +decide [slot, value, null, type]

theorem tame_nameIs (f : Field) : (nameIs f).isTame = true := by
  simp +decide [nameIs]

theorem tame_bindRest {fields : List Field}
    (formed : ∀ f ∈ fields, C.isIdentifier f.property = true) :
    (bindRest fields).isTame = true := by
  induction fields with
  | nil => decide
  | cons f rest ih =>
      obtain ⟨here, later⟩ := List.forall_mem_cons.mp formed
      simp [bindRest, tame_nameIs, tame_bindField here, ih later]

theorem tame_bindChoice {fields : List Field}
    (formed : ∀ f ∈ fields, C.isIdentifier f.property = true) :
    (bindChoice fields).isTame = true := by
  cases fields with
  | nil => decide
  | cons f rest =>
      obtain ⟨here, later⟩ := List.forall_mem_cons.mp formed
      simp [bindChoice, tame_nameIs, tame_bindField here, tame_bindRest later]

theorem tame_bindPass {shape : ResultMap} (sound : ShapeSound shape) (slots : Nat) :
    blockTame (bindPass shape slots) = true := by
  simp +decide [bindPass, when, command, commandLength, done, tame_bindChoice sound.properties]

theorem tame_declarations (slots : Nat) (row : Option ResultMap) :
    blockTame (declarations slots row) = true := by
  cases row <;> simp +decide [declarations, null]

theorem tame_preparation (row : Option ResultMap) : blockTame (preparation row) = true := by
  cases row <;> rfl

theorem tame_execution : blockTame execution = true := by decide

theorem tame_cleanUp : blockTame cleanUp = true := by decide

theorem tame_bindColumn (i : Nat) {f : Field} (formed : C.isIdentifier f.property = true) :
    blockTame (bindColumn i f) = true := by
  have value := tame_memberOf (by decide : Paired "out") formed
  unfold bindColumn
  cases f.kind <;> simp +decide [element, null, value]

theorem tame_freeText {object property : String} {more : List C.Stmt} (known : Paired object)
    (formed : C.isIdentifier property = true) (tame : blockTame more = true) :
    (freeText object property more).isTame = true := by
  have value := tame_memberOf known formed
  simp +decide [freeText, when, value, tame]

theorem tame_fetchText (i : Nat) {f : Field} (formed : C.isIdentifier f.property = true) :
    (fetchText i f).isTame = true := by
  have value := tame_memberOf (by decide : Paired "out") formed
  have stem : Paired "out_buf_" := by decide
  have buffer : Paired ("out_buf_" ++ i.repr) := stem.append (C.paired_toString i)
  simp +decide [fetchText, when, element, null, doneIf, done, isNot, call, value, buffer]

theorem tame_storeColumn (i : Nat) {f : Field} (formed : C.isIdentifier f.property = true) :
    blockTame (storeColumn i f) = true := by
  have known : Paired "out" := by decide
  have value := tame_memberOf known formed
  have missing := paired_nullMacro f.kind
  have stored : blockTame [.assign (memberOf "out" f.property) (.name f.kind.nullMacro)] = true := by
    simp [value, missing]
  unfold storeColumn
  -- one case for each kind of field; the last one has no buffer type and is not stored
  split
  · simp +decide [when, element, value, missing]
  · simp +decide [when, element, value, missing]
  · rw [blockTame, tame_freeText known formed stored, blockTame, tame_fetchText i formed]
    rfl
  · rfl

theorem tame_fetching {row : ResultMap} (sound : ShapeSound row) :
    blockTame (fetching row) = true := by
  have formed (column : Nat × Field) (listed : column ∈ numbered row.fields) :
      C.isIdentifier column.2.property = true :=
    sound.properties column.2 (List.of_mem_zip listed).2
  have bound : blockTame ((numbered row.fields).flatMap fun column =>
      bindColumn column.1 column.2) = true :=
    C.blockTame_flatMap fun column listed => tame_bindColumn column.1 (formed column listed)
  have stored : blockTame ((numbered row.fields).flatMap fun column =>
      storeColumn column.1 column.2) = true :=
    C.blockTame_flatMap fun column listed => tame_storeColumn column.1 (formed column listed)
  have counted : blockTame
      [doneIf (isNot (.call "mysql_stmt_field_count" [.name "stmt"]) row.fields.length)] = true := by
    simp +decide [doneIf, when, done, isNot]
  simp only [fetching, C.blockTame_append, bound, stored, counted]
  split <;> decide

/-- The body of a function: only its conditions come from the mapper unchecked. -/
theorem tame_functionBody {shape : ResultMap} {row : Option ResultMap} {program : List BufferOp}
    (sound : ShapeSound shape) (rows : ∀ shape ∈ row, ShapeSound shape)
    (paired : ∀ guard ∈ guards program, Paired guard.2) (slots : Nat) :
    blockTame (functionBody shape row slots program) = true := by
  have blank : blockTame [.blank] = true := rfl
  simp only [functionBody, C.blockTame_append, tame_declarations, tame_preparation,
    tame_bufferStmts program paired, tame_bindPass sound, tame_execution, tame_cleanUp, blank,
    Bool.and_true, Bool.true_and]
  cases row with
  | none => rfl
  | some row => exact tame_fetching (rows row rfl)

theorem tame_signature {statement : Statement} {shape : ResultMap} {row : Option ResultMap}
    (formed : C.isIdentifier statement.id = true) (sound : ShapeSound shape)
    (rows : ∀ shape ∈ row, ShapeSound shape) : (signature statement shape row).isTame = true := by
  have name := paired_identifier formed
  have type := paired_identifier sound.type
  cases row with
  | none => simp +decide [signature, C.Signature.isTame, name, type]
  | some row =>
      have out := paired_identifier (rows row rfl).type
      simp +decide [signature, C.Signature.isTame, name, type, out]

end Functions

section Records

variable {shape : ResultMap}

theorem tame_constructorOf {type : String} (paired : Paired type) :
    (constructorOf type).isTame = true := by
  have suffix : Paired "_new" := by decide
  simp +decide [constructorOf, C.Signature.isTame, paired, paired.append suffix]

theorem tame_destructorOf {type : String} (paired : Paired type) :
    (destructorOf type).isTame = true := by
  have suffix : Paired "_free" := by decide
  simp +decide [destructorOf, C.Signature.isTame, paired, paired.append suffix]

theorem paired_tagOf {type : String} (paired : Paired type) : Paired (tagOf type) := by
  have suffix : Paired "_s" := by decide
  exact paired.append suffix

theorem tame_constructorBody (sound : ShapeSound shape) :
    blockTame (constructorBody shape) = true := by
  have type := paired_identifier sound.type
  have word : Paired "struct " := by decide
  have record := word.append (paired_tagOf type)
  have members : blockTame (shape.fields.map fun f =>
      .assign (memberOf "n" f.property) (.name f.kind.nullMacro)) = true := by
    rw [C.blockTame_iff, List.forall_mem_map]
    intro f held
    have value := tame_memberOf (by decide : Paired "n") (sound.properties f held)
    simp [value, paired_nullMacro]
  simp only [constructorBody, C.blockTame_append, members]
  simp +decide [when, null, type, record]

theorem tame_destructorBody (sound : ShapeSound shape) :
    blockTame (destructorBody shape) = true := by
  have texts : blockTame ((shape.fields.filter fun f => f.kind = .text).map fun f =>
      freeText "n" f.property []) = true := by
    rw [C.blockTame_iff, List.forall_mem_map]
    intro f held
    exact tame_freeText (by decide) (sound.properties f (List.mem_of_mem_filter held)) rfl
  simp only [destructorBody, C.blockTame_append, texts]
  decide

theorem tame_recordHeader (sound : ShapeSound shape) :
    ∀ item ∈ recordHeader shape, item.isTame = true := by
  have type := paired_identifier sound.type
  have tag := paired_tagOf type
  have members : ∀ f ∈ shape.fields, Paired f.kind.cType ∧ Paired f.property := by
    intro f held
    have spelled : Paired f.kind.cType := by cases f.kind <;> decide
    exact ⟨spelled, paired_identifier (sound.properties f held)⟩
  simpa [recordHeader, type, tag, tame_constructorOf, tame_destructorOf] using members

theorem tame_recordSource (sound : ShapeSound shape) :
    ∀ item ∈ recordSource shape, item.isTame = true := by
  have type := paired_identifier sound.type
  simp [recordSource, tame_constructorOf type, tame_destructorOf type, tame_constructorBody sound,
    tame_destructorBody sound]

end Records

section Files

theorem paired_localInclude {file : String}
    (plain : ∀ c ∈ file.toList, C.IsPlain '"' c) :
    Paired ("include \"" ++ file ++ "\"") := by
  have word : Paired "include " := by decide
  have quoted : Paired ("\"" ++ file ++ "\"") := by
    -- the quotes are part of the directive, not of the name
    have spelled : ("\"" ++ file ++ "\"").toList = '"' :: file.toList ++ ['"'] := by simp
    rw [Paired, C.Turns, spelled]
    exact C.paired_quoted (by decide) plain
  have same : "include \"" ++ file ++ "\"" = "include " ++ ("\"" ++ file ++ "\"") := by
    rw [← String.append_assoc, ← String.append_assoc]
    rfl
  rw [same]
  exact word.append quoted

theorem plain_headerFile {space : String} (formed : C.isIdentifier space = true) :
    ∀ c ∈ (headerFile space).toList, C.IsPlain '"' c := by
  intro c member
  have tail : C.isIdentifierTail c = true ∨ c = '.' := by
    simp only [headerFile, String.toList_append, List.mem_append] at member
    rcases member with (start | inner) | ending
    · have tails : "yb_".toList.all C.isIdentifierTail = true := by decide
      exact .inl (List.all_eq_true.mp tails c start)
    · exact .inl (C.isIdentifierTail_of_mem formed c inner)
    · have known : c = '.' ∨ c = 'h' := by simpa using ending
      rcases known with rfl | rfl
      · exact .inr rfl
      · exact .inl rfl
  refine ⟨?_, ?_, ?_⟩ <;> rintro rfl <;> revert tail <;> decide

theorem tame_supportInclude : (localInclude supportHeader).isTame = true := by decide

theorem tame_headerItems {space : String} {shapes : List ResultMap} {signatures : List C.Signature}
    (formed : C.isIdentifier space = true) (sound : ∀ shape ∈ shapes, ShapeSound shape)
    (tame : ∀ s ∈ signatures, s.isTame = true) :
    ∀ item ∈ headerItems space shapes signatures, item.isTame = true := by
  have guarding := C.paired_of_isIdentifierTail (isIdentifierTail_of_mem_guard formed)
  have asks : Paired ("ifndef " ++ guard space) := Paired.append (by decide) guarding
  have defines : Paired ("define " ++ guard space) := Paired.append (by decide) guarding
  have ends : Paired ("endif // " ++ guard space) := Paired.append (by decide) guarding
  have records : ∀ item ∈ shapes.flatMap recordHeader, item.isTame = true := by
    intro item listed
    obtain ⟨shape, member, inside⟩ := List.mem_flatMap.mp listed
    exact tame_recordHeader (sound shape member) item inside
  have prototypes : ∀ item ∈ signatures.map C.Item.prototype, item.isTame = true := by
    rw [List.forall_mem_map]
    exact tame
  simp only [headerItems, List.forall_mem_append, List.forall_mem_cons]
  refine ⟨⟨⟨⟨?_, ?_, rfl, tame_supportInclude, rfl, ?_⟩, records⟩, prototypes⟩, rfl, ?_, ?_⟩
  · exact C.tame_directive asks
  · exact C.tame_directive defines
  · exact List.forall_mem_nil _
  · exact C.tame_directive ends
  · exact List.forall_mem_nil _

theorem tame_sourceItems {space : String} {shapes : List ResultMap}
    {functions : List (C.Signature × List C.Stmt)} (formed : C.isIdentifier space = true)
    (sound : ∀ shape ∈ shapes, ShapeSound shape)
    (tame : ∀ f ∈ functions, f.1.isTame = true ∧ blockTame f.2 = true) :
    ∀ item ∈ sourceItems space shapes functions, item.isTame = true := by
  have own := paired_localInclude (plain_headerFile formed)
  have system : (systemInclude "stdlib.h").isTame = true ∧
      (systemInclude "string.h").isTame = true := by decide
  have records : ∀ item ∈ shapes.flatMap recordSource, item.isTame = true := by
    intro item listed
    obtain ⟨shape, member, inside⟩ := List.mem_flatMap.mp listed
    exact tame_recordSource (sound shape member) item inside
  have definitions : ∀ item ∈ functions.flatMap fun f => [C.Item.function f.1 f.2, .blank],
      item.isTame = true := by
    intro item listed
    obtain ⟨f, member, inside⟩ := List.mem_flatMap.mp listed
    simp only [List.mem_cons, List.not_mem_nil, or_false] at inside
    rcases inside with rfl | rfl
    · simp [tame f member]
    · rfl
  simp only [sourceItems, List.forall_mem_append, List.forall_mem_cons]
  refine ⟨⟨⟨?_, rfl, system.1, system.2, rfl, tame_supportInclude, rfl, ?_⟩, records⟩, definitions⟩
  · exact C.tame_directive own
  · exact List.forall_mem_nil _

theorem mem_of_resolve {m : Mapper} {statement : Statement} {r : Resolved}
    (resolved : resolve m statement = .ok r) :
    r.shape ∈ m.resultMaps.values ∧ ∀ row ∈ r.row, row ∈ m.resultMaps.values := by
  unfold resolve at resolved
  split at resolved
  · cases resolved
  · obtain ⟨shape, found, resolved⟩ := (bind_eq_ok_iff ..).mp resolved
    obtain ⟨row, read, resolved⟩ := (bind_eq_ok_iff ..).mp resolved
    obtain ⟨count, -, rfl⟩ := (map_eq_ok_iff ..).mp resolved
    refine ⟨List.mem_of_find?_eq_some ((parameterShape_eq_ok_iff shape).mp found), ?_⟩
    intro known same
    cases same
    unfold resolveRow at read
    split at read
    · obtain ⟨row, found, checked⟩ := (bind_eq_ok_iff ..).mp read
      obtain ⟨_, -, same⟩ := (map_eq_ok_iff ..).mp checked
      cases same
      exact rowShape_mem found
    · cases read

/-- The function of a statement whose tests are all understood. -/
theorem tame_statementFunction {m : Mapper} {statement : Statement}
    {function : C.Signature × List C.Stmt} (shapes : ∀ shape ∈ m.resultMaps.values, ShapeSound shape)
    (sound : StatementSound m statement)
    (understood : ∀ test ∈ Sql.bodyTests statement.body, ∃ e, Predicate.parse test = .ok e)
    (built : (statementFunction m statement).outcome = .ok function) :
    function.1.isTame = true ∧ blockTame function.2 = true := by
  simp only [statementFunction, Logged.bind_outcome_eq_ok_iff] at built
  obtain ⟨r, resolved, ⟨program, next⟩, isBuilt, -, -, same⟩ := built
  cases same
  obtain ⟨shape, rows⟩ := mem_of_resolve resolved
  have rowsSound : ∀ row ∈ r.row, ShapeSound row := fun row found => shapes row (rows row found)
  have builds := builds_of_buildBody .command 0 statement.body program next isBuilt
  have paired : ∀ guard ∈ guards program, Paired guard.2 := by
    intro guard listed
    have known := understood guard.1 (test_of_guard builds guard listed)
    exact paired_condition known (condition_of_guard builds guard listed)
  constructor
  · exact tame_signature sound.id (shapes r.shape shape) rowsSound
  · exact tame_functionBody (shapes r.shape shape) rowsSound paired r.slots

/-- Both files of an accepted mapper are well bracketed if each of its tests is understood. -/
theorem bracketed_of_compile (m : Mapper) (c : Compiled) (success : (compile m).outcome = .ok c)
    (understood : ∀ statement ∈ m.statements.values, ∀ test ∈ Sql.bodyTests statement.body,
      ∃ e, Predicate.parse test = .ok e) :
    C.Bracketed c.header ∧ C.Bracketed c.source := by
  obtain ⟨space, shapes, statements⟩ := (checks_compile m).ok_iff.mp ⟨c, success⟩
  obtain ⟨-, -, functions, built, -, header, source⟩ := compile_eq_ok m c success
  have tame : ∀ f ∈ functions, f.1.isTame = true ∧ blockTame f.2 = true := by
    intro f member
    obtain ⟨statement, listed, made⟩ := mapList_source built member
    have held := (mem_allStatements m statement).mp listed
    exact tame_statementFunction shapes (statements statement held) (understood statement held) made
  have signatures : ∀ s ∈ functions.map (·.1), s.isTame = true := by
    rw [List.forall_mem_map]
    exact fun f member => (tame f member).1
  rw [header, source]
  constructor
  · exact C.bracketed_of_tame (tame_headerItems space shapes signatures)
  · exact C.bracketed_of_tame (tame_sourceItems space shapes tame)

/-- Brackets in the text that stay open, one after a quote, and a condition with brackets. -/
def bracing : List Node :=
  [.text "DELETE FROM t WHERE a = '\x7b(\\' AND b <> \"]\" ",
    .conditional "!(id == 1)" [.text "AND id = #\x7bid\x7d )"]]

theorem bracing_bracketed : ∃ c, (compile (deleting bracing)).outcome = .ok c ∧
    C.Bracketed c.header ∧ C.Bracketed c.source := by
  obtain ⟨c, success⟩ : Accepted (deleting bracing) := by decide +kernel
  refine ⟨c, success, bracketed_of_compile (deleting bracing) c success ?_⟩
  have tests : ∀ statement ∈ (deleting bracing).statements.values,
      ∀ test ∈ Sql.bodyTests statement.body, (Predicate.parse test).toOption.isSome = true := by
    decide +kernel
  intro statement held test used
  have parsed := tests statement held test used
  cases read : Predicate.parse test with
  | ok e => exact ⟨e, rfl⟩
  | error cause =>
      rw [read] at parsed
      cases parsed

end Files

end SqlMapper.Code
