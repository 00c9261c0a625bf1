import SqlMapper.Proofs.Compilation.Conditions
import SqlMapper.Proofs.Placeholder.Sealed
import SqlMapper.Proofs.Scaffold.Selective
import SqlMapper.Proofs.Scaffold.Tables

/-!
The document of a table is compiled whenever it is accepted. Its names are identifiers, its references
stay within the document, and its texts are put together from sealed pieces: quoted names that open no
placeholder, and placeholders for the columns.
-/

namespace SqlMapper.Schema

open Code Placeholder

section Names

/-- A text of characters that may stand in an identifier. -/
def Tails (text : String) : Prop :=
  ∀ c ∈ text.toList, C.isIdentifierTail c = true

instance (text : String) : Decidable (Tails text) :=
  decidable_of_iff (text.toList.all C.isIdentifierTail = true) List.all_eq_true

theorem tails_append {first second : String} (left : Tails first) (right : Tails second) :
    Tails (first ++ second) := by
  rw [Tails, String.toList_append, List.forall_mem_append]
  exact ⟨left, right⟩

theorem tails_normalized (name : String) : Tails (normalized name) := by
  obtain ⟨_, _, _, _, all⟩ := Predicate.isWordTail_of_identifier (normalized name).toList
    (by rw [String.ofList_toList]; exact isIdentifier_normalized name)
  exact all

theorem isIdentifier_append {name more : String} (formed : C.isIdentifier name = true)
    (tails : Tails more) : C.isIdentifier (name ++ more) = true := by
  unfold C.isIdentifier at formed ⊢
  rw [String.toList_append]
  cases spelled : name.toList with
  | nil => simp [spelled] at formed
  | cons first rest =>
      simp only [spelled, Bool.and_eq_true, List.all_eq_true] at formed
      simp only [List.cons_append, Bool.and_eq_true, List.all_eq_true, List.forall_mem_append]
      exact ⟨formed.1, formed.2, tails⟩

theorem isIdentifier_recordType (t : Table) : C.isIdentifier (recordType t) = true := by
  rw [recordType, String.append_assoc]
  exact isIdentifier_append (by decide) (tails_append (tails_normalized t.name) (by decide))

end Names

section Texts

variable {t : Table} {shape : ResultMap}

theorem sealed_string_append {first second : String} (left : Sealed shape first.toList)
    (right : Sealed shape second.toList) : Sealed shape (first ++ second).toList := by
  rw [String.toList_append]
  exact sealed_append left right

theorem sealed_quotedName {name : String} (absent : Text.occurs ['#', '{'] name.toList = false) :
    Sealed shape (Sql.quotedName name).toList :=
  sealed_clear (clear_quotedName absent)

theorem sealed_joined {write : Column → String}
    (each : ∀ c ∈ t.columns, Sealed shape (write c).toList) :
    Sealed shape (joined t write).toList := by
  rw [joined, Text.toList_join]
  refine sealed_intercalate (sealed_clear (by decide)) ?_
  simpa using each

section Columns

variable (distinct : (t.columns.map fun c => normalized c.name).Nodup) {c : Column}
  (member : c ∈ t.columns)

include distinct member

theorem sealed_placeholderOf : Sealed (tableShape t) (placeholderOf c).toList := by
  have spelled : (placeholderOf c).toList = '#' :: '{' :: ((normalized c.name).toList ++ ['}']) := by
    simp [placeholderOf]
  rw [spelled]
  refine sealed_placeholder (brace_not_mem_normalized c.name) ?_
  rw [String.ofList_toList, field?_tableShape distinct member]
  rfl

theorem sealed_assignment (absent : Text.occurs ['#', '{'] c.name.toList = false) :
    Sealed (tableShape t) (assignment c).toList :=
  sealed_string_append (sealed_string_append (sealed_quotedName absent) (sealed_clear (by decide)))
    (sealed_placeholderOf distinct member)

end Columns

/-- What a trim with a comma at its end may uncover is what stands in front of the comma. -/
theorem endsHash_separated (opening closing : String) {core blanks : List Char}
    (ends : core.getLast? ≠ some '#') (blank : ∀ c ∈ blanks, Text.isBlank c = true) :
    (Stripping.none.under ⟨opening, closing, "", ","⟩).endsHash (core ++ ',' :: blanks) = false := by
  have bare : Text.dropRight Text.isBlank (core ++ ',' :: blanks) = core ++ [','] := by
    rw [List.append_cons]
    refine Sql.dropRight_blanks Text.isBlank _ blanks blank ?_
    intro last found
    rw [List.getLast?_concat, Option.some_inj] at found
    subst found
    decide
  have plain {text : List Char} (other : text.getLast? ≠ some '#') :
      Stripping.endsWith '#' text = false := by
    rw [← Bool.not_eq_true, endsWith_iff]
    exact other
  have whole : (core ++ ',' :: blanks).getLast? ≠ some '#' := by
    intro last
    rw [List.getLast?_append_of_ne_nil _ (List.cons_ne_nil _ _)] at last
    rcases List.mem_cons.mp (List.mem_of_getLast? last) with same | later
    · exact absurd same (by decide)
    · exact absurd (blank _ later) (by decide)
  have comma : (core ++ [',']).getLast? ≠ some '#' := by simp
  have tokens : Sql.overrideTokens ",".toList = [[',']] := rfl
  simp only [Stripping.endsHash, Stripping.under, Stripping.none, plain whole, bare, plain comma, tokens]
  simp [List.isSuffixOf?, List.isPrefixOf?, plain ends]

theorem passes_parts {m : Mapper} {statement : Statement} {strip : Stripping} {columns : List Column}
    {write : Column → String}
    (each : ∀ c ∈ columns, PassesPiece m statement shape strip (write c)) :
    Passes m statement shape strip (parts columns write) := by
  induction columns with
  | nil => exact passes_nil
  | cons c rest ih =>
      obtain ⟨here, later⟩ := List.forall_mem_cons.mp each
      exact passes_conditional (passes_text here passes_nil) (ih later)

end Texts

section Bodies

variable {m : Mapper} {statement : Statement} {t : Table}
  (absent : ∀ name ∈ t.name :: t.columns.map (·.name),
    Text.occurs ['#', '{'] name.toList = false)

include absent

theorem sealed_columnName {c : Column} (member : c ∈ t.columns) :
    Sealed (tableShape t) (columnName c).toList :=
  sealed_quotedName (absent _ (List.mem_cons_of_mem _ (List.mem_map_of_mem member)))

/-- The name of the table with something plain around it. -/
theorem sealed_head (opening closing : String) (opens : Sql.clear opening.toList = true)
    (closes : Sql.clear closing.toList = true) :
    Sealed (tableShape t) (opening ++ Sql.quotedName t.name ++ closing).toList :=
  sealed_string_append (sealed_string_append (sealed_clear opens)
    (sealed_quotedName (absent _ List.mem_cons_self))) (sealed_clear closes)

variable (distinct : (t.columns.map fun c => normalized c.name).Nodup)

include distinct

theorem sealed_change {c : Column} (member : c ∈ t.columns) :
    Sealed (tableShape t) (assignment c).toList :=
  sealed_assignment distinct member (absent _ (List.mem_cons_of_mem _ (List.mem_map_of_mem member)))

omit absent distinct in
theorem passes_line {text : String} (isSealed : Sealed (tableShape t) text.toList) :
    Passes m statement (tableShape t) .none [.text text] :=
  passes_text (passesPiece_none isSealed) passes_nil

theorem passes_insert : Passes m statement (tableShape t) .none [.text (insertText t)] := by
  have names : Sealed (tableShape t) (joined t columnName).toList :=
    sealed_joined fun c => sealed_columnName absent
  have values : Sealed (tableShape t) (joined t placeholderOf).toList :=
    sealed_joined fun c => sealed_placeholderOf distinct
  have head := sealed_head absent "INSERT INTO " " (" (by decide) (by decide)
  exact passes_line (sealed_string_append (sealed_string_append (sealed_string_append
    (sealed_string_append head names) (sealed_clear (by decide))) values) (sealed_clear (by decide)))

omit absent distinct in
/-- Parts with a comma behind them pass under a trim that takes it away. -/
theorem passes_trimmed (blanks : List Char) {opening closing separator : String}
    {columns : List Column} {write : Column → String} {rest : List Node}
    (opens : Sql.clear opening.toList = true) (closes : Sql.clear closing.toList = true)
    (separates : separator.toList = ',' :: blanks) (blank : ∀ c ∈ blanks, Text.isBlank c = true)
    (kept : Sql.clear separator.toList = true)
    (each : ∀ c ∈ columns, Sealed (tableShape t) (write c).toList)
    (later : Passes m statement (tableShape t) .none rest) :
    Passes m statement (tableShape t) .none
      (.trim ⟨opening, closing, "", ","⟩ (parts columns fun c => write c ++ separator) :: rest) := by
  refine passes_trim (passesPiece_none (sealed_clear opens)) (passes_parts fun c member => ?_)
    (passesPiece_none (sealed_clear closes)) later
  refine passesPiece_of_sealed (sealed_string_append (each c member) (sealed_clear kept)) ?_
  rw [String.toList_append, separates]
  exact endsHash_separated opening closing (each c member).ends blank

theorem passes_insertSelective :
    Passes m statement (tableShape t) .none (insertSelectiveBody t) := by
  refine passes_text (passesPiece_none (sealed_head absent "INSERT INTO " " " (by decide) (by decide)))
    (passes_trimmed [] (by decide) (by decide) rfl (by simp) (by decide) ?_
      (passes_trimmed [] (by decide) (by decide) rfl (by simp) (by decide) ?_ passes_nil))
  · exact fun c => sealed_columnName absent
  · exact fun c => sealed_placeholderOf distinct

section Keys

variable {key : Column} (member : key ∈ t.columns)

include member

theorem passes_update : Passes m statement (tableShape t) .none [.text (updateText t key)] := by
  have changes : Sealed (tableShape t) (joined t assignment).toList :=
    sealed_joined fun c => sealed_change absent distinct
  have head := sealed_head absent "UPDATE " " SET " (by decide) (by decide)
  exact passes_line (sealed_string_append (sealed_string_append (sealed_string_append head changes)
    (sealed_clear (by decide))) (sealed_change absent distinct member))

theorem passes_updateSelective :
    Passes m statement (tableShape t) .none (updateSelectiveBody t key) := by
  have condition : Sealed (tableShape t) (" WHERE " ++ assignment key).toList :=
    sealed_string_append (sealed_clear (by decide)) (sealed_change absent distinct member)
  refine passes_text (passesPiece_none (sealed_head absent "UPDATE " " " (by decide) (by decide)))
    (passes_trimmed [' '] (by decide) (by decide) rfl (List.forall_mem_singleton.mpr rfl) (by decide)
      ?_ (passes_line condition))
  exact fun c other => sealed_change absent distinct (List.mem_of_mem_filter other)

theorem passes_select (found : m.fragmentText statement columnListId = .ok (joined t columnName)) :
    Passes m statement (tableShape t) .none (selectBody t key) := by
  have names : Sealed (tableShape t) (joined t columnName).toList :=
    sealed_joined fun c => sealed_columnName absent
  have rest := sealed_string_append (sealed_head absent " FROM " " WHERE " (by decide) (by decide))
    (sealed_change absent distinct member)
  exact passes_text (passesPiece_none (sealed_clear (by decide)))
    (passes_fragment found (passesPiece_none names) (passes_line rest))

theorem passes_delete : Passes m statement (tableShape t) .none [.text (deleteText t key)] :=
  passes_line (sealed_string_append
    (sealed_head absent "DELETE FROM " " WHERE " (by decide) (by decide))
    (sealed_change absent distinct member))

end Keys

end Bodies

theorem references_parts (columns : List Column) (write : Column → String) :
    references (parts columns write) = [] := by
  induction columns with
  | nil => rfl
  | cons c rest ih =>
      rw [parts, List.map_cons, references, ← parts, ih]
      rfl

section Tables

variable (document : String) (t : Table)

def tableMapper : Mapper where
  space := normalized t.name ++ "_mapper"
  document := document
  resultMaps := ⟨[(shapeId, tableShape t)]⟩
  fragments := ⟨[(columnListId, joined t columnName)]⟩
  statements := ⟨(tableStatements t).map fun statement => (statement.id, statement)⟩

theorem described_tableRoot : Mapper.described document (tableRoot t) = tableMapper document t := by
  have space : Mapper.valueOf (tableRoot t) "namespace" = normalized t.name ++ "_mapper" :=
    valueOf_elementOf ..
  simp only [Mapper.described, Mapper.extended, shapesIn_tableRoot, fragmentsIn_tableRoot,
    statementsIn_tableRoot, space]
  rfl

theorem values_tableMapper : (tableMapper document t).resultMaps.values = [tableShape t] ∧
    (tableMapper document t).statements.values = tableStatements t := by
  simp [tableMapper, SqlMapper.Table.values, Function.comp_def]

theorem shapeOfType?_tableMapper :
    (tableMapper document t).shapeOfType? (recordType t) = some (tableShape t) := by
  simp [Mapper.shapeOfType?, values_tableMapper, tableShape]

theorem fragmentText_tableMapper (statement : Statement) :
    (tableMapper document t).fragmentText statement columnListId = .ok (joined t columnName) := by
  simp [Mapper.fragmentText, tableMapper, SqlMapper.Table.get?]

/-- Apart from its id and its body a statement of the table has nothing that could be wrong. -/
theorem statementSound_of_passes {kind : StatementKind} {id : String} {body : List Node}
    (tails : Tails id) (includes : references body ⊆ [columnListId])
    (passes : Passes (tableMapper document t) (tableStatement t kind id body) (tableShape t) .none body) :
    StatementSound (tableMapper document t) (tableStatement t kind id body) where
  id := isIdentifier_append (isIdentifier_append (isIdentifier_normalized t.name) (by decide)) tails
  parameter := by
    simp [values_tableMapper, tableShape, tableStatement]
  row := by
    intro selects
    have row : (tableStatement t kind id body).resultMap = shapeId := if_pos selects
    simp [row, tableMapper, SqlMapper.Table.keys]
  includes := by
    intro reference listed
    have same : reference = columnListId := List.mem_singleton.mp (includes listed)
    simp [same, tableMapper, SqlMapper.Table.keys]
  placeholders := by
    intro shape found
    obtain rfl : tableShape t = shape :=
      Option.some.inj ((shapeOfType?_tableMapper document t).symm.trans found)
    exact placeholderSlots_of_passes passes

variable (known : ∀ c ∈ t.columns, c.kind ≠ .unknown)
  (distinct : (t.columns.map fun c => normalized c.name).Nodup)
  (absent : ∀ name ∈ t.name :: t.columns.map (·.name),
    Text.occurs ['#', '{'] name.toList = false)

include absent distinct

theorem statementSound_keyStatements {key : Column} (member : key ∈ t.columns) :
    ∀ statement ∈ keyStatements t key, StatementSound (tableMapper document t) statement := by
  have named (start : String) (plain : Tails start) : Tails (start ++ normalized key.name) :=
    tails_append plain (tails_normalized key.name)
  have updates := named "update_by_" (by decide)
  simp only [keyStatements, List.forall_mem_cons]
  refine ⟨?_, ?_, ?_, ?_, by simp⟩
  · exact statementSound_of_passes document t updates (by simp [references, nodeReferences])
      (passes_update absent distinct member)
  · exact statementSound_of_passes document t (tails_append updates (by decide))
      (by simp [updateSelectiveBody, references, nodeReferences, references_parts])
      (passes_updateSelective absent distinct member)
  · exact statementSound_of_passes document t (named "select_by_" (by decide))
      (by simp [selectBody, references, nodeReferences])
      (passes_select absent distinct member (fragmentText_tableMapper document t _))
  · exact statementSound_of_passes document t (named "delete_by_" (by decide))
      (by simp [references, nodeReferences]) (passes_delete absent distinct member)

include known

theorem compilable_tableMapper : Compilable (tableMapper document t) where
  space := isIdentifier_append (isIdentifier_normalized t.name) (by decide)
  shapes := by
    rw [(values_tableMapper document t).1, List.forall_mem_singleton]
    refine ⟨isIdentifier_recordType t, ?_, known_tableShape known⟩
    intro f listed
    obtain ⟨c, _, rfl⟩ := List.mem_map.mp listed
    exact isIdentifier_normalized c.name
  statements := by
    rw [(values_tableMapper document t).2, tableStatements, List.forall_mem_append]
    constructor
    · simp only [List.forall_mem_cons]
      refine ⟨?_, ?_, by simp⟩
      · exact statementSound_of_passes document t (by decide) (by simp [references, nodeReferences])
          (passes_insert absent distinct)
      · exact statementSound_of_passes document t (by decide)
          (by simp [insertSelectiveBody, references, nodeReferences, references_parts])
          (passes_insertSelective absent distinct)
    · intro statement listed
      obtain ⟨key, isKey, inside⟩ := List.mem_flatMap.mp listed
      exact statementSound_keyStatements document t distinct absent (List.mem_of_mem_filter isKey)
        statement inside

end Tables

/-- The columns of a table, in order, are the fields of its record. -/
theorem fields_tableShape {t : Table} (known : ∀ c ∈ t.columns, c.kind ≠ .unknown) :
    (tableShape t).fields.map (fun f => (f.column, f.property, f.kind)) =
      t.columns.map fun c => (c.name, normalized c.name, c.kind) := by
  rw [tableShape, List.map_map]
  apply List.map_congr_left
  intro c member
  rw [Function.comp_apply, kind_fieldOf (known c member)]
  rfl

/-- The document of a table is accepted exactly if no key is named like another key with the ending
of a selective update; else two statements would have one id. What is accepted is compiled: its record
lists the columns, and there are two functions and four more for each key. -/
theorem scaffold_compiles_iff (t : Table) (document : String) (bytes : List UInt8)
    (known : ∀ c ∈ t.columns, c.kind ≠ .unknown)
    (distinct : (t.columns.map fun c => normalized c.name).Nodup)
    (absent : ∀ name ∈ t.name :: t.columns.map (·.name),
      Text.occurs ['#', '{'] name.toList = false)
    (readBack : Xml.parse bytes = .ok (mapperDocument t)) :
    ((∃ m, (Mapper.parse document bytes).outcome = .ok m) ↔ ∀ key ∈ t.keys, ∀ other ∈ t.keys,
      normalized other.name ≠ normalized key.name ++ "_selective") ∧
    (∀ e, (Mapper.parse document bytes).outcome = .error e → e.complaint.fault = .malformed) ∧
    ∀ m, (Mapper.parse document bytes).outcome = .ok m →
      ∃ c shape, (compile m).outcome = .ok c ∧ c.space = normalized t.name ++ "_mapper" ∧
        m.resultMaps.values = [shape] ∧ c.records = [shape.type] ∧ shape.type = recordType t ∧
        shape.fields.map (fun f => (f.column, f.property, f.kind)) =
          t.columns.map (fun c => (c.name, normalized c.name, c.kind)) ∧
        C.Item.struct (tagOf shape.type) (t.columns.map fun c => (c.kind.cType, normalized c.name))
          ∈ c.header ∧
        c.functions.length = 2 + 4 * t.keys.length := by
  have gives := Mapper.gives_ofElement document (tableRoot t)
  rw [parse_mapperDocument readBack, ← wellFormed_tableRoot t distinct]
  refine ⟨?_, gives.malformed, ?_⟩
  · constructor
    · rintro ⟨m, accepted⟩
      exact ((gives.ok_iff m).mp accepted).1
    · intro formed
      exact ⟨_, (gives.ok_iff _).mpr ⟨formed, rfl⟩⟩
  · intro m accepted
    obtain ⟨_, same⟩ := (gives.ok_iff m).mp accepted
    rw [described_tableRoot] at same
    subst same
    -- The mapper meets every condition of the compiler, so what it emits is known.
    obtain ⟨c, compiled⟩ := (checks_compile _).ok_iff.mpr
      (compilable_tableMapper document t known distinct absent)
    obtain ⟨functions, rfl⟩ := emitted_of_compile compiled
    have shapes := (values_tableMapper document t).1
    refine ⟨_, tableShape t, compiled, rfl, shapes, ?_, rfl, fields_tableShape known, ?_, ?_⟩
    · rw [emitted, shapes, List.map_singleton]
    · have members : (tableShape t).fields.map (fun f => (f.kind.cType, f.property)) =
          t.columns.map fun c => (c.kind.cType, normalized c.name) := by
        simpa [Function.comp_def] using
          congrArg (List.map fun f => (f.2.2.cType, f.2.1)) (fields_tableShape known)
      rw [emitted, headerItems, shapes, ← members]
      simp [recordHeader]
    · rw [length_functions_emitted, Mapper.statementCount, SqlMapper.Table.size, tableMapper,
        List.length_map, length_tableStatements]

section Accounts

theorem accounts_compiles :
    ∃ m c, (Mapper.parse "accounts.xml"
        (Text.encode (Xml.renderAll (mapperDocument accounts)))).outcome = .ok m ∧
      (compile m).outcome = .ok c ∧ c.records = ["yb_user_s_t"] ∧ c.functions.length = 6 := by
  have legal : ∀ name ∈ accounts.name :: accounts.columns.map (·.name), Xml.Legal name.toList := by
    decide
  obtain ⟨table, columns⟩ := List.forall_mem_cons.mp legal
  rw [List.forall_mem_map] at columns
  obtain ⟨accepts, _, compiles⟩ := scaffold_compiles_iff accounts "accounts.xml" _ (by decide)
    (by decide) (by decide) (parse_written_mapperDocument table columns)
  obtain ⟨m, accepted⟩ := accepts.mpr (by decide)
  obtain ⟨c, shape, compiled, _, _, records, type, _, _, count⟩ := compiles m accepted
  refine ⟨m, c, accepted, compiled, ?_, count⟩
  rw [records, type]
  decide

/-- A table whose second key is named like the first with the ending of a selective update. -/
def clashing : Table where
  name := "t"
  columns := [{ name := "a", type := "int", kind := .integer, primaryKey := true },
    { name := "a_selective", type := "int", kind := .integer, primaryKey := true }]
  create := ""

/-- All that is asked of a table holds, and yet its document is refused. -/
theorem clashing_refused :
    (∀ c ∈ clashing.columns, c.kind ≠ .unknown) ∧
      (clashing.columns.map fun c => normalized c.name).Nodup ∧
      (∀ name ∈ clashing.name :: clashing.columns.map (·.name),
        Text.occurs ['#', '{'] name.toList = false) ∧
      Xml.parse (Text.encode (Xml.renderAll (mapperDocument clashing))) =
        .ok (mapperDocument clashing) ∧
      (Mapper.parse "t-mapper.xml"
        (Text.encode (Xml.renderAll (mapperDocument clashing)))).outcome =
          .error ⟨"t-mapper.xml", "update", "t_update_by_a_selective", .definedTwice⟩ := by
  have legal : ∀ name ∈ clashing.name :: clashing.columns.map (·.name), Xml.Legal name.toList := by
    decide
  obtain ⟨table, columns⟩ := List.forall_mem_cons.mp legal
  rw [List.forall_mem_map] at columns
  have readBack := parse_written_mapperDocument table columns
  refine ⟨by decide, by decide, by decide, readBack, ?_⟩
  rw [parse_mapperDocument readBack]
  have refused : (match (Mapper.ofElement "t-mapper.xml" (tableRoot clashing)).outcome with
      | .error e => e == ⟨"t-mapper.xml", "update", "t_update_by_a_selective", .definedTwice⟩
      | .ok _ => false) = true := by
    decide +kernel
  cases outcome : (Mapper.ofElement "t-mapper.xml" (tableRoot clashing)).outcome with
  | error e =>
      rw [outcome] at refused
      rw [beq_iff_eq.mp refused]
  | ok m =>
      rw [outcome] at refused
      cases refused

end Accounts

end SqlMapper.Schema
