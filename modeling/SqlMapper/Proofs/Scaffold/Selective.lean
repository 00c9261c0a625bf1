import SqlMapper.Proofs.Outcome
import SqlMapper.Proofs.Preparation
import SqlMapper.Proofs.Scaffold.Writing
import SqlMapper.Proofs.Trimming

/-!
Scaffolded statements that write only the values that are there. A part of the text is kept for
exactly the columns whose value is present, the trim removes the separator behind the last one, and
the placeholders of the parts bind the fields of the same columns in the same order.
-/

namespace SqlMapper

section Lists

theorem Text.toList_join (separator : String) (items : List String) :
    (Text.join separator items).toList =
      separator.toList.intercalate (items.map String.toList) := by
  induction items with
  | nil => rfl
  | cons first rest ih =>
      cases rest with
      | nil => simp [Text.join]
      | cons second rest =>
          rw [Text.join, String.toList_append, String.toList_append, ih]
          · simp [List.intercalate_cons_cons]
          · simp

theorem flatMap_append_separator (separator : List Char) {pieces : List (List Char)}
    (filled : pieces ≠ []) :
    pieces.flatMap (· ++ separator) = separator.intercalate pieces ++ separator := by
  induction pieces with
  | nil => exact absurd rfl filled
  | cons first rest ih =>
      cases rest with
      | nil => simp
      | cons second rest =>
          rw [List.flatMap_cons, ih (List.cons_ne_nil _ _), List.intercalate_cons_cons,
            List.append_assoc, List.append_assoc, List.append_assoc]

theorem Sql.dropTrailing_comma (text : List Char) : dropTrailing [[',']] (text ++ [',']) = text := by
  simp [dropTrailing, List.isSuffixOf?, List.isPrefixOf?]

/-- A trim takes the separator behind the last of several pieces away. -/
theorem Sql.trimChars_pieces (opening closing : String) {blanks : List Char}
    (blank : ∀ c ∈ blanks, Text.isBlank c = true) (pieces : List (List Char))
    (bare : ∀ piece ∈ pieces, ∃ c rest, piece = c :: rest ∧ Text.isBlank c = false) :
    trimChars ⟨opening, closing, "", ","⟩ (pieces.flatMap (· ++ ',' :: blanks)) =
      opening.toList ++ (',' :: blanks).intercalate pieces ++ closing.toList := by
  have leading : overrideTokens "".toList = [] := rfl
  have trailing : overrideTokens ",".toList = [[',']] := rfl
  have kept (text : List Char) : dropLeading [] text = text := rfl
  simp only [trimChars, leading, trailing, kept]
  cases pieces with
  | nil => simp [Text.strip, Text.dropRight, dropTrailing, List.isSuffixOf?, List.isPrefixOf?]
  | cons first rest =>
      obtain ⟨c, others, rfl, solid⟩ := bare first List.mem_cons_self
      have stripped : Text.strip Text.isBlank
          (((c :: others) :: rest).flatMap (· ++ ',' :: blanks)) =
            (',' :: blanks).intercalate ((c :: others) :: rest) ++ [','] := by
        have starts : (((c :: others) :: rest).flatMap (· ++ ',' :: blanks)).dropWhile
            Text.isBlank = ((c :: others) :: rest).flatMap (· ++ ',' :: blanks) := by
          rw [List.flatMap_cons, List.cons_append, List.cons_append]
          exact List.dropWhile_cons_of_neg (by simp [solid])
        rw [Text.strip, starts, flatMap_append_separator _ (List.cons_ne_nil _ _),
          List.append_cons]
        refine dropRight_blanks Text.isBlank _ blanks blank ?_
        intro last ends
        rw [List.getLast?_concat, Option.some_inj] at ends
        subst ends
        decide
      rw [stripped, dropTrailing_comma]

end Lists

namespace Schema

open Sql (Prepares clear clear_append prepares_clear prepares_append prepares_intercalate)

section Rendering

variable {m : Mapper} {statement : Statement} {record : Record} {columns : List Column}

theorem renderBody_parts (write : Column → String)
    (decided : ∀ c ∈ columns,
      Sql.testHolds statement record (presence c) = .ok (present record c)) :
    Sql.renderBody m statement record (parts columns write) =
      .ok (String.ofList ((columns.filter (present record)).flatMap fun c => (write c).toList)) := by
  induction columns with
  | nil => rfl
  | cons c rest ih =>
      obtain ⟨here, later⟩ := List.forall_mem_cons.mp decided
      have tail : Sql.renderBody m statement record (parts rest write) = _ := ih later
      rw [parts, List.map_cons, Sql.renderBody, ← parts, tail, Sql.renderNode, here]
      cases kept : present record c with
      | false =>
          rw [List.filter_cons_of_neg (by simp [kept])]
          simp [Except.bind, Except.map]
      | true =>
          rw [List.filter_cons_of_pos kept, List.flatMap_cons]
          simp [Sql.renderBody, Sql.renderNode, Except.bind, Except.map]

theorem prepares_wrapped {shape : ResultMap} (opening closing : String) (separator : List Char)
    (opens : clear opening.toList = true) (closes : clear closing.toList = true)
    (separates : clear separator = true) (columns : List Column) {piece out : Column → List Char}
    {fields : Column → List Field}
    (each : ∀ c ∈ columns, Prepares shape record (piece c) (fields c) (out c)) :
    Prepares shape record (opening.toList ++ separator.intercalate (columns.map piece) ++ closing.toList)
      (columns.flatMap fields)
      (opening.toList ++ separator.intercalate (columns.map out) ++ closing.toList) := by
  have whole := prepares_append (prepares_append (prepares_clear opens)
    (prepares_intercalate separates columns each)) (prepares_clear closes)
  simpa using whole

/-- The trimmed parts of the columns that are present. -/
theorem renderNode_parts (opening closing : String) (blanks : List Char)
    (blank : ∀ c ∈ blanks, Text.isBlank c = true) (write : Column → String)
    (bare : ∀ c ∈ columns, ∃ first rest, (write c).toList = first :: rest ∧ Text.isBlank first = false)
    (decided : ∀ c ∈ columns,
      Sql.testHolds statement record (presence c) = .ok (present record c)) :
    Sql.renderNode m statement record (.trim ⟨opening, closing, "", ","⟩
      (parts columns fun c => write c ++ String.ofList (',' :: blanks))) =
      .ok (String.ofList (opening.toList ++
        (',' :: blanks).intercalate ((columns.filter (present record)).map fun c => (write c).toList) ++
          closing.toList)) := by
  have pieces := Sql.trimChars_pieces opening closing blank
    ((columns.filter (present record)).map fun c => (write c).toList) ?_
  · rw [Sql.renderNode, renderBody_parts _ decided]
    rw [List.flatMap_map] at pieces
    simp only [Except.map, Sql.trim, String.toList_ofList, String.toList_append, pieces]
  · intro piece listed
    obtain ⟨c, member, rfl⟩ := List.mem_map.mp listed
    exact bare c (List.mem_of_mem_filter member)

end Rendering

section Fields

theorem bare_columnName (c : Column) :
    ∃ first rest, (columnName c).toList = first :: rest ∧ Text.isBlank first = false := by
  refine ⟨'\x60', c.name.toList.flatMap Sql.quotedNameChar ++ ['\x60'], ?_, by decide⟩
  rw [columnName, Sql.quotedName, String.toList_ofList]
  rfl

theorem bare_placeholderOf (c : Column) :
    ∃ first rest, (placeholderOf c).toList = first :: rest ∧ Text.isBlank first = false := by
  refine ⟨'#', '{' :: (normalized c.name).toList ++ ['}'], ?_, by decide⟩
  rw [placeholderOf, String.toList_append, String.toList_append]
  rfl

theorem bare_assignment (c : Column) :
    ∃ first rest, (assignment c).toList = first :: rest ∧ Text.isBlank first = false := by
  obtain ⟨first, rest, spelled, bare⟩ := bare_columnName c
  refine ⟨first, rest ++ " = ".toList ++ (placeholderOf c).toList, ?_, bare⟩
  rw [assignment, String.toList_append, String.toList_append, spelled]
  rfl

theorem kind_fieldOf {c : Column} (known : c.kind ≠ .unknown) : (fieldOf c).kind = c.kind := by
  show FieldKind.ofType c.kind.cType = c.kind
  cases kind : c.kind with
  | unknown => exact absurd kind known
  | integer | floatingPoint | text => decide

theorem brace_not_mem_normalized (name : String) : '}' ∉ (normalized name).toList := by
  intro inside
  obtain ⟨_, _, _, _, all⟩ := Predicate.isWordTail_of_identifier (normalized name).toList
    (by rw [String.ofList_toList]; exact isIdentifier_normalized name)
  exact absurd (all '}' inside) (by decide)

variable {t : Table} {record : Record} (known : ∀ c ∈ t.columns, c.kind ≠ .unknown)
  (distinct : (t.columns.map fun c => normalized c.name).Nodup)

include known

theorem known_tableShape : ∀ f ∈ (tableShape t).fields, f.kind ≠ .unknown := by
  intro f listed
  obtain ⟨c, member, rfl⟩ := List.mem_map.mp listed
  rw [kind_fieldOf (known c member)]
  exact known c member

omit known
include distinct

theorem distinct_tableShape : ((tableShape t).fields.map (·.property)).Nodup := by
  rw [tableShape, List.map_map]
  exact distinct

theorem field?_tableShape {c : Column} (member : c ∈ t.columns) :
    (tableShape t).field? (normalized c.name) = some (fieldOf c) :=
  ResultMap.field?_of_mem (distinct_tableShape distinct) (List.mem_map_of_mem member)

include known

/-- The tests of a table's columns are decided by what a record of its shape holds. -/
theorem testHolds_of_reached
    (apart : ∀ c ∈ t.columns, Predicate.constant? (normalized c.name) = none)
    (reached : Record.Reached (tableShape t) record) (statement : Statement) {c : Column}
    (member : c ∈ t.columns) :
    Sql.testHolds statement record (presence c) = .ok (present record c) := by
  obtain ⟨value, held, kind⟩ := Record.fits_of_reached (known_tableShape known)
    (distinct_tableShape distinct) reached (fieldOf c) (List.mem_map_of_mem member)
  rw [kind_fieldOf (known c member)] at kind
  refine testHolds_presence (known c member) held kind ?_ statement
  refine Record.get?_of_reached (known_tableShape known) reached ?_
  intro f listed same
  obtain ⟨other, column, rfl⟩ := List.mem_map.mp listed
  have constant := apart other column
  rw [show normalized other.name = c.kind.nullMacro from same,
    constant?_nullMacro (known c member)] at constant
  cases constant

end Fields

section Pieces

variable {t : Table} (record : Record)
  (distinct : (t.columns.map fun c => normalized c.name).Nodup)

theorem clear_quotedName {name : String}
    (absent : Text.occurs ['#', '{'] name.toList = false) :
    clear (Sql.quotedName name).toList = true := by
  rw [Sql.quotedName, String.toList_ofList]
  exact Sql.clear_quotedNameChars absent

include distinct

theorem prepares_placeholderOf {c : Column} (member : c ∈ t.columns) :
    Prepares (tableShape t) record (placeholderOf c).toList [fieldOf c] ['?'] := by
  have spelled : (placeholderOf c).toList = Sql.placeholderChars (fieldOf c) := by
    simp [placeholderOf, Sql.placeholderChars, fieldOf, Field.make]
  rw [spelled]
  exact Sql.prepares_placeholder (brace_not_mem_normalized c.name) (field?_tableShape distinct member)

theorem prepares_assignment {c : Column} (member : c ∈ t.columns)
    (absent : Text.occurs ['#', '{'] c.name.toList = false) :
    Prepares (tableShape t) record (assignment c).toList [fieldOf c]
      (columnName c ++ " = ?").toList := by
  have name : Prepares (tableShape t) record ((columnName c).toList ++ [' ', '=', ' ']) []
      ((columnName c).toList ++ [' ', '=', ' ']) :=
    prepares_clear (clear_append (clear_quotedName absent) (by decide))
  have both := prepares_append name (prepares_placeholderOf record distinct member)
  simpa [assignment] using both

end Pieces

theorem evaluate_of_prepares {m : Mapper} {statement : Statement} {record : Record}
    {shape : ResultMap} (typed : m.parameterShape statement = .ok shape) {text out : List Char}
    {fields : List Field}
    (rendered : Sql.renderBody m statement record statement.body = .ok (String.ofList text))
    (prepares : Prepares shape record text fields out) :
    Sql.evaluate m statement record =
      .ok ⟨String.ofList text, String.ofList out, Sql.bindingsFrom record 0 fields⟩ := by
  have found : (m.parameterShape statement).mapError Sql.RenderError.document = .ok shape := by
    rw [typed]
    rfl
  rw [Sql.evaluate, Sql.render, found]
  simp only [Except.bind, rendered, Sql.prepare_of_prepares prepares]

/-- The columns with another name are the other columns. -/
theorem filter_others {t : Table} (distinct : (t.columns.map fun c => normalized c.name).Nodup)
    {key : Column} (member : key ∈ t.columns) (keep : Column → Bool) :
    (others t key).filter keep = t.columns.filter fun c => c != key && keep c := by
  rw [others, List.filter_filter]
  apply List.filter_congr
  intro c listed
  have named : c.name = key.name ↔ c = key := by
    constructor
    · intro equal
      exact List.inj_on_of_nodup_map distinct listed member (congrArg normalized equal)
    · exact congrArg Column.name
  rw [Bool.and_comm, bne, bne, Bool.eq_iff_iff]
  simp [named]

section Statements

variable {t : Table} (known : ∀ c ∈ t.columns, c.kind ≠ .unknown)
  (distinct : (t.columns.map fun c => normalized c.name).Nodup)
  (apart : ∀ c ∈ t.columns, Predicate.constant? (normalized c.name) = none)
  (absent : ∀ name ∈ t.name :: t.columns.map (·.name),
    Text.occurs ['#', '{'] name.toList = false)
  {m : Mapper} {statement : Statement}
  (typed : m.parameterShape statement = .ok (tableShape t))
  {record : Record} (reached : Record.Reached (tableShape t) record) {columns : List Column}

include known distinct apart absent typed reached

theorem evaluate_insertSelective (bodied : statement.body = insertSelectiveBody t)
    (selected : columns = t.columns.filter (present record)) :
    ∃ e, Sql.evaluate m statement record = .ok e ∧
      e.prepared = "INSERT INTO " ++ Sql.quotedName t.name ++ " (" ++
        Text.join "," (columns.map columnName) ++ ") VALUES (" ++
        Text.join "," (columns.map fun _ => "?") ++ ")" ∧
      e.bindings = Sql.bindingsFrom record 0 (columns.map fieldOf) := by
  obtain ⟨table, plain⟩ := List.forall_mem_cons.mp absent
  rw [List.forall_mem_map] at plain
  have inside : ∀ c ∈ columns, c ∈ t.columns := by
    rw [selected]
    exact fun c => List.mem_of_mem_filter
  have decided : ∀ c ∈ t.columns,
      Sql.testHolds statement record (presence c) = .ok (present record c) :=
    fun c => testHolds_of_reached known distinct apart reached statement
  have names : Sql.renderNode m statement record
      (.trim ⟨"(", ")", "", ","⟩ (parts t.columns fun c => columnName c ++ ",")) = _ :=
    renderNode_parts "(" ")" [] (by simp) columnName (fun c _ => bare_columnName c) decided
  have values : Sql.renderNode m statement record
      (.trim ⟨" VALUES (", ")", "", ","⟩ (parts t.columns fun c => placeholderOf c ++ ",")) = _ :=
    renderNode_parts " VALUES (" ")" [] (by simp) placeholderOf (fun c _ => bare_placeholderOf c)
      decided
  rw [← selected] at names values
  -- The text is a lead and two lists, and only the second list has placeholders.
  have lead : clear ("INSERT INTO " ++ Sql.quotedName t.name ++ " ").toList = true := by
    rw [String.toList_append, String.toList_append]
    exact clear_append (clear_append (by decide) (clear_quotedName table)) (by decide)
  have listed : ∀ c ∈ columns, Prepares (tableShape t) record (columnName c).toList []
      (columnName c).toList :=
    fun c member => prepares_clear (clear_quotedName (plain c (inside c member)))
  have bound : ∀ c ∈ columns, Prepares (tableShape t) record (placeholderOf c).toList [fieldOf c]
      ['?'] :=
    fun c member => prepares_placeholderOf record distinct (inside c member)
  have prepares := prepares_append (prepares_append (prepares_clear lead)
    (prepares_wrapped "(" ")" [','] (by decide) (by decide) (by decide) columns listed))
    (prepares_wrapped " VALUES (" ")" [','] (by decide) (by decide) (by decide) columns bound)
  refine ⟨_, evaluate_of_prepares typed ?_ prepares, ?_, ?_⟩
  · rw [bodied, insertSelectiveBody]
    simp only [Sql.renderBody, names, values]
    simp only [Sql.renderNode, Except.bind, Except.map, Except.ok.injEq, ← String.toList_inj]
    simp
  · rw [← String.toList_inj]
    simp [Text.toList_join, Function.comp_def]
  · have none : columns.flatMap (fun _ => ([] : List Field)) = [] :=
      List.flatMap_eq_nil_iff.mpr (by simp)
    show Sql.bindingsFrom record 0 _ = _
    rw [none, ← List.map_eq_flatMap]
    rfl

theorem evaluate_updateSelective {key : Column} (member : key ∈ t.columns)
    (bodied : statement.body = updateSelectiveBody t key)
    (selected : columns = t.columns.filter fun c => c != key && present record c) :
    ∃ e, Sql.evaluate m statement record = .ok e ∧
      e.prepared = "UPDATE " ++ Sql.quotedName t.name ++ " SET " ++
        Text.join ", " (columns.map fun c => columnName c ++ " = ?") ++ " WHERE " ++
        columnName key ++ " = ?" ∧
      e.bindings = Sql.bindingsFrom record 0 ((columns ++ [key]).map fieldOf) := by
  obtain ⟨table, plain⟩ := List.forall_mem_cons.mp absent
  rw [List.forall_mem_map] at plain
  have inside : ∀ c ∈ columns, c ∈ t.columns := by
    rw [selected]
    exact fun c => List.mem_of_mem_filter
  have decided : ∀ c ∈ others t key,
      Sql.testHolds statement record (presence c) = .ok (present record c) :=
    fun c other => testHolds_of_reached known distinct apart reached statement
      (List.mem_of_mem_filter other)
  have changes : Sql.renderNode m statement record
      (.trim ⟨"SET ", "", "", ","⟩ (parts (others t key) fun c => assignment c ++ ", ")) = _ :=
    renderNode_parts "SET " "" [' '] (List.forall_mem_singleton.mpr rfl) assignment
      (fun c _ => bare_assignment c) decided
  rw [filter_others distinct member, ← selected] at changes
  have lead : clear ("UPDATE " ++ Sql.quotedName t.name ++ " ").toList = true := by
    rw [String.toList_append, String.toList_append]
    exact clear_append (clear_append (by decide) (clear_quotedName table)) (by decide)
  have bound : ∀ c ∈ columns, Prepares (tableShape t) record (assignment c).toList [fieldOf c]
      (columnName c ++ " = ?").toList :=
    fun c listed => prepares_assignment record distinct (inside c listed) (plain c (inside c listed))
  have condition : Prepares (tableShape t) record (" WHERE ".toList ++ (assignment key).toList)
      [fieldOf key] (" WHERE ".toList ++ (columnName key ++ " = ?").toList) :=
    prepares_append (prepares_clear (by decide))
      (prepares_assignment record distinct member (plain key member))
  have prepares := prepares_append (prepares_append (prepares_clear lead)
    (prepares_wrapped "SET " "" [',', ' '] (by decide) (by decide) (by decide) columns bound))
    condition
  refine ⟨_, evaluate_of_prepares typed ?_ prepares, ?_, ?_⟩
  · rw [bodied, updateSelectiveBody]
    simp only [Sql.renderBody, changes]
    simp only [Sql.renderNode, Except.bind, Except.map, Except.ok.injEq, ← String.toList_inj]
    simp
  · rw [← String.toList_inj]
    simp [Text.toList_join, Function.comp_def]
  · show Sql.bindingsFrom record 0 _ = _
    rw [← List.map_eq_flatMap, List.map_append]
    rfl

end Statements

/-- In an accepted mapper for a table, the selective insert lists exactly the columns that have a
value, in order, with a question mark and a binding for each of them; the selective update for a key
does so with the other columns that have a value, and then with the key. -/
theorem selective_aligned (t : Table) (document : String) (m : Mapper)
    (known : ∀ c ∈ t.columns, c.kind ≠ .unknown)
    (distinct : (t.columns.map fun c => normalized c.name).Nodup)
    (apart : ∀ c ∈ t.columns, Predicate.constant? (normalized c.name) = none)
    (absent : ∀ name ∈ t.name :: t.columns.map (·.name),
      Text.occurs ['#', '{'] name.toList = false)
    (legal : ∀ name ∈ t.name :: t.columns.map (·.name), Xml.Legal name.toList)
    (accepted : (Mapper.parse document
      (Text.encode (Xml.renderAll (mapperDocument t)))).outcome = .ok m) :
    (∃ statement, m.statement? (normalized t.name ++ "_insert_selective") = some statement ∧
      m.parameterShape statement = .ok (tableShape t) ∧
      ∀ record columns, Record.Reached (tableShape t) record →
        columns = t.columns.filter (present record) →
        ∃ e, Sql.evaluate m statement record = .ok e ∧
          e.prepared = "INSERT INTO " ++ Sql.quotedName t.name ++ " (" ++
            Text.join "," (columns.map columnName) ++ ") VALUES (" ++
            Text.join "," (columns.map fun _ => "?") ++ ")" ∧
          e.bindings = Sql.bindingsFrom record 0 (columns.map fieldOf)) ∧
    ∀ key ∈ t.keys, ∃ statement,
      m.statement? (normalized t.name ++ "_update_by_" ++ normalized key.name ++ "_selective") =
        some statement ∧
      m.parameterShape statement = .ok (tableShape t) ∧
      ∀ record columns, Record.Reached (tableShape t) record →
        columns = t.columns.filter (fun c => c != key && present record c) →
        ∃ e, Sql.evaluate m statement record = .ok e ∧
          e.prepared = "UPDATE " ++ Sql.quotedName t.name ++ " SET " ++
            Text.join ", " (columns.map fun c => columnName c ++ " = ?") ++ " WHERE " ++
            columnName key ++ " = ?" ∧
          e.bindings = Sql.bindingsFrom record 0 ((columns ++ [key]).map fieldOf) := by
  obtain ⟨table, columns⟩ := List.forall_mem_cons.mp legal
  rw [List.forall_mem_map] at columns
  rw [parse_mapperDocument (parse_written_mapperDocument table columns)] at accepted
  obtain ⟨formed, rfl⟩ := ((Mapper.gives_ofElement document (tableRoot t)).ok_iff m).mp accepted
  have typed (kind : StatementKind) (id : String) (body : List Node) :
      (Mapper.described document (tableRoot t)).parameterShape ⟨kind, id, recordType t, "", body⟩ =
        .ok (tableShape t) := by
    rw [Mapper.parameterShape, shapeOfType?_table formed]
  -- What is accepted is the table's own mapper, so its statements are found by their ids.
  constructor
  · obtain ⟨children, insert, bodied⟩ := insertSelectiveElement_eq t
    have listed : statementElement t "insert" "insert_selective" [] children ∈ tableElements t := by
      rw [← insert]
      simp [tableElements]
    have found := @statement?_table _ document formed .insert _ _ _ listed rfl (by decide)
    rw [String.append_assoc, bodied] at found
    refine ⟨_, found, typed _ _ _, ?_⟩
    intro record columns reached selected
    exact evaluate_insertSelective known distinct apart absent (typed _ _ _) reached rfl selected
  · intro key isKey
    obtain ⟨children, update, bodied⟩ := updateSelectiveElement_eq t key
    have listed : statementElement t "update" ("update_by_" ++ normalized key.name ++ "_selective")
        [] children ∈ tableElements t := by
      rw [← update]
      refine List.mem_append_right _ (List.mem_flatMap.mpr ⟨key, isKey, ?_⟩)
      simp [keyElements]
    have found := @statement?_table _ document formed .update _ _ _ listed rfl (by decide)
    have spelled : normalized t.name ++ "_" ++ ("update_by_" ++ normalized key.name ++ "_selective") =
        normalized t.name ++ "_update_by_" ++ normalized key.name ++ "_selective" := by
      rw [← String.toList_inj]
      simp
    rw [spelled, bodied] at found
    refine ⟨_, found, typed _ _ _, ?_⟩
    intro record columns reached selected
    exact evaluate_updateSelective known distinct apart absent (typed _ _ _) reached
      (List.mem_of_mem_filter isKey) rfl selected

section Accounts

/-- A table with a column of each kind, and with names that are no identifiers. -/
def accounts : Table where
  name := "user`s"
  columns := [{ name := "id", type := "bigint", kind := .integer, primaryKey := true },
    { name := "2nd name", type := "varchar(9)", kind := .text },
    { name := "rate", type := "double", kind := .floatingPoint }]
  create := ""

/-- A record of this table with a name alone. -/
def nameOnly : Record :=
  (Record.ofShape (tableShape accounts)).put "_2nd_name" (.text (some "x"))

theorem accounts_selective_aligned :
    ∃ m insert update inserted updated,
      (Mapper.parse "accounts.xml"
        (Text.encode (Xml.renderAll (mapperDocument accounts)))).outcome = .ok m ∧
      m.statement? "user_s_insert_selective" = some insert ∧
      Sql.evaluate m insert nameOnly = .ok inserted ∧
      inserted.prepared = "INSERT INTO `user``s` (`2nd name`) VALUES (?)" ∧
      m.statement? "user_s_update_by_id_selective" = some update ∧
      Sql.evaluate m update nameOnly = .ok updated ∧
      updated.prepared = "UPDATE `user``s` SET `2nd name` = ? WHERE `id` = ?" := by
  have legal : ∀ name ∈ accounts.name :: accounts.columns.map (·.name), Xml.Legal name.toList := by
    decide
  obtain ⟨m, accepted⟩ : ∃ m, (Mapper.parse "accounts.xml"
      (Text.encode (Xml.renderAll (mapperDocument accounts)))).outcome = .ok m := by
    obtain ⟨table, columns⟩ := List.forall_mem_cons.mp legal
    rw [List.forall_mem_map] at columns
    rw [parse_mapperDocument (parse_written_mapperDocument table columns)]
    have read : (Mapper.ofElement "accounts.xml" (tableRoot accounts)).outcome.isOk = true := by
      decide +kernel
    cases outcome : (Mapper.ofElement "accounts.xml" (tableRoot accounts)).outcome with
    | error e =>
        rw [outcome] at read
        cases read
    | ok m => exact ⟨m, rfl⟩
  have reached : Record.Reached (tableShape accounts) nameOnly :=
    .set .new (show Record.set _ (tableShape accounts) "_2nd_name" "x" = .ok nameOnly from rfl)
  obtain ⟨⟨insert, found, -, inserts⟩, updates⟩ := selective_aligned accounts "accounts.xml" m
    (by decide) (by decide) (by decide) (by decide) legal accepted
  obtain ⟨update, listed, -, changes⟩ := updates _ (List.mem_cons_self)
  obtain ⟨inserted, first, prepared, -⟩ := inserts nameOnly _ reached rfl
  obtain ⟨updated, second, changed, -⟩ := changes nameOnly _ reached rfl
  exact ⟨m, insert, update, inserted, updated, accepted, found, first, prepared, listed, second,
    changed⟩

end Accounts

end Schema

end SqlMapper
