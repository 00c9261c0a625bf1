import SqlMapper.Proofs.Quoting
import SqlMapper.Proofs.Scaffold.Compilation
import SqlMapper.Proofs.Schema.Inquiry

/-!
Names that are quoted in queries and statements. Every query of an inquiry and every text in the
document of a table is read as signs and quoted names, and the names are those of the database, the
table and the columns that it is about, whatever characters they are made of.
-/

namespace SqlMapper.Schema

open Sql (Lexeme Reads lexemes quotedNames reads_append reads_around reads_signs_append signs)
open Xml (Content make textOf everything)

section Queries

def Step.parts (database : String) : Step → List Lexeme
  | .database => signs "SHOW CREATE DATABASE " ++ [.name database]
  | .tables => signs "SHOW TABLES FROM " ++ [.name database]
  | .columns table =>
      signs "SHOW FULL COLUMNS FROM " ++ ([.name table] ++ (signs " FROM " ++ [.name database]))
  | .definition table =>
      signs "SHOW CREATE TABLE " ++ ([.name database] ++ (signs "." ++ [.name table]))

theorem reads_query (database : String) (step : Step) :
    Reads (step.query database) (step.parts database) := by
  rw [← step.asks_eq]
  have name := Sql.reads_quotedName
  have space : '\x60' ∉ " FROM ".toList := by decide
  have dot : '\x60' ∉ ".".toList := by decide
  cases step with
  | database =>
      have plain : '\x60' ∉ "SHOW CREATE DATABASE ".toList := by decide
      exact reads_signs_append plain (name database)
  | tables =>
      have plain : '\x60' ∉ "SHOW TABLES FROM ".toList := by decide
      exact reads_signs_append plain (name database)
  | columns table =>
      have plain : '\x60' ∉ "SHOW FULL COLUMNS FROM ".toList := by decide
      have whole := reads_signs_append plain
        (reads_around (name table) space (by decide) (name database))
      rwa [← String.append_assoc, ← String.append_assoc] at whole
  | definition table =>
      have plain : '\x60' ∉ "SHOW CREATE TABLE ".toList := by decide
      have whole := reads_signs_append plain
        (reads_around (name database) dot (by decide) (name table))
      rwa [← String.append_assoc, ← String.append_assoc] at whole

/-- An inquiry asks nothing but queries of its plan. -/
theorem mem_queries {answers : Answers} {database query : String}
    (asked : query ∈ (inquire answers database).queries) :
    ∃ step ∈ plan answers database, query = step.query database := by
  have planned : query ∈ (plan answers database).map (Step.query database) := by
    cases course_inquire answers database with
    | completes _ _ _ queries _ => rwa [queries] at asked
    | breaks before turn after _ split _ _ _ queries _ =>
        -- What was asked until then is where the plan begins.
        rw [← queries_talk answers database [], split]
        rw [queries] at asked
        refine List.map_subset _ ?_ asked
        simp
  obtain ⟨step, member, same⟩ := List.mem_map.mp planned
  exact ⟨step, member, same.symm⟩

end Queries

section Texts

/-- A text that quotes some names, whatever follows it. -/
def Quotes (text : String) (names : List String) : Prop :=
  ∃ parts, Reads text parts ∧ parts.filterMap Lexeme.name? = names

theorem names_signs (text : String) : (signs text).filterMap Lexeme.name? = [] := by
  rw [signs, List.filterMap_map, List.filterMap_eq_nil_iff]
  exact fun _ _ => rfl

theorem quotes_signs {text : String} (plain : '\x60' ∉ text.toList) : Quotes text [] :=
  ⟨signs text, Sql.reads_signs plain, names_signs text⟩

theorem quotes_quotedName (name : String) : Quotes (Sql.quotedName name) [name] :=
  ⟨[.name name], Sql.reads_quotedName name, rfl⟩

theorem quotes_append {first second : String} {names more : List String} (left : Quotes first names)
    (right : Quotes second more) (seam : second.toList.head? ≠ some '\x60') :
    Quotes (first ++ second) (names ++ more) := by
  obtain ⟨parts, reads, rfl⟩ := left
  obtain ⟨others, later, rfl⟩ := right
  exact ⟨parts ++ others, reads_append reads later seam, List.filterMap_append⟩

theorem quotes_signs_append {first second : String} {names : List String}
    (plain : '\x60' ∉ first.toList) (right : Quotes second names) :
    Quotes (first ++ second) names := by
  obtain ⟨parts, reads, rfl⟩ := right
  exact ⟨_, reads_signs_append plain reads, by rw [List.filterMap_append, names_signs]; rfl⟩

theorem quotes_around {first last : String} (gap : String) {names more : List String}
    (left : Quotes first names) (plain : '\x60' ∉ gap.toList) (filled : gap ≠ "")
    (right : Quotes last more) : Quotes (first ++ (gap ++ last)) (names ++ more) := by
  obtain ⟨parts, reads, rfl⟩ := left
  obtain ⟨others, later, rfl⟩ := right
  refine ⟨_, reads_around reads plain filled later, ?_⟩
  rw [List.filterMap_append, List.filterMap_append, names_signs, List.nil_append]

theorem quotes_append_signs {first last : String} {names : List String} (left : Quotes first names)
    (plain : '\x60' ∉ last.toList) : Quotes (first ++ last) names := by
  have whole := quotes_append left (quotes_signs plain) fun starts =>
    plain (List.mem_of_mem_head? starts)
  rwa [List.append_nil] at whole

theorem Quotes.quotedNames_eq {text : String} {names : List String} (quotes : Quotes text names) :
    quotedNames text = some names := by
  obtain ⟨parts, reads, rfl⟩ := quotes
  rw [quotedNames, reads.lexemes_eq, Option.map_some]

theorem quotes_joined (t : Table) {write : Column → String} {names : Column → List String}
    (each : ∀ c, Quotes (write c) (names c)) :
    Quotes (joined t write) (t.columns.flatMap names) := by
  rw [joined]
  induction t.columns with
  | nil => exact quotes_signs (by simp [Text.join])
  | cons c rest ih =>
      cases rest with
      | nil => simpa [Text.join] using each c
      | cons d more =>
          -- The comma keeps the marks of two names apart.
          have spelled : Text.join ", " ((c :: d :: more).map write) =
              write c ++ (", " ++ Text.join ", " ((d :: more).map write)) := by
            rw [← String.append_assoc]
            rfl
          rw [spelled, List.flatMap_cons]
          exact quotes_around ", " (each c) (by decide) (by decide) ih

theorem quotes_placeholderOf (c : Column) : Quotes (placeholderOf c) [] := by
  have plain : '\x60' ∉ (normalized c.name).toList :=
    fun inside => absurd (tails_normalized c.name _ inside) (by decide)
  refine quotes_signs ?_
  simp [placeholderOf, plain]

theorem quotes_columnName (c : Column) : Quotes (columnName c) [c.name] :=
  quotes_quotedName c.name

theorem quotes_assignment (c : Column) : Quotes (assignment c) [c.name] := by
  rw [assignment, String.append_assoc]
  exact quotes_around " = " (quotes_columnName c) (by decide) (by decide) (quotes_placeholderOf c)

end Texts

section Documents

/-- The names that are quoted in several texts, in order. -/
def namesOf : List String → Option (List String)
  | [] => some []
  | text :: rest =>
      (quotedNames text).bind fun names => (namesOf rest).map (names ++ ·)

/-- The names that are quoted anywhere in some contents, in document order. -/
def namesWithin (contents : List Content) : Option (List String) :=
  namesOf ((everything contents).filterMap Content.text?)

theorem namesOf_append {first second : List String} {names more : List String}
    (left : namesOf first = some names) (right : namesOf second = some more) :
    namesOf (first ++ second) = some (names ++ more) := by
  induction first generalizing names with
  | nil =>
      cases left
      exact right
  | cons text rest ih =>
      simp only [namesOf, Option.bind_eq_some_iff, Option.map_eq_some_iff] at left
      obtain ⟨here, read, others, later, rfl⟩ := left
      rw [List.cons_append, namesOf, read, Option.bind_some, ih later, Option.map_some,
        List.append_assoc]

theorem namesWithin_append {first second : List Content} {names more : List String}
    (left : namesWithin first = some names) (right : namesWithin second = some more) :
    namesWithin (first ++ second) = some (names ++ more) := by
  rw [namesWithin, Xml.everything_append, List.filterMap_append]
  exact namesOf_append left right

theorem namesWithin_cons {content : Content} {rest : List Content} {names more : List String}
    (here : namesWithin [content] = some names) (later : namesWithin rest = some more) :
    namesWithin (content :: rest) = some (names ++ more) :=
  namesWithin_append here later

theorem namesWithin_text {data : String} {names : List String} (quotes : Quotes data names) :
    namesWithin [.text data] = some names := by
  have texts : (everything [.text data]).filterMap Content.text? = [data] := rfl
  rw [namesWithin, texts, namesOf, quotes.quotedNames_eq]
  simp [namesOf]

theorem namesWithin_textOf {data : String} {names : List String} (quotes : Quotes data names) :
    namesWithin (textOf data) = some names := by
  unfold textOf
  split
  · next empty =>
      have none := quotes.quotedNames_eq
      rw [beq_iff_eq.mp empty, quotedNames, String.toList_empty, lexemes] at none
      exact none
  · exact namesWithin_text quotes

/-- The attributes of an element are no texts. -/
theorem namesWithin_make (tag : String) (attributes : List (String × String))
    (children : List Content) :
    namesWithin [make tag attributes children] = namesWithin children := by
  rw [namesWithin, Xml.everything_make, everything, List.append_nil, namesWithin,
    List.filterMap_cons_none rfl]

theorem namesWithin_presentParts (columns : List Column) {write : Column → String}
    {names : Column → List String} (each : ∀ c, Quotes (write c) (names c)) :
    namesWithin (presentParts columns write) = some (columns.flatMap names) := by
  induction columns with
  | nil => rfl
  | cons c rest ih =>
      refine namesWithin_cons ?_ ih
      rw [namesWithin_make]
      exact namesWithin_textOf (each c)

theorem namesWithin_indentation (depth : Nat) : namesWithin [indentation depth] = some [] := by
  refine namesWithin_text (quotes_signs ?_)
  simp [Text.replicate]

/-- The lines between elements quote nothing. -/
theorem namesWithin_lines (depth : Nat) {items : List Content} {names : List (List String)}
    (each : items.map (fun item => namesWithin [item]) = names.map some) :
    namesWithin (lines depth items) = some names.flatten := by
  induction items generalizing names with
  | nil =>
      obtain rfl : names = [] := List.map_eq_nil_iff.mp each.symm
      exact namesWithin_indentation depth
  | cons item rest ih =>
      cases names with
      | nil => cases each
      | cons here later =>
          obtain ⟨first, others⟩ := List.cons.inj each
          have spelled : lines depth (item :: rest) =
              indentation (depth + 1) :: item :: lines depth rest := rfl
          have whole := namesWithin_cons (namesWithin_indentation (depth + 1))
            (namesWithin_cons first (ih others))
          rw [spelled]
          exact whole

section Elements

variable (t : Table)

def columnNames : List String :=
  t.columns.map (·.name)

/-- The names that the statements for a key quote: the table, the columns that are written, and the
key. -/
def keyNames (key : Column) : List (List String) :=
  [t.name :: (columnNames t ++ [key.name]), t.name :: ((others t key).map (·.name) ++ [key.name]),
    [t.name, key.name], [t.name, key.name]]

/-- The names that the elements of a table's document quote. The shape quotes none. -/
def elementNames : List (List String) :=
  [[], columnNames t, t.name :: columnNames t, t.name :: columnNames t] ++
    t.keys.flatMap (keyNames t)

theorem quotes_columnNames : Quotes (joined t columnName) (columnNames t) := by
  rw [columnNames, List.map_eq_flatMap]
  exact quotes_joined t quotes_columnName

theorem quotes_placeholders : Quotes (joined t placeholderOf) [] := by
  have none : t.columns.flatMap (fun _ => ([] : List String)) = [] := by simp
  rw [← none]
  exact quotes_joined t quotes_placeholderOf

theorem quotes_assignments : Quotes (joined t assignment) (columnNames t) := by
  rw [columnNames, List.map_eq_flatMap]
  exact quotes_joined t quotes_assignment

/-- The name of the table between two plain texts. -/
theorem quotes_head (opening gap : String) (opens : '\x60' ∉ opening.toList)
    (plain : '\x60' ∉ gap.toList) : Quotes (opening ++ Sql.quotedName t.name ++ gap) [t.name] :=
  quotes_append_signs (quotes_signs_append opens (quotes_quotedName t.name)) plain

/-- The name of the table between two plain texts, and then more. -/
theorem quotes_head_append (opening gap : String) {rest : String} {names : List String}
    (opens : '\x60' ∉ opening.toList) (plain : '\x60' ∉ gap.toList) (filled : gap ≠ "")
    (later : Quotes rest names) :
    Quotes (opening ++ Sql.quotedName t.name ++ gap ++ rest) (t.name :: names) := by
  have whole := quotes_signs_append opens
    (quotes_around gap (quotes_quotedName t.name) plain filled later)
  rwa [← String.append_assoc, ← String.append_assoc] at whole

theorem namesWithin_statementElement (tag id : String) (more : List (String × String))
    (children : List Content) :
    namesWithin [statementElement t tag id more children] = namesWithin children :=
  namesWithin_make tag _ children

theorem namesWithin_shapeElement : namesWithin [shapeElement t] = some [] := by
  have none : (t.columns.map fun _ => ([] : List String)).flatten = [] := by simp
  rw [shapeElement, namesWithin_make, ← none]
  refine namesWithin_lines 1 ?_
  rw [List.map_map, List.map_map]
  exact List.map_congr_left fun c _ => namesWithin_make "result" _ []

theorem namesWithin_columnListElement :
    namesWithin [columnListElement t] = some (columnNames t) := by
  rw [columnListElement, namesWithin_make]
  exact namesWithin_textOf (quotes_columnNames t)

theorem namesWithin_insertElement :
    namesWithin [insertElement t] = some (t.name :: columnNames t) := by
  have values : Quotes (joined t placeholderOf ++ ")") [] :=
    quotes_append_signs (quotes_placeholders t) (by decide)
  have whole := quotes_head_append t "INSERT INTO " " (" (by decide) (by decide) (by decide)
    (quotes_around ") VALUES (" (quotes_columnNames t) (by decide) (by decide) values)
  rw [List.append_nil, ← String.append_assoc, ← String.append_assoc] at whole
  rw [insertElement, namesWithin_statementElement]
  exact namesWithin_textOf (by simpa only [String.append_assoc] using whole)

theorem namesWithin_insertSelectiveElement :
    namesWithin [insertSelectiveElement t] = some (t.name :: columnNames t) := by
  have part (opening : String) {write : Column → String} {names : Column → List String}
      (each : ∀ c, Quotes (write c) (names c)) :
      namesWithin [make "trim" [("prefix", opening), ("suffix", ")"), ("suffixOverrides", ",")]
        (presentParts t.columns fun c => write c ++ ",")] = some (t.columns.flatMap names) := by
    rw [namesWithin_make]
    exact namesWithin_presentParts t.columns fun c => quotes_append_signs (each c) (by decide)
  have none : t.columns.flatMap (fun _ => ([] : List String)) = [] := by simp
  have head := quotes_head t "INSERT INTO " " " (by decide) (by decide)
  have whole := namesWithin_cons (namesWithin_text head)
    (namesWithin_cons (part "(" quotes_columnName) (part " VALUES (" quotes_placeholderOf))
  rw [none, List.append_nil, ← List.map_eq_flatMap] at whole
  exact (namesWithin_statementElement t _ _ _ _).trans whole

theorem namesWithin_updateElement (key : Column) :
    namesWithin [updateElement t key] = some (t.name :: (columnNames t ++ [key.name])) := by
  have whole := quotes_head_append t "UPDATE " " SET " (by decide) (by decide) (by decide)
    (quotes_around " WHERE " (quotes_assignments t) (by decide) (by decide) (quotes_assignment key))
  rw [updateElement, namesWithin_statementElement]
  exact namesWithin_textOf (by simpa only [String.append_assoc] using whole)

theorem namesWithin_updateSelectiveElement (key : Column) :
    namesWithin [updateSelectiveElement t key] =
      some (t.name :: ((others t key).map (·.name) ++ [key.name])) := by
  have changes : namesWithin [make "trim" [("prefix", "SET "), ("suffixOverrides", ",")]
      (presentParts (others t key) fun c => assignment c ++ ", ")] =
        some ((others t key).map (·.name)) := by
    rw [namesWithin_make, List.map_eq_flatMap]
    exact namesWithin_presentParts _ fun c => quotes_append_signs (quotes_assignment c) (by decide)
  have head := quotes_head t "UPDATE " " " (by decide) (by decide)
  have condition : Quotes (" WHERE " ++ assignment key) [key.name] :=
    quotes_signs_append (by decide) (quotes_assignment key)
  exact (namesWithin_statementElement t _ _ _ _).trans (namesWithin_cons (namesWithin_text head)
    (namesWithin_cons changes (namesWithin_text condition)))

theorem namesWithin_selectElement (key : Column) :
    namesWithin [selectElement t key] = some [t.name, key.name] := by
  have start : namesWithin [.text "SELECT "] = some [] :=
    namesWithin_text (quotes_signs (by decide))
  have reference := namesWithin_make "include" [("refid", columnListId)] []
  have rest := quotes_head_append t " FROM " " WHERE " (by decide) (by decide) (by decide)
    (quotes_assignment key)
  exact (namesWithin_statementElement t _ _ _ _).trans
    (namesWithin_cons start (namesWithin_cons reference (namesWithin_text rest)))

theorem namesWithin_deleteElement (key : Column) :
    namesWithin [deleteElement t key] = some [t.name, key.name] := by
  rw [deleteElement, namesWithin_statementElement]
  exact namesWithin_textOf (quotes_head_append t "DELETE FROM " " WHERE " (by decide) (by decide)
    (by decide) (quotes_assignment key))

theorem namesWithin_keyElements (key : Column) :
    (keyElements t key).map (fun element => namesWithin [element]) = (keyNames t key).map some := by
  simp only [keyElements, keyNames, List.map_cons, List.map_nil, namesWithin_updateElement,
    namesWithin_updateSelectiveElement, namesWithin_selectElement, namesWithin_deleteElement]

theorem namesWithin_tableElements :
    (tableElements t).map (fun element => namesWithin [element]) = (elementNames t).map some := by
  simp only [tableElements, elementNames, List.map_append, List.map_cons, List.map_nil,
    List.map_flatMap, namesWithin_shapeElement, namesWithin_columnListElement,
    namesWithin_insertElement, namesWithin_insertSelectiveElement, namesWithin_keyElements]

theorem namesWithin_mapperDocument :
    namesWithin (mapperDocument t) = some (elementNames t).flatten := by
  have declaration : namesWithin [.instruction "xml" "version=\"1.0\" encoding=\"UTF-8\""] =
      some [] := rfl
  have lineEnd : namesWithin [.text "\n"] = some [] := namesWithin_text (quotes_signs (by decide))
  have root := namesWithin_lines 0 (namesWithin_tableElements t)
  rw [← namesWithin_make "mapper" [("namespace", normalized t.name ++ "_mapper")]] at root
  have whole := namesWithin_cons declaration
    (namesWithin_cons lineEnd (namesWithin_cons root lineEnd))
  rwa [List.append_nil] at whole

end Elements

end Documents

/-- A quoted name is read back as it was given, and nothing of what follows it is taken unless that
starts with a quote; names in bytes are read so as well. So every query of an inquiry has the parts
of a step of its plan, and the document of a table quotes the names of the table and its columns,
each element those that it is about. -/
theorem quoted_names_exact :
    (∀ (name rest : List Char), rest.head? ≠ some '\x60' →
      Sql.readName '\x60' (Sql.quotedNameChars name ++ rest) = some (name, rest)) ∧
    (∀ (name rest : List UInt8), rest.head? ≠ some (Text.byte '\x60') →
      Sql.readName (Text.byte '\x60') (Sql.enclosed (Text.byte '\x60') name ++ rest) =
        some (name, rest)) ∧
    (∀ name, Text.encode (Sql.quotedName name) =
      Sql.enclosed (Text.byte '\x60') (Text.encode name)) ∧
    (∀ answers database, ∀ query ∈ (inquire answers database).queries,
      ∃ step ∈ plan answers database, query = step.query database ∧
        lexemes query.toList = some (step.parts database)) ∧
    ∀ t, (tableElements t).map (fun element => namesWithin [element]) = (elementNames t).map some ∧
      namesWithin (mapperDocument t) = some (elementNames t).flatten := by
  refine ⟨?_, fun name _ => Sql.readName_enclosed name, Sql.encode_quotedName, ?_, fun t =>
    ⟨namesWithin_tableElements t, namesWithin_mapperDocument t⟩⟩
  · intro name rest apart
    rw [Sql.quotedNameChars_eq]
    exact Sql.readName_enclosed name apart
  · intro answers database query asked
    obtain ⟨step, planned, rfl⟩ := mem_queries asked
    exact ⟨step, planned, rfl, (reads_query database step).lexemes_eq⟩

/-- A server that refuses to answer. -/
def refusing : Answers :=
  fun _ _ => ⟨[], [], some ⟨1045, "28000", "denied"⟩, false⟩

theorem ticked_names_exact :
    Sql.readName '\x60' (Sql.quotedNameChars "\x60a\x60\x60".toList ++ [' ', '\x60']) =
        some ("\x60a\x60\x60".toList, [' ', '\x60']) ∧
      databaseQuery "\x60" ∈ (inquire refusing "\x60").queries ∧
      ∃ step ∈ plan refusing "\x60", databaseQuery "\x60" = step.query "\x60" ∧
        lexemes (databaseQuery "\x60").toList = some (step.parts "\x60") := by
  have asked : databaseQuery "\x60" ∈ (inquire refusing "\x60").queries := List.mem_cons_self
  exact ⟨quoted_names_exact.1 _ _ (by decide), asked, quoted_names_exact.2.2.2.1 _ _ _ asked⟩

example : quotedNames "SELECT \x60a\x60\x60b\x60 FROM \x60\x60\x60t\x60" =
    some ["a\x60b", "\x60t"] := by
  cbv

end SqlMapper.Schema
