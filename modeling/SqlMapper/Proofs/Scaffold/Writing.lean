import SqlMapper.Proofs.Scaffold.Presence
import SqlMapper.Proofs.Scaffold.Statements
import SqlMapper.Proofs.Xml.RoundTrip

/-!
The document of a table is read back as it was written. What is put around the names of a table and of
its columns can stand in a document, so it is enough that the names can.
-/

namespace SqlMapper.Schema

open Xml (Content Legal Written Readable Plain make textOf readable_textOf readable_elements
  written_make)

section Texts

theorem legal_append {first second : String} (left : Legal first.toList)
    (right : Legal second.toList) : Legal (first ++ second).toList := by
  intro c inside
  rw [String.toList_append, List.mem_append] at inside
  exact inside.elim (left c) (right c)

theorem legal_join {separator : String} (separates : Legal separator.toList) {items : List String}
    (each : ∀ item ∈ items, Legal item.toList) : Legal (Text.join separator items).toList := by
  induction items with
  | nil =>
      intro c inside
      cases inside
  | cons first rest ih =>
      obtain ⟨here, later⟩ := List.forall_mem_cons.mp each
      cases rest with
      | nil => exact here
      | cons second rest => exact legal_append (legal_append here separates) (ih later)

theorem legal_of_isWordTail {c : Char} (tail : Predicate.isWordTail c = true) :
    Xml.isCharacter c = true ∧ c ≠ '\r' := by
  have code := C.printable_of_isIdentifierTail tail
  constructor
  · simp [Xml.isCharacter, code.1, Nat.le_trans (Nat.le_of_lt code.2)]
  · rintro rfl
    exact absurd code.1 (by decide)

/-- Names are written as identifiers, whose characters can stand in a document. -/
theorem legal_normalized (name : String) : Legal (normalized name).toList := by
  intro c inside
  obtain ⟨_, _, _, _, all⟩ := Predicate.isWordTail_of_identifier (normalized name).toList
    (by rw [String.ofList_toList]; exact isIdentifier_normalized name)
  exact legal_of_isWordTail (all c inside)

theorem legal_quotedName {name : String} (legal : Legal name.toList) :
    Legal (Sql.quotedName name).toList := by
  have mark : Xml.isCharacter '\x60' = true ∧ '\x60' ≠ '\r' := by decide
  intro c inside
  simp only [Sql.quotedName, Sql.quotedNameChars, String.toList_ofList, List.mem_append,
    List.mem_cons, List.mem_flatMap, List.not_mem_nil, or_false] at inside
  rcases inside with (rfl | ⟨d, member, spelled⟩) | rfl
  · exact mark
  · unfold Sql.quotedNameChar at spelled
    split at spelled
    · have same : c = '\x60' := by simpa using spelled
      exact same ▸ mark
    · have same : c = d := by simpa using spelled
      exact same ▸ legal d member
  · exact mark

section Columns

variable {c : Column}

theorem legal_placeholderOf (c : Column) : Legal (placeholderOf c).toList :=
  legal_append (legal_append (by decide) (legal_normalized c.name)) (by decide)

theorem legal_presence (c : Column) : Legal (presence c).toList := by
  refine legal_append (legal_append (legal_normalized c.name) (by decide)) ?_
  cases c.kind <;> decide

theorem legal_assignment (named : Legal c.name.toList) : Legal (assignment c).toList :=
  legal_append (legal_append (legal_quotedName named) (by decide)) (legal_placeholderOf c)

theorem legal_cType (c : Column) : Legal c.kind.cType.toList := by
  cases c.kind <;> decide

end Columns

theorem legal_recordType (t : Table) : Legal (recordType t).toList :=
  legal_append (legal_append (by decide) (legal_normalized t.name)) (by decide)

theorem legal_joined {t : Table} {write : Column → String}
    (each : ∀ c ∈ t.columns, Legal (write c).toList) : Legal (joined t write).toList :=
  legal_join (by decide) (by simpa using each)

end Texts

section Contents

theorem written_indentation (depth : Nat) : Written (indentation depth) := by
  refine .text ?_ (legal_append (by decide) ?_)
  · intro empty
    have start := congrArg (·.toList.head?) empty
    simp at start
  · intro c inside
    simp only [Text.replicate, String.toList_ofList, List.mem_replicate] at inside
    exact inside.2 ▸ by decide

/-- Every element has a line of its own, so no two line ends meet. -/
theorem readable_lines (depth : Nat) {items : List Content} (each : ∀ item ∈ items, Written item)
    (markup : ∀ item ∈ items, item.text? = none) : Readable (lines depth items) := by
  induction items with
  | nil => exact ⟨by simpa [lines] using written_indentation depth, .singleton _⟩
  | cons item rest ih =>
      obtain ⟨here, later⟩ := List.forall_mem_cons.mp each
      obtain ⟨plain, others⟩ := List.forall_mem_cons.mp markup
      obtain ⟨written, apart⟩ := ih later others
      have spelled : lines depth (item :: rest) =
          indentation (depth + 1) :: item :: lines depth rest := rfl
      rw [spelled]
      refine ⟨?_, ?_⟩
      · simp only [List.mem_cons, forall_eq_or_imp]
        exact ⟨written_indentation _, here, written⟩
      · refine List.isChain_cons_cons.mpr ⟨.inr plain, ?_⟩
        refine List.isChain_cons.mpr ⟨fun _ _ => .inl plain, apart⟩

end Contents

section Documents

theorem written_statementElement (t : Table) {tag id : String} (plain : Plain ⟨"", tag⟩)
    (named : Legal id.toList) {more : List (String × String)}
    (faithful : ∀ a ∈ more, Plain ⟨"", a.1⟩ ∧ Legal a.2.toList)
    (distinct : ("id" :: "parameterType" :: more.map (·.1)).Nodup) {children : List Content}
    (inside : Readable children) : Written (statementElement t tag id more children) := by
  refine written_make plain ?_ (by simpa using distinct) inside
  simp only [List.cons_append, List.nil_append, List.mem_cons, forall_eq_or_imp]
  exact ⟨⟨by decide, legal_append (legal_append (legal_normalized t.name) (by decide)) named⟩,
    ⟨by decide, legal_recordType t⟩, faithful⟩

theorem readable_presentParts {columns : List Column} {write : Column → String}
    (each : ∀ c ∈ columns, Legal (write c).toList) : Readable (presentParts columns write) := by
  refine readable_elements ?_ ?_
  · intro content listed
    obtain ⟨c, member, rfl⟩ := List.mem_map.mp listed
    refine written_make (by decide) ?_ (by simp) (readable_textOf (each c member))
    simpa using ⟨by decide, legal_presence c⟩
  · intro content listed
    obtain ⟨c, _, rfl⟩ := List.mem_map.mp listed
    rfl

/-- A text, an element and something else. -/
theorem readable_three {data : String} {element last : Content} (filled : data ≠ "")
    (legal : Legal data.toList) (second : Written element) (markup : element.text? = none)
    (third : Written last) : Readable [.text data, element, last] := by
  constructor
  · simp only [List.mem_cons, List.not_mem_nil, or_false, forall_eq_or_imp, forall_eq]
    exact ⟨.text filled legal, second, third⟩
  · exact List.isChain_cons_cons.mpr
      ⟨.inr markup, List.isChain_cons_cons.mpr ⟨.inl markup, .singleton _⟩⟩

variable {t : Table} (table : Legal t.name.toList) (columns : ∀ c ∈ t.columns, Legal c.name.toList)

section Head

include table

theorem legal_head (opening : String) (opens : Legal opening.toList) (closing : String)
    (closes : Legal closing.toList) :
    Legal (opening ++ Sql.quotedName t.name ++ closing).toList :=
  legal_append (legal_append opens (legal_quotedName table)) closes

end Head

include columns

theorem written_shapeElement : Written (shapeElement t) := by
  refine written_make (by decide) ?_ (by simp) (readable_lines 1 ?_ ?_)
  · simpa using ⟨⟨by decide, by decide⟩, by decide, legal_recordType t⟩
  · intro item listed
    obtain ⟨c, member, rfl⟩ := List.mem_map.mp listed
    refine written_make (by decide) ?_ (by simp) Xml.readable_nil
    simpa using ⟨⟨by decide, columns c member⟩, ⟨by decide, legal_normalized c.name⟩, by decide,
      legal_cType c⟩
  · intro item listed
    obtain ⟨c, _, rfl⟩ := List.mem_map.mp listed
    rfl

theorem legal_columnNames : Legal (joined t columnName).toList :=
  legal_joined fun c member => legal_quotedName (columns c member)

theorem written_columnListElement : Written (columnListElement t) := by
  refine written_make (by decide) ?_ (by simp) (readable_textOf (legal_columnNames columns))
  simpa using ⟨by decide, by decide⟩

include table

theorem written_insertElement : Written (insertElement t) := by
  refine written_statementElement t (by decide) (by decide) (by simp) (by simp) (readable_textOf ?_)
  have names := legal_append (legal_head table "INSERT INTO " (by decide) " (" (by decide))
    (legal_columnNames columns)
  have placeholders : Legal (joined t placeholderOf).toList :=
    legal_joined fun c _ => legal_placeholderOf c
  exact legal_append (legal_append (legal_append names (by decide)) placeholders) (by decide)

theorem written_insertSelectiveElement : Written (insertSelectiveElement t) := by
  have part (opening : String) (opens : Legal opening.toList) {write : Column → String}
      (each : ∀ c ∈ t.columns, Legal (write c).toList) :
      Written (make "trim" [("prefix", opening), ("suffix", ")"), ("suffixOverrides", ",")]
        (presentParts t.columns fun c => write c ++ ",")) := by
    refine written_make (by decide) ?_ (by simp) (readable_presentParts fun c member =>
      legal_append (each c member) (by decide))
    simpa using ⟨⟨by decide, opens⟩, ⟨by decide, by decide⟩, by decide, by decide⟩
  refine written_statementElement t (by decide) (by decide) (by simp) (by simp)
    (readable_three (append_ne_empty _ (by decide))
      (legal_head table "INSERT INTO " (by decide) " " (by decide)) ?_ rfl ?_)
  · exact part "(" (by decide) fun c member => legal_quotedName (columns c member)
  · exact part " VALUES (" (by decide) fun c _ => legal_placeholderOf c

section Keys

variable {key : Column} (member : key ∈ t.columns)

include member

theorem written_updateElement : Written (updateElement t key) := by
  refine written_statementElement t (by decide) (legal_append (by decide) (legal_normalized key.name))
    (by simp) (by simp) (readable_textOf ?_)
  have assignments : Legal (joined t assignment).toList :=
    legal_joined fun c listed => legal_assignment (columns c listed)
  have head := legal_head table "UPDATE " (by decide) " SET " (by decide)
  exact legal_append (legal_append (legal_append head assignments) (by decide))
    (legal_assignment (columns key member))

theorem written_updateSelectiveElement : Written (updateSelectiveElement t key) := by
  have changes : Written (make "trim" [("prefix", "SET "), ("suffixOverrides", ",")]
      (presentParts (others t key) fun c => assignment c ++ ", ")) := by
    refine written_make (by decide) (by decide) (by simp) (readable_presentParts fun c listed => ?_)
    exact legal_append (legal_assignment (columns c (List.mem_of_mem_filter listed))) (by decide)
  have condition : Written (.text (" WHERE " ++ assignment key)) :=
    .text (append_ne_empty _ (assignment_ne_empty key))
      (legal_append (by decide) (legal_assignment (columns key member)))
  refine written_statementElement t (by decide)
    (legal_append (legal_append (by decide) (legal_normalized key.name)) (by decide)) (by simp)
    (by simp) (readable_three (append_ne_empty _ (by decide))
      (legal_head table "UPDATE " (by decide) " " (by decide)) changes rfl condition)

theorem written_selectElement : Written (selectElement t key) := by
  have rest : Written (.text (" FROM " ++ Sql.quotedName t.name ++ " WHERE " ++ assignment key)) :=
    .text (append_ne_empty _ (assignment_ne_empty key))
      (legal_append (legal_head table " FROM " (by decide) " WHERE " (by decide))
        (legal_assignment (columns key member)))
  have reference : Written (make "include" [("refid", columnListId)] []) :=
    written_make (by decide) (by decide) (by simp) Xml.readable_nil
  exact written_statementElement t (by decide)
    (legal_append (by decide) (legal_normalized key.name)) (by decide) (by decide)
    (readable_three (by decide) (by decide) reference rfl rest)

theorem written_deleteElement : Written (deleteElement t key) := by
  refine written_statementElement t (by decide) (legal_append (by decide) (legal_normalized key.name))
    (by simp) (by simp) (readable_textOf ?_)
  exact legal_append (legal_head table "DELETE FROM " (by decide) " WHERE " (by decide))
    (legal_assignment (columns key member))

end Keys

theorem written_tableElements : ∀ item ∈ tableElements t, Written item := by
  intro item listed
  simp only [tableElements, List.mem_append, List.mem_cons, List.not_mem_nil, or_false,
    List.mem_flatMap, keyElements] at listed
  rcases listed with (rfl | rfl | rfl | rfl) | ⟨key, isKey, rfl | rfl | rfl | rfl⟩
  · exact written_shapeElement columns
  · exact written_columnListElement columns
  · exact written_insertElement table columns
  · exact written_insertSelectiveElement table columns
  all_goals have member : key ∈ t.columns := List.mem_of_mem_filter isKey
  · exact written_updateElement table columns member
  · exact written_updateSelectiveElement table columns member
  · exact written_selectElement table columns member
  · exact written_deleteElement table columns member

omit table columns in
theorem text?_tableElements : ∀ item ∈ tableElements t, item.text? = none := by
  intro item listed
  simp only [tableElements, List.mem_append, List.mem_cons, List.not_mem_nil, or_false,
    List.mem_flatMap, keyElements] at listed
  rcases listed with (rfl | rfl | rfl | rfl) | ⟨key, _, rfl | rfl | rfl | rfl⟩
  all_goals rfl

omit table columns in
theorem instructs_declaration : Xml.Instructs "xml" "version=\"1.0\" encoding=\"UTF-8\"" where
  named := by decide
  unended := by decide
  starts := ⟨Xml.byte 'v', _, Text.encode_eq _, by decide⟩
  version := by
    intro _
    rw [Text.encode_eq]
    decide +kernel

/-- The document of a table is read back if the names can stand in a document. -/
theorem parse_written_mapperDocument :
    Xml.parse (Text.encode (Xml.renderAll (mapperDocument t))) = .ok (mapperDocument t) := by
  have root : Written (mapperElement t) := by
    refine written_make (by decide) ?_ (by simp)
      (readable_lines 0 (written_tableElements table columns) text?_tableElements)
    exact List.forall_mem_singleton.mpr ⟨(by decide : Plain ⟨"", "namespace"⟩),
      legal_append (legal_normalized t.name) (by decide)⟩
  have lineEnd : Written (.text "\n") := .text (by decide) (by decide)
  refine Xml.parse_renderAll ?_ ?_
  · simp only [mapperDocument, documentOf, List.mem_cons, List.not_mem_nil, or_false,
      forall_eq_or_imp, forall_eq]
    exact ⟨.instruction instructs_declaration, lineEnd, root, lineEnd⟩
  · refine List.isChain_cons_cons.mpr ⟨.inl rfl, List.isChain_cons_cons.mpr ⟨.inr rfl,
      List.isChain_cons_cons.mpr ⟨.inl rfl, .singleton _⟩⟩⟩

end Documents

end SqlMapper.Schema
