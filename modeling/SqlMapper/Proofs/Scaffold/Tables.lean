import Mathlib.Data.List.Pairwise
import SqlMapper.Proofs.Scaffold.Presence
import SqlMapper.Proofs.Scaffold.Statements

/-!
The document of a table is well-formed but for one thing. All its elements carry what they need, and
the ids of the statements are told apart by their beginnings; only the plain update for a column whose
name ends in `_selective` can meet the selective update for another.
-/

namespace SqlMapper.Schema

open Mapper Xml

section Ids

/-- What the ids of the statements for a key end in. -/
def keyIds (key : String) : List String :=
  ["update_by_" ++ key, "update_by_" ++ key ++ "_selective", "select_by_" ++ key,
    "delete_by_" ++ key]

/-- What the ids of all statements end in. -/
def idsFor (keys : List String) : List String :=
  ["insert", "insert_selective"] ++ keys.flatMap keyIds

theorem nodup_keyIds (key : String) : (keyIds key).Nodup := by
  simp [keyIds, ← String.toList_inj]

theorem disjoint_keyIds (first second : String) :
    List.Disjoint (keyIds first) (keyIds second) ↔
      first ≠ second ∧ second ≠ first ++ "_selective" ∧ first ≠ second ++ "_selective" := by
  simp [keyIds, ← String.toList_inj]
  constructor
  · rintro ⟨⟨apart, longer⟩, shorter, _⟩
    exact ⟨Ne.symm apart, longer, fun same => shorter same.symm⟩
  · rintro ⟨apart, longer, shorter⟩
    exact ⟨⟨Ne.symm apart, longer⟩, fun same => shorter same.symm, Ne.symm apart⟩

theorem disjoint_insertIds (keys : List String) :
    List.Disjoint ["insert", "insert_selective"] (keys.flatMap keyIds) := by
  simp [keyIds, ← String.toList_inj]

/-- Two ids are the same exactly if the name of one key is that of another with the ending. -/
theorem nodup_idsFor {keys : List String} (distinct : keys.Nodup) :
    (idsFor keys).Nodup ↔ ∀ key ∈ keys, key ++ "_selective" ∉ keys := by
  have inserts : (["insert", "insert_selective"] ++ keys.flatMap keyIds).Nodup ↔
      (keys.flatMap keyIds).Nodup := by
    rw [List.nodup_append', and_iff_right (by decide), and_iff_left (disjoint_insertIds keys)]
  rw [idsFor, inserts, List.nodup_flatMap, and_iff_right fun key _ => nodup_keyIds key]
  constructor
  · intro apart key listed again
    have longer : key ≠ key ++ "_selective" := by simp [← String.toList_inj]
    have symmetric : Std.Symm (Function.onFun List.Disjoint keyIds) :=
      ⟨fun _ _ disjoint _ here there => disjoint there here⟩
    exact ((disjoint_keyIds _ _).mp (apart.forall listed again longer)).2.1 rfl
  · intro apart
    refine distinct.imp_of_mem ?_
    intro first second here there other
    refine (disjoint_keyIds first second).mpr ⟨other, ?_, ?_⟩
    · rintro rfl
      exact apart first here there
    · rintro rfl
      exact apart second there here

end Ids

section Statements

variable (t : Table)

def insertText : String :=
  "INSERT INTO " ++ Sql.quotedName t.name ++ " (" ++ joined t columnName ++ ") VALUES (" ++
    joined t placeholderOf ++ ")"

def updateText (key : Column) : String :=
  "UPDATE " ++ Sql.quotedName t.name ++ " SET " ++ joined t assignment ++ " WHERE " ++ assignment key

def selectBody (key : Column) : List Node :=
  [.text "SELECT ", .fragment columnListId,
    .text (" FROM " ++ Sql.quotedName t.name ++ " WHERE " ++ assignment key)]

def deleteText (key : Column) : String :=
  "DELETE FROM " ++ Sql.quotedName t.name ++ " WHERE " ++ assignment key

def tableStatement (kind : StatementKind) (id : String) (body : List Node) : Statement :=
  ⟨kind, normalized t.name ++ "_" ++ id, recordType t, if kind = .select then shapeId else "", body⟩

def keyStatements (key : Column) : List Statement :=
  [tableStatement t .update ("update_by_" ++ normalized key.name) [.text (updateText t key)],
    tableStatement t .update ("update_by_" ++ normalized key.name ++ "_selective")
      (updateSelectiveBody t key),
    tableStatement t .select ("select_by_" ++ normalized key.name) (selectBody t key),
    tableStatement t .delete ("delete_by_" ++ normalized key.name) [.text (deleteText t key)]]

def tableStatements : List Statement :=
  [tableStatement t .insert "insert" [.text (insertText t)],
    tableStatement t .insert "insert_selective" (insertSelectiveBody t)] ++
    t.keys.flatMap (keyStatements t)

theorem ids_tableStatements : (tableStatements t).map (·.id) =
    (idsFor (t.keys.map fun key => normalized key.name)).map (normalized t.name ++ "_" ++ ·) := by
  simp [tableStatements, idsFor, tableStatement, keyStatements, keyIds, List.map_flatMap,
    List.flatMap_map]

theorem length_tableStatements : (tableStatements t).length = 2 + 4 * t.keys.length := by
  simp [tableStatements, keyStatements, List.length_flatMap]
  omega

theorem tag_elementOf (tag : String) (attributes : List (String × String))
    (children : List Content) : (elementOf tag attributes children).tag = tag :=
  rfl

/-- The statement that a content stands for, if it stands for one. -/
def statementIn (content : Content) : Option Statement :=
  content.element?.bind fun e => (StatementKind.ofName? e.tag).map (statementOf · e)

theorem statementIn_statementElement (kind : StatementKind) {tag : String} (tagged : tag = kind.name)
    (id : String) {more : List (String × String)}
    (row : kind = .select → (more.lookup "resultMap").getD "" = shapeId)
    {children : List Content} {body : List Node} (bodied : bodyOf children = body) :
    statementIn (statementElement t tag id more children) = some (tableStatement t kind id body) := by
  subst tagged bodied
  have named : StatementKind.ofName? kind.name = some kind := ofName?_eq_some_iff.mpr rfl
  have rows : (if kind = .select then (more.lookup "resultMap").getD "" else "") =
      if kind = .select then shapeId else "" := by
    split
    · next selects => exact row selects
    · rfl
  rw [statementElement, statementIn, element?_make, Option.bind_some, tag_elementOf, named, Option.map_some,
    statementOf, tableStatement, ← rows]
  simp only [valueOf_elementOf]
  simp [List.lookup_cons, elementOf]

theorem bodyOf_textOf {data : String} (filled : data ≠ "") : bodyOf (textOf data) = [.text data] := by
  simp [textOf, filled, bodyOf, nodeOf, prepend]

theorem bodyOf_select (key : Column) :
    bodyOf [.text "SELECT ", make "include" [("refid", columnListId)] [],
      .text (" FROM " ++ Sql.quotedName t.name ++ " WHERE " ++ assignment key)] = selectBody t key := by
  have reference : nodeOf (make "include" [("refid", columnListId)] []) =
      some (.fragment columnListId) := rfl
  have start : "SELECT " ≠ "" := by decide
  simp only [bodyOf, reference, nodeOf_text start,
    nodeOf_text (append_ne_empty _ (assignment_ne_empty key))]
  rfl

theorem statementIn_keyElements (key : Column) :
    (keyElements t key).filterMap statementIn = keyStatements t key := by
  obtain ⟨children, selective, bodied⟩ := updateSelectiveElement_eq t key
  have update : statementIn (updateElement t key) = _ :=
    statementIn_statementElement t .update rfl _ (by decide)
      (bodyOf_textOf (append_ne_empty _ (assignment_ne_empty key)))
  have changes : statementIn (updateSelectiveElement t key) = _ :=
    selective ▸ statementIn_statementElement t .update rfl _ (by decide) bodied
  have select : statementIn (selectElement t key) = _ :=
    statementIn_statementElement t .select rfl _ (fun _ => rfl) (bodyOf_select t key)
  have delete : statementIn (deleteElement t key) = _ :=
    statementIn_statementElement t .delete rfl _ (by decide)
      (bodyOf_textOf (append_ne_empty _ (assignment_ne_empty key)))
  simp only [keyElements, List.filterMap_cons, update, changes, select, delete, List.filterMap_nil]
  rfl

theorem elements_tableRoot :
    (tableRoot t).elements = (tableElements t).filterMap Content.element? :=
  elements_lines 0 (tableElements t)

theorem statementsIn_tableRoot : statementsIn (tableRoot t).elements = tableStatements t := by
  obtain ⟨children, selective, bodied⟩ := insertSelectiveElement_eq t
  have insert : statementIn (insertElement t) = _ :=
    statementIn_statementElement t .insert rfl _ (by decide)
      (bodyOf_textOf (append_ne_empty _ (by decide)))
  have part : statementIn (insertSelectiveElement t) = _ :=
    selective ▸ statementIn_statementElement t .insert rfl _ (by decide) bodied
  have shape : statementIn (shapeElement t) = none := rfl
  have columns : statementIn (columnListElement t) = none := rfl
  have elements : statementsIn (tableRoot t).elements = (tableElements t).filterMap statementIn := by
    rw [statementsIn, elements_tableRoot, List.filterMap_filterMap]
    rfl
  rw [elements, tableElements, List.filterMap_append, List.filterMap_flatMap]
  simp only [statementIn_keyElements]
  simp only [List.filterMap_cons, shape, columns, insert, part, List.filterMap_nil]
  rfl

end Statements
section Readiness

/-- All elements of a body carry what they need. -/
def Whole (contents : List Content) : Prop :=
  ∀ e, Reaches contents e → Complete e

theorem whole_nil : Whole [] :=
  fun _ reached => absurd reached not_reaches_nil

theorem whole_cons {content : Content} {rest : List Content} (here : Whole [content])
    (later : Whole rest) : Whole (content :: rest) := by
  intro e reached
  rcases (reaches_cons content rest e).mp reached with first | last
  · exact here e first
  · exact later e last

theorem whole_text (data : String) : Whole [.text data] :=
  fun _ reached => absurd reached (not_reaches_of_none (.text data) rfl)

theorem whole_textOf (data : String) : Whole (textOf data) := by
  unfold textOf
  split
  · exact whole_nil
  · exact whole_text data

theorem whole_make {tag : String} {attributes : List (String × String)} {children : List Content}
    (complete : Complete (elementOf tag attributes children)) (inside : Whole children) :
    Whole [make tag attributes children] := by
  intro e reached
  rcases reaches_element.mp reached with rfl | ⟨_, within⟩
  · exact complete
  · exact inside e within

theorem carries_elementOf {tag : String} {attributes : List (String × String)}
    {children : List Content} {names : List String}
    (given : ∀ name ∈ names, (attributes.lookup name).isSome = true) :
    Carries (elementOf tag attributes children) names := by
  intro name listed
  rw [attribute?_elementOf]
  exact given name listed

theorem whole_presentParts (columns : List Column) (write : Column → String) :
    Whole (presentParts columns write) := by
  induction columns with
  | nil => exact whole_nil
  | cons c rest ih =>
      refine whole_cons (whole_make ⟨fun _ => carries_elementOf (by simp), ?_⟩ (whole_textOf _)) ih
      intro included
      exact absurd included (by simp [tag_elementOf])

theorem whole_trim {attributes : List (String × String)} {children : List Content}
    (inside : Whole children) : Whole [make "trim" attributes children] :=
  whole_make ⟨fun other => absurd other (by simp [tag_elementOf]),
    fun other => absurd other (by simp [tag_elementOf])⟩ inside

variable (t : Table)

theorem name_injective {first second : StatementKind} (same : first.name = second.name) :
    first = second :=
  Option.some.inj ((ofName?_eq_some_iff.mpr rfl).symm.trans (ofName?_eq_some_iff.mpr same))

theorem ready_statementElement (kind : StatementKind) {tag : String} (tagged : tag = kind.name)
    (id : String) {more : List (String × String)}
    (row : kind = .select → (more.lookup "resultMap").isSome = true) {children : List Content}
    (inside : Whole children) :
    ∀ e ∈ (statementElement t tag id more children).element?, Ready e := by
  subst tagged
  rintro _ ⟨⟩
  refine ⟨fun shape => absurd shape (kindName_ne kind).1,
    fun fragment => absurd fragment (kindName_ne kind).2, fun other same => ?_⟩
  obtain rfl : kind = other := name_injective same
  refine ⟨carries_elementOf (by simp [List.lookup_cons]), fun selects => ?_, inside⟩
  exact carries_elementOf (by simp [List.lookup_cons, row selects])

/-- The elements of a shape are its fields, and all of them carry what a field needs. -/
theorem ready_shapeElement (distinct : (t.columns.map fun c => normalized c.name).Nodup) :
    ∀ e ∈ (shapeElement t).element?, Ready e := by
  intro e found
  obtain rfl : elementOf "resultMap" _ _ = e := Option.some.inj found
  refine ⟨fun _ => ⟨carries_elementOf (by simp [List.lookup_cons]), ?_, ?_⟩,
    fun other => absurd other (by simp [tag_elementOf]), fun kind named => ?_⟩
  · intro result listed _
    rw [Element.elements, elementOf, elements_lines] at listed
    obtain ⟨content, member, found⟩ := List.mem_filterMap.mp listed
    obtain ⟨c, _, rfl⟩ := List.mem_map.mp member
    obtain rfl : elementOf "result" _ _ = result := Option.some.inj found
    exact carries_elementOf (by simp [fieldAttributes, List.lookup_cons])
  · rw [shapeOf, Element.elements, elementOf, fieldsOf_lines, List.map_map]
    exact distinct
  · exact absurd named.symm (kindName_ne kind).1

theorem ready_columnListElement : ∀ e ∈ (columnListElement t).element?, Ready e := by
  intro e found
  obtain rfl : elementOf "sql" _ _ = e := Option.some.inj found
  refine ⟨fun other => absurd other (by simp [tag_elementOf]),
    fun _ => carries_elementOf (by simp [List.lookup_cons]), fun kind named => ?_⟩
  exact absurd named.symm (kindName_ne kind).2

theorem ready_insertSelectiveElement : ∀ e ∈ (insertSelectiveElement t).element?, Ready e :=
  ready_statementElement t .insert rfl _ (by decide) (whole_cons (whole_text _)
    (whole_cons (whole_trim (whole_presentParts _ _)) (whole_trim (whole_presentParts _ _))))

theorem ready_keyElements (key : Column) :
    ∀ content ∈ keyElements t key, ∀ e ∈ content.element?, Ready e := by
  have reference : Whole [make "include" [("refid", columnListId)] []] :=
    whole_make ⟨fun other => absurd other (by simp [tag_elementOf]),
      fun _ => carries_elementOf (by simp)⟩ whole_nil
  simp only [keyElements, List.forall_mem_cons]
  refine ⟨?_, ?_, ?_, ?_, by simp⟩
  · exact ready_statementElement t .update rfl _ (by decide) (whole_textOf _)
  · exact ready_statementElement t .update rfl _ (by decide) (whole_cons (whole_text _)
      (whole_cons (whole_trim (whole_presentParts _ _)) (whole_text _)))
  · exact ready_statementElement t .select rfl _ (fun _ => rfl)
      (whole_cons (whole_text _) (whole_cons reference (whole_text _)))
  · exact ready_statementElement t .delete rfl _ (by decide) (whole_textOf _)

theorem ready_tableRoot (distinct : (t.columns.map fun c => normalized c.name).Nodup) :
    ∀ e ∈ (tableRoot t).elements, Ready e := by
  have each : ∀ content ∈ tableElements t, ∀ e ∈ content.element?, Ready e := by
    rw [tableElements, List.forall_mem_append]
    constructor
    · simp only [List.forall_mem_cons]
      exact ⟨ready_shapeElement t distinct, ready_columnListElement t,
        ready_statementElement t .insert rfl _ (by decide) (whole_textOf _),
        ready_insertSelectiveElement t, by simp⟩
    · intro content listed
      obtain ⟨key, _, member⟩ := List.mem_flatMap.mp listed
      exact ready_keyElements t key content member
  intro e listed
  rw [elements_tableRoot] at listed
  obtain ⟨content, member, found⟩ := List.mem_filterMap.mp listed
  exact each content member e found

end Readiness

section Acceptance

variable (t : Table)

theorem tag_ne_of_keyElements {e : Element}
    (listed : e ∈ (t.keys.flatMap (keyElements t)).filterMap Content.element?) :
    e.tag ≠ "resultMap" ∧ e.tag ≠ "sql" := by
  obtain ⟨content, member, found⟩ := List.mem_filterMap.mp listed
  obtain ⟨key, _, inside⟩ := List.mem_flatMap.mp member
  simp only [keyElements, List.mem_cons, List.not_mem_nil, or_false] at inside
  rcases inside with rfl | rfl | rfl | rfl
  all_goals
    obtain rfl : elementOf _ _ _ = e := Option.some.inj found
    simp [tag_elementOf]

/-- The elements of a tag that stands in front of the keys. -/
theorem filter_tag_tableRoot {tag : String}
    (other : ∀ e ∈ (t.keys.flatMap (keyElements t)).filterMap Content.element?, e.tag ≠ tag)
    (plain : tag ≠ "insert") : (tableRoot t).elements.filter (·.tag == tag) =
      [elementOf "resultMap" [("id", shapeId), ("type", recordType t)]
        (lines 1 (t.columns.map fun c => make "result" [("column", c.name),
          ("property", normalized c.name), ("yo_type", c.kind.cType)] [])),
      elementOf "sql" [("id", columnListId)] (textOf (joined t columnName))].filter (·.tag == tag) := by
  have keyed : ((t.keys.flatMap (keyElements t)).filterMap Content.element?).filter (·.tag == tag) =
      [] := by
    rw [List.filter_eq_nil_iff]
    intro e listed
    simpa using other e listed
  have inserts (first second : Content) (one : ∃ a c, first.element? = some (elementOf "insert" a c))
      (two : ∃ a c, second.element? = some (elementOf "insert" a c)) :
      ([first, second].filterMap Content.element?).filter (·.tag == tag) = [] := by
    obtain ⟨_, _, one⟩ := one
    obtain ⟨_, _, two⟩ := two
    simp [one, two, tag_elementOf, plain.symm]
  have split : tableElements t = [shapeElement t, columnListElement t] ++
      ([insertElement t, insertSelectiveElement t] ++ t.keys.flatMap (keyElements t)) := rfl
  rw [elements_tableRoot, split, List.filterMap_append, List.filterMap_append, List.filter_append,
    List.filter_append, keyed, List.append_nil,
    inserts (insertElement t) (insertSelectiveElement t) ⟨_, _, rfl⟩ ⟨_, _, rfl⟩, List.append_nil]
  rfl

theorem shapesIn_tableRoot : shapesIn (tableRoot t).elements = [tableShape t] := by
  rw [shapesIn, filter_tag_tableRoot t (fun _ listed => (tag_ne_of_keyElements t listed).1) (by decide),
    List.filter_cons_of_pos (by simp [tag_elementOf]), List.filter_cons_of_neg (by simp [tag_elementOf]),
    List.filter_nil, List.map_singleton, shapeOf, valueOf_elementOf, valueOf_elementOf,
    Element.elements, elementOf, fieldsOf_lines]
  rfl

theorem fragmentsIn_tableRoot :
    fragmentsIn (tableRoot t).elements = [(columnListId, joined t columnName)] := by
  have text : String.join ((textOf (joined t columnName)).filterMap Content.text?) =
      joined t columnName := by
    unfold textOf
    split
    · next empty =>
        rw [beq_iff_eq] at empty
        rw [empty]
        rfl
    · simp [Content.text?]
  rw [fragmentsIn, filter_tag_tableRoot t (fun _ listed => (tag_ne_of_keyElements t listed).2) (by decide),
    List.filter_cons_of_neg (by simp [tag_elementOf]), List.filter_cons_of_pos (by simp [tag_elementOf]),
    List.filter_nil, List.map_singleton, fragmentOf, valueOf_elementOf]
  rw [elementOf, text]
  rfl

/-- The document of a table is accepted unless a key is named like another one with an ending. -/
theorem wellFormed_tableRoot (distinct : (t.columns.map fun c => normalized c.name).Nodup) :
    WellFormed (tableRoot t) ↔ ∀ key ∈ t.keys, ∀ other ∈ t.keys,
      normalized other.name ≠ normalized key.name ++ "_selective" := by
  have named : Carries (tableRoot t) ["namespace"] := carries_elementOf (by simp)
  have keys : (t.keys.map fun key => normalized key.name).Nodup :=
    distinct.sublist (List.filter_sublist.map _)
  have ids : ((statementsIn (tableRoot t).elements).map (·.id)).Nodup ↔
      (idsFor (t.keys.map fun key => normalized key.name)).Nodup := by
    rw [statementsIn_tableRoot, ids_tableStatements]
    refine List.nodup_map_iff ?_
    intro first second same
    simpa using same
  rw [wellFormed_iff "", distinct_described, shapesIn_tableRoot, fragmentsIn_tableRoot, ids,
    nodup_idsFor keys]
  simp only [List.mem_map, not_exists, not_and]
  constructor
  · rintro ⟨_, _, _, _, _, _, apart⟩ key isKey
    exact apart _ ⟨key, isKey, rfl⟩
  · intro apart
    refine ⟨rfl, named, ready_tableRoot t distinct, by simp, by simp, by simp, ?_⟩
    rintro _ ⟨key, isKey, rfl⟩
    exact apart key isKey

end Acceptance

end SqlMapper.Schema
