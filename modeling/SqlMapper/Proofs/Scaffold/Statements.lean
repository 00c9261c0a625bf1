import SqlMapper.Proofs.Document.Acceptance
import SqlMapper.Schema.Scaffold

/-!
What a mapper holds that was read from the document of a table: the shape with a field for each
column in order, and the statements that write only the values that are there.
-/

namespace SqlMapper.Schema

open Mapper Xml

section Trees

def elementOf (tag : String) (attributes : List (String × String)) (children : List Content) :
    Element :=
  ⟨⟨"", tag⟩, attributes.map fun a => ⟨⟨"", a.1⟩, a.2⟩, children⟩

theorem element?_make (tag : String) (attributes : List (String × String))
    (children : List Content) :
    (make tag attributes children).element? = some (elementOf tag attributes children) :=
  rfl

theorem attribute?_elementOf (tag : String) (attributes : List (String × String))
    (children : List Content) (name : String) :
    (elementOf tag attributes children).attribute? name = attributes.lookup name := by
  simp only [Element.attribute?, elementOf, List.find?_map, Option.map_map]
  induction attributes with
  | nil => rfl
  | cons a rest ih =>
      rw [List.find?_cons, List.lookup_cons]
      by_cases same : a.1 = name
      · simp [same]
      · have other : (name == a.1) = false := beq_false_of_ne fun equal => same equal.symm
        have apart : (a.1 == name) = false := beq_false_of_ne same
        simpa [apart, other] using ih

/-- The line ends between elements are no elements. -/
theorem elements_lines (depth : Nat) (items : List Content) :
    (lines depth items).filterMap Content.element? = items.filterMap Content.element? := by
  have last : [indentation depth].filterMap Content.element? = [] := rfl
  rw [lines, List.filterMap_append, last, List.append_nil, List.filterMap_flatMap]
  induction items with
  | nil => rfl
  | cons item rest ih =>
      rw [List.flatMap_cons, ih]
      have gap : (indentation (depth + 1)).element? = none := rfl
      cases found : item.element? <;> simp [gap, found]

theorem valueOf_elementOf (tag : String) (attributes : List (String × String))
    (children : List Content) (name : String) :
    valueOf (elementOf tag attributes children) name = (attributes.lookup name).getD "" := by
  rw [valueOf, attribute?_elementOf]

end Trees

section Shape

def fieldOf (c : Column) : Field :=
  .make c.name (normalized c.name) c.kind.cType

def tableShape (t : Table) : ResultMap :=
  ⟨shapeId, recordType t, t.columns.map fieldOf⟩

theorem fieldsOf_lines (depth : Nat) (columns : List Column) :
    fieldsOf ((lines depth (columns.map fun c => make "result" [("column", c.name),
      ("property", normalized c.name), ("yo_type", c.kind.cType)] [])).filterMap Content.element?) =
      columns.map fieldOf := by
  rw [elements_lines]
  induction columns with
  | nil => rfl
  | cons c rest ih =>
      rw [List.map_cons, List.filterMap_cons_some (element?_make _ _ _), List.map_cons, ← ih]
      rfl

end Shape

section Bodies

/-- One part per column, kept if the value of the column is there. -/
def parts (columns : List Column) (write : Column → String) : List Node :=
  columns.map fun c => .conditional (presence c) [.text (write c)]

theorem bodyOf_presentParts {columns : List Column} {write : Column → String}
    (filled : ∀ c ∈ columns, write c ≠ "") :
    bodyOf (presentParts columns write) = parts columns write := by
  induction columns with
  | nil => rfl
  | cons c rest ih =>
      obtain ⟨here, later⟩ := List.forall_mem_cons.mp filled
      have first : nodeOf (make "if" [("test", presence c)] (textOf (write c))) =
          some (.conditional (presence c) [.text (write c)]) := by
        have inner : bodyOf (textOf (write c)) = [.text (write c)] := by
          simp [textOf, here, bodyOf, nodeOf, prepend]
        have tested : valueOf (elementOf "if" [("test", presence c)] (textOf (write c))) "test" =
            presence c := valueOf_elementOf _ _ _ _
        rw [← tested, ← inner]
        rfl
      rw [presentParts, List.map_cons, bodyOf, first, ← presentParts, ih later]
      rfl

def ruleOf (attributes : List (String × String)) : TrimRule :=
  ⟨(attributes.lookup "prefix").getD "", (attributes.lookup "suffix").getD "",
    (attributes.lookup "prefixOverrides").getD "", (attributes.lookup "suffixOverrides").getD ""⟩

theorem nodeOf_trim (attributes : List (String × String)) {columns : List Column}
    {write : Column → String} (filled : ∀ c ∈ columns, write c ≠ "") :
    nodeOf (make "trim" attributes (presentParts columns write)) =
      some (.trim (ruleOf attributes) (parts columns write)) := by
  have rule : trimRule (elementOf "trim" attributes (presentParts columns write)) =
      ruleOf attributes := by
    simp only [trimRule, ruleOf, attribute?_elementOf]
  rw [← rule, ← bodyOf_presentParts filled]
  rfl

def insertSelectiveBody (t : Table) : List Node :=
  [.text ("INSERT INTO " ++ Sql.quotedName t.name ++ " "),
    .trim ⟨"(", ")", "", ","⟩ (parts t.columns fun c => columnName c ++ ","),
    .trim ⟨" VALUES (", ")", "", ","⟩ (parts t.columns fun c => placeholderOf c ++ ",")]

def others (t : Table) (key : Column) : List Column :=
  t.columns.filter fun c => c.name != key.name

def updateSelectiveBody (t : Table) (key : Column) : List Node :=
  [.text ("UPDATE " ++ Sql.quotedName t.name ++ " "),
    .trim ⟨"SET ", "", "", ","⟩ (parts (others t key) fun c => assignment c ++ ", "),
    .text (" WHERE " ++ assignment key)]

theorem append_ne_empty (first : String) {last : String} (filled : last ≠ "") :
    first ++ last ≠ "" := by
  intro empty
  have both := congrArg String.toList empty
  rw [String.toList_append, String.toList_empty, List.append_eq_nil_iff] at both
  exact filled (String.toList_eq_nil_iff.mp both.2)

theorem assignment_ne_empty (c : Column) : assignment c ≠ "" :=
  append_ne_empty _ (append_ne_empty _ (by decide))

theorem nodeOf_text {data : String} (filled : data ≠ "") :
    nodeOf (.text data) = some (.text data) := by
  rw [nodeOf, if_neg (by simpa using filled)]

theorem insertSelectiveElement_eq (t : Table) :
    ∃ children, insertSelectiveElement t = statementElement t "insert" "insert_selective" [] children ∧
      bodyOf children = insertSelectiveBody t := by
  refine ⟨_, rfl, ?_⟩
  have filled (write : Column → String) : ∀ c ∈ t.columns, write c ++ "," ≠ "" :=
    fun c _ => append_ne_empty (write c) (by decide)
  have named : "INSERT INTO " ++ Sql.quotedName t.name ++ " " ≠ "" :=
    append_ne_empty _ (by decide)
  simp only [bodyOf, nodeOf_text named, nodeOf_trim _ (filled columnName),
    nodeOf_trim _ (filled placeholderOf)]
  rfl

theorem updateSelectiveElement_eq (t : Table) (key : Column) :
    ∃ children, updateSelectiveElement t key =
        statementElement t "update" ("update_by_" ++ normalized key.name ++ "_selective") [] children ∧
      bodyOf children = updateSelectiveBody t key := by
  refine ⟨_, rfl, ?_⟩
  have filled : ∀ c ∈ others t key, assignment c ++ ", " ≠ "" :=
    fun c _ => append_ne_empty (assignment c) (by decide)
  have named : "UPDATE " ++ Sql.quotedName t.name ++ " " ≠ "" :=
    append_ne_empty _ (by decide)
  have condition : " WHERE " ++ assignment key ≠ "" :=
    append_ne_empty _ (assignment_ne_empty key)
  rw [← others]
  simp only [bodyOf, nodeOf_text named, nodeOf_text condition, nodeOf_trim _ filled]
  rfl

end Bodies

section Documents

def tableElements (t : Table) : List Content :=
  [shapeElement t, columnListElement t, insertElement t, insertSelectiveElement t] ++
    t.keys.flatMap (keyElements t)

def tableRoot (t : Table) : Element :=
  elementOf "mapper" [("namespace", normalized t.name ++ "_mapper")] (lines 0 (tableElements t))

variable {t : Table} {document : String}

theorem parse_mapperDocument {bytes : List UInt8}
    (readBack : Xml.parse bytes = .ok (mapperDocument t)) :
    Mapper.parse document bytes = ofElement document (tableRoot t) := by
  have root : Xml.root? (mapperDocument t) = some (tableRoot t) := rfl
  simp only [Mapper.parse, readBack, root]

theorem mem_elements_tableRoot {tag : String} {attributes : List (String × String)}
    {children : List Content} (listed : make tag attributes children ∈ tableElements t) :
    elementOf tag attributes children ∈ (tableRoot t).elements := by
  have within : (tableRoot t).elements = (tableElements t).filterMap Content.element? :=
    elements_lines 0 (tableElements t)
  rw [within]
  exact List.mem_filterMap.mpr ⟨_, listed, element?_make _ _ _⟩

variable (formed : WellFormed (tableRoot t))

include formed

theorem statement?_table (kind : StatementKind) {tag id : String} {children : List Content}
    (listed : statementElement t tag id [] children ∈ tableElements t) (tagged : tag = kind.name)
    (plain : kind ≠ .select) :
    (described document (tableRoot t)).statement? (normalized t.name ++ "_" ++ id) =
      some ⟨kind, normalized t.name ++ "_" ++ id, recordType t, "", bodyOf children⟩ := by
  have same : (elementOf tag ([("id", normalized t.name ++ "_" ++ id),
      ("parameterType", recordType t)] ++ []) children).tag = kind.name := tagged
  have found := @statement?_described document _ _ formed (mem_elements_tableRoot listed) _ same
  rw [statementOf, if_neg plain, valueOf_elementOf, valueOf_elementOf] at found
  exact found

theorem shapeOfType?_table :
    (described document (tableRoot t)).shapeOfType? (recordType t) = some (tableShape t) := by
  have listed : shapeElement t ∈ tableElements t := by simp [tableElements]
  have found := @shapeOfType?_described document _ _ formed (mem_elements_tableRoot listed) rfl
  rw [shapeOf, valueOf_elementOf, valueOf_elementOf, Element.elements, elementOf,
    fieldsOf_lines] at found
  exact found

end Documents

end SqlMapper.Schema
