import SqlMapper.Sql.Identifier
import SqlMapper.Sql.Prepared
import SqlMapper.Text.Search

/-!
Preparing texts piece by piece. A character that opens no placeholder is kept, a closed placeholder
becomes a question mark, an open one is kept with all that follows it; so a text made of clear pieces
with placeholders between them is prepared piece by piece.
-/

namespace SqlMapper.Sql

section Scan

variable (shape : ResultMap) (record : Record) (position : Nat)

theorem prepareScan_plain (c : Char) (rest : List Char)
    (plain : ¬ (c = '#' ∧ rest.head? = some '{')) :
    prepareScan shape record position none (c :: rest) =
      (prepareScan shape record position none rest).map fun more =>
        ⟨c :: more.text, more.bindings⟩ := by
  rw [prepareScan]
  rintro more rfl rfl
  exact plain ⟨rfl, rfl⟩

theorem prepareScan_unclosed (before name : List Char) (inside : '}' ∉ name) :
    prepareScan shape record position (some before) name =
      .ok ⟨'#' :: '{' :: (before.reverse ++ name), []⟩ := by
  induction name generalizing before with
  | nil => rw [prepareScan, List.append_nil]
  | cons c name ih =>
      have other : (c == '}') = false := by
        rw [beq_eq_false_iff_ne]
        rintro rfl
        exact inside List.mem_cons_self
      rw [prepareScan, other, if_neg (by decide),
        ih (c :: before) fun later => inside (List.mem_cons_of_mem c later)]
      simp

theorem prepareScan_closed (before name rest : List Char) (inside : '}' ∉ name) :
    prepareScan shape record position (some before) (name ++ '}' :: rest) =
      match shape.field? (String.ofList (before.reverse ++ name)) with
      | none => .error (String.ofList (before.reverse ++ name))
      | some f =>
          (prepareScan shape record (position + 1) none rest).map fun more =>
            ⟨'?' :: more.text, ⟨position, f, boundValue record f⟩ :: more.bindings⟩ := by
  induction name generalizing before with
  | nil =>
      cases found : shape.field? (String.ofList before.reverse) <;> simp [prepareScan, found]
  | cons c name ih =>
      have other : (c == '}') = false := by
        rw [beq_eq_false_iff_ne]
        rintro rfl
        exact inside List.mem_cons_self
      rw [List.cons_append, prepareScan, other, if_neg (by decide),
        ih (c :: before) fun later => inside (List.mem_cons_of_mem c later), List.reverse_cons,
        List.append_assoc, List.singleton_append]

/-- No placeholder opens in the text, whatever follows it. -/
def clear : List Char → Bool
  | [] => true
  | c :: rest => (c != '#' || rest.head?.any (· != '{')) && clear rest

theorem clear_append {first second : List Char} (left : clear first = true)
    (right : clear second = true) : clear (first ++ second) = true := by
  induction first with
  | nil => exact right
  | cons c rest ih =>
      rw [clear, Bool.and_eq_true] at left
      rw [List.cons_append, clear, ih left.2, Bool.and_true]
      cases rest with
      | nil =>
          have other : (c != '#') = true := by simpa using left.1
          rw [other, Bool.true_or]
      | cons d more => exact left.1

/-- A clear piece is kept. -/
theorem prepareScan_clear (piece rest : List Char) (kept : clear piece = true) :
    prepareScan shape record position none (piece ++ rest) =
      (prepareScan shape record position none rest).map fun more =>
        ⟨piece ++ more.text, more.bindings⟩ := by
  induction piece with
  | nil =>
      rw [List.nil_append]
      cases prepareScan shape record position none rest <;> rfl
  | cons c piece ih =>
      rw [clear, Bool.and_eq_true] at kept
      have plain : ¬ (c = '#' ∧ (piece ++ rest).head? = some '{') := by
        rintro ⟨rfl, brace⟩
        cases piece with
        | nil => simp at kept
        | cons d more =>
            rw [List.cons_append, List.head?_cons, Option.some_inj] at brace
            simp [brace] at kept
      rw [List.cons_append, prepareScan_plain shape record position c _ plain, ih kept.2]
      cases prepareScan shape record position none rest <;> rfl

end Scan

section Pieces

variable {shape : ResultMap} {record : Record}

/-- The bindings of fields from a position on. -/
def bindingsFrom (record : Record) (position : Nat) (fields : List Field) : List Binding :=
  fields.mapIdx fun i f => ⟨position + i, f, boundValue record f⟩

theorem bindingsFrom_append (record : Record) (position : Nat) (first second : List Field) :
    bindingsFrom record position (first ++ second) =
      bindingsFrom record position first ++
        bindingsFrom record (position + first.length) second := by
  rw [bindingsFrom, List.mapIdx_append]
  simp only [bindingsFrom, Nat.add_assoc, Nat.add_comm first.length]

/-- Whatever stands before a piece and after it, the piece is prepared as `out` and binds the given
fields. -/
def Prepares (shape : ResultMap) (record : Record) (piece : List Char) (fields : List Field)
    (out : List Char) : Prop :=
  ∀ position rest, prepareScan shape record position none (piece ++ rest) =
    (prepareScan shape record (position + fields.length) none rest).map fun more =>
      ⟨out ++ more.text, bindingsFrom record position fields ++ more.bindings⟩

theorem prepares_clear {piece : List Char} (kept : clear piece = true) :
    Prepares shape record piece [] piece := by
  intro position rest
  exact prepareScan_clear shape record position piece rest kept

def placeholderChars (f : Field) : List Char :=
  '#' :: '{' :: (f.property.toList ++ ['}'])

theorem prepares_placeholder {f : Field} (inside : '}' ∉ f.property.toList)
    (found : shape.field? f.property = some f) :
    Prepares shape record (placeholderChars f) [f] ['?'] := by
  intro position rest
  have cut : placeholderChars f ++ rest = '#' :: '{' :: (f.property.toList ++ '}' :: rest) := by
    simp [placeholderChars]
  rw [cut, prepareScan, prepareScan_closed shape record position [] _ _ inside, List.reverse_nil,
    List.nil_append, String.ofList_toList, found]
  rfl

theorem prepares_append {first second out more : List Char} {fields others : List Field}
    (left : Prepares shape record first fields out)
    (right : Prepares shape record second others more) :
    Prepares shape record (first ++ second) (fields ++ others) (out ++ more) := by
  intro position rest
  rw [List.append_assoc, left, right, List.length_append, ← Nat.add_assoc, bindingsFrom_append]
  cases prepareScan shape record (position + fields.length + others.length) none rest with
  | error name => rfl
  | ok done => simp only [Except.map, List.append_assoc]

/-- Pieces with a clear text between neighbours are prepared one by one. -/
theorem prepares_intercalate {α : Type} {piece out : α → List Char} {fields : α → List Field}
    {between : List Char} (kept : clear between = true) (items : List α)
    (each : ∀ item ∈ items, Prepares shape record (piece item) (fields item) (out item)) :
    Prepares shape record (between.intercalate (items.map piece)) (items.flatMap fields)
      (between.intercalate (items.map out)) := by
  induction items with
  | nil => exact prepares_clear rfl
  | cons first rest ih =>
      obtain ⟨here, later⟩ := List.forall_mem_cons.mp each
      cases rest with
      | nil => simpa using here
      | cons second rest =>
          have joined := prepares_append (prepares_append here (prepares_clear kept)) (ih later)
          simpa [List.intercalate_cons_cons] using joined

theorem prepare_of_prepares {text out : List Char} {fields : List Field}
    (prepares : Prepares shape record text fields out) :
    prepare shape record (String.ofList text) =
      .ok (String.ofList out, bindingsFrom record 0 fields) := by
  have scanned := prepares 0 []
  rw [List.append_nil, prepareScan] at scanned
  rw [prepare, String.toList_ofList, scanned]
  simp [Except.map]

end Pieces

section Names

/-- Two characters side by side are no placeholder mark if the mark does not occur. -/
theorem not_opening_of_occurs {c : Char} {rest : List Char}
    (absent : Text.occurs ['#', '{'] (c :: rest) = false) :
    ¬ (c = '#' ∧ rest.head? = some '{') ∧ Text.occurs ['#', '{'] rest = false := by
  rw [Text.occurs, Text.cut] at absent
  constructor
  · rintro ⟨rfl, brace⟩
    obtain ⟨more, rfl⟩ := List.head?_eq_some_iff.mp brace
    have opens : ['#', '{'].isPrefixOf? ('#' :: '{' :: more) = some more := rfl
    simp [opens] at absent
  · split at absent
    · cases absent
    · simpa [Text.occurs] using absent

/-- What stands behind a hash sign of a quoted name is no brace. -/
theorem head?_quoted_ne_brace {rest : List Char} (apart : rest.head? ≠ some '{') :
    (rest.flatMap quotedNameChar ++ ['\x60']).head?.any (· != '{') = true := by
  cases rest with
  | nil => rfl
  | cons d more =>
      rw [List.flatMap_cons, quotedNameChar]
      split
      · rfl
      · simpa using apart

/-- A name in quotes opens no placeholder if the name holds no mark of one. -/
theorem clear_quotedNameChars {name : List Char} (absent : Text.occurs ['#', '{'] name = false) :
    clear (quotedNameChars name) = true := by
  have body : clear (name.flatMap quotedNameChar ++ ['\x60']) = true := by
    induction name with
    | nil => rfl
    | cons c rest ih =>
        obtain ⟨apart, absent⟩ := not_opening_of_occurs absent
        rw [List.flatMap_cons, List.append_assoc, quotedNameChar]
        split
        · exact clear_append (by decide) (ih absent)
        · rw [List.singleton_append, clear, ih absent, Bool.and_true, Bool.or_eq_true, bne_iff_ne]
          by_cases hash : c = '#'
          · exact .inr (head?_quoted_ne_brace fun brace => apart ⟨hash, brace⟩)
          · exact .inl hash
  rw [quotedNameChars, List.cons_append, clear, body]
  rfl

end Names

end SqlMapper.Sql
