import Mathlib.Data.List.Forall2
import SqlMapper.Proofs.Outcome
import SqlMapper.Proofs.Placeholder.Scan
import SqlMapper.Proofs.Preparation

/-!
A text cut at its placeholders. Every text is in exactly one way a row of pieces, each a text in
which no placeholder opens and a placeholder behind it, and a tail in which nothing is closed. The
names that are collected from a text, the prepared text and its bindings are read off the pieces.
-/

namespace SqlMapper.Placeholder

open Sql

/-- How a placeholder opens. -/
def opening : List Char :=
  ['#', '{']

/-- A placeholder and the text in front of it. -/
structure Piece where
  before : List Char
  name : List Char

def Piece.property (piece : Piece) : String :=
  String.ofList piece.name

/-- The text that is cut into pieces and a tail. -/
def spelled : List Piece → List Char → List Char
  | [], tail => tail
  | piece :: rest, tail =>
      piece.before ++ '#' :: '{' :: (piece.name ++ '}' :: spelled rest tail)

/-- The same text with a question mark for every placeholder. -/
def marked : List Piece → List Char → List Char
  | [], tail => tail
  | piece :: rest, tail => piece.before ++ '?' :: marked rest tail

structure Divides (text : List Char) (pieces : List Piece) (tail : List Char) : Prop where
  whole : text = spelled pieces tail
  plain : ∀ piece ∈ pieces, ¬ opening <:+: piece.before
  named : ∀ piece ∈ pieces, '}' ∉ piece.name
  unclosed : ∀ before after, tail = before ++ opening ++ after → '}' ∉ after

section Openings

theorem plain_cons_iff (c : Char) (rest : List Char) :
    ¬ opening <:+: c :: rest ↔ ¬ (c = '#' ∧ rest.head? = some '{') ∧ ¬ opening <:+: rest := by
  rw [List.infix_cons_iff, not_or]
  apply and_congr_left
  intro _
  cases rest with
  | nil => simp [opening, List.cons_prefix_cons]
  | cons d more => simp [opening, List.cons_prefix_cons, eq_comm]

/-- A plain text cannot hold the hash of an opening, so it ends before the opening does. -/
theorem prefix_of_plain {before after other rest : List Char} (plain : ¬ opening <:+: before)
    (same : before ++ '#' :: '{' :: after = other ++ '#' :: '{' :: rest) : before <+: other := by
  induction before generalizing other with
  | nil => exact List.nil_prefix
  | cons c before ih =>
      rw [plain_cons_iff] at plain
      cases other with
      | nil =>
          exfalso
          apply plain.1
          rw [List.cons_append, List.nil_append, List.cons.injEq] at same
          refine ⟨same.1, ?_⟩
          cases before with
          | nil => simp at same
          | cons d more =>
              rw [List.cons_append, List.cons.injEq] at same
              rw [same.2.1]
              rfl
      | cons d other =>
          rw [List.cons_append, List.cons_append, List.cons.injEq] at same
          rw [same.1, List.cons_prefix_cons]
          exact ⟨rfl, ih plain.2 same.2⟩

/-- Of two openings the first one has the other one behind it. -/
theorem suffix_of_plain {before after other rest : List Char} (plain : ¬ opening <:+: before)
    (same : before ++ '#' :: '{' :: after = other ++ '#' :: '{' :: rest) : rest <:+ after := by
  obtain ⟨middle, rfl⟩ := prefix_of_plain plain same
  rw [List.append_assoc] at same
  have behind := List.append_cancel_left same
  match middle, behind with
  | [], behind =>
      cases behind
      exact List.suffix_rfl
  | [c], behind => simp at behind
  | c :: d :: middle, behind =>
      simp only [List.cons_append, List.cons.injEq] at behind
      exact ⟨middle ++ ['#', '{'], by simp [behind.2.2]⟩

/-- A text has no opening, or a first one. -/
theorem plain_or_first (text : List Char) :
    ¬ opening <:+: text ∨
      ∃ before after, text = before ++ '#' :: '{' :: after ∧ ¬ opening <:+: before := by
  induction text with
  | nil =>
      left
      simp [opening]
  | cons c rest ih =>
      by_cases opened : c = '#' ∧ rest.head? = some '{'
      · right
        obtain ⟨rfl, brace⟩ := opened
        obtain ⟨after, rfl⟩ := List.head?_eq_some_iff.mp brace
        exact ⟨[], after, rfl, by simp [opening]⟩
      · rcases ih with plain | ⟨before, after, rfl, plain⟩
        · left
          exact (plain_cons_iff c rest).mpr ⟨opened, plain⟩
        · right
          refine ⟨c :: before, after, rfl, (plain_cons_iff c before).mpr ⟨?_, plain⟩⟩
          rintro ⟨rfl, brace⟩
          apply opened
          refine ⟨rfl, ?_⟩
          obtain ⟨more, rfl⟩ := List.head?_eq_some_iff.mp brace
          rfl

/-- A text that a name ends in has only one such name. -/
theorem name_cancel {name other rest left : List Char} (inside : '}' ∉ name)
    (insideOther : '}' ∉ other) (same : name ++ '}' :: rest = other ++ '}' :: left) :
    name = other ∧ rest = left := by
  induction name generalizing other with
  | nil =>
      cases other with
      | nil => simpa using same
      | cons d other =>
          have brace : '}' = d := (List.cons.inj same).1
          exact absurd (List.mem_cons.mpr (.inl brace)) insideOther
  | cons c name ih =>
      cases other with
      | nil =>
          have brace : '}' = c := (List.cons.inj same).1.symm
          exact absurd (List.mem_cons.mpr (.inl brace)) inside
      | cons d other =>
          obtain ⟨first, later⟩ := List.cons.inj same
          obtain ⟨names, rests⟩ := ih (fun member => inside (List.mem_cons_of_mem c member))
            (fun member => insideOther (List.mem_cons_of_mem d member)) later
          exact ⟨by rw [first, names], rests⟩

end Openings

section Division

theorem divides_tail {tail : List Char}
    (unclosed : ∀ before after, tail = before ++ opening ++ after → '}' ∉ after) :
    Divides tail [] tail :=
  ⟨rfl, by simp, by simp, unclosed⟩

theorem divides_rest {text : List Char} {piece : Piece} {pieces : List Piece} {tail : List Char}
    (divides : Divides text (piece :: pieces) tail) : Divides (spelled pieces tail) pieces tail :=
  ⟨rfl, fun other member => divides.plain other (List.mem_cons_of_mem piece member),
    fun other member => divides.named other (List.mem_cons_of_mem piece member),
    divides.unclosed⟩

theorem exists_divides (text : List Char) : ∃ pieces tail, Divides text pieces tail := by
  rcases plain_or_first text with plain | ⟨before, after, cut, plain⟩
  · refine ⟨[], text, divides_tail ?_⟩
    rintro first last rfl
    exact absurd ⟨first, last, rfl⟩ plain
  · by_cases closes : '}' ∈ after
    · -- The name ends at the first closing brace, and what follows it is shorter.
      obtain ⟨name, rest, shape, inside⟩ := List.eq_append_cons_of_mem closes
      obtain ⟨pieces, tail, divides⟩ := exists_divides rest
      refine ⟨⟨before, name⟩ :: pieces, tail, ?_, ?_, ?_, divides.unclosed⟩
      · rw [cut, shape, divides.whole]
        rfl
      · exact List.forall_mem_cons.mpr ⟨plain, divides.plain⟩
      · exact List.forall_mem_cons.mpr ⟨inside, divides.named⟩
    · refine ⟨[], text, divides_tail ?_⟩
      intro first last same member
      rw [cut, List.append_assoc] at same
      exact closes ((suffix_of_plain plain same).subset member)
termination_by text.length
decreasing_by
  simp only [cut, shape, List.length_append, List.length_cons]
  omega

theorem divides_unique {text : List Char} {pieces others : List Piece} {tail rest : List Char}
    (one : Divides text pieces tail) (two : Divides text others rest) :
    pieces = others ∧ tail = rest := by
  induction pieces generalizing text others with
  | nil =>
      cases others with
      | nil => exact ⟨rfl, one.whole.symm.trans two.whole⟩
      | cons other others =>
          -- A tail that holds a whole placeholder closes it.
          have same := one.whole.symm.trans two.whole
          exfalso
          apply one.unclosed other.before _ (by rw [List.append_assoc]; exact same)
          simp
  | cons piece pieces ih =>
      have same := one.whole.symm.trans two.whole
      cases others with
      | nil =>
          exfalso
          apply two.unclosed piece.before _ (by rw [List.append_assoc]; exact same.symm)
          simp
      | cons other others =>
          have plain := one.plain piece List.mem_cons_self
          have plainOther := two.plain other List.mem_cons_self
          have starts := prefix_of_plain plain same
          have befores : piece.before = other.before :=
            starts.eq_of_length_le (prefix_of_plain plainOther same.symm).length_le
          rw [spelled, spelled, befores] at same
          have behind := List.append_cancel_left same
          obtain ⟨names, rests⟩ := name_cancel (one.named piece List.mem_cons_self)
            (two.named other List.mem_cons_self) (List.cons.inj (List.cons.inj behind).2).2
          have later := divides_rest two
          rw [← rests] at later
          obtain ⟨pieces, tails⟩ := ih (divides_rest one) later
          refine ⟨?_, tails⟩
          rw [pieces]
          cases piece
          cases other
          simp_all

end Division

section Reading

/-- A hash meets no brace within a plain text, nor behind it if none follows. -/
theorem apart_of_plain {c : Char} {before rest : List Char} (plain : ¬ opening <:+: c :: before)
    (apart : rest.head? ≠ some '{') : ¬ (c = '#' ∧ (before ++ rest).head? = some '{') := by
  rw [plain_cons_iff] at plain
  rintro ⟨hash, brace⟩
  cases before with
  | nil => exact apart brace
  | cons d more => exact plain.1 ⟨hash, brace⟩

theorem scan_unopened {before rest : List Char} (plain : ¬ opening <:+: before)
    (apart : rest.head? ≠ some '{') : scan none (before ++ rest) = scan none rest := by
  induction before with
  | nil => rfl
  | cons c before ih =>
      rw [List.cons_append, scan_none_cons, ih ((plain_cons_iff c before).mp plain).2]
      intro hash brace
      exact apart_of_plain plain apart ⟨hash, brace⟩

theorem scan_name {name : List Char} (inside : '}' ∉ name) (read rest : List Char) :
    scan (some read) (name ++ '}' :: rest) =
      (String.ofList (read.reverse ++ name) :: (scan none rest).1, (scan none rest).2) := by
  induction name generalizing read with
  | nil => simp [scan]
  | cons c name ih =>
      rw [List.mem_cons, not_or] at inside
      simp [scan, Ne.symm inside.1, ih inside.2]

theorem scan_unclosed {after : List Char} (inside : '}' ∉ after) (read : List Char) :
    scan (some read) after = ([], false) := by
  induction after generalizing read with
  | nil => rfl
  | cons c after ih =>
      rw [List.mem_cons, not_or] at inside
      simp [scan, Ne.symm inside.1, ih inside.2]

/-- What is collected from a text are the names of its pieces, and it is closed unless something
opens in its tail. -/
theorem scan_divides {text : List Char} {pieces : List Piece} {tail : List Char}
    (divides : Divides text pieces tail) :
    (scan none text).1 = pieces.map Piece.property ∧
      ((scan none text).2 = false ↔ opening <:+: tail) := by
  induction pieces generalizing text with
  | nil =>
      rw [divides.whole, spelled]
      rcases plain_or_first tail with plain | ⟨before, after, rfl, plain⟩
      · have read : scan none (tail ++ []) = scan none [] := scan_unopened plain (by simp)
        rw [List.append_nil] at read
        simp [read, scan, plain]
      · have inside := divides.unclosed before after (by rw [List.append_assoc]; rfl)
        rw [scan_unopened plain (by simp), scan, scan_unclosed inside]
        simp only [List.map_nil, true_and, true_iff]
        exact ⟨before, after, by rw [List.append_assoc]; rfl⟩
  | cons piece pieces ih =>
      obtain ⟨names, ends⟩ := ih (divides_rest divides)
      have plain := divides.plain piece List.mem_cons_self
      have inside := divides.named piece List.mem_cons_self
      rw [divides.whole, spelled, scan_unopened plain (by simp), scan, scan_name inside]
      exact ⟨by rw [names]; rfl, ends⟩

end Reading

section Preparing

variable (shape : ResultMap) (record : Record)

/-- What the binding of a name at a position has to be. -/
def Binds (named : String × Nat) (b : Binding) : Prop :=
  b.position = named.2 ∧ shape.field? named.1 = some b.field ∧
    b.value = (record.get? named.1).getD (Record.missing b.field.kind)

theorem prepareScan_plainText (position : Nat) {before rest : List Char}
    (plain : ¬ opening <:+: before) (apart : rest.head? ≠ some '{') :
    prepareScan shape record position none (before ++ rest) =
      (prepareScan shape record position none rest).map fun more =>
        ⟨before ++ more.text, more.bindings⟩ := by
  induction before with
  | nil =>
      rw [List.nil_append]
      cases prepareScan shape record position none rest <;> rfl
  | cons c before ih =>
      rw [List.cons_append, prepareScan_plain shape record position c _ (apart_of_plain plain apart),
        ih ((plain_cons_iff c before).mp plain).2]
      cases prepareScan shape record position none rest <;> rfl

/-- Nothing in a tail is bound, and all of it is kept. -/
theorem prepareScan_tail (position : Nat) {tail : List Char}
    (unclosed : ∀ before after, tail = before ++ opening ++ after → '}' ∉ after) :
    prepareScan shape record position none tail = .ok ⟨tail, []⟩ := by
  rcases plain_or_first tail with plain | ⟨before, after, rfl, plain⟩
  · have kept : prepareScan shape record position none (tail ++ []) = _ :=
      prepareScan_plainText shape record position plain (by simp)
    rw [List.append_nil, prepareScan] at kept
    rw [kept]
    simp [Except.map]
  · have inside := unclosed before after (by rw [List.append_assoc]; rfl)
    rw [prepareScan_plainText shape record position plain (by simp), prepareScan,
      prepareScan_unclosed shape record position [] after inside]
    rfl

/-- The first name that is no field. -/
def firstStrange? (names : List String) : Option String :=
  names.find? fun name => (shape.field? name).isNone

theorem prepareScan_spelled (position : Nat) {pieces : List Piece} {tail : List Char}
    (divides : Divides (spelled pieces tail) pieces tail) :
    match firstStrange? shape (pieces.map Piece.property) with
    | some name => prepareScan shape record position none (spelled pieces tail) = .error name
    | none => ∃ bindings,
        prepareScan shape record position none (spelled pieces tail) =
          .ok ⟨marked pieces tail, bindings⟩ ∧
        List.Forall₂ (Binds shape record) ((pieces.map Piece.property).zipIdx position)
          bindings := by
  induction pieces generalizing position with
  | nil =>
      exact ⟨[], prepareScan_tail shape record position divides.unclosed, .nil⟩
  | cons piece pieces ih =>
      have later := ih (position + 1) (divides_rest divides)
      have plain := divides.plain piece List.mem_cons_self
      have inside := divides.named piece List.mem_cons_self
      rw [spelled, prepareScan_plainText shape record position plain (by simp), prepareScan,
        prepareScan_closed shape record position [] _ _ inside, List.reverse_nil, List.nil_append,
        ← Piece.property]
      rw [List.map_cons, firstStrange?, List.find?_cons]
      cases found : shape.field? piece.property with
      | none => rfl
      | some f =>
          simp only [Option.isNone_some]
          rw [← firstStrange?]
          -- This piece is known, so the first strange one is among the others.
          cases strange : firstStrange? shape (pieces.map Piece.property) with
          | some name =>
              rw [strange] at later
              simp only at later ⊢
              rw [later]
              rfl
          | none =>
              rw [strange] at later
              obtain ⟨bindings, prepared, binds⟩ := later
              have named : f.property = piece.property := by
                simpa using List.find?_some found
              refine ⟨⟨position, f, boundValue record f⟩ :: bindings, ?_, ?_⟩
              · rw [prepared]
                rfl
              · rw [List.zipIdx_cons]
                apply List.Forall₂.cons _ binds
                exact ⟨rfl, found, by rw [boundValue, named]⟩

/-- An opening in a text that goes on with a question mark behind a plain part is behind the mark. -/
theorem opening_behind_mark {before rest first last : List Char} (plain : ¬ opening <:+: before)
    (same : before ++ '?' :: rest = first ++ opening ++ last) :
    ∃ middle, rest = middle ++ opening ++ last := by
  rw [List.append_assoc] at same
  rcases List.append_eq_append_iff.mp same with ⟨middle, rfl, behind⟩ | ⟨middle, rfl, behind⟩
  · cases middle with
    | nil => cases behind
    | cons c middle =>
        refine ⟨middle, ?_⟩
        rw [List.append_assoc]
        exact (List.cons.inj behind).2
  · -- The opening would begin in the plain part, and the mark is no part of it.
    exfalso
    apply plain
    match middle, behind with
    | [], behind => cases behind
    | [c], behind => cases behind
    | c :: d :: middle, behind =>
        simp only [opening, List.cons_append, List.nil_append, List.cons.injEq] at behind
        exact ⟨first, middle, by simp [opening, ← behind.1, ← behind.2.1]⟩

/-- Nothing is closed in a text whose placeholders are question marks. -/
theorem unclosed_marked {text : List Char} {pieces : List Piece} {tail : List Char}
    (divides : Divides text pieces tail) (before after : List Char)
    (same : marked pieces tail = before ++ opening ++ after) : '}' ∉ after := by
  induction pieces generalizing text before with
  | nil => exact divides.unclosed before after same
  | cons piece pieces ih =>
      obtain ⟨middle, behind⟩ := opening_behind_mark (divides.plain piece List.mem_cons_self) same
      exact ih (divides_rest divides) middle behind

theorem firstStrange?_eq_none_iff (names : List String) :
    firstStrange? shape names = none ↔ ∀ name ∈ names, (shape.field? name).isSome := by
  simp [firstStrange?, ← Option.isSome_iff_ne_none]

/-- Preparation fails at the first name that is no field, and nowhere else. -/
theorem prepare_eq_error_iff {sql : String} {pieces : List Piece} {tail : List Char}
    (divides : Divides sql.toList pieces tail) (name : String) :
    prepare shape record sql = .error name ↔
      firstStrange? shape (pieces.map Piece.property) = some name := by
  have whole := divides.whole
  have scanned := prepareScan_spelled shape record 0 (whole ▸ divides)
  rw [prepare, whole]
  cases strange : firstStrange? shape (pieces.map Piece.property) with
  | none =>
      rw [strange] at scanned
      obtain ⟨bindings, prepared, _⟩ := scanned
      simp [prepared, Except.map]
  | some first =>
      rw [strange] at scanned
      simp only at scanned
      rw [scanned]
      simp [Except.map]

theorem prepare_of_pieces {sql : String} {pieces : List Piece} {tail : List Char}
    (divides : Divides sql.toList pieces tail)
    (known : firstStrange? shape (pieces.map Piece.property) = none) :
    ∃ bindings, prepare shape record sql = .ok (String.ofList (marked pieces tail), bindings) ∧
      List.Forall₂ (Binds shape record) (pieces.map Piece.property).zipIdx bindings := by
  have whole := divides.whole
  have scanned := prepareScan_spelled shape record 0 (whole ▸ divides)
  rw [known] at scanned
  obtain ⟨bindings, prepared, binds⟩ := scanned
  exact ⟨bindings, by rw [prepare, whole, prepared]; rfl, binds⟩

/-- A second preparation finds nothing to do. -/
theorem prepare_marked {text : List Char} {pieces : List Piece} {tail : List Char}
    (divides : Divides text pieces tail) :
    prepare shape record (String.ofList (marked pieces tail)) =
      .ok (String.ofList (marked pieces tail), []) := by
  have kept := prepareScan_tail shape record 0 (unclosed_marked divides)
  rw [prepare, String.toList_ofList, kept]
  rfl

end Preparing

/-- How a text is prepared that is made of the given pieces and tail. -/
structure Agrees (shape : ResultMap) (record : Record) (sql : String) (pieces : List Piece)
    (tail : List Char) : Prop where
  names : (placeholders sql).1 = pieces.map Piece.property
  closed : (placeholders sql).2 = false ↔ opening <:+: tail
  fails : (∃ name, prepare shape record sql = .error name) ↔
    ∃ name ∈ (placeholders sql).1, shape.field? name = none
  /-- The failure is a reference to the first name that is no field. -/
  failure : ∀ message, (prepare shape record sql).mapError strangePlaceholder = .error message ↔
    ∃ name, firstStrange? shape (placeholders sql).1 = some name ∧
      message = "placeholder #\x7b" ++ name ++ "\x7d: " ++ DocumentFault.reference.message
  result : (∀ name ∈ (placeholders sql).1, (shape.field? name).isSome) →
    ∃ bindings, prepare shape record sql = .ok (String.ofList (marked pieces tail), bindings) ∧
      List.Forall₂ (Binds shape record) (placeholders sql).1.zipIdx bindings
  again : prepare shape record (String.ofList (marked pieces tail)) =
    .ok (String.ofList (marked pieces tail), [])

/-- Every text is in one way made of plain texts, each with a placeholder behind it, and a tail in
which nothing is closed. The names collected from it are those of the placeholders. It is prepared
unless one of them is no field; then each placeholder has become a question mark, the binding at
each position is that of its name, and preparing the result changes nothing and binds nothing. -/
theorem prepare_by_pieces (shape : ResultMap) (record : Record) (sql : String) :
    ∃ pieces tail, Divides sql.toList pieces tail ∧
      (∀ others rest, Divides sql.toList others rest → others = pieces ∧ rest = tail) ∧
      Agrees shape record sql pieces tail := by
  obtain ⟨pieces, tail, divides⟩ := exists_divides sql.toList
  refine ⟨pieces, tail, divides, fun others rest other => divides_unique other divides, ?_⟩
  obtain ⟨names, ends⟩ := scan_divides divides
  have listed : (placeholders sql).1 = pieces.map Piece.property := by
    rw [placeholders_eq]
    exact names
  have fails := prepare_eq_error_iff shape record divides
  constructor
  case names => exact listed
  case closed =>
    rw [placeholders_eq]
    exact ends
  case fails =>
    rw [listed]
    simp only [fails, ← Option.isSome_iff_exists, firstStrange?, List.find?_isSome,
      Option.isNone_iff_eq_none]
  case failure =>
    intro message
    rw [listed]
    simp only [Outcome.mapError_eq_error_iff, fails, eq_comm (b := message)]
    rfl
  case result =>
    intro known
    rw [listed] at known ⊢
    exact prepare_of_pieces shape record divides ((firstStrange?_eq_none_iff shape _).mpr known)
  case again => exact prepare_marked shape record divides

/-- A hash before an opening, an opening inside a name, and one that is never closed. -/
example : placeholders "##\x7ba\x7d#\x7b#\x7bb\x7d#\x7bc" = (["a", "#\x7bb"], false) := by
  decide +kernel

end SqlMapper.Placeholder
