import Mathlib.Data.List.Forall2
import SqlMapper.Proofs.Outcome
import SqlMapper.Sql.Prepared

/-!
Placeholders in bytes that need not be text. The names are collected by searching for one mark after
the other, what is prepared is scanned byte by byte, and both find the pieces that the bytes are made
of.
-/

namespace SqlMapper.Placeholder

open Sql
open Text (encode)

/-- The bytes before the first opening of a placeholder, and those behind it. -/
def cutOpening : List UInt8 → Option (List UInt8 × List UInt8)
  | [] => none
  | 0x23 :: 0x7b :: rest => some ([], rest)
  | b :: rest => (cutOpening rest).map fun found => (b :: found.1, found.2)

/-- The bytes before the first closing brace, and those behind it. -/
def cutClosing : List UInt8 → Option (List UInt8 × List UInt8)
  | [] => none
  | b :: rest =>
      if b = 0x7d then some ([], rest)
      else (cutClosing rest).map fun found => (b :: found.1, found.2)

/-- The names in order of occurrence, and whether every placeholder is closed. -/
def placeholdersBytesIn : Nat → List UInt8 → List (List UInt8) × Bool
  | 0, _ => ([], true)
  | fuel + 1, bytes =>
      match cutOpening bytes with
      | none => ([], true)
      | some (_, inner) =>
          match cutClosing inner with
          | none => ([], false)
          | some (name, rest) =>
              let (names, closed) := placeholdersBytesIn fuel rest
              (name :: names, closed)

def placeholdersBytes (bytes : List UInt8) : List (List UInt8) × Bool :=
  placeholdersBytesIn (bytes.length + 1) bytes

/-- The first field whose property has these bytes. -/
def fieldBytes? (shape : ResultMap) (name : List UInt8) : Option Field :=
  shape.fields.find? fun f => encode f.property == name

/-- The value that a record has under these bytes. -/
def valueBytes? (record : Record) (name : List UInt8) : Option Value :=
  (record.entries.find? fun entry => encode entry.1 == name).map (·.2)

structure PreparedBytes where
  bytes : List UInt8
  bindings : List Binding

/-- Scans bytes; inside a placeholder those of its name are kept in reverse. The error is a name that
is no field. -/
def prepareScanBytes (shape : ResultMap) (record : Record) :
    Nat → Option (List UInt8) → List UInt8 → Except (List UInt8) PreparedBytes
  | _, none, [] => .ok ⟨[], []⟩
  | _, some name, [] => .ok ⟨0x23 :: 0x7b :: name.reverse, []⟩
  | position, none, 0x23 :: 0x7b :: rest => prepareScanBytes shape record position (some []) rest
  | position, none, b :: rest =>
      (prepareScanBytes shape record position none rest).map fun more =>
        ⟨b :: more.bytes, more.bindings⟩
  | position, some name, b :: rest =>
      if b = 0x7d then
        match fieldBytes? shape name.reverse with
        | none => .error name.reverse
        | some f =>
            (prepareScanBytes shape record (position + 1) none rest).map fun more =>
              ⟨0x3f :: more.bytes, ⟨position, f,
                (valueBytes? record name.reverse).getD (Record.missing f.kind)⟩ :: more.bindings⟩
      else prepareScanBytes shape record position (some (b :: name)) rest

def prepareBytes (shape : ResultMap) (record : Record) (sql : List UInt8) :
    Except (List UInt8) (List UInt8 × List Binding) :=
  (prepareScanBytes shape record 0 none sql).map fun done => (done.bytes, done.bindings)

/-- The message for a placeholder whose name is no field. -/
def strangePlaceholderBytes (name : List UInt8) : List UInt8 :=
  encode "placeholder #\x7b" ++ name ++ encode ("\x7d: " ++ DocumentFault.reference.message)

/-- A placeholder in bytes and the bytes in front of it. -/
structure BytePiece where
  before : List UInt8
  name : List UInt8

/-- The bytes that are cut into pieces and a tail. -/
def spelledBytes : List BytePiece → List UInt8 → List UInt8
  | [], tail => tail
  | piece :: rest, tail =>
      piece.before ++ 0x23 :: 0x7b :: (piece.name ++ 0x7d :: spelledBytes rest tail)

/-- The same bytes with a question mark for every placeholder. -/
def markedBytes : List BytePiece → List UInt8 → List UInt8
  | [], tail => tail
  | piece :: rest, tail => piece.before ++ 0x3f :: markedBytes rest tail

def openingBytes : List UInt8 :=
  [0x23, 0x7b]

structure DividesBytes (bytes : List UInt8) (pieces : List BytePiece) (tail : List UInt8) :
    Prop where
  whole : bytes = spelledBytes pieces tail
  plain : ∀ piece ∈ pieces, ¬ openingBytes <:+: piece.before
  named : ∀ piece ∈ pieces, 0x7d ∉ piece.name
  unclosed : ∀ before after, tail = before ++ openingBytes ++ after → 0x7d ∉ after

section Cutting

theorem plainBytes_cons_iff (b : UInt8) (rest : List UInt8) :
    ¬ openingBytes <:+: b :: rest ↔
      ¬ (b = 0x23 ∧ rest.head? = some 0x7b) ∧ ¬ openingBytes <:+: rest := by
  rw [List.infix_cons_iff, not_or]
  apply and_congr_left
  intro _
  cases rest with
  | nil => simp [openingBytes, List.cons_prefix_cons]
  | cons c more => simp [openingBytes, List.cons_prefix_cons, eq_comm]

/-- No placeholder opens at the last byte of a plain part, nor before it. -/
theorem apart_of_plainBytes {b : UInt8} {before rest : List UInt8}
    (plain : ¬ openingBytes <:+: b :: before) (apart : rest.head? ≠ some 0x7b) :
    ¬ (b = 0x23 ∧ (before ++ rest).head? = some 0x7b) := by
  rw [plainBytes_cons_iff] at plain
  rintro ⟨hash, brace⟩
  cases before with
  | nil => exact apart brace
  | cons c more => exact plain.1 ⟨hash, brace⟩

theorem cutOpening_cons {b : UInt8} {rest : List UInt8}
    (apart : ¬ (b = 0x23 ∧ rest.head? = some 0x7b)) :
    cutOpening (b :: rest) = (cutOpening rest).map fun found => (b :: found.1, found.2) := by
  rw [cutOpening]
  rintro more rfl rfl
  exact apart ⟨rfl, rfl⟩

theorem cutOpening_append {before : List UInt8} (plain : ¬ openingBytes <:+: before)
    (rest : List UInt8) : cutOpening (before ++ 0x23 :: 0x7b :: rest) = some (before, rest) := by
  induction before with
  | nil => rfl
  | cons b before ih =>
      rw [List.cons_append, cutOpening_cons (apart_of_plainBytes plain (by simp)),
        ih ((plainBytes_cons_iff b before).mp plain).2]
      rfl

/-- The first opening has plain bytes in front of it, and bytes without one are plain. -/
theorem cutOpening_spec (bytes : List UInt8) :
    match cutOpening bytes with
    | none => ¬ openingBytes <:+: bytes
    | some found => bytes = found.1 ++ 0x23 :: 0x7b :: found.2 ∧ ¬ openingBytes <:+: found.1 := by
  induction bytes with
  | nil => simp [cutOpening, openingBytes]
  | cons b rest ih =>
      by_cases opened : b = 0x23 ∧ rest.head? = some 0x7b
      · obtain ⟨rfl, brace⟩ := opened
        obtain ⟨inner, rfl⟩ := List.head?_eq_some_iff.mp brace
        exact ⟨rfl, by simp [openingBytes]⟩
      · rw [cutOpening_cons opened]
        cases found : cutOpening rest with
        | none =>
            rw [found] at ih
            exact (plainBytes_cons_iff b rest).mpr ⟨opened, ih⟩
        | some parts =>
            obtain ⟨before, inner⟩ := parts
            rw [found] at ih
            obtain ⟨rfl, plain⟩ := ih
            refine ⟨rfl, (plainBytes_cons_iff b before).mpr ⟨?_, plain⟩⟩
            rintro ⟨rfl, brace⟩
            apply opened
            obtain ⟨more, rfl⟩ := List.head?_eq_some_iff.mp brace
            exact ⟨rfl, rfl⟩

/-- What stands behind any opening stands behind the first one. -/
theorem suffix_of_cutOpening {first last before inner : List UInt8}
    (found : cutOpening (first ++ 0x23 :: 0x7b :: last) = some (before, inner)) :
    last <:+ inner := by
  induction first generalizing before with
  | nil =>
      cases found
      exact List.suffix_rfl
  | cons b first ih =>
      by_cases opened : b = 0x23 ∧ (first ++ 0x23 :: 0x7b :: last).head? = some 0x7b
      · obtain ⟨rfl, brace⟩ := opened
        cases first with
        | nil => cases brace
        | cons c first =>
            obtain rfl : c = 0x7b := by simpa using brace
            cases found
            exact ⟨first ++ openingBytes, by simp [openingBytes]⟩
      · rw [List.cons_append, cutOpening_cons opened] at found
        obtain ⟨⟨front, rest⟩, later, same⟩ := Option.map_eq_some_iff.mp found
        cases same
        exact ih later

theorem cutClosing_append {name : List UInt8} (inside : 0x7d ∉ name) (rest : List UInt8) :
    cutClosing (name ++ 0x7d :: rest) = some (name, rest) := by
  induction name with
  | nil => rfl
  | cons b name ih =>
      rw [List.mem_cons, not_or] at inside
      rw [List.cons_append, cutClosing, if_neg (Ne.symm inside.1), ih inside.2]
      rfl

theorem cutClosing_spec (bytes : List UInt8) :
    match cutClosing bytes with
    | none => 0x7d ∉ bytes
    | some found => bytes = found.1 ++ 0x7d :: found.2 ∧ 0x7d ∉ found.1 := by
  induction bytes with
  | nil => exact List.not_mem_nil
  | cons b rest ih =>
      rw [cutClosing]
      by_cases stop : b = 0x7d
      · rw [if_pos stop, stop]
        exact ⟨rfl, List.not_mem_nil⟩
      · rw [if_neg stop]
        cases found : cutClosing rest with
        | none =>
            rw [found] at ih
            exact List.not_mem_cons_of_ne_of_not_mem (Ne.symm stop) ih
        | some parts =>
            rw [found] at ih
            obtain ⟨rfl, inside⟩ := ih
            exact ⟨rfl, List.not_mem_cons_of_ne_of_not_mem (Ne.symm stop) inside⟩

end Cutting

section Division

theorem dividesBytes_rest {bytes : List UInt8} {piece : BytePiece} {pieces : List BytePiece}
    {tail : List UInt8} (divides : DividesBytes bytes (piece :: pieces) tail) :
    DividesBytes (spelledBytes pieces tail) pieces tail :=
  ⟨rfl, fun other member => divides.plain other (List.mem_cons_of_mem piece member),
    fun other member => divides.named other (List.mem_cons_of_mem piece member),
    divides.unclosed⟩

theorem exists_dividesBytes (bytes : List UInt8) :
    ∃ pieces tail, DividesBytes bytes pieces tail := by
  have opens := cutOpening_spec bytes
  cases opened : cutOpening bytes with
  | none =>
      rw [opened] at opens
      refine ⟨[], bytes, rfl, by simp, by simp, ?_⟩
      rintro first last rfl
      exact absurd ⟨first, last, rfl⟩ opens
  | some parts =>
      obtain ⟨before, inner⟩ := parts
      rw [opened] at opens
      obtain ⟨cut, plain⟩ := opens
      have closes := cutClosing_spec inner
      cases closed : cutClosing inner with
      | none =>
          rw [closed] at closes
          refine ⟨[], bytes, rfl, by simp, by simp, ?_⟩
          rintro first last rfl member
          rw [List.append_assoc] at opened
          exact closes ((suffix_of_cutOpening opened).subset member)
      | some found =>
          obtain ⟨name, rest⟩ := found
          rw [closed] at closes
          obtain ⟨shape, inside⟩ := closes
          obtain ⟨pieces, tail, divides⟩ := exists_dividesBytes rest
          refine ⟨⟨before, name⟩ :: pieces, tail, ?_, List.forall_mem_cons.mpr ⟨plain, divides.plain⟩,
            List.forall_mem_cons.mpr ⟨inside, divides.named⟩, divides.unclosed⟩
          rw [cut, shape, divides.whole]
          rfl
termination_by bytes.length
decreasing_by
  simp only [cut, shape, List.length_append, List.length_cons]
  omega

theorem dividesBytes_unique {bytes : List UInt8} {pieces others : List BytePiece}
    {tail rest : List UInt8} (one : DividesBytes bytes pieces tail)
    (two : DividesBytes bytes others rest) : pieces = others ∧ tail = rest := by
  have same := one.whole.symm.trans two.whole
  induction pieces generalizing bytes others with
  | nil =>
      cases others with
      | nil => exact ⟨rfl, same⟩
      | cons other others =>
          exfalso
          apply one.unclosed other.before _ (by rw [List.append_assoc]; exact same)
          simp
  | cons piece pieces ih =>
      cases others with
      | nil =>
          exfalso
          apply two.unclosed piece.before _ (by rw [List.append_assoc]; exact same.symm)
          simp
      | cons other others =>
          -- Both searches stop where the pieces say, so they say the same.
          have opened := congrArg cutOpening same
          rw [spelledBytes, spelledBytes, cutOpening_append (one.plain piece List.mem_cons_self),
            cutOpening_append (two.plain other List.mem_cons_self)] at opened
          obtain ⟨befores, inners⟩ := Prod.mk.inj (Option.some.inj opened)
          have closed := congrArg cutClosing inners
          rw [cutClosing_append (one.named piece List.mem_cons_self),
            cutClosing_append (two.named other List.mem_cons_self)] at closed
          obtain ⟨names, rests⟩ := Prod.mk.inj (Option.some.inj closed)
          obtain ⟨later, tails⟩ := ih (dividesBytes_rest one) (rests ▸ dividesBytes_rest two) rests
          refine ⟨?_, tails⟩
          rw [later]
          cases piece
          cases other
          simp_all

end Division

section Searching

theorem length_le_spelledBytes (pieces : List BytePiece) (tail : List UInt8) :
    pieces.length ≤ (spelledBytes pieces tail).length := by
  induction pieces with
  | nil => exact Nat.zero_le _
  | cons piece pieces ih =>
      simp only [spelledBytes, List.length_append, List.length_cons]
      omega

/-- The search finds the names of the pieces. -/
theorem placeholdersBytesIn_spelled {pieces : List BytePiece} {tail : List UInt8}
    (divides : DividesBytes (spelledBytes pieces tail) pieces tail) {fuel : Nat}
    (enough : pieces.length < fuel) :
    (placeholdersBytesIn fuel (spelledBytes pieces tail)).1 = pieces.map BytePiece.name ∧
      ((placeholdersBytesIn fuel (spelledBytes pieces tail)).2 = false ↔
        openingBytes <:+: tail) := by
  obtain ⟨fuel, rfl⟩ := Nat.exists_eq_add_one_of_ne_zero (Nat.ne_zero_of_lt enough)
  induction pieces generalizing fuel with
  | nil =>
      have opens := cutOpening_spec tail
      rw [spelledBytes, placeholdersBytesIn]
      cases opened : cutOpening tail with
      | none =>
          rw [opened] at opens
          simp [opens]
      | some parts =>
          obtain ⟨before, inner⟩ := parts
          rw [opened] at opens
          obtain ⟨cut, -⟩ := opens
          have cut : tail = before ++ openingBytes ++ inner := by
            rw [cut, List.append_assoc]
            rfl
          have closes := cutClosing_spec inner
          cases closed : cutClosing inner with
          | none =>
              have begun : openingBytes <:+: tail := ⟨before, inner, cut.symm⟩
              simp [closed, begun]
          | some found =>
              rw [closed] at closes
              apply absurd _ (divides.unclosed before inner cut)
              rw [closes.1]
              simp
  | cons piece pieces ih =>
      cases fuel with
      | zero => simp at enough
      | succ fuel =>
          obtain ⟨names, ends⟩ := ih (dividesBytes_rest divides) fuel (by simpa using enough)
          rw [spelledBytes, placeholdersBytesIn,
            cutOpening_append (divides.plain piece List.mem_cons_self)]
          simp only [cutClosing_append (divides.named piece List.mem_cons_self)]
          exact ⟨by rw [names]; rfl, ends⟩

theorem placeholdersBytes_divides {bytes : List UInt8} {pieces : List BytePiece}
    {tail : List UInt8} (divides : DividesBytes bytes pieces tail) :
    (placeholdersBytes bytes).1 = pieces.map BytePiece.name ∧
      ((placeholdersBytes bytes).2 = false ↔ openingBytes <:+: tail) := by
  have whole := divides.whole
  subst whole
  exact placeholdersBytesIn_spelled divides
    (Nat.lt_succ_of_le (length_le_spelledBytes pieces tail))

end Searching

section Preparing

variable (shape : ResultMap) (record : Record)

/-- What the binding of a name at a position has to be. -/
def BindsBytes (named : List UInt8 × Nat) (b : Binding) : Prop :=
  b.position = named.2 ∧ fieldBytes? shape named.1 = some b.field ∧
    b.value = (valueBytes? record named.1).getD (Record.missing b.field.kind)

theorem prepareScanBytes_cons (position : Nat) {b : UInt8} {rest : List UInt8}
    (apart : ¬ (b = 0x23 ∧ rest.head? = some 0x7b)) :
    prepareScanBytes shape record position none (b :: rest) =
      (prepareScanBytes shape record position none rest).map fun more =>
        ⟨b :: more.bytes, more.bindings⟩ := by
  rw [prepareScanBytes]
  rintro more rfl rfl
  exact apart ⟨rfl, rfl⟩

/-- Plain bytes are kept. -/
theorem prepareScanBytes_plain (position : Nat) {before rest : List UInt8}
    (plain : ¬ openingBytes <:+: before) (apart : rest.head? ≠ some 0x7b) :
    prepareScanBytes shape record position none (before ++ rest) =
      (prepareScanBytes shape record position none rest).map fun more =>
        ⟨before ++ more.bytes, more.bindings⟩ := by
  induction before with
  | nil =>
      rw [List.nil_append]
      cases prepareScanBytes shape record position none rest <;> rfl
  | cons b before ih =>
      rw [List.cons_append,
        prepareScanBytes_cons shape record position (apart_of_plainBytes plain apart),
        ih ((plainBytes_cons_iff b before).mp plain).2]
      cases prepareScanBytes shape record position none rest <;> rfl

theorem prepareScanBytes_unclosed (position : Nat) (read : List UInt8) {after : List UInt8}
    (inside : 0x7d ∉ after) :
    prepareScanBytes shape record position (some read) after =
      .ok ⟨0x23 :: 0x7b :: (read.reverse ++ after), []⟩ := by
  induction after generalizing read with
  | nil => rw [prepareScanBytes, List.append_nil]
  | cons b after ih =>
      rw [List.mem_cons, not_or] at inside
      rw [prepareScanBytes, if_neg (Ne.symm inside.1), ih _ inside.2]
      simp

theorem prepareScanBytes_closed (position : Nat) (read : List UInt8) {name : List UInt8}
    (inside : 0x7d ∉ name) (rest : List UInt8) :
    prepareScanBytes shape record position (some read) (name ++ 0x7d :: rest) =
      match fieldBytes? shape (read.reverse ++ name) with
      | none => .error (read.reverse ++ name)
      | some f =>
          (prepareScanBytes shape record (position + 1) none rest).map fun more =>
            ⟨0x3f :: more.bytes, ⟨position, f, (valueBytes? record (read.reverse ++ name)).getD
              (Record.missing f.kind)⟩ :: more.bindings⟩ := by
  induction name generalizing read with
  | nil => rw [List.nil_append, prepareScanBytes, if_pos rfl, List.append_nil]
  | cons b name ih =>
      rw [List.mem_cons, not_or] at inside
      rw [List.cons_append, prepareScanBytes, if_neg (Ne.symm inside.1), ih _ inside.2,
        List.reverse_cons, List.append_assoc, List.singleton_append]

/-- Nothing in a tail is bound, and all of it is kept. -/
theorem prepareScanBytes_tail (position : Nat) {tail : List UInt8}
    (unclosed : ∀ before after, tail = before ++ openingBytes ++ after → 0x7d ∉ after) :
    prepareScanBytes shape record position none tail = .ok ⟨tail, []⟩ := by
  have opens := cutOpening_spec tail
  cases opened : cutOpening tail with
  | none =>
      rw [opened] at opens
      have kept := prepareScanBytes_plain shape record position opens
        (by simp : ([] : List UInt8).head? ≠ some 0x7b)
      rw [List.append_nil, prepareScanBytes] at kept
      rw [kept]
      simp [Except.map]
  | some parts =>
      obtain ⟨before, after⟩ := parts
      rw [opened] at opens
      obtain ⟨rfl, plain⟩ := opens
      have inside := unclosed before after (by rw [List.append_assoc]; rfl)
      rw [prepareScanBytes_plain shape record position plain (by simp), prepareScanBytes,
        prepareScanBytes_unclosed shape record position [] inside]
      rfl

/-- A second preparation finds nothing to do. -/
theorem prepareScanBytes_marked (position : Nat) {pieces : List BytePiece} {tail : List UInt8}
    (divides : DividesBytes (spelledBytes pieces tail) pieces tail) :
    prepareScanBytes shape record position none (markedBytes pieces tail) =
      .ok ⟨markedBytes pieces tail, []⟩ := by
  induction pieces with
  | nil => exact prepareScanBytes_tail shape record position divides.unclosed
  | cons piece pieces ih =>
      rw [markedBytes,
        prepareScanBytes_plain shape record position (divides.plain piece List.mem_cons_self)
          (by simp),
        prepareScanBytes_cons shape record position (by simp), ih (dividesBytes_rest divides)]
      rfl

/-- The first name that is no field. -/
def firstStrangeBytes? (names : List (List UInt8)) : Option (List UInt8) :=
  names.find? fun name => (fieldBytes? shape name).isNone

theorem prepareScanBytes_spelled (position : Nat) {pieces : List BytePiece} {tail : List UInt8}
    (divides : DividesBytes (spelledBytes pieces tail) pieces tail) :
    match firstStrangeBytes? shape (pieces.map BytePiece.name) with
    | some name =>
        prepareScanBytes shape record position none (spelledBytes pieces tail) = .error name
    | none => ∃ bindings,
        prepareScanBytes shape record position none (spelledBytes pieces tail) =
          .ok ⟨markedBytes pieces tail, bindings⟩ ∧
        List.Forall₂ (BindsBytes shape record) ((pieces.map BytePiece.name).zipIdx position)
          bindings := by
  induction pieces generalizing position with
  | nil =>
      exact ⟨[], prepareScanBytes_tail shape record position divides.unclosed, .nil⟩
  | cons piece pieces ih =>
      have later := ih (position + 1) (dividesBytes_rest divides)
      rw [spelledBytes,
        prepareScanBytes_plain shape record position (divides.plain piece List.mem_cons_self)
          (by simp),
        prepareScanBytes,
        prepareScanBytes_closed shape record position [] (divides.named piece List.mem_cons_self),
        List.reverse_nil, List.nil_append, List.map_cons, firstStrangeBytes?, List.find?_cons]
      cases found : fieldBytes? shape piece.name with
      | none => rfl
      | some f =>
          simp only [Option.isNone_some]
          rw [← firstStrangeBytes?]
          -- This piece is known, so the first strange one is among the others.
          cases strange : firstStrangeBytes? shape (pieces.map BytePiece.name) with
          | some name =>
              rw [strange] at later
              simp only at later ⊢
              rw [later]
              rfl
          | none =>
              rw [strange] at later
              obtain ⟨bindings, prepared, binds⟩ := later
              refine ⟨⟨position, f, (valueBytes? record piece.name).getD
                (Record.missing f.kind)⟩ :: bindings, ?_, ?_⟩
              · rw [prepared]
                rfl
              · rw [List.zipIdx_cons]
                exact List.Forall₂.cons ⟨rfl, found, rfl⟩ binds

/-- Preparation fails at the first name that is no field, and nowhere else. -/
theorem prepareBytes_eq_error_iff {sql : List UInt8} {pieces : List BytePiece}
    {tail : List UInt8} (divides : DividesBytes sql pieces tail) (name : List UInt8) :
    prepareBytes shape record sql = .error name ↔
      firstStrangeBytes? shape (pieces.map BytePiece.name) = some name := by
  have whole := divides.whole
  subst whole
  have scanned := prepareScanBytes_spelled shape record 0 divides
  rw [prepareBytes]
  cases strange : firstStrangeBytes? shape (pieces.map BytePiece.name) with
  | none =>
      rw [strange] at scanned
      obtain ⟨bindings, prepared, _⟩ := scanned
      simp [prepared, Except.map]
  | some first =>
      rw [strange] at scanned
      simp only at scanned
      simp [scanned, Except.map]

theorem prepareBytes_of_pieces {sql : List UInt8} {pieces : List BytePiece} {tail : List UInt8}
    (divides : DividesBytes sql pieces tail)
    (known : firstStrangeBytes? shape (pieces.map BytePiece.name) = none) :
    ∃ bindings, prepareBytes shape record sql = .ok (markedBytes pieces tail, bindings) ∧
      List.Forall₂ (BindsBytes shape record) (pieces.map BytePiece.name).zipIdx bindings := by
  have whole := divides.whole
  subst whole
  have scanned := prepareScanBytes_spelled shape record 0 divides
  rw [known] at scanned
  obtain ⟨bindings, prepared, binds⟩ := scanned
  exact ⟨bindings, by rw [prepareBytes, prepared]; rfl, binds⟩

end Preparing

/-- How bytes are prepared that are made of the given pieces and tail. -/
structure AgreesBytes (shape : ResultMap) (record : Record) (sql : List UInt8)
    (pieces : List BytePiece) (tail : List UInt8) : Prop where
  names : (placeholdersBytes sql).1 = pieces.map BytePiece.name
  closed : (placeholdersBytes sql).2 = false ↔ openingBytes <:+: tail
  fails : (∃ name, prepareBytes shape record sql = .error name) ↔
    ∃ name ∈ (placeholdersBytes sql).1, fieldBytes? shape name = none
  /-- The failure is a reference to the first name that is no field. -/
  failure : ∀ message,
    (prepareBytes shape record sql).mapError strangePlaceholderBytes = .error message ↔
      ∃ name, firstStrangeBytes? shape (placeholdersBytes sql).1 = some name ∧
        message = strangePlaceholderBytes name
  result : (∀ name ∈ (placeholdersBytes sql).1, (fieldBytes? shape name).isSome) →
    ∃ bindings, prepareBytes shape record sql = .ok (markedBytes pieces tail, bindings) ∧
      List.Forall₂ (BindsBytes shape record) (placeholdersBytes sql).1.zipIdx bindings
  again : prepareBytes shape record (markedBytes pieces tail) = .ok (markedBytes pieces tail, [])

theorem agreesBytes_of_divides (shape : ResultMap) (record : Record) {sql : List UInt8}
    {pieces : List BytePiece} {tail : List UInt8} (divides : DividesBytes sql pieces tail) :
    AgreesBytes shape record sql pieces tail := by
  obtain ⟨listed, ends⟩ := placeholdersBytes_divides divides
  have fails := prepareBytes_eq_error_iff shape record divides
  constructor
  case names => exact listed
  case closed => exact ends
  case fails =>
    rw [listed]
    simp only [fails, ← Option.isSome_iff_exists, firstStrangeBytes?, List.find?_isSome,
      Option.isNone_iff_eq_none]
  case failure =>
    intro message
    rw [listed]
    simp only [Outcome.mapError_eq_error_iff, fails, eq_comm (b := message)]
  case result =>
    intro known
    rw [listed] at known ⊢
    refine prepareBytes_of_pieces shape record divides (List.find?_eq_none.mpr ?_)
    intro name member
    simpa [← Option.isSome_iff_ne_none] using known name member
  case again =>
    have whole := divides.whole
    subst whole
    rw [prepareBytes, prepareScanBytes_marked shape record 0 divides]
    rfl

end SqlMapper.Placeholder
