import SqlMapper.Proofs.Yaml.Styles

/-!
Scanning block mappings. The entries at one column are read one after another, and so are groups of
entries below a key. A block inside of another one is still open behind its last line: it ends with
the next key, or with the text.
-/

namespace SqlMapper.Yaml

section Indentation

variable {c : Char} {others : List Char}

def indent (text : List Char) : Nat :=
  (text.takeWhile (· == ' ')).length

def unindented (text : List Char) : List Char :=
  text.dropWhile (· == ' ')

theorem replicate_indent (text : List Char) :
    List.replicate (indent text) ' ' ++ unindented text = text := by
  have blanks : List.replicate (indent text) ' ' = text.takeWhile (· == ' ') := by
    apply Eq.symm
    rw [List.eq_replicate_iff]
    exact ⟨rfl, fun c member => by simpa using List.mem_takeWhile_imp member⟩
  rw [blanks]
  exact List.takeWhile_append_dropWhile

theorem indent_append (width : Nat) (apart : c ≠ ' ') :
    indent (List.replicate width ' ' ++ c :: others) = width := by
  induction width with
  | zero => simp [indent, apart]
  | succ width ih => simpa [indent, List.replicate_succ] using ih

theorem unindented_append (width : Nat) (apart : c ≠ ' ') :
    unindented (List.replicate width ' ' ++ c :: others) = c :: others := by
  induction width with
  | zero => simp [unindented, apart]
  | succ width ih => simpa [unindented, List.replicate_succ] using ih

/-- A text that can follow the entries at a column: a key there or further out, or nothing. -/
structure Follows (width : Nat) (text : List Char) : Prop where
  left : indent text ≤ width
  starts : StartsEntry (unindented text)

theorem follows_nil (width : Nat) : Follows width [] :=
  ⟨Nat.zero_le width, fun _ first => nomatch first⟩

theorem Follows.mono {width more : Nat} {text : List Char} (follows : Follows width text)
    (enough : width ≤ more) : Follows more text :=
  ⟨Nat.le_trans follows.left enough, follows.starts⟩

theorem startsEntry_of_isAlpha (alpha : c.isAlpha = true) : StartsEntry (c :: others) := by
  rintro d first
  cases first
  have word : isWord c = true := by simp [isWord, Char.isAlphanum, alpha]
  refine ⟨(isWord_apart word).1, ?_, ?_⟩ <;> rintro rfl <;> exact absurd alpha (by decide)

/-- A text whose first line begins with a letter at a column. -/
def StartsAt (width : Nat) (text : List Char) : Prop :=
  ∃ c others, text = List.replicate width ' ' ++ c :: others ∧ c.isAlpha = true

theorem StartsAt.unindented {width : Nat} {text : List Char} (starts : StartsAt width text)
    (rest : List Char) : ∃ c others, text ++ rest = List.replicate width ' ' ++ c :: others ∧
      indent (text ++ rest) = width ∧ unindented (text ++ rest) = c :: others ∧
      c.isAlpha = true := by
  obtain ⟨c, others, rfl, alpha⟩ := starts
  have apart : c ≠ ' ' := by
    rintro rfl
    exact absurd alpha (by decide)
  refine ⟨c, others ++ rest, by simp, ?_, ?_, alpha⟩
  · rw [List.append_assoc, List.cons_append, indent_append width apart]
  · rw [List.append_assoc, List.cons_append, unindented_append width apart]

theorem StartsAt.follows {width : Nat} {text : List Char} (starts : StartsAt width text)
    (rest : List Char) : Follows width (text ++ rest) := by
  obtain ⟨c, others, _, same, behind, alpha⟩ := starts.unindented rest
  exact ⟨Nat.le_of_eq same, behind ▸ startsEntry_of_isAlpha alpha⟩

/-- A key behind its indentation. -/
theorem startsAt_of_isKey {key : List Char} (isKey : IsKey key) (width : Nat) (after : List Char) :
    StartsAt width (List.replicate width ' ' ++ (key ++ after)) := by
  obtain ⟨c, others, rfl, alpha⟩ := isKey.first
  exact ⟨c, others ++ after, rfl, alpha⟩

end Indentation

namespace Scan

variable {s : Scan} {width : Nat} {tokens : List Token} {margins : List Nat} {rest : List Char}

/-- The next token of a scan is the first one on the lines of a text. -/
def Awaits (s : Scan) (text : List Char) : Prop :=
  s.Arrives (indent text) (unindented text)

theorem Awaits.of_isKey {key after : List Char} (isKey : IsKey key)
    (awaits : s.Awaits (List.replicate width ' ' ++ (key ++ after) ++ rest)) :
    s.Arrives width (key ++ after ++ rest) := by
  obtain ⟨c, others, spelled, left, behind, _⟩ :=
    (startsAt_of_isKey isKey width after).unindented rest
  rw [List.append_assoc] at spelled
  rw [Awaits, left, behind, ← List.append_cancel_left spelled] at awaits
  exact awaits

/-- A scan in which the entries of a block have these tokens before them, once the blocks inside of
it have ended. -/
def Within (s : Scan) (width : Nat) (tokens : List Token) (margins : List Nat) : Prop :=
  ∃ before margin inner n, s.Between before margin inner ∧
    closing (width + 1) margin inner = (n, width + 1, margins) ∧
    tokens = List.replicate n .blockEnd ++ before

/-- A scan in which a key at a column has these tokens before it, the start of its block included. -/
def Admits (s : Scan) (width : Nat) (tokens : List Token) (margins : List Nat) : Prop :=
  ∃ before margin inner n left around, s.Between before margin inner ∧
    closing (width + 1) margin inner = (n, left, around) ∧ left ≤ width + 1 ∧
    tokens = opening width left ++ (List.replicate n .blockEnd ++ before) ∧
    margins = if width < left then around else left :: around

theorem Between.within (between : s.Between tokens (width + 1) margins) :
    s.Within width tokens margins :=
  ⟨tokens, width + 1, margins, 0, between, closing_nothing (Nat.le_refl _) margins, rfl⟩

theorem Within.admits (within : s.Within width tokens margins) : s.Admits width tokens margins := by
  obtain ⟨before, margin, inner, n, between, closing, rfl⟩ := within
  refine ⟨before, margin, inner, n, width + 1, margins, between, closing, Nat.le_refl _, ?_, ?_⟩
  · simp [opening]
  · simp

/-- A key that is indented further begins a block. -/
theorem Between.admits {inner : Nat} (between : s.Between tokens (width + 1) margins)
    (further : width < inner) : s.Admits inner (.blockMapping :: tokens) ((width + 1) :: margins) := by
  have left : width + 1 ≤ inner + 1 := by omega
  have outside : ¬ inner < width + 1 := by omega
  refine ⟨tokens, width + 1, margins, 0, width + 1, margins, between,
    closing_nothing left margins, left, ?_, ?_⟩
  · simp [opening, outside]
  · simp [outside]

/-- Blocks that end before a column end before one further out too. -/
theorem closing_closing {least fewer : Nat} (outer : fewer ≤ least) (margin : Nat) (margins : List Nat) :
    closing fewer margin margins =
      let found := closing least margin margins
      let more := closing fewer found.2.1 found.2.2
      (found.1 + more.1, more.2) := by
  induction margins generalizing margin with
  | nil => simp [closing]
  | cons next margins ih =>
      by_cases ends : least < margin
      · rw [closing, if_pos (Nat.lt_of_le_of_lt outer ends), ih next, closing, if_pos ends]
        simp [Nat.add_right_comm]
      · rw [show closing least margin (next :: margins) = (0, margin, next :: margins) from
          closing_nothing (Nat.le_of_not_lt ends) _]
        simp

/-- The innermost block ends before a key further out. -/
theorem Within.left {outer : Nat} (within : s.Within width tokens ((outer + 1) :: margins))
    (further : outer < width) : s.Within outer (.blockEnd :: tokens) margins := by
  obtain ⟨before, margin, inner, n, between, found, rfl⟩ := within
  have least : outer + 1 ≤ width + 1 := by omega
  have ends : closing (outer + 1) (width + 1) ((outer + 1) :: margins) = (1, outer + 1, margins) := by
    rw [closing, if_pos (by omega), closing_nothing (Nat.le_refl _)]
  refine ⟨before, margin, inner, n + 1, between, ?_, ?_⟩
  · rw [closing_closing least, found]
    simp only [ends]
  · rw [List.replicate_succ, List.cons_append]

theorem Reaches.mono {t : Scan} {steps more : Nat} (reaches : Reaches steps s t)
    (enough : steps ≤ more) : Reaches more s t := by
  intro fuel
  obtain ⟨left, remaining, same⟩ := reaches (fuel + (more - steps))
  refine ⟨left, by omega, ?_⟩
  rw [← same]
  congr 1
  omega

theorem onward_indent (rest : List Char) : onward (indent rest) (unindented rest) = '\n' :: rest := by
  rw [onward, replicate_indent]
  rfl

end Scan

def entryText (depth : Nat) (entry : String × Plain) : List Char :=
  List.replicate (4 * depth) ' ' ++
    (entry.1.toList ++ ':' :: ' ' :: ((entry.2.written depth).toList ++ Place.newline))

def itemText : Item → List Char
  | .entry key scalar => entryText 0 (key, scalar)
  | .group key entries => key.toList ++ ':' :: '\n' :: entries.flatMap (entryText 1)

/-- The tokens of a key and the sign of its value. -/
def keyTokens (key : String) : List Token :=
  [.key, .scalar key true, .value]

def Plain.token (scalar : Plain) : Token :=
  .scalar scalar.found scalar.isPlain

def entryTokens (entry : String × Plain) : List Token :=
  keyTokens entry.1 ++ [entry.2.token]

/-- The tokens of a block mapping of entries. -/
def blockTokens {α : Type} (each : α → List Token) (entries : List α) : List Token :=
  .blockMapping :: (entries.flatMap each ++ [.blockEnd])

def Item.key : Item → String
  | .entry key _ | .group key _ => key

def Item.tokens : Item → List Token
  | .entry _ scalar => [scalar.token]
  | .group _ entries => blockTokens entryTokens entries

def itemTokens (item : Item) : List Token :=
  keyTokens item.key ++ item.tokens

/-- A key that is read as a text. -/
structure IsName (key : String) : Prop where
  isKey : IsKey key.toList
  meant : Scalar.ofPlain key = .text key

/-- An entry that is written on one line. -/
structure IsEntry (entry : String × Plain) : Prop where
  name : IsName entry.1
  line : entry.2.IsLine

/-- A text of entries at a column, which is read as some tokens whatever follows. -/
structure Part (width : Nat) (margins : List Nat) (text : List Char) (tokens : List Token) : Prop where
  starts : StartsAt width text
  reaches : ∀ s before rest, Scan.Admits s width before margins → s.Awaits (text ++ rest) →
    Follows width rest → ∃ u, Scan.Reaches text.length s u ∧
      u.Within width (tokens.reverse ++ before) margins ∧ u.Awaits rest

section Parts

variable {width : Nat} {margins : List Nat}

theorem Part.append {first second : List Char} {some more : List Token}
    (one : Part width margins first some) (two : Part width margins second more) :
    Part width margins (first ++ second) (some ++ more) := by
  constructor
  · obtain ⟨c, others, rfl, alpha⟩ := one.starts
    exact ⟨c, others ++ second, by simp, alpha⟩
  · intro s before rest admits awaits follows
    rw [List.append_assoc] at awaits
    obtain ⟨t, reached, within, behind⟩ :=
      one.reaches s before (second ++ rest) admits awaits (two.starts.follows rest)
    obtain ⟨u, arrived, within', last⟩ := two.reaches t _ rest within.admits behind follows
    refine ⟨u, ?_, ?_, last⟩
    · rw [List.length_append]
      exact reached.trans arrived
    · rwa [List.reverse_append, List.append_assoc]

/-- Parts at one column are read one after another. -/
theorem Part.flatMap {α : Type} {text : α → List Char} {tokens : α → List Token} {first : α}
    {more : List α} (each : ∀ a ∈ first :: more, Part width margins (text a) (tokens a)) :
    Part width margins ((first :: more).flatMap text) ((first :: more).flatMap tokens) := by
  induction more generalizing first with
  | nil => simpa using each first List.mem_cons_self
  | cons second more ih =>
      rw [List.flatMap_cons, List.flatMap_cons]
      apply (each first List.mem_cons_self).append
      exact ih fun a member => each a (List.mem_cons_of_mem first member)

end Parts

section Entries

open Scan

variable {margins : List Nat}

theorem part_entry {entry : String × Plain} (isEntry : IsEntry entry) (depth : Nat) :
    Part (4 * depth) margins (entryText depth entry) (entryTokens entry) := by
  obtain ⟨key, value⟩ := entry
  have starts : StartsAt (4 * depth) (entryText depth (key, value)) :=
    startsAt_of_isKey isEntry.name.isKey (4 * depth) _
  refine ⟨starts, ?_⟩
  intro s before rest admits awaits follows
  obtain ⟨tokens, margin, inner, n, left, around, between, closing, enough, rfl, rfl⟩ := admits
  have arrives : s.Arrives (4 * depth)
      (key.toList ++ ':' :: ' ' :: ((value.written depth).toList ++ '\n' :: rest)) := by
    simpa [Place.newline] using awaits.of_isKey isEntry.name.isKey
  have spaced : ' ' :: ((value.written depth).toList ++ '\n' :: rest) =
      List.replicate 1 ' ' ++ ((value.written depth).toList ++ '\n' :: rest) := rfl
  obtain ⟨w, announced, between', allowed, counts, behind, column⟩ :=
    reaches_colon isEntry.name.isKey between arrives rfl closing enough spaced
      fun c first => (isEntry.line.spelled depth).head? first
  rw [String.ofList_toList] at between'
  have faces : w.Faces (4 * depth)
      ((value.written depth).toList ++ onward (indent rest) (unindented rest)) := by
    refine ⟨allowed, counts, by omega, ?_⟩
    rw [behind, onward_indent]
  obtain ⟨u, read, between'', last⟩ :=
    reaches_scalar (isEntry.line.spelled depth) between' faces follows.left follows.starts
  refine ⟨u, (announced.trans read).mono ?_, between''.within, last⟩
  obtain ⟨c, others, spelled, _⟩ := isEntry.name.isKey.first
  simp [entryText, spelled]
  omega

/-- A group is read with a block of its own below its key. -/
theorem part_group {key : String} {entries : List (String × Plain)} (isName : IsName key)
    (some : entries ≠ []) (each : ∀ entry ∈ entries, IsEntry entry) :
    Part 0 margins (itemText (.group key entries)) (itemTokens (.group key entries)) := by
  have starts : StartsAt 0 (itemText (.group key entries)) := startsAt_of_isKey isName.isKey 0 _
  obtain ⟨first, more, rfl⟩ := List.exists_cons_of_ne_nil some
  have below : Part 4 (1 :: margins) _ _ := Part.flatMap fun entry member =>
    part_entry (each entry member) 1
  refine ⟨starts, ?_⟩
  intro s before rest admits awaits follows
  obtain ⟨tokens, margin, inner, n, left, around, between, closing, enough, rfl, rfl⟩ := admits
  have arrives : s.Arrives 0
      (key.toList ++ ':' :: '\n' :: (first :: more).flatMap (entryText 1) ++ rest) :=
    Awaits.of_isKey isName.isKey awaits
  rw [List.append_assoc] at arrives
  have spaced : '\n' :: ((first :: more).flatMap (entryText 1) ++ rest) =
      List.replicate 0 ' ' ++ '\n' :: ((first :: more).flatMap (entryText 1) ++ rest) := rfl
  obtain ⟨w, announced, between', allowed, counts, behind, column⟩ :=
    reaches_colon isName.isKey between arrives rfl closing enough spaced (by
      rintro c first
      cases first
      decide)
  rw [String.ofList_toList] at between'
  -- Behind the colon the line ends, so the entries begin a block of their own.
  have entered : w.Awaits ((first :: more).flatMap (entryText 1) ++ rest) := by
    apply arrives_turn between'.outer counts
    · rw [behind, replicate_indent]
      rfl
    · exact (below.starts.follows rest).starts
  obtain ⟨u, read, within, last⟩ :=
    below.reaches w _ rest (between'.admits (by decide)) entered (follows.mono (by decide))
  refine ⟨u, (announced.trans read).mono ?_, ?_, last⟩
  · obtain ⟨c, others, spelled, _⟩ := isName.isKey.first
    simp [itemText, spelled]
    omega
  · simpa [itemTokens, Item.tokens, Item.key, blockTokens, keyTokens] using within.left (by decide)

end Entries

/-- An item that is written line by line: a group has entries, and no two of one name. -/
def Item.IsLines : Item → Prop
  | .entry key scalar => IsEntry (key, scalar)
  | .group key entries =>
      IsName key ∧ entries ≠ [] ∧ (∀ entry ∈ entries, IsEntry entry) ∧
        (entries.map Prod.fst).Nodup

theorem part_item {item : Item} {margins : List Nat} (lines : item.IsLines) :
    Part 0 margins (itemText item) (itemTokens item) := by
  cases item with
  | entry key scalar => exact part_entry lines 0
  | group key entries => exact part_group lines.1 lines.2.1 lines.2.2.1

/-- The outermost block ends before the end of the text. -/
theorem Scan.finish_of_between {s : Scan} {tokens : List Token} (between : s.Between tokens 1 [0]) :
    ∃ t, s.finish = some t ∧ t.tokens = .streamEnd :: .blockEnd :: tokens := by
  have closing : Scan.closing 0 s.margin s.margins = (1, 0, []) := by
    rw [between.margin, between.margins]
    rfl
  rw [finish, closed_of_closing between.outer closing]
  simp only [dropCandidate, between.candidate, Option.map_some]
  exact ⟨_, rfl, by simp [allowing, push, between.tokens]⟩

/-- At the end of the text all blocks end. -/
theorem Scan.step_end {s : Scan} {tokens : List Token} (within : s.Within 0 tokens [0])
    (awaits : s.Awaits []) :
    ∃ t, s.step = some t ∧ t.tokens = .streamEnd :: .blockEnd :: tokens := by
  obtain ⟨before, margin, inner, n, between, closing, rfl⟩ := within
  obtain ⟨q, counts, here, column, skipped⟩ := awaits
  rw [← between.margin, ← between.margins] at closing
  obtain ⟨t, same, closed⟩ : ∃ t : Scan, t.Between (List.replicate n .blockEnd ++ before) 1 [0] ∧
      ({ s with place := q, keyAllowed := true } : Scan).closed (0 + 1) = t ∧ t.place = q := by
    refine ⟨_, ?_, closed_of_closing between.outer closing, rfl⟩
    exact ⟨by rw [between.tokens], rfl, rfl, between.outer, between.candidate⟩
  have atEnd : t.place.head? = none := by
    rw [closed.2, Place.head?, here]
    rfl
  have column : q.column = 0 := column
  simp only [step, skipped, column, closed.1, atEnd]
  exact finish_of_between same

theorem Tokens.ofText_items {items : List Item} (some : items ≠ [])
    (each : ∀ item ∈ items, item.IsLines) :
    Tokens.ofText (items.flatMap itemText) =
      ⟨blockTokens itemTokens items ++ [.streamEnd], true⟩ := by
  obtain ⟨first, more, rfl⟩ := List.exists_cons_of_ne_nil some
  have part : Part 0 [0] ((first :: more).flatMap itemText) ((first :: more).flatMap itemTokens) :=
    Part.flatMap fun item member => part_item (each item member)
  generalize (first :: more).flatMap itemText = text at part ⊢
  let start : Scan := { place := .ofText text }
  have admits : start.Admits 0 [.blockMapping] [0] :=
    ⟨[], 0, [], 0, 0, [], ⟨rfl, rfl, rfl, rfl, rfl⟩, rfl, Nat.zero_le 1, rfl, rfl⟩
  obtain ⟨c, others, spelled, left, behind, alpha⟩ := part.starts.unindented []
  rw [List.append_nil] at left behind
  have awaits : start.Awaits (text ++ []) := by
    rw [List.append_nil]
    apply Scan.arrives_here (Place.counts_ofText text) _ left.symm rfl
    · rw [behind]
      exact startsEntry_of_isAlpha alpha
    · rw [behind]
      exact (List.append_nil text).symm.trans spelled
  obtain ⟨u, reached, within, last⟩ := part.reaches start _ [] admits awaits (follows_nil 0)
  obtain ⟨t, ended, found⟩ := Scan.step_end within last
  have run : Scan.scanFrom (text.length + 2) start = t := by
    obtain ⟨fuel, enough, same⟩ := reached 2
    obtain ⟨fuel, rfl⟩ : ∃ more, fuel = more + 1 := ⟨fuel - 1, by omega⟩
    rw [Nat.add_comm, same, Scan.scanFrom_of_step ended]
    simp [found]
  rw [Tokens.ofText, run]
  simp [found, blockTokens]

end SqlMapper.Yaml
