import Mathlib.Data.List.TakeWhile
import SqlMapper.C.Literal
import SqlMapper.Proofs.Digits
import SqlMapper.Proofs.Yaml.Places
import SqlMapper.Yaml.Document
import SqlMapper.Yaml.Writer

/-!
Reading back scalars that were written on one line. A plain text holds nothing that ends a plain
scalar or begins anything else; between quotes every character is written as itself or in a way that
stands for it.
-/

namespace SqlMapper.Yaml

def OnOneLine (text : List Char) : Prop :=
  ∀ c ∈ text, isBreak c = false

theorem onOneLine_of_any {text : List Char} (none : text.any isBreak = false) : OnOneLine text := by
  intro c member
  simpa using List.any_eq_false.mp none c member

/-- The characters of a class with which a text begins. -/
theorem exists_run (belongs : Char → Bool) (text : List Char) : ∃ run later, text = run ++ later ∧
    (∀ c ∈ run, belongs c = true) ∧ ∀ c, later.head? = some c → belongs c = false := by
  refine ⟨text.takeWhile belongs, text.dropWhile belongs, List.takeWhile_append_dropWhile.symm,
    fun c => List.mem_takeWhile_imp, ?_⟩
  intro c here
  have ends := List.head?_dropWhile_not belongs text
  rw [here] at ends
  simpa using ends

section PlainText

variable {before : Option Char} {text after rest : List Char}

theorem holdsStructure_append (free : holdsStructure before (text ++ after) = false) :
    holdsStructure (text.getLast?.or before) after = false := by
  induction text generalizing before with
  | nil => exact free
  | cons c text ih =>
      rw [List.cons_append, holdsStructure, Bool.or_eq_false_iff] at free
      have later := ih free.2
      cases text with
      | nil => exact later
      | cons d text =>
          rw [List.getLast?_cons_cons]
          have filled : (d :: text).getLast?.isSome = true := by simp
          obtain ⟨last, found⟩ := Option.isSome_iff_exists.mp filled
          rw [found] at later ⊢
          exact later

/-- A colon that does not mark structure stands before something solid. -/
theorem colon_inside {c : Char} (free : marksStructure before c text.head? = false)
    (colon : c = ':') : ∃ d, text.head? = some d ∧ isGap d = false := by
  subst colon
  cases text with
  | nil => cases before <;> simp [marksStructure] at free
  | cons d rest =>
      refine ⟨d, rfl, ?_⟩
      cases before with
      | none => simpa [marksStructure] using free
      | some b =>
          simp only [marksStructure, Bool.or_eq_false_iff] at free
          simpa using free.1

/-- The word of a plain scalar ends with the first gap. -/
theorem plainWord_of_free (line : OnOneLine text) (free : holdsStructure before text = false)
    (ends : isBoundary rest.head? = true) :
    plainWord false (text ++ rest) = text.takeWhile fun c => !isGap c := by
  induction text generalizing before with
  | nil =>
      cases rest with
      | nil => rfl
      | cons c rest =>
          have boundary : isBoundary (some c) = true := ends
          simp [plainWord, boundary]
  | cons c text ih =>
      rw [holdsStructure, Bool.or_eq_false_iff] at free
      have unbroken := line c List.mem_cons_self
      by_cases gap : isGap c = true
      · have boundary : isBoundary (some c) = true := by simp [isBoundary, gap]
        simp [plainWord, boundary, gap]
      · have inside : isBoundary (some c) = false := by simp [isBoundary, gap, unbroken]
        have going : endsPlain false c (text ++ rest).head? = false := by
          by_cases colon : c = ':'
          · obtain ⟨d, first, solid⟩ := colon_inside free.1 colon
            have member : d ∈ c :: text := List.mem_cons_of_mem c (List.mem_of_mem_head? first)
            have whole : (text ++ rest).head? = some d := by simp [List.head?_append, first]
            simp [endsPlain, whole, isBoundary, solid, line d member]
          · simp [endsPlain, colon]
        have later : OnOneLine text := fun d member => line d (List.mem_cons_of_mem c member)
        simp only [List.cons_append, plainWord, inside, going, Bool.or_self, Bool.false_eq_true,
          ↓reduceIte, ih later free.2, List.takeWhile_cons, gap, Bool.not_false]

/-- A text that reads plainly up to the end of its line. -/
structure Plainly (before : Option Char) (text : List Char) : Prop where
  line : OnOneLine text
  free : holdsStructure before text = false
  first : ∀ c, text.head? = some c → isGap c = false ∧ c ≠ '#'
  last : ∀ c, text.getLast? = some c → isGap c = false

theorem Plainly.startsSolid (plainly : Plainly before text) (filled : text ≠ []) :
    StartsSolid (text ++ rest) := by
  obtain ⟨c, text, rfl⟩ := List.exists_cons_of_ne_nil filled
  intro d here
  cases here
  simp [isSolid, (plainly.first c rfl).1, plainly.line c List.mem_cons_self]

/-- What stands behind blanks reads plainly. -/
theorem Plainly.behind {blanks : List Char} (plainly : Plainly before (text ++ (blanks ++ after)))
    (gaps : ∀ c ∈ blanks, isGap c = true) (some : blanks ≠ [])
    (solid : ∀ c, after.head? = .some c → isGap c = false) : Plainly blanks.getLast? after := by
  have free := plainly.free
  rw [← List.append_assoc] at free
  have free := holdsStructure_append free
  obtain ⟨b, found⟩ : ∃ b, blanks.getLast? = .some b := ⟨_, List.getLast?_eq_some_getLast some⟩
  rw [List.getLast?_append, found, Option.some_or, Option.some_or] at free
  constructor
  · exact fun c member =>
      plainly.line c (List.mem_append_right _ (List.mem_append_right _ member))
  · rw [found]
    exact free
  · intro c here
    refine ⟨solid c here, ?_⟩
    rintro rfl
    obtain ⟨more, rfl⟩ := List.head?_eq_some_iff.mp here
    have gap := gaps b (List.mem_of_getLast? found)
    simp [holdsStructure, marksStructure, gap] at free
  · intro c here
    apply plainly.last c
    rw [List.getLast?_append, List.getLast?_append, here, Option.some_or, Option.some_or]

/-- A plain text is one word, or a word and blanks in front of another plain text. -/
theorem Plainly.cut (plainly : Plainly before text) (filled : text ≠ []) :
    ∃ word after, text = word ++ after ∧ text.takeWhile (fun c => !isGap c) = word ∧ word ≠ [] ∧
      (after = [] ∨ ∃ blanks later, after = blanks ++ later ∧ blanks ≠ [] ∧ later ≠ [] ∧
        (∀ c ∈ blanks, isGap c = true) ∧ Plainly blanks.getLast? later) := by
  obtain ⟨c, others, starts⟩ := List.exists_cons_of_ne_nil filled
  have begun := (plainly.first c (by rw [starts, List.head?_cons])).1
  refine ⟨_, _, List.takeWhile_append_dropWhile.symm, rfl, ?_, ?_⟩
  · rw [starts, List.takeWhile_cons]
    simp [begun]
  · have split := (List.takeWhile_append_dropWhile (p := fun c => !isGap c) (l := text)).symm
    have ends := List.head?_dropWhile_not (fun c => !isGap c) text
    generalize text.takeWhile (fun c => !isGap c) = word at split
    cases behind : text.dropWhile (fun c => !isGap c) with
    | nil => exact .inl rfl
    | cons b after =>
        have gap : isGap b = true := by simpa [behind] using ends
        obtain ⟨blanks, later, rfl, gaps, solid⟩ := exists_run isGap after
        have all : ∀ c ∈ b :: blanks, isGap c = true := by simpa [gap] using gaps
        rw [behind] at split
        rw [split] at plainly
        refine .inr ⟨b :: blanks, later, rfl, List.cons_ne_nil b blanks, ?_, all,
          plainly.behind all (List.cons_ne_nil b blanks) solid⟩
        -- A plain text does not end with a blank.
        rintro rfl
        obtain ⟨last, found⟩ : ∃ last, (b :: blanks).getLast? = some last :=
          ⟨_, List.getLast?_eq_some_getLast (List.cons_ne_nil b blanks)⟩
        have noGap := plainly.last last (by
          rw [List.append_nil, List.getLast?_append, found, Option.some_or])
        rw [all last (List.mem_of_getLast? found)] at noGap
        cases noGap

/-- A plain scalar is read up to the line below it. -/
theorem plainFrom_line {least fuel width : Nat} {g : Gap} {p : Place} (counts : p.Counts)
    (here : p.rest = text ++ (Place.newline ++ (List.replicate width ' ' ++ rest)))
    (solid : StartsSolid rest) (left : width < least) (inside : least ≤ p.column)
    (plainly : Plainly before text) (filled : text ≠ []) (enough : text.length < fuel) :
    plainFrom false least fuel g p = some (g.text ++ text, Gap.turn, (p.past text).turned width) := by
  induction fuel generalizing text before g p with
  | zero => exact absurd enough (Nat.not_lt_zero _)
  | succ fuel ih =>
      have column : 0 < p.column := by omega
      have head : p.head? ≠ some '#' := by
        obtain ⟨c, others, starts⟩ := List.exists_cons_of_ne_nil filled
        have begun := plainly.first c (by rw [starts, List.head?_cons])
        rw [Place.head?, here, starts, List.cons_append, List.head?_cons]
        simpa using begun.2
      have read : plainWord false p.rest = text.takeWhile fun c => !isGap c := by
        rw [here]
        exact plainWord_of_free plainly.line plainly.free rfl
      obtain ⟨word, after, spelled, taken, worded, cut⟩ := plainly.cut filled
      have moved : (p.past word).Counts := counts.past (by rw [here, spelled, List.append_assoc])
      have worded : word.isEmpty = false := by simpa using worded
      rw [plainFrom]
      simp only [Place.isAtBounds_of_column column, Bool.false_or, beq_iff_eq, head, ↓reduceIte, read,
        taken, worded, Bool.false_eq_true]
      rcases cut with rfl | ⟨blanks, later, rfl, some, filledLater, gaps, onward⟩
      · -- The word is the whole text, and the line below is too far left to go on with it.
        rw [List.append_nil] at spelled
        subst spelled
        have next : (p.past text).rest = Place.newline ++ (List.replicate width ' ' ++ rest) :=
          Place.rest_past here
        have short : (((p.past text).turned width).column < least) = True := by
          simp [Place.column_turned, left]
        rw [Gap.read_turn moved next solid]
        simp [short]
      · -- The word ends at blanks, behind which the text goes on.
        have next : (p.past word).rest = blanks ++
            (later ++ (Place.newline ++ (List.replicate width ' ' ++ rest))) := by
          apply Place.rest_past
          rw [here, spelled]
          simp
        have wide : ¬ ((p.past word).past blanks).column < least := by
          rw [Place.column_past, Place.column_past]
          omega
        have rested : ((p.past word).past blanks).rest =
            later ++ (Place.newline ++ (List.replicate width ' ' ++ rest)) := Place.rest_past next
        have short : later.length < fuel := by
          rw [spelled, List.length_append, List.length_append] at enough
          have one := List.length_pos_iff.mpr some
          omega
        rw [Gap.read_blanks moved gaps next (onward.startsSolid filledLater)]
        simp only [Option.bind_some, Bool.not_false, Bool.true_and, wide, decide_false,
          Bool.false_eq_true, ↓reduceIte]
        rw [ih (moved.past next) rested (Nat.le_of_not_lt wide) onward filledLater short, spelled]
        simp [Gap.text, Place.past_past]

/-- A name that can be a key: it begins with a letter and holds nothing that ends a plain scalar. -/
structure IsKey (key : List Char) : Prop where
  word : ∀ c ∈ key, isWord c = true
  first : ∃ c others, key = c :: others ∧ c.isAlpha = true
  /-- A colon further away ends no key. -/
  short : key.length ≤ 1024

/-- A character of a class is none outside of it. -/
theorem apart_of_class {belongs : Char → Bool} {c d : Char} (inside : belongs c = true)
    (outside : belongs d = false) : c ≠ d := by
  rintro rfl
  rw [inside] at outside
  cases outside

theorem ascii_of_isAlphanum {c : Char} (word : c.isAlphanum = true) : c.toNat < 128 := by
  have tail : C.isIdentifierTail c = true := by
    rw [Char.isAlphanum, Bool.or_eq_true] at word
    simp only [C.isIdentifierTail, C.isIdentifierStart, Bool.or_eq_true]
    exact word.imp_left .inl
  exact (C.printable_of_isIdentifierTail tail).2

theorem isWord_apart {c : Char} (word : isWord c = true) : isSolid c = true ∧ c ≠ ':' := by
  constructor
  · by_contra blank
    simp only [isSolid, isGap, isBreak, Bool.and_eq_true, Bool.not_eq_true', Bool.or_eq_false_iff,
      beq_eq_false_iff_ne, ne_eq, not_and_or, not_not] at blank
    rcases blank with (rfl | rfl) | ((((rfl | rfl) | rfl) | rfl) | rfl) <;>
      exact absurd word (by decide)
  · rintro rfl
    exact absurd word (by decide)

theorem startsPlain_of_isAlpha {c : Char} (alpha : c.isAlpha = true) (next : Option Char) :
    startsPlain false c next = true := by
  have apart : ∀ d, d.isAlpha = false → (c == d) = false := fun d other =>
    beq_eq_false_iff_ne.mpr (apart_of_class alpha other)
  have free : isReserved c = false := by
    simp only [isReserved, isFlowMark, isQuote, isGap, apart, Bool.or_self, Char.reduceIsAlpha]
  have unbroken : isBreak c = false := by
    simp only [isBreak, apart, Bool.or_self, Char.reduceIsAlpha]
  simp [startsPlain, apart, free, unbroken]

theorem plainWord_key {key : List Char} (word : ∀ c ∈ key, isWord c = true)
    (ends : isBoundary after.head? = true) : plainWord false (key ++ ':' :: after) = key := by
  induction key with
  | nil =>
      have colon : isBoundary (some ':') = false := rfl
      simp [plainWord, colon, endsPlain, ends]
  | cons c key ih =>
      obtain ⟨solid, apart⟩ := isWord_apart (word c List.mem_cons_self)
      have inside := isBoundary_of_isSolid solid
      simp only [List.cons_append, plainWord, inside, endsPlain, beq_eq_false_iff_ne.mpr apart,
        Bool.false_and, Bool.or_self, Bool.false_eq_true, ↓reduceIte,
        ih fun d member => word d (List.mem_cons_of_mem c member)]

theorem plain_key {key : List Char} {p : Place} (isKey : IsKey key) (least : Nat) (counts : p.Counts)
    (here : p.rest = key ++ ':' :: after) (ends : isBoundary after.head? = true) :
    plain false least p = some (key, {}, p.past key) := by
  obtain ⟨c, others, spelled, alpha⟩ := isKey.first
  have first : p.rest = c :: (others ++ ':' :: after) := by rw [here, spelled, List.cons_append]
  have apart : ∀ d, d.isAlpha = false → c ≠ d := fun d => apart_of_class alpha
  have inside : p.isAtBounds = false := by
    rw [Place.isAtBounds, Place.isAtMarker_of_head first (apart '-' (by decide)),
      Place.isAtMarker_of_head first (apart '.' (by decide)), Bool.or_false]
  have head : p.head? ≠ some '#' := by
    rw [Place.head?_of_rest first]
    simpa using apart '#' (by decide)
  have filled : key.isEmpty = false := by simp [spelled]
  have next : (p.past key).rest = ':' :: after := Place.rest_past here
  have solid : StartsSolid (':' :: after) := by
    rintro d first
    cases first
    rfl
  have noBlanks : Gap.read least {} (p.past key) = some ({}, p.past key) := by
    have nothing : (p.past key).rest = [] ++ ':' :: after := next
    have read : Gap.read least {} (p.past key) = some ({}, (p.past key).past []) :=
      Gap.read_blanks (counts.past here) (by simp) nothing solid
    rwa [Place.past_nil] at read
  obtain ⟨fuel, enough⟩ : ∃ fuel, p.left = fuel + 1 := by
    rw [counts.left, first]
    exact ⟨_, rfl⟩
  -- The scan goes round once more, and finds no word in front of the colon.
  have colon : plainWord false ([] ++ ':' :: after) = [] :=
    plainWord_key (by simp) ends
  rw [List.nil_append] at colon
  have word : plainWord false p.rest = key := by rw [here, plainWord_key isKey.word ends]
  rw [plain, enough, plainFrom]
  simp only [inside, Bool.false_or, beq_iff_eq, head, ↓reduceIte, word, filled, Bool.false_eq_true,
    noBlanks, Option.bind_some]
  split
  · rfl
  · rw [plainFrom]
    simp [next, colon, Gap.text]

end PlainText

section QuotedText

variable {quote c : Char} {spelled text rest : List Char} {p : Place} {fuel : Nat}

/-- Between quotes a spelling is read as a character. -/
def ReadsAs (quote : Char) (spelled : List Char) (c : Char) : Prop :=
  ∀ (p : Place) (fuel : Nat) (rest : List Char), p.rest = spelled ++ rest →
    quotedFrom quote (fuel + 1) p =
      (quotedFrom quote fuel (p.past spelled)).map fun more => (c :: more.1, more.2)

theorem readsAs_self (solid : isSolid c = true) (apart : c ≠ quote) (plain : c = '\\' → quote ≠ '"') :
    ReadsAs quote [c] c := by
  intro p fuel rest here
  simp only [isSolid, Bool.and_eq_true, Bool.not_eq_true'] at solid
  have escape : (c == '\\' && quote == '"') = false := by
    simpa using plain
  rw [quotedFrom, Place.head?_of_rest here]
  simp only [solid.1, solid.2, escape, bne_iff_ne, ne_eq, apart, not_false_eq_true, Bool.or_self,
    Bool.false_eq_true, ↓reduceIte]
  rw [Place.next_of_rest here]

/-- A single quote is written twice. -/
theorem readsAs_quote : ReadsAs '\'' ['\'', '\''] '\'' := by
  intro p fuel rest here
  have second : p.ahead 1 = some '\'' := by
    rw [Place.ahead_one here]
    rfl
  have onward : p.rest = ['\''] ++ ('\'' :: rest) := here
  have one : isGap '\'' = false ∧ isBreak '\'' = false := ⟨rfl, rfl⟩
  rw [quotedFrom, Place.head?_of_rest here]
  simp only [one.1, one.2, second]
  rw [Place.next_of_rest here, Place.next_of_rest (Place.rest_past onward), Place.past_past]
  simp

/-- Between double quotes a backslash begins an escape. -/
theorem readsAs_escape {letters : List Char} (starts : StartsSolid letters)
    (meant : ∀ rest, escapeMeaning (letters ++ rest) = some (c, letters)) :
    ReadsAs '"' ('\\' :: letters) c := by
  intro p fuel rest here
  have onward : p.rest = ['\\'] ++ (letters ++ rest) := here
  have inside : (p.past ['\\']).rest = letters ++ rest := Place.rest_past onward
  have filled : letters ≠ [] := by
    rintro rfl
    have nothing := meant []
    simp [escapeMeaning] at nothing
  have unbroken : (p.past ['\\']).isAtBreak = false := by
    apply Place.isAtBreak_of_solid inside
    obtain ⟨first, others, rfl⟩ := List.exists_cons_of_ne_nil filled
    exact starts
  have one : isGap '\\' = false ∧ isBreak '\\' = false := ⟨rfl, rfl⟩
  rw [quotedFrom, Place.head?_of_rest here]
  simp only [one.1, one.2, Place.next_of_rest here, unbroken, inside, meant]
  simp [Place.past_past]

theorem toNat_lt (c : Char) : c.toNat < 1114112 := by
  have valid := c.valid
  simp only [UInt32.isValidChar, Nat.isValidChar, Char.toNat_val] at valid
  omega

/-- A code in hexadecimal digits. -/
theorem codeChar_upperHex (width : Nat) (c : Char) : codeChar (upperHex width c.toNat) = some c := by
  have fits : c.toNat < UInt64.size := Nat.lt_trans (toNat_lt c) (by decide)
  have zero : Char.toUpper '0' = '0' := rfl
  have read : Number.unsigned 16 false (upperHex width c.toNat) = .ok c.toNat := by
    have value : Number.unsignedFrom 16 false 0 (upperHex width c.toNat) = .ok c.toNat := by
      rw [upperHex, Text.hexDigits, List.map_append, List.map_replicate, zero,
        Number.unsignedFrom_zeros (by decide)]
      exact Number.unsignedFrom_toDigits Number.spells_toUpper (by decide) (by decide) false fits
    cases spelled : upperHex width c.toNat with
    | nil => simp [upperHex, Text.hexDigits, Nat.toDigits_ne_nil] at spelled
    | cons first others =>
        rw [spelled] at value
        exact value
  have valid : c.toNat.isValidChar := c.valid
  simp [codeChar, read, valid]

theorem mem_upperHex {width n : Nat} {d : Char} (member : d ∈ upperHex width n) :
    ∃ digit < 16, d = digit.digitChar.toUpper := by
  obtain ⟨plain, inside, rfl⟩ := List.mem_map.mp member
  rw [Text.hexDigits, List.mem_append] at inside
  rcases inside with zero | later
  · exact ⟨0, by decide, by rw [List.eq_of_mem_replicate zero]; rfl⟩
  · obtain ⟨digit, small, rfl⟩ := Number.mem_toDigits (by decide) later
    exact ⟨digit, small, rfl⟩

theorem length_upperHex {width n : Nat} (short : (Nat.toDigits 16 n).length ≤ width) :
    (upperHex width n).length = width := by
  rw [upperHex, List.length_map, Text.hexDigits, List.length_append, List.length_replicate]
  omega

/-- The marks of codes, and how many digits follow. -/
def codeMarks : List (Char × Nat) :=
  [('x', 2), ('u', 4), ('U', 8)]

/-- A mark begins the code of a character that fits into its digits. -/
theorem codeMarks_agree : ∀ code ∈ codeMarks, shortEscapes.lookup code.1 = none ∧
    hexWidth code.1 = some code.2 ∧ isSolid code.1 = true := by
  decide

theorem readsAs_code {code : Char × Nat} (known : code ∈ codeMarks)
    (short : (Nat.toDigits 16 c.toNat).length ≤ code.2) :
    ReadsAs '"' ('\\' :: code.1 :: upperHex code.2 c.toNat) c := by
  obtain ⟨unknown, width, solid⟩ := codeMarks_agree code known
  have length := length_upperHex short
  apply readsAs_escape
  · rintro d here
    cases here
    exact solid
  · intro rest
    have digits : (upperHex code.2 c.toNat ++ rest).take code.2 = upperHex code.2 c.toNat :=
      List.take_left' length
    simp [escapeMeaning, unknown, width, digits, length, codeChar_upperHex]

/-- Every letter of an escape is read as the character that it stands for. -/
theorem escapes_agree : ∀ escape ∈ escapeLetters,
    shortEscapes.lookup escape.2 = some escape.1 ∧ isSolid escape.2 = true := by
  decide

theorem readsAs_letter {letter : Char} (known : (c, letter) ∈ escapeLetters) :
    ReadsAs '"' ['\\', letter] c := by
  obtain ⟨meant, solid⟩ := escapes_agree (c, letter) known
  apply readsAs_escape
  · rintro d here
    cases here
    exact solid
  · intro rest
    simp [escapeMeaning, meant]

/-- Between double quotes a character is itself, a letter behind a backslash, or its code. -/
theorem escapedChar_cases (c : Char) :
    (escapedChar c = [c] ∧ isShown c = true ∧ isBreak c = false ∧ c ≠ '"' ∧ c ≠ '\\') ∨
      (∃ letter, escapedChar c = ['\\', letter] ∧ (c, letter) ∈ escapeLetters) ∨
      ∃ code ∈ codeMarks, escapedChar c = '\\' :: code.1 :: upperHex code.2 c.toNat ∧
        (Nat.toDigits 16 c.toNat).length ≤ code.2 := by
  have short {width : Nat} (some : 0 < width) (fits : c.toNat < Nat.pow 16 width) :
      (Nat.toDigits 16 c.toNat).length ≤ width :=
    (Nat.length_toDigits_le_iff (by decide) some).mpr fits
  unfold escapedChar
  split
  · next literal =>
      simp only [Bool.and_eq_true, Bool.not_eq_true', bne_iff_ne, ne_eq] at literal
      obtain ⟨⟨⟨shown, unbroken⟩, apart⟩, plain⟩ := literal
      exact .inl ⟨rfl, shown, unbroken, apart, plain⟩
  · split
    · next letter found =>
        obtain ⟨before, after, listed, _⟩ := List.lookup_eq_some_iff.mp found
        exact .inr (.inl ⟨letter, rfl, by rw [listed]; simp⟩)
    · split
      · next small =>
          exact .inr (.inr ⟨('x', 2), by decide, rfl, short (by decide) (Nat.lt_succ_of_le small)⟩)
      · split
        · next small =>
            exact .inr (.inr
              ⟨('u', 4), by decide, rfl, short (by decide) (Nat.lt_succ_of_le small)⟩)
        · have small := Nat.lt_trans (toNat_lt c) (show 1114112 < Nat.pow 16 8 by decide)
          exact .inr (.inr ⟨('U', 8), by decide, rfl, short (by decide) small⟩)

/-- A blank that is spelled as itself. -/
def isKept (spelling : Char → List Char) (c : Char) : Bool :=
  isGap c && spelling c == [c]

/-- A spelling between quotes: blanks may be themselves, and everything else is read from a spelling
that begins with something solid. -/
def Legible (quote : Char) (spelling : Char → List Char) (c : Char) : Prop :=
  isKept spelling c = true ∨
    ReadsAs quote (spelling c) c ∧ ∃ first others, spelling c = first :: others ∧ isSolid first = true

def doubled (c : Char) : List Char :=
  if c == '\'' then ['\'', '\''] else [c]

theorem legible_doubled (unbroken : isBreak c = false) : Legible '\'' doubled c := by
  by_cases gap : isGap c = true
  · have apart : c ≠ '\'' := apart_of_class gap rfl
    exact .inl (by simp [isKept, gap, doubled, apart])
  · right
    by_cases same : c = '\''
    · subst same
      exact ⟨readsAs_quote, '\'', ['\''], rfl, rfl⟩
    · have solid : isSolid c = true := by simp [isSolid, gap, unbroken]
      have self : doubled c = [c] := by simp [doubled, same]
      rw [self]
      exact ⟨readsAs_self solid same fun _ => by decide, c, [], rfl, solid⟩

/-- Between double quotes every character is legible. -/
theorem legible_escaped : Legible '"' escapedChar c := by
  by_cases space : c = ' '
  · subst space
    exact .inl (by decide)
  · right
    rcases escapedChar_cases c with ⟨self, shown, unbroken, apart, plain⟩ | ⟨letter, spelled, known⟩ |
      ⟨code, known, spelled, fits⟩
    · have tab : c ≠ '\t' := apart_of_class shown (by decide)
      have solid : isSolid c = true := by simp [isSolid, isGap, space, tab, unbroken]
      rw [self]
      exact ⟨readsAs_self solid apart fun same => absurd same plain, c, [], rfl, solid⟩
    · rw [spelled]
      exact ⟨readsAs_letter known, _, _, rfl, rfl⟩
    · rw [spelled]
      exact ⟨readsAs_code known fits, _, _, rfl, rfl⟩

theorem quotedFrom_end (marks : isQuote quote = true) (single : rest.head? ≠ some '\'')
    (here : p.rest = quote :: rest) : quotedFrom quote (fuel + 1) p = some ([], p.past [quote]) := by
  have plain : isGap quote = false ∧ isBreak quote = false ∧ (quote == '\\') = false := by
    simp only [isQuote, Bool.or_eq_true, beq_iff_eq] at marks
    rcases marks with rfl | rfl <;> decide
  rw [quotedFrom, Place.head?_of_rest here, Place.next_of_rest here]
  simp [plain.1, plain.2.1, plain.2.2, Place.ahead_one here, single]

theorem isSolid_quote (marks : isQuote quote = true) : isSolid quote = true := by
  simp only [isQuote, Bool.or_eq_true, beq_iff_eq] at marks
  rcases marks with rfl | rfl <;> rfl

theorem flatMap_kept {spelling : Char → List Char} {blanks : List Char}
    (kept : ∀ c ∈ blanks, isKept spelling c = true) : blanks.flatMap spelling = blanks := by
  have self : ∀ c ∈ blanks, spelling c = [c] := by
    intro c member
    simpa [isKept] using (Bool.and_eq_true_iff.mp (kept c member)).2
  rw [List.flatMap_congr self, List.flatMap_singleton']

theorem length_le_spelled {spelling : Char → List Char}
    (each : ∀ c ∈ text, Legible quote spelling c) : text.length ≤ (text.flatMap spelling).length := by
  induction text with
  | nil => exact Nat.le_refl 0
  | cons c text ih =>
      have later := ih fun d member => each d (List.mem_cons_of_mem c member)
      have filled : 0 < (spelling c).length := by
        rcases each c List.mem_cons_self with kept | ⟨_, first, others, spelled, _⟩
        · have self := (Bool.and_eq_true_iff.mp kept).2
          simp [beq_iff_eq.mp self]
        · simp [spelled]
      rw [List.flatMap_cons, List.length_append, List.length_cons]
      omega

theorem startsSolid_spelled {spelling : Char → List Char} (marks : isQuote quote = true)
    (each : ∀ c ∈ text, Legible quote spelling c)
    (begins : ∀ c, text.head? = some c → isKept spelling c = false) :
    StartsSolid (text.flatMap spelling ++ quote :: rest) := by
  cases text with
  | nil =>
      intro d here
      cases here
      exact isSolid_quote marks
  | cons c text =>
      rcases each c List.mem_cons_self with kept | ⟨_, first, others, spelled, solid⟩
      · rw [begins c rfl] at kept
        cases kept
      · intro d here
        rw [List.flatMap_cons, spelled] at here
        cases here
        exact solid

theorem quotedFrom_text {spelling : Char → List Char} (marks : isQuote quote = true)
    (single : rest.head? ≠ some '\'') (counts : p.Counts) (column : 0 < p.column)
    (each : ∀ c ∈ text, Legible quote spelling c)
    (here : p.rest = text.flatMap spelling ++ quote :: rest) (enough : text.length < fuel) :
    quotedFrom quote fuel p = some (text, p.past (text.flatMap spelling ++ [quote])) := by
  induction fuel generalizing text p with
  | zero => exact absurd enough (Nat.not_lt_zero _)
  | succ fuel ih =>
      cases text with
      | nil => exact quotedFrom_end marks single here
      | cons c text =>
          rcases each c List.mem_cons_self with kept | ⟨reads, _⟩
          · -- The blanks are read as one gap, and what stands behind them.
            obtain ⟨blanks, later, rfl, others, begins⟩ := exists_run (isKept spelling) text
            have allKept : ∀ d ∈ c :: blanks, isKept spelling d = true := by simpa [kept] using others
            have gaps : ∀ d ∈ c :: blanks, isGap d = true := fun d member =>
              (Bool.and_eq_true_iff.mp (allKept d member)).1
            have gap : isGap c = true := gaps c List.mem_cons_self
            have eachLater : ∀ d ∈ later, Legible quote spelling d := fun d member =>
              each d (List.mem_cons_of_mem c (List.mem_append_right blanks member))
            have spelled : (c :: (blanks ++ later)).flatMap spelling =
                (c :: blanks) ++ later.flatMap spelling := by
              rw [← List.cons_append, List.flatMap_append, flatMap_kept allKept]
            rw [spelled, List.append_assoc] at here
            have solid : StartsSolid (later.flatMap spelling ++ quote :: rest) :=
              startsSolid_spelled marks eachLater begins
            have short : later.length < fuel := by
              rw [List.length_cons, List.length_append] at enough
              omega
            have further : 0 < (p.past (c :: blanks)).column :=
              Nat.lt_of_lt_of_le column (Nat.le_add_right _ _)
            have onward := ih (counts.past here) further eachLater (Place.rest_past here) short
            have inside : (p.past (c :: blanks)).isAtBounds = false :=
              Place.isAtBounds_of_column further
            rw [quotedFrom, Place.head?_of_rest here]
            simp only [gap, Bool.true_or, ↓reduceIte, Gap.read_blanks counts gaps here solid,
              Option.bind_some, inside, onward, spelled]
            simp [Gap.text, Place.past_past]
          · -- Any other character is read from its own spelling.
            have spelled : p.rest = spelling c ++ (text.flatMap spelling ++ quote :: rest) := by
              rw [here, List.flatMap_cons, List.append_assoc]
            have further : 0 < (p.past (spelling c)).column :=
              Nat.lt_of_lt_of_le column (Nat.le_add_right _ _)
            have later := ih (counts.past spelled) further
              (fun d member => each d (List.mem_cons_of_mem c member)) (Place.rest_past spelled)
              (Nat.lt_of_succ_lt_succ enough)
            rw [reads p fuel _ spelled, later]
            simp [Place.past_past]

end QuotedText

end SqlMapper.Yaml
