import SqlMapper.Proofs.Yaml.Lines

/-!
The ways in which scalars are written on one line, and that each is read back. What is written
plainly reads plainly; all other texts stand between quotes, where the scan does not look at what they
could be taken for.
-/

namespace SqlMapper.Yaml

/-- The scalar that is meant by a written one. -/
def Plain.scalar : Plain → Scalar
  | .text value => .text value
  | .int value => .int value

/-- A scalar that is written on one line: a text without line breaks, or a positive integer. -/
def Plain.IsLine : Plain → Prop
  | .text value => OnOneLine value.toList
  | .int value => 0 < value ∧ value < Binary64.signWeight

variable {text : String}

theorem indentedFrom_line {characters : List Char} (line : OnOneLine characters) (depth : Nat) :
    indentedFrom depth false characters = characters := by
  induction characters with
  | nil => rfl
  | cons c rest ih =>
      have unbroken := line c List.mem_cons_self
      simp [indentedFrom, unbroken, ih fun d member => line d (List.mem_cons_of_mem c member)]

/-- What marks no structure at the start of a text can begin a plain scalar. -/
theorem startsPlain_of_free {c : Char} {others : List Char} (line : OnOneLine (c :: others))
    (gap : isGap c = false) (free : marksStructure none c others.head? = false) :
    startsPlain false c (others ++ Place.newline).head? = true ∧
      (c = '-' → isBoundary (others ++ Place.newline).head? = false) := by
  -- The signs that can also begin something else stand before something solid.
  have next : c = '?' ∨ c = ':' ∨ c = '-' →
      isBoundary (others ++ Place.newline).head? = false := by
    intro sign
    cases others with
    | nil => rcases sign with rfl | rfl | rfl <;> simp [marksStructure] at free
    | cons d others =>
        have unbroken := line d (by simp)
        have solid : isGap d = false := by
          rcases sign with rfl | rfl | rfl <;> simpa [marksStructure] using free
        simp [isBoundary, solid, unbroken]
  refine ⟨?_, fun dash => next (.inr (.inr dash))⟩
  unfold startsPlain
  split
  · next dash =>
      have follows := next (.inr (.inr (beq_iff_eq.mp dash)))
      cases first : (others ++ Place.newline).head? with
      | none => rfl
      | some d =>
          rw [first, isBoundary, Bool.or_eq_false_iff] at follows
          simp [follows.1]
  · next noDash =>
      split
      · next sign =>
          rw [Bool.or_eq_true, beq_iff_eq, beq_iff_eq] at sign
          have follows := next (sign.elim .inl fun colon => .inr (.inl colon))
          simp only [follows, Bool.not_false, Bool.and_self]
      · next noSign =>
          have unbroken := line c List.mem_cons_self
          simp only [Bool.or_eq_true, beq_iff_eq, not_or] at noSign noDash
          have unreserved : isReserved c = false := by
            simpa [marksStructure, noSign.1, noSign.2, noDash, gap] using free
          simp [unreserved, unbroken]

theorem contains_newline {characters : List Char} (line : OnOneLine characters) :
    characters.contains '\n' = false := by
  rw [List.contains_eq_mem, decide_eq_false_iff_not]
  intro member
  exact absurd (line _ member) (by decide)

/-- A text on one line is written plainly or between quotes, and what the double quotes spare of it
tells what it holds. -/
theorem styleOf_cases (line : OnOneLine text.toList) :
    styleOf text = .double ∨ (Shape.of text.toList).special = false ∧
      (styleOf text = .single ∨ styleOf text = .plain ∧ readsAsText text = true ∧
        (Shape.of text.toList).tabbed = false ∧ (Shape.of text.toList).structured = false ∧
        (Shape.of text.toList).edged = false) := by
  have unbroken := contains_newline line
  simp only [styleOf, unbroken, Bool.false_eq_true, ↓reduceIte]
  split
  · exact .inl rfl
  · next reads =>
      split
      · next plain =>
          simp only [Bool.and_eq_true, Bool.not_eq_true'] at plain reads
          obtain ⟨⟨⟨⟨⟨⟨⟨tabless, shown⟩, _⟩, _⟩, _⟩, free⟩, edge⟩, _⟩ := plain
          exact .inr ⟨shown, .inr ⟨rfl, by simpa using reads, tabless, free, edge⟩⟩
      · split
        · next quotable =>
            simp only [Bool.and_eq_true, Bool.not_eq_true'] at quotable
            exact .inr ⟨quotable.1.1.2, .inl rfl⟩
        · exact .inl rfl

/-- Only a text with line breaks stands in a block of its own. -/
theorem styleOf_line (line : OnOneLine text.toList) : styleOf text ≠ .literal := by
  rcases styleOf_cases line with double | ⟨_, single | ⟨plain, _⟩⟩
  · simp [double]
  · simp [single]
  · simp [plain]

/-- What is written plainly reads plainly. -/
theorem plainly_of_styleOf (line : OnOneLine text.toList) (style : styleOf text = .plain) :
    Plainly none text.toList ∧ Scan.BeginsPlain text.toList ∧ Scalar.ofPlain text = .text text := by
  obtain ⟨shown, reads, tabless, free, edge⟩ : (Shape.of text.toList).special = false ∧
      readsAsText text = true ∧ (Shape.of text.toList).tabbed = false ∧
      (Shape.of text.toList).structured = false ∧ (Shape.of text.toList).edged = false := by
    rcases styleOf_cases line with double | ⟨shown, single | ⟨_, rest⟩⟩
    · simp [double] at style
    · simp [single] at style
    · exact ⟨shown, rest⟩
  simp only [Shape.of, Bool.or_eq_false_iff] at shown tabless free edge
  simp only [readsAsText, Bool.and_eq_true, beq_iff_eq] at reads
  obtain ⟨starts, ends⟩ := edge
  have meant := reads.1.1
  have solid : ∀ c ∈ text.toList, c ≠ ' ' → isGap c = false := by
    intro c member space
    have tab : c ≠ '\t' := by
      rintro rfl
      simp [member] at tabless
    simp [isGap, space, tab]
  have filled : text.toList ≠ [] := by
    intro empty
    rw [String.toList_eq_nil_iff.mp empty] at meant
    exact absurd meant (by decide)
  -- What may stand first is told by the first character.
  obtain ⟨c, others, spelled⟩ := List.exists_cons_of_ne_nil filled
  rw [spelled] at line solid free starts ends shown ⊢
  have gap : isGap c = false := by
    apply solid c List.mem_cons_self
    rintro rfl
    simp at starts
  have opened := (Bool.or_eq_false_iff.mp free).1
  have comment : c ≠ '#' := by
    rintro rfl
    simp [marksStructure, isReserved, isGap] at opened
  have unmarked : c ≠ '\ufeff' := by
    rintro rfl
    simp [isShown] at shown
  obtain ⟨begins, noItem⟩ := startsPlain_of_free line gap opened
  refine ⟨⟨line, free, ?_, ?_⟩, ⟨c, others, rfl, begins, noItem, unmarked⟩, meant⟩
  · intro d first
    cases first
    exact ⟨gap, comment⟩
  · intro d last
    apply solid d (List.mem_of_getLast? last)
    rintro rfl
    simp [last] at ends

section Characters

variable {c : Char}

/-- What is written as it is may stand in a text. -/
theorem isAllowed_of_isShown (shown : isShown c = true) : isAllowed c = true := by
  have unmarked : ∀ d, isShown d = false → (c == d) = false := fun d other =>
    beq_eq_false_iff_ne.mpr (apart_of_class shown other)
  simp only [isShown, Bool.or_eq_true, Bool.and_eq_true, decide_eq_true_eq] at shown
  rcases shown with (newline | printed) | ⟨⟨least, _⟩, _⟩
  · simp [isAllowed, newline]
  · simp [isAllowed, printed]
  · have first : c ≠ '\ufffe' := by
      simpa using unmarked '\ufffe' (by decide)
    have second : c ≠ '\uffff' := by
      simpa using unmarked '\uffff' (by decide)
    simp [isAllowed, least, first, second]

theorem isAllowed_of_isAlphanum (word : c.isAlphanum = true) : isAllowed c = true := by
  have ascii : ∀ n : Fin 128, (Char.ofNat n).isAlphanum = true → isAllowed (Char.ofNat n) = true := by
    decide
  have allowed := ascii ⟨c.toNat, ascii_of_isAlphanum word⟩
  rw [Char.ofNat_toNat] at allowed
  exact allowed word

theorem isAllowed_of_special {characters : List Char} (shown : (Shape.of characters).special = false)
    (member : c ∈ characters) : isAllowed c = true := by
  have known := List.any_eq_false.mp shown c member
  by_cases tab : c = '\t'
  · subst tab
    decide
  · apply isAllowed_of_isShown
    simpa [tab] using known

theorem isAllowed_doubled {d : Char} (allowed : isAllowed c = true) (member : d ∈ doubled c) :
    isAllowed d = true := by
  unfold doubled at member
  split at member
  · have same : d = '\'' := by simpa using member
    subst same
    decide
  · rw [List.mem_singleton] at member
    exact member ▸ allowed

theorem isAllowed_escaped {d : Char} (member : d ∈ escapedChar c) : isAllowed d = true := by
  rcases escapedChar_cases c with ⟨self, shown, _⟩ | ⟨letter, spelled, known⟩ |
    ⟨code, known, spelled, fits⟩
  · rw [self, List.mem_singleton] at member
    subst member
    exact isAllowed_of_isShown shown
  · have letters : ∀ escape ∈ escapeLetters, isAllowed escape.2 = true := by decide
    rw [spelled] at member
    rcases List.mem_cons.mp member with rfl | member
    · decide
    · rw [List.mem_singleton] at member
      subst member
      exact letters _ known
  · have marks : ∀ code ∈ codeMarks, isAllowed code.1 = true := by decide
    rw [spelled] at member
    rcases List.mem_cons.mp member with rfl | member
    · decide
    · rcases List.mem_cons.mp member with rfl | member
      · exact marks code known
      · have digits : ∀ digit < 16, isAllowed digit.digitChar.toUpper = true := by decide
        obtain ⟨digit, small, rfl⟩ := mem_upperHex member
        exact digits digit small

end Characters

section Integers

variable {n : Nat}

theorem toList_toString (n : Nat) : (toString n).toList = Nat.toDigits 10 n :=
  Nat.toList_repr

theorem isDigit_of_mem_toString {c : Char} (member : c ∈ (toString n).toList) : c.isDigit = true :=
  Nat.isDigit_of_mem_toDigits (by decide) (by decide) (toList_toString n ▸ member)

/-- Digits hold nothing that could be taken for structure. -/
theorem holdsStructure_digits {before : Option Char} {digits : List Char}
    (all : ∀ c ∈ digits, c.isDigit = true) : holdsStructure before digits = false := by
  induction digits generalizing before with
  | nil => rfl
  | cons c digits ih =>
      have apart : ∀ d, d.isDigit = false → (c == d) = false := fun d other =>
        beq_eq_false_iff_ne.mpr (apart_of_class (all c List.mem_cons_self) other)
      have inside : marksStructure before c digits.head? = false := by
        cases before <;>
          simp [marksStructure, isReserved, isFlowMark, isQuote, isGap, apart]
      rw [holdsStructure, inside, ih fun d member => all d (List.mem_cons_of_mem c member),
        Bool.or_self]

theorem plainly_toString (positive : 0 < n) :
    Plainly none (toString n).toList ∧ Scan.BeginsPlain (toString n).toList := by
  have all : ∀ c ∈ (toString n).toList, c.isDigit = true := fun c => isDigit_of_mem_toString
  have solid : ∀ c ∈ (toString n).toList, isGap c = false ∧ isBreak c = false := by
    intro c member
    have apart : ∀ d, d.isDigit = false → (c == d) = false := fun d other =>
      beq_eq_false_iff_ne.mpr (apart_of_class (all c member) other)
    simp [isGap, isBreak, apart]
  obtain ⟨c, others, spelled, _, digit⟩ := Number.head?_toDigits positive
  rw [← toList_toString] at spelled
  have member : c ∈ (toString n).toList := spelled ▸ List.mem_cons_self
  have line : OnOneLine (toString n).toList := fun d inside => (solid d inside).2
  have free : holdsStructure none (toString n).toList = false := holdsStructure_digits all
  refine ⟨⟨line, free, ?_, fun d last => (solid d (List.mem_of_getLast? last)).1⟩, ?_⟩
  · intro d first
    have inside := List.mem_of_mem_head? first
    exact ⟨(solid d inside).1, apart_of_class (all d inside) (by decide)⟩
  · rw [spelled] at line free ⊢
    obtain ⟨begins, noItem⟩ :=
      startsPlain_of_free line (solid c member).1 (Bool.or_eq_false_iff.mp free).1
    exact ⟨c, others, rfl, begins, noItem, apart_of_class digit (by decide)⟩

/-- Digits alone are no day. -/
theorem isDate_digits {digits : List Char} (all : ∀ c ∈ digits, c.isDigit = true) :
    Scalar.isDate digits = false := by
  have rest : digits.dropWhile Char.isDigit = [] := List.dropWhile_eq_nil_iff.mpr all
  have none : Scalar.dateRest digits = none := by
    rw [Scalar.dateRest, rest]
    cases (Number.unsigned 10 false (digits.takeWhile Char.isDigit)).toOption <;> rfl
  rw [Scalar.isDate, none]

/-- No word that stands for a value begins with a digit. -/
theorem words_without_digits : ∀ word ∈ Scalar.words,
    word.1.toList.head?.any Char.isDigit = false := by
  decide +kernel

/-- A positive integer is read as itself. -/
theorem ofPlain_toString (positive : 0 < n) (fits : n < Binary64.signWeight) :
    Scalar.ofPlain (toString n) = .int n := by
  have all : ∀ c ∈ (toString n).toList, c.isDigit = true := fun c => isDigit_of_mem_toString
  obtain ⟨c, others, spelled, _, digit⟩ := Number.head?_toDigits positive
  rw [← toList_toString] at spelled
  have unknown : Scalar.words.lookup (toString n) = none := by
    rw [List.lookup_eq_none_iff]
    intro word member
    rw [bne_iff_ne]
    intro same
    have first := words_without_digits word member
    rw [← same, spelled, List.head?_cons, Option.any_some, digit] at first
    cases first
  have noDate := isDate_digits all
  have kept : (toString n).toList.filter (· != '_') = (toString n).toList := by
    rw [List.filter_eq_self]
    intro d member
    rw [bne_iff_ne]
    exact apart_of_class (all d member) (by decide)
  have read : Scalar.integer? (toString n).toList = some (n : Int) := by
    have weight : Binary64.signWeight = 9223372036854775808 := rfl
    rw [Scalar.integer?, String.ofList_toList, Number.readMarkedInteger_toString positive fits]
    exact congrArg some (Int64.toInt_ofInt_of_le (by omega) (by omega))
  have point : (c == '.') = false := beq_eq_false_iff_ne.mpr (apart_of_class digit (by decide))
  rw [Scalar.ofPlain, unknown]
  rw [spelled] at noDate kept read ⊢
  simp only [point, digit, Bool.true_or, Bool.false_eq_true, ↓reduceIte, Scalar.ofDigits, noDate, kept,
    read, Option.getD_some]

end Integers

def Plain.isPlain : Plain → Bool
  | .text value => styleOf value = .plain
  | .int _ => true

def Plain.found : Plain → String
  | .text value => value
  | .int value => toString value

/-- The two ways in which a scalar stands on one line: as it is, or between quotes. -/
inductive Plain.Spelled (value : Plain) : List Char → Prop
  | plain (isPlain : value.isPlain = true) (plainly : Plainly none value.found.toList)
      (begins : Scan.BeginsPlain value.found.toList)
      (allowed : ∀ c ∈ value.found.toList, isAllowed c = true) : Spelled value value.found.toList
  | quoted {quote : Char} {spelling : Char → List Char} (isQuoted : value.isPlain = false)
      (marks : isQuote quote = true)
      (legible : ∀ c ∈ value.found.toList, Legible quote spelling c)
      (allowed : ∀ c ∈ value.found.toList, ∀ d ∈ spelling c, isAllowed d = true) :
      Spelled value (quote :: (value.found.toList.flatMap spelling ++ [quote]))

section Values

variable {value : Plain} {written : List Char} {s : Scan} {tokens : List Token}
  {width next depth : Nat} {margins : List Nat} {rest : List Char}

theorem spelled_int {n : Nat} (positive : 0 < n) :
    (Plain.int n).Spelled (Plain.int n).found.toList := by
  have found : (Plain.int n).found = toString n := rfl
  obtain ⟨plainly, begins⟩ := plainly_toString positive
  rw [← found] at plainly begins
  apply Plain.Spelled.plain rfl plainly begins
  intro c member
  have digit := isDigit_of_mem_toString (found ▸ member)
  exact isAllowed_of_isAlphanum (by rw [Char.isAlphanum, digit, Bool.or_true])

/-- Every scalar without line breaks is written in one of the two ways. -/
theorem Plain.IsLine.spelled (line : value.IsLine) (depth : Nat) :
    value.Spelled (value.written depth).toList := by
  cases value with
  | int value =>
      obtain ⟨n, rfl⟩ := Int.eq_ofNat_of_zero_le (Int.le_of_lt line.1)
      exact spelled_int (Int.natCast_pos.mp line.1)
  | text value =>
      rcases styleOf_cases line with style | ⟨shown, style | ⟨style, _⟩⟩
      · have spelled : ((Plain.text value).written depth).toList =
            '"' :: (value.toList.flatMap escapedChar ++ ['"']) := by
          simp [Plain.written, writtenText, style]
        rw [spelled]
        exact .quoted (by simp [Plain.isPlain, style]) rfl (fun c _ => legible_escaped)
          fun c _ d => isAllowed_escaped
      · have spelled : ((Plain.text value).written depth).toList =
            '\'' :: (value.toList.flatMap doubled ++ ['\'']) := by
          simp only [Plain.written, writtenText, style, withSingleQuotes, indentedFrom_line line,
            String.toList_ofList]
          rfl
        rw [spelled]
        exact .quoted (by simp [Plain.isPlain, style]) rfl
          (fun c member => legible_doubled (line c member))
          fun c member d => isAllowed_doubled (isAllowed_of_special shown member)
      · have spelled : ((Plain.text value).written depth).toList = value.toList := by
          simp [Plain.written, writtenText, style]
        rw [spelled]
        obtain ⟨plainly, begins, _⟩ := plainly_of_styleOf line style
        exact .plain (by simp [Plain.isPlain, style]) plainly begins
          fun c => isAllowed_of_special shown

theorem Plain.ending_line (line : value.IsLine) : value.ending = "\n" := by
  cases value with
  | int value => rfl
  | text value => simp [Plain.ending, styleOf_line line]

/-- A scalar on one line is read as one. -/
theorem Scan.reaches_scalar (spelled : value.Spelled written)
    (between : s.Between tokens (width + 1) margins)
    (faces : s.Faces width (written ++ Scan.onward next rest))
    (left : next ≤ width) (starts : StartsEntry rest) :
    ∃ u, Scan.Reaches 1 s u ∧
      u.Between (.scalar value.found value.isPlain :: tokens) (width + 1) margins ∧
      u.Arrives next rest := by
  cases spelled with
  | plain isPlain plainly begins _ =>
      have read := Scan.reaches_plain between faces plainly begins left starts
      rwa [String.ofList_toList, ← isPlain] at read
  | quoted isQuoted marks legible _ =>
      rw [List.cons_append, List.append_assoc, List.singleton_append] at faces
      have read := Scan.reaches_quoted marks between faces legible starts
      rwa [String.ofList_toList, ← isQuoted] at read

/-- What is written behind a colon begins neither a gap nor a comment. -/
theorem Plain.Spelled.head? {c : Char} (spelled : value.Spelled written)
    (first : (written ++ rest).head? = some c) : isGap c = false ∧ c ≠ '#' := by
  cases spelled with
  | plain _ plainly begins _ =>
      obtain ⟨d, others, starts, _⟩ := begins
      apply plainly.first c
      rw [starts] at first ⊢
      exact first
  | quoted _ marks _ _ =>
      cases first
      simp only [isQuote, Bool.or_eq_true, beq_iff_eq] at marks
      rcases marks with rfl | rfl <;> decide

/-- Only characters that may stand in a text are written. -/
theorem Plain.Spelled.isAllowed {c : Char} (spelled : value.Spelled written) (member : c ∈ written) :
    isAllowed c = true := by
  cases spelled with
  | plain _ _ _ allowed => exact allowed c member
  | quoted _ marks _ allowed =>
      have quote : ∀ d, isQuote d = true → Yaml.isAllowed d = true := by
        intro d marks
        simp only [isQuote, Bool.or_eq_true, beq_iff_eq] at marks
        rcases marks with rfl | rfl <;> decide
      simp only [List.mem_cons, List.mem_append, List.mem_flatMap, List.not_mem_nil,
        or_false] at member
      rcases member with rfl | ⟨d, inside, member⟩ | rfl
      · exact quote c marks
      · exact allowed d inside c member
      · exact quote c marks

/-- What is read stands for what was meant. -/
theorem Plain.ofTagged_found (line : value.IsLine) :
    Scalar.ofTagged? "" value.isPlain value.found = some value.scalar := by
  rw [Scalar.ofTagged?]
  simp only [BEq.rfl, Bool.true_or, ↓reduceIte, Option.some.injEq]
  cases value with
  | int value =>
      obtain ⟨positive, fits⟩ := line
      obtain ⟨n, rfl⟩ := Int.eq_ofNat_of_zero_le (Int.le_of_lt positive)
      exact ofPlain_toString (Int.natCast_pos.mp positive) (Int.ofNat_lt.mp fits)
  | text value =>
      by_cases style : styleOf value = .plain
      · simp [Plain.isPlain, Plain.found, style, (plainly_of_styleOf line style).2.2, Plain.scalar]
      · simp [Plain.isPlain, Plain.found, style, Plain.scalar]

end Values

end SqlMapper.Yaml
