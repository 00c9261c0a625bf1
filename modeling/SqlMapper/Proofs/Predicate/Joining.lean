import SqlMapper.Proofs.Condition.Lexing
import SqlMapper.Proofs.Predicate.Grammar

/-!
Texts of tests put together. A token in front of a text is read off on its own, and two texts keep
their tokens when they are joined at a seam that no lexeme goes across: before a closing bracket,
or before a blank that does not follow another one.
-/

namespace SqlMapper.Predicate

section Tokens

theorem lexeme_word {name : String} (formed : C.isIdentifier name = true) (rest : List Char)
    (ends : ∀ c ∈ rest.head?, isWordTail c = false) :
    lexeme (name.toList ++ rest) = some (some (.word name), rest) := by
  obtain ⟨first, tail, spelled, start, all⟩ :=
    isWordTail_of_identifier name.toList (by rwa [String.ofList_toList])
  have letter : first.isDigit = false := by
    rw [← Bool.not_eq_true]
    intro digit
    have other : isWordStart first = false := Condition.not_start_of_digit digit
    rw [start] at other
    cases other
  obtain ⟨taken, left⟩ := Condition.takeWhile_of_all all ends
  rw [spelled] at taken left
  rw [spelled, List.cons_append, lexeme, run]
  rw [List.cons_append] at taken left
  simp only [letter, start, taken, left, Bool.false_eq_true, if_true, if_false]
  rw [← spelled, String.ofList_toList]

theorem splits_of_lexeme (token : Option Token) {text rest : List Char} {tokens : List Token}
    (found : lexeme text = some (token, rest)) (later : Splits rest tokens) :
    Splits text (token.toList ++ tokens) := by
  obtain ⟨rule, taken, first, takes, given⟩ := lexeme_takes text rest token found
  rw [← given]
  exact .step rule first takes later

theorem lexeme_gap {rest : List Char} (solid : ∀ c ∈ rest.head?, isGap c = false) :
    lexeme (' ' :: rest) = some (none, rest) := by
  have kept : ([] ++ rest).dropWhile isGap = rest :=
    (Condition.takeWhile_of_all (by simp) solid).2
  show some (none, rest.dropWhile isGap) = _
  rw [List.nil_append] at kept
  rw [kept]

theorem isGap_of_isWordStart {c : Char} (start : isWordStart c = true) : isGap c = false := by
  rw [← Bool.not_eq_true]
  intro gap
  simp only [isGap, Bool.or_eq_true, beq_iff_eq] at gap
  rcases gap with (((rfl | rfl) | rfl) | rfl) | rfl
  all_goals exact absurd start (by decide)

/-- A test that is not blank is what its tokens spell. -/
theorem parse_of_tokens {test : String} {tokens : List Token} {e : Expression}
    (shown : test.toList.all Text.isUnicodeBlank = false) (scanned : scan test = some tokens)
    (found : Expression.ofTokens? tokens = some e) : parse test = .ok e := by
  rw [parse, shown, scanned, Option.bind_some, found]
  rfl

end Tokens

section Seams

/-- No lexeme goes on from a text into what follows: that starts with a closing bracket, or with a
blank while the text ends with something else. -/
def Seam (text rest : List Char) : Prop :=
  ∀ c ∈ rest.head?, c = ')' ∨ c = ' ' ∧ ∀ last ∈ text.getLast?, isGap last = false

theorem seam_close (text rest : List Char) : Seam text (')' :: rest) := by
  rintro c ⟨⟩
  left
  rfl

theorem seam_blank {text rest : List Char} (solid : ∀ last ∈ text.getLast?, isGap last = false) :
    Seam text (' ' :: rest) := by
  rintro c ⟨⟩
  right
  exact ⟨rfl, solid⟩

/-- What is left of a text behind a lexeme has the seam of the text. -/
theorem seam_of_append {taken left rest : List Char} (seam : Seam (taken ++ left) rest) :
    Seam left rest := by
  intro c first
  rcases seam c first with close | ⟨blank, solid⟩
  · exact .inl close
  · refine .inr ⟨blank, fun last member => solid last ?_⟩
    rw [List.getLast?_append, Option.mem_def.mp member]
    rfl

theorem part_of_number {text : List Char} (isNumber : IsNumber text) :
    ∀ c ∈ text, Condition.isNumberPart c = true ∨ Condition.isSign c = true := by
  have digit {digits : List Char} (isDigits : IsDigits digits) :
      ∀ c ∈ digits, Condition.isNumberPart c = true ∨ Condition.isSign c = true :=
    fun c member => .inl (Condition.digit_part (isDigits.2 c member)).1
  obtain ⟨whole, part, power, isWhole, isPart, isPower, rfl⟩ := isNumber
  simp only [List.forall_mem_append]
  refine ⟨⟨digit isWhole, ?_⟩, ?_⟩
  · rcases isPart with rfl | ⟨digits, isDigits, rfl⟩
    · simp
    · exact List.forall_mem_cons.mpr ⟨.inl rfl, digit isDigits⟩
  · rcases isPower with rfl | ⟨mark, sign, digits, isMark, isSign, isDigits, rfl⟩
    · simp
    · rw [List.cons_append, List.forall_mem_cons, List.forall_mem_append]
      refine ⟨?_, ?_, digit isDigits⟩
      · rcases isMark with rfl | rfl <;> exact .inl rfl
      · rcases isSign with rfl | rfl | rfl
        · simp
        · simp [Condition.isSign]
        · simp [Condition.isSign]

/-- No lexeme has a closing bracket behind another character, and none but a gap has a blank there. -/
theorem not_accepts_of_stop {rule : Rule} {text more : List Char} {c : Char} (filled : text ≠ [])
    (stop : c = ')' ∨ c = ' ' ∧ ∀ last ∈ text.getLast?, isGap last = false) :
    ¬ rule.Accepts (text ++ c :: more) := by
  intro accepted
  have behind : c ∈ (text ++ c :: more).tail := by
    rw [List.tail_append_of_ne_nil filled]
    simp
  -- Each rule says which characters a lexeme may have, behind the first one at least.
  have member := List.mem_of_mem_tail behind
  cases rule with
  | number =>
      have part := part_of_number accepted _ member
      rcases stop with rfl | ⟨rfl, _⟩
      · exact absurd part (by decide)
      · exact absurd part (by decide)
  | word =>
      obtain ⟨_, _, _, _, all⟩ := isWordTail_of_identifier _ accepted
      rcases stop with rfl | ⟨rfl, _⟩
      · exact absurd (all _ member) (by decide)
      · exact absurd (all _ member) (by decide)
  | operator =>
      have signs : ∀ sign ∈ operators.map (·.1), ∀ c ∈ sign.tail, c ≠ ')' ∧ c ≠ ' ' := by
        simp [operators]
      obtain ⟨notClose, notBlank⟩ := signs _ accepted c behind
      rcases stop with close | ⟨blank, _⟩
      · exact notClose close
      · exact notBlank blank
  | gap =>
      rcases stop with rfl | ⟨_, solid⟩
      · exact absurd (accepted.2 _ member) (by decide)
      · have last := List.getLast?_eq_some_getLast filled
        have blank := accepted.2 _ (List.mem_append_left _ (List.getLast_mem filled))
        rw [solid _ last] at blank
        cases blank

/-- A lexeme that starts with a text ends with it at a seam. -/
theorem prefix_of_seam {rule : Rule} {text rest other : List Char} (seam : Seam text rest)
    (filled : text ≠ []) (begins : other <+: text ++ rest) (accepted : rule.Accepts other) :
    other <+: text := by
  rcases List.prefix_or_prefix_of_prefix begins (List.prefix_append text rest) with here | beyond
  · exact here
  · obtain ⟨more, rfl⟩ := beyond
    cases more with
    | nil => exact ⟨[], by simp⟩
    | cons c more =>
        have first : rest.head? = some c := by
          obtain ⟨left, same⟩ := begins
          rw [List.append_assoc] at same
          rw [← List.append_cancel_left same]
          rfl
        exact absurd accepted (not_accepts_of_stop filled (seam c first))

theorem takes_append {rule : Rule} {text taken left rest : List Char} (seam : Seam text rest)
    (takes : rule.Takes text taken left) : rule.Takes (text ++ rest) taken (left ++ rest) where
  whole := by rw [takes.whole, List.append_assoc]
  accepted := takes.accepted
  longest := by
    have filled : text ≠ [] := by
      rw [takes.whole]
      exact List.append_ne_nil_of_left_ne_nil (ne_nil_of_accepts takes.accepted) left
    intro other begins accepted
    exact takes.longest other (prefix_of_seam seam filled begins accepted) accepted

theorem splits_append {text rest : List Char} {tokens more : List Token}
    (first : Splits text tokens) (later : Splits rest more) (seam : Seam text rest) :
    Splits (text ++ rest) (tokens ++ more) := by
  induction first with
  | done => exact later
  | @step text taken left tokens rule first takes _ ih =>
      rw [List.append_assoc]
      have filled : text ≠ [] := by
        rw [takes.whole]
        exact List.append_ne_nil_of_left_ne_nil (ne_nil_of_accepts takes.accepted) left
      refine .step rule ?_ (takes_append seam takes) (ih ?_)
      · rintro earlier listed ⟨other, begins, accepted⟩
        exact first earlier listed ⟨other, prefix_of_seam seam filled begins accepted, accepted⟩
      · rw [takes.whole] at seam
        exact seam_of_append seam

end Seams

end SqlMapper.Predicate
