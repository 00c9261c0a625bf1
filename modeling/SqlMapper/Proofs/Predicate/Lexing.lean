import SqlMapper.Proofs.Predicate.Spelling

/-!
The lexical rules of tests. At each place the first rule that accepts a beginning of the text takes
the longest beginning that it accepts, and blanks give no token. The scanner follows these rules:
it finds tokens exactly where the rules split the whole text, and there is one way to split it.
-/

namespace SqlMapper.Predicate

inductive Rule where
  | number
  | word
  | operator
  | gap
  deriving DecidableEq

def operators : List (List Char × Token) :=
  [(['=', '='], .comparator .equal), (['!', '='], .comparator .notEqual),
    (['<', '='], .comparator .lessEqual), (['>', '='], .comparator .greaterEqual),
    (['&', '&'], .and), (['|', '|'], .or), (['<'], .comparator .less),
    (['>'], .comparator .greater), (['!'], .not), (['('], .open), ([')'], .close),
    (['-'], .minus)]

namespace Rule

/-- The rules in the order in which they are tried. -/
def order : List Rule :=
  [number, word, operator, gap]

def Accepts : Rule → List Char → Prop
  | number, lexeme => IsNumber lexeme
  | word, lexeme => C.isIdentifier (String.ofList lexeme) = true
  | operator, lexeme => lexeme ∈ operators.map (·.1)
  | gap, lexeme => lexeme ≠ [] ∧ ∀ c ∈ lexeme, isGap c = true

/-- The tokens that a lexeme stands for: one, or none for blanks. -/
def tokens : Rule → List Char → List Token
  | number, lexeme => [.number (String.ofList lexeme)]
  | word, lexeme => [.word (String.ofList lexeme)]
  | operator, lexeme => (operators.lookup lexeme).toList
  | gap, _ => []

def Applies (rule : Rule) (text : List Char) : Prop :=
  ∃ lexeme, lexeme <+: text ∧ rule.Accepts lexeme

/-- The rule splits the text behind the longest lexeme that it accepts. -/
structure Takes (rule : Rule) (text lexeme rest : List Char) : Prop where
  whole : text = lexeme ++ rest
  accepted : rule.Accepts lexeme
  longest : ∀ other, other <+: text → rule.Accepts other → other.length ≤ lexeme.length

/-- No rule that is tried earlier applies. -/
def First (rule : Rule) (text : List Char) : Prop :=
  ∀ earlier ∈ order.takeWhile (· != rule), ¬ earlier.Applies text

end Rule

/-- A text and the tokens that the rules split it into. -/
inductive Splits : List Char → List Token → Prop
  | done : Splits [] []
  | step {text lexeme rest : List Char} {tokens : List Token} (rule : Rule)
      (first : rule.First text) (taken : rule.Takes text lexeme rest)
      (later : Splits rest tokens) : Splits text (rule.tokens lexeme ++ tokens)

namespace Rule

theorem takes_unique {rule : Rule} {text lexeme other rest left : List Char}
    (one : rule.Takes text lexeme rest) (two : rule.Takes text other left) :
    lexeme = other ∧ rest = left := by
  have least := two.longest lexeme ⟨rest, one.whole.symm⟩ one.accepted
  have most := one.longest other ⟨left, two.whole.symm⟩ two.accepted
  exact List.append_inj (one.whole.symm.trans two.whole) (Nat.le_antisymm least most)

theorem applies_of_takes {rule : Rule} {text lexeme rest : List Char}
    (taken : rule.Takes text lexeme rest) : rule.Applies text :=
  ⟨lexeme, ⟨rest, taken.whole.symm⟩, taken.accepted⟩

/-- Only one rule can be the first that applies. -/
theorem first_unique {one two : Rule} {text : List Char} (oneFirst : one.First text)
    (twoFirst : two.First text) (oneApplies : one.Applies text) (twoApplies : two.Applies text) :
    one = two := by
  have listed : one = two ∨ one ∈ order.takeWhile (· != two) ∨
      two ∈ order.takeWhile (· != one) := by
    cases one <;> cases two <;> decide
  rcases listed with same | earlier | earlier
  · exact same
  · exact absurd oneApplies (twoFirst one earlier)
  · exact absurd twoApplies (oneFirst two earlier)

end Rule

section Numbers

/-- Digits that stand at the start of a text are taken with what leads to them. -/
theorem digitsAfter_append (lead digits tail : List Char) (isDigits : IsDigits digits) :
    digitsAfter lead (digits ++ tail) =
      (lead ++ (digits ++ tail.takeWhile Char.isDigit), tail.dropWhile Char.isDigit) := by
  unfold digitsAfter run
  rw [List.takeWhile_append_of_pos isDigits.2, List.dropWhile_append_of_pos isDigits.2]
  split
  · next none =>
      simp only [Prod.mk.injEq, List.append_eq_nil_iff] at none
      exact absurd none.1.1 isDigits.1
  · next same =>
      cases same
      rfl

theorem digitsAfter_whole (lead text : List Char) :
    (digitsAfter lead text).1 ++ (digitsAfter lead text).2 = lead ++ text := by
  unfold digitsAfter run
  split
  · rfl
  · next same =>
      cases same
      rw [List.append_assoc, List.takeWhile_append_dropWhile]

theorem fraction_whole (text : List Char) : (fraction text).1 ++ (fraction text).2 = text := by
  unfold fraction
  split
  · next rest => exact digitsAfter_whole ['.'] rest
  · rfl

theorem exponent_whole (text : List Char) : (exponent text).1 ++ (exponent text).2 = text := by
  unfold exponent
  split
  · split
    · split
      all_goals exact digitsAfter_whole _ _
    · rfl
  · rfl

theorem number_whole (text : List Char) : (number text).1 ++ (number text).2 = text := by
  simp only [number, run, List.append_assoc]
  rw [exponent_whole, fraction_whole, List.takeWhile_append_dropWhile]

theorem run_digits (digits tail : List Char) (isDigits : IsDigits digits)
    (stop : ∀ c, tail.head? = some c → c.isDigit = false) :
    run Char.isDigit (digits ++ tail) = (digits, tail) := by
  rw [run, List.takeWhile_append_of_pos isDigits.2, List.dropWhile_append_of_pos isDigits.2]
  cases tail with
  | nil => simp
  | cons c rest => simp [stop c rfl]

/-- A power at the start of a text is taken, with all digits that follow. -/
theorem exponent_append (power tail : List Char) (isPower : IsPower power) (filled : power ≠ []) :
    power.length ≤ (exponent (power ++ tail)).1.length := by
  rcases isPower with none | ⟨mark, sign, digits, isMark, isSign, isDigits, rfl⟩
  · exact absurd none filled
  · have marked : (mark == 'e' || mark == 'E') = true := by simpa using isMark
    obtain ⟨first, more, rfl⟩ := List.exists_cons_of_ne_nil isDigits.1
    have digit := isDigits.2 first List.mem_cons_self
    have notMinus : first ≠ '-' := by rintro rfl; exact absurd digit (by decide)
    have notPlus : first ≠ '+' := by rintro rfl; exact absurd digit (by decide)
    have taken : (exponent (mark :: sign ++ first :: more ++ tail)).1 =
        (digitsAfter (mark :: sign) (first :: more ++ tail)).1 := by
      rcases isSign with rfl | rfl | rfl <;>
        simp [exponent, marked, notMinus, notPlus]
    rw [taken, digitsAfter_append _ _ _ isDigits]
    simp

theorem fraction_of_power (power tail : List Char) (isPower : IsPower power) (filled : power ≠ []) :
    fraction (power ++ tail) = ([], power ++ tail) := by
  rcases isPower with none | ⟨mark, sign, digits, isMark, _, _, rfl⟩
  · exact absurd none filled
  · rcases isMark with rfl | rfl <;> rfl

theorem power_stops (power tail : List Char) (isPower : IsPower power) (filled : power ≠ [])
    (c : Char) (first : (power ++ tail).head? = some c) : c.isDigit = false := by
  rcases isPower with none | ⟨mark, sign, digits, isMark, _, _, rfl⟩
  · exact absurd none filled
  · cases first
    rcases isMark with rfl | rfl <;> rfl

theorem number_longest (lexeme tail : List Char) (isNumber : IsNumber lexeme) :
    lexeme.length ≤ (number (lexeme ++ tail)).1.length := by
  obtain ⟨whole, part, power, isWhole, isPart, isPower, rfl⟩ := isNumber
  -- Every part that is there ends the run before it, so the parts are taken one after the other.
  rcases isPart with rfl | ⟨digits, isDigits, rfl⟩
  · by_cases filled : power = []
    · subst filled
      simp only [List.append_nil, number, run, List.takeWhile_append_of_pos isWhole.2,
        List.length_append]
      omega
    · have ran := run_digits whole (power ++ tail) isWhole (power_stops power tail isPower filled)
      have last := exponent_append power tail isPower filled
      simp only [List.append_nil, List.append_assoc, number, ran,
        fraction_of_power power tail isPower filled, List.length_append]
      omega
  · have ran := run_digits whole ('.' :: digits ++ power ++ tail) isWhole (by
      intro c first
      cases first
      rfl)
    have pointed : fraction ('.' :: digits ++ power ++ tail) =
        ('.' :: digits ++ (power ++ tail).takeWhile Char.isDigit,
          (power ++ tail).dropWhile Char.isDigit) := by
      have after := digitsAfter_append ['.'] digits (power ++ tail) isDigits
      simpa [fraction] using after
    by_cases filled : power = []
    · subst filled
      simp only [List.append_nil, List.append_assoc, List.cons_append] at ran pointed ⊢
      simp only [number, ran, pointed, List.length_append, List.length_cons]
      omega
    · have stop := run_digits digits (power ++ tail) isDigits
        (power_stops power tail isPower filled)
      have kept : (power ++ tail).takeWhile Char.isDigit = [] ∧
          (power ++ tail).dropWhile Char.isDigit = power ++ tail := by
        obtain ⟨first, more, rfl⟩ := List.exists_cons_of_ne_nil filled
        have plain := power_stops (first :: more) tail isPower filled first rfl
        simp [plain]
      have last := exponent_append power tail isPower filled
      rw [kept.1, kept.2] at pointed
      simp only [List.append_nil, List.append_assoc, List.cons_append] at ran pointed ⊢
      simp only [number, ran, pointed, List.length_append, List.length_cons]
      omega

end Numbers

section Rules

theorem number_takes (first : Char) (tail : List Char) (digit : first.isDigit = true) :
    Rule.number.Takes (first :: tail) (number (first :: tail)).1 (number (first :: tail)).2 where
  whole := (number_whole _).symm
  accepted := number_formed first tail digit
  longest := by
    rintro other ⟨left, same⟩ accepted
    rw [← same]
    exact number_longest other left accepted

theorem not_number_applies (first : Char) (tail : List Char) (other : first.isDigit = false) :
    ¬ Rule.number.Applies (first :: tail) := by
  rintro ⟨lexeme, ⟨rest, same⟩, whole, part, power, isWhole, _, _, rfl⟩
  obtain ⟨digit, more, rfl⟩ := List.exists_cons_of_ne_nil isWhole.1
  have here : digit = first := (List.cons.inj same).1
  have digits := isWhole.2 digit List.mem_cons_self
  rw [here, other] at digits
  cases digits

/-- The longest run of a class is a lexeme of every rule that accepts runs of that class. -/
theorem takeWhile_longest (inClass : Char → Bool) (text other : List Char)
    (begins : other <+: text) (all : ∀ c ∈ other, inClass c = true) :
    other.length ≤ (text.takeWhile inClass).length := by
  obtain ⟨rest, rfl⟩ := begins
  rw [List.takeWhile_append_of_pos all, List.length_append]
  omega

theorem isWordTail_of_identifier (lexeme : List Char)
    (isIdentifier : C.isIdentifier (String.ofList lexeme) = true) :
    ∃ first rest, lexeme = first :: rest ∧ isWordStart first = true ∧
      ∀ c ∈ lexeme, isWordTail c = true := by
  rw [C.isIdentifier, String.toList_ofList] at isIdentifier
  cases lexeme with
  | nil => cases isIdentifier
  | cons first rest =>
      simp only [Bool.and_eq_true, List.all_eq_true] at isIdentifier
      have start : isWordStart first = true := isIdentifier.1
      refine ⟨first, rest, rfl, start, ?_⟩
      intro c member
      rcases List.mem_cons.mp member with same | later
      · subst same
        simp [isWordTail, start]
      · exact isIdentifier.2 c later

theorem word_takes (first : Char) (tail : List Char) (start : isWordStart first = true) :
    Rule.word.Takes (first :: tail) (run isWordTail (first :: tail)).1
      (run isWordTail (first :: tail)).2 where
  whole := List.takeWhile_append_dropWhile.symm
  accepted := word_formed first tail start
  longest := by
    intro other begins accepted
    obtain ⟨_, _, _, _, all⟩ := isWordTail_of_identifier other accepted
    exact takeWhile_longest isWordTail _ other begins all

theorem not_word_applies (first : Char) (tail : List Char) (other : isWordStart first = false) :
    ¬ Rule.word.Applies (first :: tail) := by
  rintro ⟨lexeme, ⟨rest, same⟩, accepted⟩
  obtain ⟨head, more, rfl, start, _⟩ := isWordTail_of_identifier lexeme accepted
  have here : head = first := (List.cons.inj same).1
  rw [here, other] at start
  cases start

theorem gap_takes (first : Char) (tail : List Char) (blank : isGap first = true) :
    Rule.gap.Takes (first :: tail) (first :: tail.takeWhile isGap) (tail.dropWhile isGap) where
  whole := by rw [List.cons_append, List.takeWhile_append_dropWhile]
  accepted := by
    refine ⟨List.cons_ne_nil _ _, ?_⟩
    intro c member
    rcases List.mem_cons.mp member with same | later
    · exact same ▸ blank
    · exact List.all_eq_true.mp List.all_takeWhile c later
  longest := by
    intro other begins accepted
    have most := takeWhile_longest isGap _ other begins accepted.2
    rwa [List.takeWhile_cons_of_pos blank] at most

theorem not_gap_applies (first : Char) (tail : List Char) (other : isGap first = false) :
    ¬ Rule.gap.Applies (first :: tail) := by
  rintro ⟨lexeme, ⟨rest, same⟩, filled, all⟩
  obtain ⟨head, more, rfl⟩ := List.exists_cons_of_ne_nil filled
  have here : head = first := (List.cons.inj same).1
  have blank := all head List.mem_cons_self
  rw [here, other] at blank
  cases blank

theorem operator_length (lexeme : List Char) (known : lexeme ∈ operators.map (·.1)) :
    lexeme.length ≤ 2 := by
  have short : ∀ known ∈ operators.map (·.1), known.length ≤ 2 := by decide
  exact short lexeme known

/-- A sign of one character is the longest one where no sign of two starts. -/
theorem single_longest (c : Char) (rest : List Char)
    (alone : ∀ d left, rest = d :: left → [c, d] ∉ operators.map (·.1)) (other : List Char)
    (begins : other <+: c :: rest) (known : other ∈ operators.map (·.1)) : other.length ≤ 1 := by
  have short := operator_length other known
  obtain ⟨left, same⟩ := begins
  match other, known, short, same with
  | [], _, _, _ => simp
  | [_], _, _, _ => simp
  | [a, b], known, _, same =>
      simp only [List.cons_append, List.nil_append, List.cons.injEq] at same
      obtain ⟨rfl, rfl⟩ := same
      exact absurd known (alone b left rfl)

theorem operator_takes (text rest : List Char) (token : Token)
    (found : operator text = some (token, rest)) :
    ∃ lexeme, Rule.operator.Takes text lexeme rest ∧ Rule.operator.tokens lexeme = [token] := by
  have pair (a b : Char) (listed : operators.lookup [a, b] = some token)
      (known : [a, b] ∈ operators.map (·.1)) (same : text = a :: b :: rest) :
      ∃ lexeme, Rule.operator.Takes text lexeme rest ∧
        Rule.operator.tokens lexeme = [token] := by
    subst same
    refine ⟨[a, b], ⟨rfl, known, ?_⟩, by rw [Rule.tokens, listed]; rfl⟩
    intro other _ accepted
    exact operator_length other accepted
  have single (a : Char) (listed : operators.lookup [a] = some token)
      (known : [a] ∈ operators.map (·.1))
      (alone : ∀ d left, rest = d :: left → [a, d] ∉ operators.map (·.1))
      (same : text = a :: rest) :
      ∃ lexeme, Rule.operator.Takes text lexeme rest ∧
        Rule.operator.tokens lexeme = [token] := by
    subst same
    exact ⟨[a], ⟨rfl, known, single_longest a rest alone⟩, by rw [Rule.tokens, listed]; rfl⟩
  have widened (a : Char) (only : ∀ d, [a, d] ∈ operators.map (·.1) → d = '=')
      (alone : ∀ left, rest = '=' :: left → False) (d : Char) (left : List Char)
      (same : rest = d :: left) : [a, d] ∉ operators.map (·.1) := by
    intro known
    exact alone left (by rw [same, only d known])
  -- Pairs are tried before single signs, so a single sign has no pair to be part of.
  unfold operator at found
  split at found
  all_goals cases found
  · exact pair '=' '=' rfl (by decide) rfl
  · exact pair '!' '=' rfl (by decide) rfl
  · exact pair '<' '=' rfl (by decide) rfl
  · exact pair '>' '=' rfl (by decide) rfl
  · exact pair '&' '&' rfl (by decide) rfl
  · exact pair '|' '|' rfl (by decide) rfl
  · next alone => exact single '<' rfl (by decide) (widened '<' (by simp [operators]) alone) rfl
  · next alone => exact single '>' rfl (by decide) (widened '>' (by simp [operators]) alone) rfl
  · next alone => exact single '!' rfl (by decide) (widened '!' (by simp [operators]) alone) rfl
  · exact single '(' rfl (by decide) (by simp [operators]) rfl
  · exact single ')' rfl (by decide) (by simp [operators]) rfl
  · exact single '-' rfl (by decide) (by simp [operators]) rfl

theorem not_operator_applies (text : List Char) (missing : operator text = none) :
    ¬ Rule.operator.Applies text := by
  rintro ⟨lexeme, ⟨rest, rfl⟩, accepted⟩
  simp only [Rule.Accepts, operators, List.map_cons, List.map_nil, List.mem_cons,
    List.not_mem_nil, or_false] at accepted
  -- Where no sign is found, the text starts with none of them.
  unfold operator at missing
  split at missing
  all_goals try cases missing
  next equal notEqual lessEqual greaterEqual and or less greater not opens closes minus =>
    rcases accepted with rfl | rfl | rfl | rfl | rfl | rfl | rfl | rfl | rfl | rfl | rfl | rfl
    · exact equal rest rfl
    · exact notEqual rest rfl
    · exact lessEqual rest rfl
    · exact greaterEqual rest rfl
    · exact and rest rfl
    · exact or rest rfl
    · exact less rest rfl
    · exact greater rest rfl
    · exact not rest rfl
    · exact opens rest rfl
    · exact closes rest rfl
    · exact minus rest rfl

end Rules

section Scanning

/-- The scanner takes its next token by the first rule that applies. -/
theorem lexeme_takes (text rest : List Char) (token : Option Token)
    (found : lexeme text = some (token, rest)) :
    ∃ rule taken, Rule.First rule text ∧ rule.Takes text taken rest ∧
      rule.tokens taken = token.toList := by
  cases text with
  | nil => cases found
  | cons first tail =>
      rw [lexeme] at found
      by_cases digit : first.isDigit = true
      · rw [if_pos digit] at found
        cases found
        exact ⟨.number, _, by simp [Rule.First, Rule.order], number_takes first tail digit, rfl⟩
      · rw [if_neg digit] at found
        have notNumber := not_number_applies first tail (by simpa using digit)
        by_cases start : isWordStart first = true
        · rw [if_pos start] at found
          cases found
          exact ⟨.word, _, by simpa [Rule.First, Rule.order] using notNumber,
            word_takes first tail start, rfl⟩
        · rw [if_neg start] at found
          have notWord := not_word_applies first tail (by simpa using start)
          split at found
          · next known =>
              cases found
              obtain ⟨taken, takes, listed⟩ := operator_takes _ _ _ known
              exact ⟨.operator, taken, by simp [Rule.First, Rule.order, notNumber, notWord],
                takes, listed⟩
          · next missing =>
              have notOperator := not_operator_applies _ missing
              split at found
              · next blank =>
                  cases found
                  exact ⟨.gap, _,
                    by simp [Rule.First, Rule.order, notNumber, notWord, notOperator],
                    gap_takes first tail blank, rfl⟩
              · cases found

/-- Where the scanner stops, no rule applies. -/
theorem not_applies_of_lexeme (text : List Char) (missing : lexeme text = none) (rule : Rule)
    (filled : text ≠ []) : ¬ rule.Applies text := by
  obtain ⟨first, tail, rfl⟩ := List.exists_cons_of_ne_nil filled
  rw [lexeme] at missing
  split at missing
  · cases missing
  · next digit =>
      split at missing
      · cases missing
      · next start =>
          split at missing
          · cases missing
          · next unknown =>
              split at missing
              · cases missing
              · next blank =>
                  cases rule with
                  | number => exact not_number_applies first tail (by simpa using digit)
                  | word => exact not_word_applies first tail (by simpa using start)
                  | operator => exact not_operator_applies _ unknown
                  | gap => exact not_gap_applies first tail (by simpa using blank)

theorem ne_nil_of_accepts {rule : Rule} {taken : List Char} (accepted : rule.Accepts taken) :
    taken ≠ [] := by
  rintro rfl
  cases rule with
  | number =>
      obtain ⟨whole, _, _, isWhole, _, _, same⟩ := accepted
      simp only [List.nil_eq_append_iff, List.append_eq_nil_iff] at same
      exact isWhole.1 same.1.1
  | word => exact absurd accepted (by simp [Rule.Accepts, C.isIdentifier])
  | operator => exact absurd accepted (by simp [Rule.Accepts, operators])
  | gap => exact accepted.1 rfl

theorem splits_of_scanFrom (fuel : Nat) (text : List Char) (tokens : List Token)
    (scanned : scanFrom fuel text = some tokens) : Splits text tokens := by
  induction fuel generalizing text tokens with
  | zero => cases scanned
  | succ fuel ih =>
      cases text with
      | nil =>
          cases scanned
          exact .done
      | cons first tail =>
          simp only [scanFrom] at scanned
          split at scanned
          · cases scanned
          · next token rest found =>
              obtain ⟨more, continued, rfl⟩ := Option.map_eq_some_iff.mp scanned
              obtain ⟨rule, taken, isFirst, takes, listed⟩ := lexeme_takes _ _ _ found
              rw [← listed]
              exact .step rule isFirst takes (ih rest more continued)

theorem scanFrom_of_splits {text : List Char} {tokens : List Token} (split : Splits text tokens)
    (fuel : Nat) (enough : text.length < fuel) : scanFrom fuel text = some tokens := by
  induction split generalizing fuel with
  | done =>
      obtain ⟨less, rfl⟩ := Nat.exists_eq_succ_of_ne_zero (Nat.ne_of_gt enough)
      rfl
  | @step text taken rest tokens rule isFirst takes _ ih =>
      obtain ⟨less, rfl⟩ := Nat.exists_eq_succ_of_ne_zero (Nat.ne_zero_of_lt enough)
      have filled := ne_nil_of_accepts takes.accepted
      have written : text ≠ [] := by
        rw [takes.whole]
        exact List.append_ne_nil_of_left_ne_nil filled rest
      have shorter : rest.length < less := by
        have total := congrArg List.length takes.whole
        have positive := List.length_pos_iff.mpr filled
        rw [List.length_append] at total
        omega
      -- The scanner finds a lexeme here, and there is only one that it can be.
      cases found : lexeme text with
      | none =>
          exact absurd (Rule.applies_of_takes takes) (not_applies_of_lexeme text found rule written)
      | some next =>
          obtain ⟨token, left⟩ := next
          obtain ⟨other, lexeme', otherFirst, otherTakes, listed⟩ := lexeme_takes _ _ _ found
          have sameRule := Rule.first_unique isFirst otherFirst (Rule.applies_of_takes takes)
            (Rule.applies_of_takes otherTakes)
          subst sameRule
          obtain ⟨rfl, rfl⟩ := Rule.takes_unique takes otherTakes
          obtain ⟨first, tail, rfl⟩ := List.exists_cons_of_ne_nil written
          simp only [scanFrom, found, ih less shorter, Option.map_some, listed]

/-- The scanner succeeds exactly where the rules split the whole text, with the same tokens. -/
theorem scan_eq_some_iff (test : String) (tokens : List Token) :
    scan test = some tokens ↔ Splits test.toList tokens := by
  constructor
  · exact splits_of_scanFrom _ _ _
  · intro split
    exact scanFrom_of_splits split _ (Nat.lt_succ_self _)

end Scanning

end SqlMapper.Predicate
