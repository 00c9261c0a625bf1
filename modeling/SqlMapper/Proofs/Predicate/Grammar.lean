import SqlMapper.Proofs.Predicate.Lexing

/-!
The parser accepts exactly the grammar of tests. Whatever tokens spell a test, the parser finds that
test in front of any token that cannot continue it; so a list of tokens spells at most one test, and
a text is a test exactly if the lexical rules split it into tokens that spell one.
-/

namespace SqlMapper.Predicate

section Stops

def continuesTerm : Token → Bool
  | .comparator _ => true
  | _ => false

def continuesConjunction (token : Token) : Bool :=
  continuesTerm token || isAnd token

def continuesExpression (token : Token) : Bool :=
  continuesConjunction token || isOr token

/-- The tokens that follow do not start with one that continues what stands before them. -/
def Stops (continues : Token → Bool) (rest : List Token) : Prop :=
  ∀ token, rest.head? = some token → continues token = false

theorem stops_nil (continues : Token → Bool) : Stops continues [] := by
  intro token first
  cases first

theorem stops_cons {continues : Token → Bool} {token : Token} (rest : List Token)
    (halts : continues token = false) : Stops continues (token :: rest) := by
  intro other first
  cases first
  exact halts

theorem stops_mono {less more : Token → Bool} {rest : List Token}
    (weaker : ∀ token, more token = false → less token = false) (stops : Stops more rest) :
    Stops less rest := by
  intro token first
  exact weaker token (stops token first)

theorem continuesConjunction_of_isOr (mark : Token) (joins : isOr mark = true) :
    continuesConjunction mark = false := by
  cases mark with
  | word name =>
      have spelled : name = "or" := by simpa [isOr] using joins
      subst spelled
      rfl
  | or => rfl
  | _ => cases joins

theorem continuesTerm_of_isAnd (mark : Token) (joins : isAnd mark = true) :
    continuesTerm mark = false := by
  cases mark with
  | comparator op => cases joins
  | _ => rfl

end Stops

section Steps

variable {α β : Type} {joins : Token → Bool} {one : α → β} {join : α → β → β}
  {head : List Token → Option (α × List Token)} {tail : List Token → Option (β × List Token)}

theorem chain_one {tokens rest : List Token} {first : α} (found : head tokens = some (first, rest))
    (stops : Stops joins rest) : chain joins one join head tail tokens = some (one first, rest) := by
  cases rest with
  | nil => simp [chain, found]
  | cons mark more => simp [chain, found, stops mark rfl]

theorem chain_join {tokens more rest : List Token} {mark : Token} {first : α} {later : β}
    (found : head tokens = some (first, mark :: more)) (joined : joins mark = true)
    (continued : tail more = some (later, rest)) :
    chain joins one join head tail tokens = some (join first later, rest) := by
  simp [chain, found, joined, continued]

/-- The first token of an operand behind its sign. -/
def startsAtom : Token → Bool
  | .number _ | .word _ | .open => true
  | _ => false

theorem operand_signed (fuel : Nat) (negative : Bool) (first : Token) (rest : List Token)
    (starts : startsAtom first = true) :
    operand (fuel + 1) (signTokens negative ++ first :: rest) =
      atom fuel negative (first :: rest) := by
  cases negative with
  | true => rfl
  | false => cases first <;> first | rfl | cases starts

theorem spellsOperand_starts {tokens : List Token} {o : Operand}
    (spelled : SpellsOperand tokens o) :
    ∃ negative first rest, tokens = signTokens negative ++ first :: rest ∧
      startsAtom first = true := by
  cases spelled with
  | @number negative digits => exact ⟨negative, .number digits, [], rfl, rfl⟩
  | @name negative identifier => exact ⟨negative, .word identifier, [], rfl, rfl⟩
  | @group negative tokens inner _ => exact ⟨negative, .open, tokens ++ [.close], rfl, rfl⟩

/-- A term that starts with an operand is no negation. -/
theorem ne_not_of_spellsOperand {tokens : List Token} {o : Operand}
    (spelled : SpellsOperand tokens o) (rest tail : List Token) :
    tokens ++ rest = .not :: tail → False := by
  obtain ⟨negative, first, more, rfl, starts⟩ := spellsOperand_starts spelled
  intro same
  cases negative with
  | true => cases same
  | false =>
      have here : first = .not := (List.cons.inj same).1
      subst here
      cases starts

theorem term_operand (fuel : Nat) {tokens rest : List Token} {left : Operand}
    (spelled : SpellsOperand tokens left)
    (found : operand fuel (tokens ++ rest) = some (left, rest)) (stops : Stops continuesTerm rest) :
    term (fuel + 1) (tokens ++ rest) = some (.operand left, rest) := by
  rw [term.eq_3 _ _ (ne_not_of_spellsOperand spelled rest), found]
  simp only [bind, Option.bind_some]
  split
  · next op tail =>
      have halts := stops (.comparator op) rfl
      cases halts
  · rfl

theorem term_compare (fuel : Nat) {tokens tail rest : List Token} {left right : Operand}
    {op : Comparator} (spelled : SpellsOperand tokens left)
    (first : operand fuel (tokens ++ .comparator op :: tail) = some (left, .comparator op :: tail))
    (second : operand fuel tail = some (right, rest)) :
    term (fuel + 1) (tokens ++ .comparator op :: tail) = some (.compare left op right, rest) := by
  rw [term.eq_3 _ _ (ne_not_of_spellsOperand spelled _), first]
  simp only [bind, Option.bind_some, second]
  rfl

end Steps

section Completeness

-- One token at least is used for every part, so the five levels above it have fuel to spare.

mutual

theorem expression_of_spells {tokens : List Token} {e : Expression}
    (spelled : SpellsExpression tokens e) (fuel : Nat) (enough : 5 * tokens.length ≤ fuel)
    (rest : List Token) (stops : Stops continuesExpression rest) :
    tokens ≠ [] ∧ expression fuel (tokens ++ rest) = some (e, rest) := by
  cases spelled with
  | one head =>
      have inner : Stops continuesConjunction rest :=
        stops_mono (fun token halts => (Bool.or_eq_false_iff.mp halts).1) stops
      have outer : Stops isOr rest :=
        stops_mono (fun token halts => (Bool.or_eq_false_iff.mp halts).2) stops
      obtain ⟨filled, _⟩ := conjunction_of_spells head (5 * tokens.length) (by omega) rest inner
      have positive := List.length_pos_iff.mpr filled
      obtain ⟨less, rfl⟩ := Nat.exists_eq_add_one_of_ne_zero (by omega : fuel ≠ 0)
      obtain ⟨_, found⟩ := conjunction_of_spells head less (by omega) rest inner
      exact ⟨filled, chain_one found outer⟩
  | @or tokens mark more first later head joins tail =>
      have inner := stops_cons (more ++ rest) (continuesConjunction_of_isOr mark joins)
      simp only [List.length_append, List.length_cons] at enough
      obtain ⟨less, rfl⟩ := Nat.exists_eq_add_one_of_ne_zero (by omega : fuel ≠ 0)
      obtain ⟨_, found⟩ := conjunction_of_spells head less (by omega) _ inner
      obtain ⟨_, continued⟩ := expression_of_spells tail less (by omega) rest stops
      refine ⟨by simp, ?_⟩
      rw [List.append_assoc, List.cons_append]
      exact chain_join found joins continued

theorem conjunction_of_spells {tokens : List Token} {c : Conjunction}
    (spelled : SpellsConjunction tokens c) (fuel : Nat) (enough : 5 * tokens.length ≤ fuel + 1)
    (rest : List Token) (stops : Stops continuesConjunction rest) :
    tokens ≠ [] ∧ conjunction fuel (tokens ++ rest) = some (c, rest) := by
  cases spelled with
  | one head =>
      have inner : Stops continuesTerm rest :=
        stops_mono (fun token halts => (Bool.or_eq_false_iff.mp halts).1) stops
      have outer : Stops isAnd rest :=
        stops_mono (fun token halts => (Bool.or_eq_false_iff.mp halts).2) stops
      obtain ⟨filled, _⟩ := term_of_spells head (5 * tokens.length) (by omega) rest inner
      have positive := List.length_pos_iff.mpr filled
      obtain ⟨less, rfl⟩ := Nat.exists_eq_add_one_of_ne_zero (by omega : fuel ≠ 0)
      obtain ⟨_, found⟩ := term_of_spells head less (by omega) rest inner
      exact ⟨filled, chain_one found outer⟩
  | @and tokens mark more first later head joins tail =>
      have inner := stops_cons (more ++ rest) (continuesTerm_of_isAnd mark joins)
      simp only [List.length_append, List.length_cons] at enough
      obtain ⟨less, rfl⟩ := Nat.exists_eq_add_one_of_ne_zero (by omega : fuel ≠ 0)
      obtain ⟨_, found⟩ := term_of_spells head less (by omega) _ inner
      obtain ⟨_, continued⟩ := conjunction_of_spells tail less (by omega) rest stops
      refine ⟨by simp, ?_⟩
      rw [List.append_assoc, List.cons_append]
      exact chain_join found joins continued

theorem term_of_spells {tokens : List Token} {t : Term} (spelled : SpellsTerm tokens t)
    (fuel : Nat) (enough : 5 * tokens.length ≤ fuel + 2) (rest : List Token)
    (stops : Stops continuesTerm rest) :
    tokens ≠ [] ∧ term fuel (tokens ++ rest) = some (t, rest) := by
  cases spelled with
  | @not tokens inner within =>
      rw [List.length_cons] at enough
      obtain ⟨less, rfl⟩ := Nat.exists_eq_add_one_of_ne_zero (by omega : fuel ≠ 0)
      obtain ⟨_, found⟩ := term_of_spells within less (by omega) rest stops
      refine ⟨by simp, ?_⟩
      rw [List.cons_append, term, found]
      rfl
  | operand only =>
      obtain ⟨filled, _⟩ := operand_of_spells only (5 * tokens.length) (by omega) rest
      have positive := List.length_pos_iff.mpr filled
      obtain ⟨less, rfl⟩ := Nat.exists_eq_add_one_of_ne_zero (by omega : fuel ≠ 0)
      obtain ⟨_, found⟩ := operand_of_spells only less (by omega) rest
      exact ⟨filled, term_operand less only found stops⟩
  | @compare tokens left op more right first second =>
      simp only [List.length_append, List.length_cons] at enough
      obtain ⟨less, rfl⟩ := Nat.exists_eq_add_one_of_ne_zero (by omega : fuel ≠ 0)
      obtain ⟨_, found⟩ := operand_of_spells first less (by omega) (.comparator op :: (more ++ rest))
      obtain ⟨_, continued⟩ := operand_of_spells second less (by omega) rest
      refine ⟨by simp, ?_⟩
      rw [List.append_assoc, List.cons_append]
      exact term_compare less first found continued

theorem operand_of_spells {tokens : List Token} {o : Operand} (spelled : SpellsOperand tokens o)
    (fuel : Nat) (enough : 5 * tokens.length ≤ fuel + 3) (rest : List Token) :
    tokens ≠ [] ∧ operand fuel (tokens ++ rest) = some (o, rest) := by
  cases spelled with
  | @number negative digits =>
      simp only [List.length_append, List.length_singleton] at enough
      obtain ⟨less, rfl⟩ := Nat.exists_eq_add_one_of_ne_zero (by omega : fuel ≠ 0)
      obtain ⟨least, rfl⟩ := Nat.exists_eq_add_one_of_ne_zero (by omega : less ≠ 0)
      refine ⟨by simp, ?_⟩
      rw [List.append_assoc, List.singleton_append, operand_signed _ _ _ _ rfl, atom]
  | @name negative identifier =>
      simp only [List.length_append, List.length_singleton] at enough
      obtain ⟨less, rfl⟩ := Nat.exists_eq_add_one_of_ne_zero (by omega : fuel ≠ 0)
      obtain ⟨least, rfl⟩ := Nat.exists_eq_add_one_of_ne_zero (by omega : less ≠ 0)
      refine ⟨by simp, ?_⟩
      rw [List.append_assoc, List.singleton_append, operand_signed _ _ _ _ rfl, atom]
  | @group negative tokens inner within =>
      simp only [List.length_append, List.length_cons, List.cons_append, List.length_nil] at enough
      obtain ⟨less, rfl⟩ := Nat.exists_eq_add_one_of_ne_zero (by omega : fuel ≠ 0)
      obtain ⟨least, rfl⟩ := Nat.exists_eq_add_one_of_ne_zero (by omega : less ≠ 0)
      -- A bracket continues nothing, so the inner test ends before it.
      obtain ⟨_, found⟩ := expression_of_spells within least (by omega) (.close :: rest)
        (stops_cons rest rfl)
      refine ⟨by simp, ?_⟩
      rw [List.append_assoc, List.cons_append, List.cons_append, operand_signed _ _ _ _ rfl,
        List.append_assoc, List.singleton_append, atom, found]
      rfl

end

/-- The tokens of a test are parsed as that test, with nothing left over. -/
theorem ofTokens?_of_spells {tokens : List Token} {e : Expression}
    (spelled : SpellsExpression tokens e) : Expression.ofTokens? tokens = some e := by
  obtain ⟨_, found⟩ := expression_of_spells spelled (depthFor tokens)
    (by unfold depthFor; omega) [] (stops_nil _)
  rw [List.append_nil] at found
  rw [Expression.ofTokens?, found]

theorem spells_unique {tokens : List Token} {e other : Expression}
    (one : SpellsExpression tokens e) (two : SpellsExpression tokens other) : e = other :=
  Option.some.inj ((ofTokens?_of_spells one).symm.trans (ofTokens?_of_spells two))

end Completeness

section Blanks

theorem isWordTail_of_blank (c : Char) (blank : Text.isUnicodeBlank c = true) :
    isWordTail c = false := by
  rw [← Bool.not_eq_true]
  intro tail
  have letter : c.isAlpha = (decide ('A'.val ≤ c.val ∧ c.val ≤ 'Z'.val) ||
      decide ('a'.val ≤ c.val) && decide (c.val ≤ 'z'.val)) := rfl
  simp only [Text.isUnicodeBlank, Text.isBlank, isWordTail, isWordStart, letter, Char.isDigit,
    Bool.or_eq_true, Bool.and_eq_true, beq_iff_eq, decide_eq_true_eq, Char.le_def,
    UInt32.le_iff_toNat_le, ge_iff_le, ← Char.toNat_inj, Char.toNat, Char.reduceVal,
    UInt32.reduceToNat] at blank tail
  omega

/-- Only the rule for blanks accepts blanks. -/
theorem gap_of_blank {rule : Rule} {taken : List Char} (accepted : rule.Accepts taken)
    (blank : ∀ c ∈ taken, Text.isUnicodeBlank c = true) : rule = .gap := by
  cases rule with
  | number =>
      obtain ⟨whole, part, power, isWhole, _, _, rfl⟩ := accepted
      obtain ⟨digit, more, rfl⟩ := List.exists_cons_of_ne_nil isWhole.1
      have tail := isWordTail_of_blank digit (blank digit (by simp))
      simp [isWordTail, isWhole.2 digit List.mem_cons_self] at tail
  | word =>
      obtain ⟨first, rest, rfl, start, _⟩ := isWordTail_of_identifier taken accepted
      have tail := isWordTail_of_blank first (blank first List.mem_cons_self)
      simp [isWordTail, start] at tail
  | operator =>
      have signs : ∀ sign ∈ operators.map (·.1), sign.all Text.isUnicodeBlank = false := by decide
      rw [← List.all_eq_true, signs taken accepted] at blank
      cases blank
  | gap => rfl

theorem nil_of_blank {text : List Char} {tokens : List Token} (split : Splits text tokens)
    (blank : ∀ c ∈ text, Text.isUnicodeBlank c = true) : tokens = [] := by
  induction split with
  | done => rfl
  | @step text taken rest tokens rule _ takes _ ih =>
      rw [takes.whole, List.forall_mem_append] at blank
      rw [gap_of_blank takes.accepted blank.1, ih blank.2]
      rfl

end Blanks

theorem splits_unique {text : List Char} {tokens other : List Token} (one : Splits text tokens)
    (two : Splits text other) : tokens = other :=
  Option.some.inj ((scanFrom_of_splits one _ (Nat.lt_succ_self _)).symm.trans
    (scanFrom_of_splits two _ (Nat.lt_succ_self _)))

theorem parse_of_spells {test : String} {tokens : List Token} {e : Expression}
    (split : Splits test.toList tokens) (spelled : SpellsExpression tokens e) :
    parse test = .ok e := by
  have shown : test.toList.all Text.isUnicodeBlank = false := by
    rw [← Bool.not_eq_true, List.all_eq_true]
    intro blank
    -- Blanks alone give no token, and no token spells no test.
    have none := nil_of_blank split blank
    subst none
    cases ofTokens?_of_spells spelled
  rw [parse, shown, (scan_eq_some_iff test tokens).mpr split, Option.bind_some,
    ofTokens?_of_spells spelled]
  rfl

/-- A text is a test exactly if the lexical rules split it into tokens that spell one. There is one
way to split it, and tokens spell one test at most. -/
theorem parse_iff_derived (test : String) :
    (∀ e, parse test = .ok e ↔
      ∃ tokens, Splits test.toList tokens ∧ SpellsExpression tokens e) ∧
    (∀ tokens other, Splits test.toList tokens → Splits test.toList other → tokens = other) ∧
    ∀ tokens e other, SpellsExpression tokens e → SpellsExpression tokens other → e = other := by
  refine ⟨fun e => ⟨fun parsed => ?_, ?_⟩, fun _ _ => splits_unique, fun _ _ _ => spells_unique⟩
  · obtain ⟨tokens, scanned, spelled⟩ := spells_of_parse test e parsed
    exact ⟨tokens, (scan_eq_some_iff test tokens).mp scanned, spelled⟩
  · rintro ⟨tokens, split, spelled⟩
    exact parse_of_spells split spelled

/-- `or or !or < -2`: the word is a name, then an operator, then a name again, and the negation covers
the comparison. -/
def wordy : Expression :=
  .or (.one (.operand (.name false "or")))
    (.one (.one (.not (.compare (.name false "or") .less (.number true "2")))))

theorem wordy_derived :
    parse "or or !or<-2" = .ok wordy ∧
      ∀ other, SpellsExpression [.word "or", .word "or", .not, .word "or", .comparator .less, .minus,
        .number "2"] other → wordy = other := by
  have split : Splits "or or !or<-2".toList [.word "or", .word "or", .not, .word "or",
      .comparator .less, .minus, .number "2"] :=
    (scan_eq_some_iff _ _).mp (by decide +kernel)
  have spelled : SpellsExpression [.word "or", .word "or", .not, .word "or", .comparator .less,
      .minus, .number "2"] wordy := by
    have word : SpellsOperand [.word "or"] (.name false "or") := @SpellsOperand.name false "or"
    have number : SpellsOperand [.minus, .number "2"] (.number true "2") :=
      @SpellsOperand.number true "2"
    exact .or (.one (.operand word)) rfl (.one (.one (.not (.compare word number))))
  obtain ⟨accepts, _, unique⟩ := parse_iff_derived "or or !or<-2"
  exact ⟨(accepts wordy).mpr ⟨_, split, spelled⟩, fun other => unique _ _ other spelled⟩

end SqlMapper.Predicate
