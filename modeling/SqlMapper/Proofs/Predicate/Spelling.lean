import SqlMapper.C.Literal
import SqlMapper.Predicate.Expression

/-!
How test expressions are spelled: the grammar of tokens that the parser follows, and the characters
that numbers and words are made of. Everything that is parsed is spelled by the tokens used up for
it, and the numbers and names of a parsed test have the form that tokens have.
-/

namespace SqlMapper.Predicate

section Tokens

def signTokens (negative : Bool) : List Token :=
  if negative then [.minus] else []

mutual

inductive SpellsExpression : List Token → Expression → Prop
  | one {tokens first} (head : SpellsConjunction tokens first) :
      SpellsExpression tokens (.one first)
  | or {tokens mark more first rest} (head : SpellsConjunction tokens first)
      (joins : isOr mark = true) (later : SpellsExpression more rest) :
      SpellsExpression (tokens ++ mark :: more) (.or first rest)

inductive SpellsConjunction : List Token → Conjunction → Prop
  | one {tokens first} (head : SpellsTerm tokens first) : SpellsConjunction tokens (.one first)
  | and {tokens mark more first rest} (head : SpellsTerm tokens first)
      (joins : isAnd mark = true) (later : SpellsConjunction more rest) :
      SpellsConjunction (tokens ++ mark :: more) (.and first rest)

inductive SpellsTerm : List Token → Term → Prop
  | not {tokens inner} (within : SpellsTerm tokens inner) :
      SpellsTerm (.not :: tokens) (.not inner)
  | operand {tokens left} (only : SpellsOperand tokens left) : SpellsTerm tokens (.operand left)
  | compare {tokens left op more right} (first : SpellsOperand tokens left)
      (second : SpellsOperand more right) :
      SpellsTerm (tokens ++ .comparator op :: more) (.compare left op right)

inductive SpellsOperand : List Token → Operand → Prop
  | number {negative digits} :
      SpellsOperand (signTokens negative ++ [.number digits]) (.number negative digits)
  | name {negative identifier} :
      SpellsOperand (signTokens negative ++ [.word identifier]) (.name negative identifier)
  | group {negative tokens inner} (within : SpellsExpression tokens inner) :
      SpellsOperand (signTokens negative ++ (.open :: tokens ++ [.close])) (.group negative inner)

end

/-- A parser uses up tokens that spell its result. -/
def Sound {α : Type} (parser : List Token → Option (α × List Token))
    (spells : List Token → α → Prop) : Prop :=
  ∀ tokens result rest, parser tokens = some (result, rest) →
    ∃ used, tokens = used ++ rest ∧ spells used result

/-- One or more parts joined by marks, the way both kinds of chains are parsed. -/
def chain {α β : Type} (joins : Token → Bool) (one : α → β) (join : α → β → β)
    (head : List Token → Option (α × List Token)) (tail : List Token → Option (β × List Token))
    (tokens : List Token) : Option (β × List Token) := do
  let (first, rest) ← head tokens
  match rest with
  | token :: more =>
      if joins token then
        let (later, rest) ← tail more
        return (join first later, rest)
      else return (one first, rest)
  | [] => return (one first, [])

theorem chain_sound {α β : Type} {joins : Token → Bool} {one : α → β} {join : α → β → β}
    {head : List Token → Option (α × List Token)} {tail : List Token → Option (β × List Token)}
    {spellsHead : List Token → α → Prop} {spells : List Token → β → Prop}
    (headSound : Sound head spellsHead) (tailSound : Sound tail spells)
    (ofOne : ∀ tokens first, spellsHead tokens first → spells tokens (one first))
    (ofJoin : ∀ tokens mark more first rest, spellsHead tokens first → joins mark = true →
      spells more rest → spells (tokens ++ mark :: more) (join first rest)) :
    Sound (chain joins one join head tail) spells := by
  intro tokens result rest success
  simp only [chain, bind, Option.bind_eq_some_iff] at success
  obtain ⟨⟨first, middle⟩, parsed, success⟩ := success
  obtain ⟨used, rfl, spelled⟩ := headSound tokens first middle parsed
  cases middle with
  | nil =>
      cases success
      exact ⟨used, rfl, ofOne used first spelled⟩
  | cons mark more =>
      by_cases joined : joins mark = true
      · simp only [joined, if_true, Option.bind_eq_some_iff] at success
        obtain ⟨⟨later, left⟩, continued, same⟩ := success
        obtain ⟨further, rfl, spelledLater⟩ := tailSound more later left continued
        cases same
        exact ⟨used ++ mark :: further, by simp, ofJoin used mark further first later spelled joined
          spelledLater⟩
      · simp only [joined] at success
        cases success
        exact ⟨used, rfl, ofOne used first spelled⟩

theorem term_sound (fuel : Nat) (inner : Sound (term fuel) SpellsTerm)
    (part : Sound (operand fuel) SpellsOperand) : Sound (term (fuel + 1)) SpellsTerm := by
  intro tokens result rest success
  unfold term at success
  split at success
  · next none => cases none
  · next _ less tail same =>
      cases same
      simp only [bind, Option.bind_eq_some_iff] at success
      obtain ⟨⟨within, left⟩, parsed, same⟩ := success
      obtain ⟨used, rfl, spelled⟩ := inner tail within left parsed
      cases same
      exact ⟨.not :: used, rfl, .not spelled⟩
  · next _ less same _ =>
      cases same
      simp only [bind, Option.bind_eq_some_iff] at success
      obtain ⟨⟨first, middle⟩, parsed, success⟩ := success
      obtain ⟨used, rfl, spelled⟩ := part _ first middle parsed
      split at success
      · next op more shape =>
          subst shape
          simp only [Option.bind_eq_some_iff] at success
          obtain ⟨⟨second, left⟩, continued, same⟩ := success
          obtain ⟨further, rfl, spelledSecond⟩ := part more second left continued
          cases same
          exact ⟨used ++ .comparator op :: further, by simp, .compare spelled spelledSecond⟩
      · cases success
        exact ⟨used, rfl, .operand spelled⟩

theorem atom_sound (fuel : Nat) (inner : Sound (expression fuel) SpellsExpression)
    (negative : Bool) :
    Sound (atom (fuel + 1) negative) fun used result =>
      SpellsOperand (signTokens negative ++ used) result := by
  intro tokens result rest success
  unfold atom at success
  split at success
  · next none => cases none
  · cases success
    exact ⟨_, rfl, .number⟩
  · cases success
    exact ⟨_, rfl, .name⟩
  · next _ less negative tail same =>
      cases same
      simp only [bind, Option.bind_eq_some_iff] at success
      obtain ⟨⟨within, left⟩, parsed, success⟩ := success
      obtain ⟨used, rfl, spelled⟩ := inner tail within left parsed
      split at success
      · next more shape =>
          subst shape
          cases success
          exact ⟨.open :: used ++ [.close], by simp, .group spelled⟩
      · cases success
  · cases success

theorem operand_sound (fuel : Nat)
    (part : ∀ negative, Sound (atom fuel negative) fun used result =>
      SpellsOperand (signTokens negative ++ used) result) :
    Sound (operand (fuel + 1)) SpellsOperand := by
  intro tokens result rest success
  unfold operand at success
  split at success
  · next none => cases none
  · next _ less tail same =>
      cases same
      obtain ⟨used, rfl, spelled⟩ := part true tail result rest success
      exact ⟨.minus :: used, rfl, spelled⟩
  · next _ less same _ =>
      cases same
      exact part false _ result rest success

/-- All parsers use up tokens that spell their results; with no fuel they have none. -/
theorem parsers_sound (fuel : Nat) :
    Sound (expression fuel) SpellsExpression ∧ Sound (conjunction fuel) SpellsConjunction ∧
      Sound (term fuel) SpellsTerm ∧ Sound (operand fuel) SpellsOperand ∧
        ∀ negative, Sound (atom fuel negative) fun used result =>
          SpellsOperand (signTokens negative ++ used) result := by
  -- Each parser calls the others with less fuel, so all of them are taken together.
  induction fuel with
  | zero =>
      refine ⟨?_, ?_, ?_, ?_, fun negative => ?_⟩
      all_goals
        intro tokens result rest success
        cases success
  | succ fuel ih =>
      obtain ⟨ofExpression, ofConjunction, ofTerm, ofOperand, ofAtom⟩ := ih
      refine ⟨?_, ?_, term_sound fuel ofTerm ofOperand, operand_sound fuel ofAtom,
        atom_sound fuel ofExpression⟩
      · exact chain_sound ofConjunction ofExpression (fun _ _ head => .one head)
          (fun _ _ _ _ _ head joins later => .or head joins later)
      · exact chain_sound ofTerm ofConjunction (fun _ _ head => .one head)
          (fun _ _ _ _ _ head joins later => .and head joins later)

theorem spells_of_parse (test : String) (e : Expression) (parsed : parse test = .ok e) :
    ∃ tokens, scan test = some tokens ∧ SpellsExpression tokens e := by
  unfold parse at parsed
  split at parsed
  · cases parsed
  · split at parsed
    · next found =>
        cases parsed
        obtain ⟨tokens, scanned, found⟩ := Option.bind_eq_some_iff.mp found
        unfold Expression.ofTokens? at found
        split at found
        · next read =>
            cases found
            obtain ⟨used, same, spelled⟩ := (parsers_sound _).1 tokens e [] read
            rw [List.append_nil] at same
            subst same
            exact ⟨tokens, scanned, spelled⟩
        · cases found
    · cases parsed

end Tokens

section Characters

def IsDigits (text : List Char) : Prop :=
  text ≠ [] ∧ ∀ c ∈ text, c.isDigit = true

def IsFraction (text : List Char) : Prop :=
  text = [] ∨ ∃ digits, IsDigits digits ∧ text = '.' :: digits

def IsPower (text : List Char) : Prop :=
  text = [] ∨ ∃ mark sign digits, (mark = 'e' ∨ mark = 'E') ∧
    (sign = [] ∨ sign = ['-'] ∨ sign = ['+']) ∧ IsDigits digits ∧ text = mark :: sign ++ digits

/-- Digits, perhaps a point and digits, and perhaps a power of ten. -/
def IsNumber (text : List Char) : Prop :=
  ∃ whole part power, IsDigits whole ∧ IsFraction part ∧ IsPower power ∧
    text = whole ++ part ++ power

def Token.Formed : Token → Prop
  | .number digits => IsNumber digits.toList
  | .word name => C.isIdentifier name = true
  | _ => True

/-- Digits are taken together with what leads to them, or neither is. -/
theorem digitsAfter_formed (lead text : List Char) :
    (digitsAfter lead text).1 = [] ∨
      ∃ digits, IsDigits digits ∧ (digitsAfter lead text).1 = lead ++ digits := by
  unfold digitsAfter run
  split
  · exact .inl rfl
  · next digits rest some same =>
      cases same
      refine .inr ⟨_, ⟨?_, List.all_eq_true.mp List.all_takeWhile⟩, rfl⟩
      intro none
      exact some none

theorem fraction_formed (text : List Char) : IsFraction (fraction text).1 := by
  unfold fraction
  split
  · next rest => exact digitsAfter_formed ['.'] rest
  · exact .inl rfl

theorem exponent_formed (text : List Char) : IsPower (exponent text).1 := by
  unfold exponent
  split
  · next mark rest =>
      split
      · next marked =>
          have isMark : mark = 'e' ∨ mark = 'E' := by simpa using marked
          -- The three ways to write the sign differ in what leads to the digits.
          have signed (sign : List Char) (isSign : sign = [] ∨ sign = ['-'] ∨ sign = ['+'])
              (tail : List Char) : IsPower (digitsAfter (mark :: sign) tail).1 := by
            rcases digitsAfter_formed (mark :: sign) tail with none | ⟨digits, isDigits, same⟩
            · exact .inl none
            · exact .inr ⟨mark, sign, digits, isMark, isSign, isDigits, same⟩
          split
          · exact signed ['-'] (.inr (.inl rfl)) _
          · exact signed ['+'] (.inr (.inr rfl)) _
          · exact signed [] (.inl rfl) _
      · exact .inl rfl
  · exact .inl rfl

theorem number_formed (first : Char) (rest : List Char) (digit : first.isDigit = true) :
    IsNumber (number (first :: rest)).1 := by
  refine ⟨_, _, _, ⟨?_, List.all_eq_true.mp List.all_takeWhile⟩, fraction_formed _,
    exponent_formed _, rfl⟩
  rw [List.takeWhile_cons_of_pos digit]
  exact List.cons_ne_nil _ _

theorem word_formed (first : Char) (rest : List Char) (start : isWordStart first = true) :
    C.isIdentifier (String.ofList (run isWordTail (first :: rest)).1) = true := by
  have tail : isWordTail first = true := by simp [isWordTail, start]
  rw [run, List.takeWhile_cons_of_pos tail, C.isIdentifier, String.toList_ofList]
  simp only [Bool.and_eq_true, List.all_eq_true]
  exact ⟨start, List.all_eq_true.mp List.all_takeWhile⟩

theorem operator_formed (text : List Char) (token : Token) (rest : List Char)
    (found : operator text = some (token, rest)) : token.Formed := by
  unfold operator at found
  split at found
  all_goals
    cases found
    try exact trivial

theorem lexeme_formed (text : List Char) (token : Token) (rest : List Char)
    (found : lexeme text = some (some token, rest)) : token.Formed := by
  cases text with
  | nil => cases found
  | cons first tail =>
      rw [lexeme] at found
      split at found
      · next digit =>
          cases found
          rw [Token.Formed, String.toList_ofList]
          exact number_formed first tail digit
      · split at found
        · next start =>
            cases found
            exact word_formed first tail start
        · split at found
          · next known =>
              cases found
              exact operator_formed _ token rest known
          · split at found
            · cases found
            · cases found

theorem scanFrom_formed (fuel : Nat) (text : List Char) (tokens : List Token)
    (scanned : scanFrom fuel text = some tokens) : ∀ token ∈ tokens, token.Formed := by
  induction fuel generalizing text tokens with
  | zero => cases scanned
  | succ fuel ih =>
      cases text with
      | nil =>
          cases scanned
          simp
      | cons first tail =>
          simp only [scanFrom] at scanned
          split at scanned
          · cases scanned
          · next found rest lexed =>
              obtain ⟨more, continued, rfl⟩ := Option.map_eq_some_iff.mp scanned
              intro token member
              rcases List.mem_append.mp member with here | later
              · rw [Option.mem_toList] at here
                subst here
                exact lexeme_formed _ token rest lexed
              · exact ih rest more continued token later

mutual

/-- The numbers and names of a test have the form of tokens. -/
def Expression.Formed : Expression → Prop
  | .one first => first.Formed
  | .or first rest => first.Formed ∧ rest.Formed

def Conjunction.Formed : Conjunction → Prop
  | .one first => first.Formed
  | .and first rest => first.Formed ∧ rest.Formed

def Term.Formed : Term → Prop
  | .not inner => inner.Formed
  | .operand left => left.Formed
  | .compare left _ right => left.Formed ∧ right.Formed

def Operand.Formed : Operand → Prop
  | .number _ digits => IsNumber digits.toList
  | .name _ identifier => C.isIdentifier identifier = true
  | .group _ inner => inner.Formed

end

mutual

theorem formed_of_spellsExpression {tokens : List Token} {e : Expression}
    (spelled : SpellsExpression tokens e) (formed : ∀ token ∈ tokens, token.Formed) :
    e.Formed := by
  cases spelled with
  | one head => exact formed_of_spellsConjunction head formed
  | or head _ later =>
      exact ⟨formed_of_spellsConjunction head fun token member => formed token (by simp [member]),
        formed_of_spellsExpression later fun token member => formed token (by simp [member])⟩

theorem formed_of_spellsConjunction {tokens : List Token} {c : Conjunction}
    (spelled : SpellsConjunction tokens c) (formed : ∀ token ∈ tokens, token.Formed) :
    c.Formed := by
  cases spelled with
  | one head => exact formed_of_spellsTerm head formed
  | and head _ later =>
      exact ⟨formed_of_spellsTerm head fun token member => formed token (by simp [member]),
        formed_of_spellsConjunction later fun token member => formed token (by simp [member])⟩

theorem formed_of_spellsTerm {tokens : List Token} {t : Term}
    (spelled : SpellsTerm tokens t) (formed : ∀ token ∈ tokens, token.Formed) : t.Formed := by
  cases spelled with
  | not within =>
      have inside := formed_of_spellsTerm within fun token member => formed token (by simp [member])
      exact inside
  | operand only => exact formed_of_spellsOperand only formed
  | compare first second =>
      exact ⟨formed_of_spellsOperand first fun token member => formed token (by simp [member]),
        formed_of_spellsOperand second fun token member => formed token (by simp [member])⟩

theorem formed_of_spellsOperand {tokens : List Token} {o : Operand}
    (spelled : SpellsOperand tokens o) (formed : ∀ token ∈ tokens, token.Formed) : o.Formed := by
  cases spelled with
  | number => exact formed (.number _) (by simp)
  | name => exact formed (.word _) (by simp)
  | group within =>
      exact formed_of_spellsExpression within fun token member => formed token (by simp [member])

end

theorem formed_of_parse (test : String) (e : Expression) (parsed : parse test = .ok e) :
    e.Formed := by
  obtain ⟨tokens, scanned, spelled⟩ := spells_of_parse test e parsed
  exact formed_of_spellsExpression spelled (scanFrom_formed _ _ tokens scanned)

end Characters

end SqlMapper.Predicate
