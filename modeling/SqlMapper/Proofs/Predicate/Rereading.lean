import SqlMapper.Predicate.Condition
import SqlMapper.Proofs.Predicate.Evaluation
import SqlMapper.Proofs.Predicate.Joining

/-!
A test that is written out can be read again. The text has the tokens of the test, with parentheses
under a negation that covers more than an operand; so it is read as the test with these groups put
in. The groups change neither the value of the test nor its names nor what it is written as.
-/

namespace SqlMapper.Predicate

section Groups

mutual

/-- The test with the groups that it is written with. -/
def Expression.grouped : Expression → Expression
  | .one first => .one first.grouped
  | .or first rest => .or first.grouped rest.grouped

def Conjunction.grouped : Conjunction → Conjunction
  | .one first => .one first.grouped
  | .and first rest => .and first.grouped rest.grouped

def Term.grouped : Term → Term
  | .not inner =>
      .not (if inner.isBare then inner.grouped
        else .operand (.group false (.one (.one inner.grouped))))
  | .operand left => .operand left.grouped
  | .compare left op right => .compare left.grouped op right.grouped

def Operand.grouped : Operand → Operand
  | .number negative digits => .number negative digits
  | .name negative identifier => .name negative identifier
  | .group negative inner => .group negative inner.grouped

end

/-- A group of one term has the truth of the term. -/
theorem eval_group_term (env : Environment) (t : Term) :
    (Term.operand (.group false (.one (.one t)))).eval env = t.eval env := by
  rw [Term.eval, eval_group, groupValue_one, Conjunction.value, truth_term]

variable (env : Environment)

mutual

theorem groupValue_grouped (e : Expression) : e.grouped.groupValue env = e.groupValue env := by
  cases e with
  | one first =>
      rw [Expression.grouped, groupValue_one, groupValue_one]
      exact value_grouped_conjunction first
  | or first rest =>
      have here : first.grouped.eval env = first.eval env :=
        eval_eq_of_value_conjunction env (value_grouped_conjunction first)
      have later : rest.grouped.eval env = rest.eval env :=
        eval_eq_of_groupValue env (groupValue_grouped rest)
      rw [Expression.grouped, groupValue_or, groupValue_or, Expression.eval, Expression.eval, here,
        later]

theorem value_grouped_conjunction (c : Conjunction) : c.grouped.value env = c.value env := by
  cases c with
  | one first => exact value_grouped_term first
  | and first rest =>
      have here : first.grouped.eval env = first.eval env :=
        eval_eq_of_value_term env (value_grouped_term first)
      have later : rest.grouped.eval env = rest.eval env :=
        eval_eq_of_value_conjunction env (value_grouped_conjunction rest)
      have whole : (Conjunction.and first rest).grouped.eval env =
          (Conjunction.and first rest).eval env := by
        rw [Conjunction.grouped, Conjunction.eval, Conjunction.eval, here, later]
      exact congrArg (Except.map truthValue) whole

theorem value_grouped_term (t : Term) : t.grouped.value env = t.value env := by
  cases t with
  | not inner =>
      have within : inner.grouped.eval env = inner.eval env :=
        eval_eq_of_value_term env (value_grouped_term inner)
      have whole : (Term.not inner).grouped.eval env = (Term.not inner).eval env := by
        rw [Term.grouped, Term.eval, Term.eval]
        split
        · rw [within]
        · rw [eval_group_term, within]
      exact congrArg (Except.map truthValue) whole
  | operand left => exact eval_grouped_operand left
  | compare left op right =>
      have whole : (Term.compare left op right).grouped.eval env =
          (Term.compare left op right).eval env := by
        rw [Term.grouped, Term.eval, Term.eval, eval_grouped_operand left,
          eval_grouped_operand right]
      exact congrArg (Except.map truthValue) whole

theorem eval_grouped_operand (o : Operand) : o.grouped.eval env = o.eval env := by
  cases o with
  | number negative digits => rw [Operand.grouped]
  | name negative identifier => rw [Operand.grouped]
  | group negative inner =>
      rw [Operand.grouped, Operand.eval, Operand.eval, groupValue_grouped inner]

end

theorem eval_grouped (e : Expression) : e.grouped.eval env = e.eval env :=
  eval_eq_of_groupValue env (groupValue_grouped env e)

mutual

theorem names_grouped (e : Expression) : e.grouped.names = e.names := by
  cases e with
  | one first => exact names_grouped_conjunction first
  | or first rest =>
      rw [Expression.grouped, Expression.names, Expression.names, names_grouped_conjunction first,
        names_grouped rest]

theorem names_grouped_conjunction (c : Conjunction) : c.grouped.names = c.names := by
  cases c with
  | one first => exact names_grouped_term first
  | and first rest =>
      rw [Conjunction.grouped, Conjunction.names, Conjunction.names, names_grouped_term first,
        names_grouped_conjunction rest]

theorem names_grouped_term (t : Term) : t.grouped.names = t.names := by
  cases t with
  | not inner =>
      rw [Term.grouped, Term.names, Term.names]
      split
      · exact names_grouped_term inner
      · exact names_grouped_term inner
  | operand left => exact names_grouped_operand left
  | compare left op right =>
      rw [Term.grouped, Term.names, Term.names, names_grouped_operand left,
        names_grouped_operand right]

theorem names_grouped_operand (o : Operand) : o.grouped.names = o.names := by
  cases o with
  | number negative digits => rfl
  | name negative identifier => rfl
  | group negative inner => exact names_grouped inner

end

variable (isField : String → Bool)

theorem isBare_grouped (t : Term) : t.grouped.isBare = t.isBare := by
  cases t with
  | not inner => rfl
  | operand left => cases left <;> rfl
  | compare left op right => rfl

mutual

theorem render_grouped (e : Expression) : e.grouped.render isField = e.render isField := by
  cases e with
  | one first => exact render_grouped_conjunction first
  | or first rest =>
      rw [Expression.grouped, Expression.render, Expression.render,
        render_grouped_conjunction first, render_grouped rest]

theorem render_grouped_conjunction (c : Conjunction) :
    c.grouped.render isField = c.render isField := by
  cases c with
  | one first => exact render_grouped_term first
  | and first rest =>
      rw [Conjunction.grouped, Conjunction.render, Conjunction.render, render_grouped_term first,
        render_grouped_conjunction rest]

theorem render_grouped_term (t : Term) : t.grouped.render isField = t.render isField := by
  cases t with
  | not inner =>
      have within := render_grouped_term inner
      by_cases bare : inner.isBare = true
      · rw [Term.grouped, if_pos bare, Term.render, Term.render, isBare_grouped, within]
      · -- The group is bare, and is written as the parentheses that the term gets.
        have shown : (Term.operand (.group false (.one (.one inner.grouped)))).isBare = true := rfl
        rw [Term.grouped, if_neg bare, Term.render, Term.render, if_neg bare, if_pos shown, ← within,
          Term.render, Operand.render, Expression.render, Conjunction.render,
          ← String.append_assoc, ← String.append_assoc]
        rfl
  | operand left => exact render_grouped_operand left
  | compare left op right =>
      rw [Term.grouped, Term.render, Term.render, render_grouped_operand left,
        render_grouped_operand right]

theorem render_grouped_operand (o : Operand) : o.grouped.render isField = o.render isField := by
  cases o with
  | number negative digits => rfl
  | name negative identifier => rfl
  | group negative inner =>
      rw [Operand.grouped, Operand.render, Operand.render, render_grouped inner]

end

end Groups

section Writing

/-- A text with its tokens that neither starts nor ends with a blank, so that it can stand behind a
sign and between blanks. -/
structure Written (text : List Char) (tokens : List Token) : Prop where
  splits : Splits text tokens
  starts : ∃ first more, text = first :: more ∧ isGap first = false ∧ first ≠ '='
  ends : ∃ before last, text = before ++ [last] ∧ isGap last = false

theorem solid_of_written {text : List Char} {tokens : List Token} (written : Written text tokens)
    (rest : List Char) : ∀ c ∈ (text ++ rest).head?, isGap c = false := by
  obtain ⟨first, more, rfl, solid, _⟩ := written.starts
  rintro c ⟨⟩
  exact solid

/-- Two parts with a sign between them. -/
theorem written_join {text more sign : List Char} {tokens others : List Token} {token : Token}
    (first : Written text tokens) (second : Written more others)
    (solid : ∃ c rest, sign = c :: rest ∧ isGap c = false)
    (reads : ∀ rest, lexeme (sign ++ ' ' :: rest) = some (some token, ' ' :: rest)) :
    Written (text ++ ' ' :: (sign ++ ' ' :: more)) (tokens ++ token :: others) := by
  obtain ⟨c, rest, rfl, plain⟩ := solid
  have blank : lexeme (' ' :: more) = some (none, more) := by
    apply lexeme_gap
    have start := solid_of_written second []
    rwa [List.append_nil] at start
  have later : Splits (c :: rest ++ ' ' :: more) (token :: others) :=
    splits_of_lexeme _ (reads more) (splits_of_lexeme _ blank second.splits)
  have behind : Splits (' ' :: (c :: rest ++ ' ' :: more)) (token :: others) := by
    refine splits_of_lexeme none (lexeme_gap ?_) later
    rintro d ⟨⟩
    exact plain
  constructor
  case splits =>
    apply splits_append first.splits behind
    apply seam_blank
    obtain ⟨before, last, rfl, solid⟩ := first.ends
    intro d member
    rw [List.getLast?_concat, Option.mem_some_iff] at member
    rwa [← member]
  case starts =>
    obtain ⟨head, tail, rfl, solid, apart⟩ := first.starts
    exact ⟨head, _, rfl, solid, apart⟩
  case ends =>
    obtain ⟨before, last, rfl, solid⟩ := second.ends
    exact ⟨text ++ ' ' :: (c :: rest ++ ' ' :: before), last, by simp, solid⟩

theorem written_group {text : List Char} {tokens : List Token} (inner : Written text tokens) :
    Written ('(' :: (text ++ [')'])) (.open :: tokens ++ [.close]) := by
  have close : Splits [')'] [.close] := splits_of_lexeme (some .close) rfl .done
  have behind := splits_append inner.splits close (seam_close text [])
  refine ⟨splits_of_lexeme (some .open) rfl behind, ⟨'(', _, rfl, rfl, by decide⟩, ?_⟩
  exact ⟨'(' :: text, ')', rfl, rfl⟩

/-- A sign in front of a text that it does not go on in. -/
theorem written_sign {sign : Char} {token : Token} {text : List Char} {tokens : List Token}
    (inner : Written text tokens) (solid : isGap sign = false ∧ sign ≠ '=')
    (reads : lexeme (sign :: text) = some (some token, text)) :
    Written (sign :: text) (token :: tokens) := by
  refine ⟨splits_of_lexeme _ reads inner.splits, ⟨sign, text, rfl, solid⟩, ?_⟩
  obtain ⟨before, last, rfl, plain⟩ := inner.ends
  exact ⟨sign :: before, last, rfl, plain⟩

theorem written_not {text : List Char} {tokens : List Token} (inner : Written text tokens) :
    Written ('!' :: text) (.not :: tokens) := by
  apply written_sign inner ⟨rfl, by decide⟩
  obtain ⟨first, more, rfl, _, apart⟩ := inner.starts
  have sign : operator ('!' :: first :: more) = some (.not, first :: more) := by
    simp [operator, apart]
  rw [lexeme, sign]
  rfl

theorem written_signed {text : List Char} {tokens : List Token} (negative : Bool)
    (inner : Written text tokens) :
    Written ((minusSign negative).toList ++ text) (signTokens negative ++ tokens) := by
  cases negative with
  | false => exact inner
  | true => exact written_sign inner ⟨rfl, by decide⟩ rfl

/-- A character of a number or a name is no blank and goes into no sign. -/
theorem solid_of_part {c : Char} (part : Condition.isNumberPart c = true ∨ Condition.isSign c = true) :
    isGap c = false ∧ c ≠ '=' := by
  constructor
  · rw [← Bool.not_eq_true]
    intro gap
    simp only [isGap, Bool.or_eq_true, beq_iff_eq] at gap
    rcases gap with (((rfl | rfl) | rfl) | rfl) | rfl
    all_goals exact absurd part (by decide)
  · rintro rfl
    exact absurd part (by decide)

theorem written_lexeme {text : List Char} {token : Token} (splits : Splits text [token])
    (filled : text ≠ [])
    (parts : ∀ c ∈ text, Condition.isNumberPart c = true ∨ Condition.isSign c = true) :
    Written text [token] := by
  refine ⟨splits, ?_, ?_⟩
  · obtain ⟨first, more, rfl⟩ := List.exists_cons_of_ne_nil filled
    exact ⟨first, more, rfl, solid_of_part (parts first List.mem_cons_self)⟩
  · have solid := solid_of_part (parts _ (List.getLast_mem filled))
    exact ⟨_, _, (List.dropLast_concat_getLast filled).symm, solid.1⟩

theorem written_number {digits : String} (formed : IsNumber digits.toList) :
    Written digits.toList [.number digits] := by
  have accepted : Rule.number.Accepts digits.toList := formed
  have filled := ne_nil_of_accepts accepted
  have takes : Rule.number.Takes digits.toList digits.toList [] :=
    ⟨(List.append_nil _).symm, accepted, fun other begins _ => begins.length_le⟩
  have splits : Splits digits.toList (Rule.number.tokens digits.toList ++ []) :=
    .step .number (by simp [Rule.First, Rule.order]) takes .done
  rw [List.append_nil, Rule.tokens, String.ofList_toList] at splits
  exact written_lexeme splits filled (part_of_number formed)

theorem written_word {name : String} (formed : C.isIdentifier name = true) :
    Written name.toList [.word name] := by
  have word := lexeme_word formed [] (by simp)
  rw [List.append_nil] at word
  obtain ⟨first, rest, spelled, _, all⟩ :=
    isWordTail_of_identifier name.toList (by rwa [String.ofList_toList])
  apply written_lexeme (splits_of_lexeme _ word .done)
  · rw [spelled]
    exact List.cons_ne_nil first rest
  · intro c member
    left
    rw [Condition.isNumberPart, Bool.or_eq_true]
    exact .inl (all c member)

end Writing

section Rereading

/-- No name is a field. -/
def noField (_ : String) : Bool :=
  false

-- What is written for a part has tokens that spell the part with its groups.

mutual

theorem written_expression (e : Expression) (formed : e.Formed) :
    ∃ tokens, Written (e.render noField).toList tokens ∧ SpellsExpression tokens e.grouped := by
  cases e with
  | one first =>
      obtain ⟨tokens, written, spelled⟩ := written_conjunction first formed
      exact ⟨tokens, written, .one spelled⟩
  | or first rest =>
      obtain ⟨tokens, here, spelled⟩ := written_conjunction first formed.1
      obtain ⟨more, later, spelledLater⟩ := written_expression rest formed.2
      have joined : Written _ (tokens ++ .or :: more) :=
        written_join here later ⟨'|', ['|'], rfl, rfl⟩ fun _ => rfl
      refine ⟨_, ?_, @SpellsExpression.or tokens .or more _ _ spelled rfl spelledLater⟩
      simpa [Expression.render] using joined

theorem written_conjunction (c : Conjunction) (formed : c.Formed) :
    ∃ tokens, Written (c.render noField).toList tokens ∧ SpellsConjunction tokens c.grouped := by
  cases c with
  | one first =>
      obtain ⟨tokens, written, spelled⟩ := written_term first formed
      exact ⟨tokens, written, .one spelled⟩
  | and first rest =>
      obtain ⟨tokens, here, spelled⟩ := written_term first formed.1
      obtain ⟨more, later, spelledLater⟩ := written_conjunction rest formed.2
      have joined : Written _ (tokens ++ .and :: more) :=
        written_join here later ⟨'&', ['&'], rfl, rfl⟩ fun _ => rfl
      refine ⟨_, ?_, @SpellsConjunction.and tokens .and more _ _ spelled rfl spelledLater⟩
      simpa [Conjunction.render] using joined

theorem written_term (t : Term) (formed : t.Formed) :
    ∃ tokens, Written (t.render noField).toList tokens ∧ SpellsTerm tokens t.grouped := by
  cases t with
  | not inner =>
      obtain ⟨tokens, within, spelled⟩ := written_term inner formed
      by_cases bare : inner.isBare = true
      · refine ⟨.not :: tokens, ?_, ?_⟩
        · rw [Term.render, if_pos bare, String.toList_append]
          exact written_not within
        · rw [Term.grouped, if_pos bare]
          exact .not spelled
      · have group : SpellsOperand (signTokens false ++ (.open :: tokens ++ [.close])) _ :=
          .group (.one (.one spelled))
        refine ⟨.not :: (.open :: tokens ++ [.close]), ?_, ?_⟩
        · rw [Term.render, if_neg bare]
          simpa using written_not (written_group within)
        · rw [Term.grouped, if_neg bare]
          exact .not (.operand group)
  | operand left =>
      obtain ⟨tokens, written, spelled⟩ := written_operand left formed
      exact ⟨tokens, written, .operand spelled⟩
  | compare left op right =>
      obtain ⟨tokens, here, spelled⟩ := written_operand left formed.1
      obtain ⟨more, later, spelledLater⟩ := written_operand right formed.2
      have joined : Written ((left.render noField).toList ++
          ' ' :: (op.symbol.toList ++ ' ' :: (right.render noField).toList))
          (tokens ++ .comparator op :: more) := by
        apply written_join here later
        · cases op <;> exact ⟨_, _, rfl, rfl⟩
        · cases op <;> exact fun _ => rfl
      refine ⟨_, ?_, .compare spelled spelledLater⟩
      simpa [Term.render] using joined

theorem written_operand (o : Operand) (formed : o.Formed) :
    ∃ tokens, Written (o.render noField).toList tokens ∧ SpellsOperand tokens o.grouped := by
  cases o with
  | number negative digits =>
      refine ⟨_, ?_, .number⟩
      rw [Operand.render, String.toList_append]
      exact written_signed negative (written_number formed)
  | name negative identifier =>
      refine ⟨_, ?_, .name⟩
      rw [Operand.render, noField, if_neg Bool.false_ne_true, String.append_empty,
        String.toList_append]
      exact written_signed negative (written_word formed)
  | group negative inner =>
      obtain ⟨tokens, within, spelled⟩ := written_expression inner formed
      refine ⟨_, ?_, .group spelled⟩
      have whole := written_signed negative (written_group within)
      simpa [Operand.render] using whole

end

/-- A test that is written out without fields is read again, and the test that is read has the same
outcome for all that its names can stand for, the same names, and the same text. -/
theorem reread_equivalent (test : String) (e : Expression) (parsed : parse test = .ok e) :
    ∃ other, parse (e.render noField) = .ok other ∧
      (∀ env : Environment, other.eval env = e.eval env) ∧
      other.identifiers = e.identifiers ∧
      other.render noField = e.render noField := by
  obtain ⟨tokens, written, spelled⟩ := written_expression e (formed_of_parse test e parsed)
  refine ⟨e.grouped, parse_of_spells written.splits spelled, fun env => eval_grouped env e, ?_,
    render_grouped noField e⟩
  rw [Expression.identifiers, Expression.identifiers, names_grouped]

/-- A negated comparison with a name that is spelled as an operator, joined by words. -/
def crowded : Expression :=
  .one (.and (.not (.compare (.name false "or") .less (.number true "2")))
    (.one (.operand (.group false (.or (.one (.operand (.name false "b")))
      (.one (.one (.operand (.number false "1.5e3")))))))))

theorem parse_crowded : parse "!or<-2and(b or 1.5e3)" = .ok crowded :=
  parse_of_tokens (by decide +kernel)
    (show scan "!or<-2and(b or 1.5e3)" = some [.not, .word "or", .comparator .less, .minus,
      .number "2", .word "and", .open, .word "b", .word "or", .number "1.5e3", .close]
      by decide +kernel) rfl

theorem crowded_reread :
    parse "!or<-2and(b or 1.5e3)" = .ok crowded ∧
      crowded.render noField = "!(or < -2) && (b || 1.5e3)" ∧
      ∃ other, parse "!(or < -2) && (b || 1.5e3)" = .ok other ∧
        other.eval (fun _ => some (.int 7)) = .ok true ∧
        other.identifiers = ["b", "or"] ∧
        other.render noField = "!(or < -2) && (b || 1.5e3)" := by
  have written : crowded.render noField = "!(or < -2) && (b || 1.5e3)" := by decide +kernel
  obtain ⟨other, parsed, meaning, names, text⟩ :=
    reread_equivalent "!or<-2and(b or 1.5e3)" crowded parse_crowded
  rw [written] at parsed text
  refine ⟨parse_crowded, written, other, parsed, ?_, ?_, text⟩
  · rw [meaning]
    rfl
  · rw [names]
    decide +kernel

end Rereading

end SqlMapper.Predicate
