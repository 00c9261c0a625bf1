import SqlMapper.Proofs.Placeholder.Count
import SqlMapper.Proofs.Trimming

/-!
Trims whose tokens hold no character of a placeholder. They never cut into a placeholder, so the
names in a text are those in its literals as soon as no hash is left without a brace, or no brace
without a hash.
-/

namespace SqlMapper.Placeholder

open Sql

/-- A character that belongs to no placeholder but inside its name. -/
def plain (c : Char) : Bool :=
  c != '#' && c != '{' && c != '}'

/-- The tokens of a rule hold plain characters only. -/
def PlainRule (rule : TrimRule) : Prop :=
  ∀ c ∈ rule.leading.toList ++ rule.trailing.toList, plain c = true

theorem plain_of_isBlank (c : Char) (blank : Text.isBlank c = true) : plain c = true := by
  cases decided : plain c with
  | true => rfl
  | false =>
      have marks : c = '#' ∨ c = '{' ∨ c = '}' := by
        simp only [plain, Bool.and_eq_false_iff, bne_eq_false_iff_eq] at decided
        rcases decided with (hash | brace) | brace
        · exact .inl hash
        · exact .inr (.inl brace)
        · exact .inr (.inr brace)
      rcases marks with rfl | rfl | rfl <;> exact absurd blank (by decide)

theorem ne_of_plain {c : Char} (holds : plain c = true) : c ≠ '#' ∧ c ≠ '{' ∧ c ≠ '}' := by
  simpa [plain, and_assoc] using holds

section Stripping

theorem scan_plain (state : Option (List Char)) (text : List Char)
    (all : ∀ c ∈ text, plain c = true) : scan state text = scan state [] := by
  induction text generalizing state with
  | nil => rfl
  | cons c rest ih =>
      have first := ne_of_plain (all c List.mem_cons_self)
      have others := fun d member => all d (List.mem_cons_of_mem c member)
      cases state with
      | none =>
          rw [scan_none_cons c rest (fun hash => absurd hash first.1)]
          exact ih none others
      | some name =>
          have inside : scan (some name) (c :: rest) = scan (some (c :: name)) rest := by
            simp [scan, first.2.2]
          rw [inside, ih _ others]
          rfl

/-- Plain characters at the end change nothing, also behind a placeholder that is still open. -/
theorem scan_append_plain (state : Option (List Char)) (text tail : List Char)
    (all : ∀ c ∈ tail, plain c = true) : scan state (text ++ tail) = scan state text := by
  have unbraced : tail.head? ≠ some '{' := by
    intro first
    obtain ⟨rest, rfl⟩ := List.head?_eq_some_iff.mp first
    exact absurd (all '{' List.mem_cons_self) (by decide)
  fun_induction scan state text with
  | case1 => exact scan_plain none tail all
  | case2 name => exact scan_plain (some name) tail all
  | case3 rest ih => simpa [scan] using ih
  | case4 c rest other ih =>
      have unopened : c = '#' → (rest ++ tail).head? ≠ some '{' := by
        intro hash
        cases rest with
        | nil => exact unbraced
        | cons d rest =>
            intro brace
            have brace : d = '{' := by simpa using brace
            exact other rest hash (by rw [brace])
      rw [List.cons_append, scan_none_cons c _ unopened, ih]
  | case5 name rest ih => simp [scan, ih]
  | case6 name c rest inside ih => simpa [scan, inside] using ih

theorem scan_plain_append (head text : List Char) (all : ∀ c ∈ head, plain c = true) :
    scan none (head ++ text) = scan none text := by
  have read := scan_plain none head all
  have unhashed : head.getLast? = some '#' → text.head? ≠ some '{' := by
    intro last
    exact absurd (all '#' (List.mem_of_getLast? last)) (by decide)
  rw [scan_append none head text (by rw [read]; rfl) unhashed, read]
  rfl

variable {rule : TrimRule} {content : List Char}

theorem plain_lead (isPlain : PlainRule rule) (cut : Cut rule content) :
    ∀ c ∈ cut.before ++ cut.lead, plain c = true := by
  intro c member
  rcases List.mem_append.mp member with blank | inside
  · exact plain_of_isBlank c (cut.blankBefore c blank)
  · rcases cut.leadToken with none | token
    · simp [none] at inside
    · have listed := mem_of_mem_overrideTokens _ _ token c inside
      exact isPlain c (List.mem_append_left _ listed)

theorem plain_trail (isPlain : PlainRule rule) (cut : Cut rule content) :
    ∀ c ∈ cut.trail ++ cut.after, plain c = true := by
  intro c member
  rcases List.mem_append.mp member with inside | blank
  · rcases cut.trailToken with none | token
    · simp [none] at inside
    · have listed := mem_of_mem_overrideTokens _ _ token c inside
      exact isPlain c (List.mem_append_right _ listed)
  · exact plain_of_isBlank c (cut.blankAfter c blank)

theorem content_eq (cut : Cut rule content) :
    content = (cut.before ++ cut.lead) ++ cut.core ++ (cut.trail ++ cut.after) := by
  have whole := cut.whole
  simpa only [List.append_assoc] using whole

/-- A trim with plain tokens keeps the placeholders of its content. -/
theorem scan_core (isPlain : PlainRule rule) (cut : Cut rule content) :
    scan none cut.core = scan none content := by
  conv => rhs; rw [content_eq cut]
  rw [scan_append_plain none _ _ (plain_trail isPlain cut),
    scan_plain_append _ _ (plain_lead isPlain cut)]

end Stripping

section Separation

/-- Every hash is followed by a brace. -/
def HashesOpen (text : List Char) : Prop :=
  ∀ before after, text = before ++ '#' :: after → after.head? = some '{'

/-- Every brace is preceded by a hash. -/
def BracesOpened (text : List Char) : Prop :=
  ∀ before after, text = before ++ '{' :: after → before.getLast? = some '#'

/-- A property of texts under which no placeholder comes about where two of them meet, and which
plain stripping keeps. -/
structure Separating (safe : List Char → Prop) : Prop where
  empty : safe []
  append : ∀ {first second}, safe first → safe second → safe (first ++ second)
  core : ∀ {head middle tail}, safe (head ++ middle ++ tail) → (∀ c ∈ tail, plain c = true) →
    (∀ c ∈ head, plain c = true) → safe middle
  apart : ∀ {first second}, safe first → safe second → first.getLast? = some '#' →
    second.head? ≠ some '{'

theorem hashesOpen_separating : Separating HashesOpen where
  empty := by
    intro before after same
    simp at same
  append := by
    intro first second firstSafe secondSafe before after same
    rcases List.append_eq_append_iff.mp same with ⟨rest, rfl, right⟩ | ⟨rest, rfl, right⟩
    -- The hash stands in the second text, or in the first with the seam somewhere behind it.
    · exact secondSafe rest after right
    · cases rest with
      | nil => exact secondSafe [] after right.symm
      | cons c rest =>
          simp only [List.cons_append, List.cons.injEq] at right
          obtain ⟨rfl, rfl⟩ := right
          have inside := firstSafe before rest rfl
          rw [List.head?_append, inside]
          rfl
  core := by
    intro head middle tail whole plainTail _ before after same
    subst same
    have inside := whole (head ++ before) (after ++ tail) (by simp)
    cases after with
    | nil =>
        obtain ⟨rest, rfl⟩ := List.head?_eq_some_iff.mp inside
        exact absurd (plainTail '{' List.mem_cons_self) (by decide)
    | cons c after => simpa using inside
  apart := by
    intro first second firstSafe _ last
    obtain ⟨before, rfl⟩ := List.getLast?_eq_some_iff.mp last
    have inside := firstSafe before [] rfl
    simp at inside

theorem bracesOpened_separating : Separating BracesOpened where
  empty := by
    intro before after same
    simp at same
  append := by
    intro first second firstSafe secondSafe before after same
    -- The brace is in the second text, or in the first one.
    rcases List.append_eq_append_iff.mp same with ⟨rest, rfl, right⟩ | ⟨rest, rfl, right⟩
    · have inside := secondSafe rest after right
      rw [List.getLast?_append, inside]
      rfl
    · cases rest with
      | nil =>
          have inside := secondSafe [] after right.symm
          simp at inside
      | cons c rest =>
          simp only [List.cons_append, List.cons.injEq] at right
          obtain ⟨rfl, rfl⟩ := right
          exact firstSafe before rest rfl
  core := by
    intro head middle tail whole _ plainHead before after same
    subst same
    have inside := whole (head ++ before) (after ++ tail) (by simp)
    rw [List.getLast?_append] at inside
    cases last : before.getLast? with
    | none =>
        rw [last, Option.none_or] at inside
        exact absurd (plainHead '#' (List.mem_of_getLast? inside)) (by decide)
    | some c => simpa [last] using inside
  apart := by
    intro first second _ secondSafe _ start
    obtain ⟨rest, rfl⟩ := List.head?_eq_some_iff.mp start
    have inside := secondSafe [] rest rfl
    simp at inside

end Separation

section Bodies

variable {m : Mapper} {statement : Statement} {record : Record} {safe : List Char → Prop}

theorem scan_join (separating : Separating safe) {first second : List Char}
    {firstNames secondNames : List String} (firstSafe : safe first) (secondSafe : safe second)
    (firstRead : scan none first = (firstNames, true))
    (secondRead : scan none second = (secondNames, true)) :
    scan none (first ++ second) = (firstNames ++ secondNames, true) := by
  rw [scan_append none first second (by rw [firstRead])
    (separating.apart firstSafe secondSafe), firstRead, secondRead]

theorem scan_literal (literal : String) (ended : closed literal.toList = true) :
    scan none literal.toList = (names literal.toList, true) := by
  rw [← ended]
  rfl

/-- The text of a body has the placeholders of its literals, if what is stripped is plain and the
literals cannot meet in a placeholder. Trims may be nested. -/
theorem scan_of_plain (separating : Separating safe) {body : List Node} {output : List Char}
    {literals : List String} (rendered : Renders m statement record body output literals)
    (rules : ∀ rule ∈ bodyRules body, PlainRule rule)
    (safeLiterals : ∀ literal ∈ literals, safe literal.toList)
    (ended : ∀ literal ∈ literals, closed literal.toList = true) :
    safe output ∧ scan none output = (literalsNames literals, true) := by
  induction rendered with
  | done => exact ⟨separating.empty, rfl⟩
  | @text value rest output literals _ ih | @fragment _ value rest output literals _ _ ih =>
      rw [List.forall_mem_cons] at safeLiterals ended
      simp only [bodyRules, nodeRules, List.nil_append] at rules
      obtain ⟨restSafe, restRead⟩ := ih rules safeLiterals.2 ended.2
      exact ⟨separating.append safeLiterals.1 restSafe,
        scan_join separating safeLiterals.1 restSafe (scan_literal value ended.1) restRead⟩
  | skipped _ _ ih =>
      refine ih (fun rule member => rules rule ?_) safeLiterals ended
      simp [bodyRules, member]
  | @taken test body rest inner output own literals _ _ _ within after =>
      simp only [bodyRules, nodeRules, List.forall_mem_append] at rules
      rw [List.forall_mem_append] at safeLiterals ended
      obtain ⟨innerSafe, innerRead⟩ := within rules.1 safeLiterals.1 ended.1
      obtain ⟨restSafe, restRead⟩ := after rules.2 safeLiterals.2 ended.2
      refine ⟨separating.append innerSafe restSafe, ?_⟩
      rw [scan_join separating innerSafe restSafe innerRead restRead]
      simp [literalsNames]
  | @trimmed rule body rest inner output own literals _ _ within after =>
      simp only [bodyRules, nodeRules, List.cons_append, List.forall_mem_cons,
        List.forall_mem_append] at rules
      simp only [List.cons_append, List.forall_mem_cons, List.forall_mem_append]
        at safeLiterals ended
      obtain ⟨openingSafe, ownSafe, closingSafe, otherSafe⟩ := safeLiterals
      obtain ⟨openingEnded, ownEnded, closingEnded, otherEnded⟩ := ended
      obtain ⟨innerSafe, innerRead⟩ := within rules.2.1 ownSafe ownEnded
      obtain ⟨restSafe, restRead⟩ := after rules.2.2 otherSafe otherEnded
      obtain ⟨cut, wrapped⟩ := trimChars_cut rule inner
      -- The core takes over what is known of the whole content.
      have coreRead := (scan_core rules.1 cut).trans innerRead
      have coreSafe : safe cut.core := by
        rw [content_eq cut] at innerSafe
        exact separating.core innerSafe (plain_trail rules.1 cut) (plain_lead rules.1 cut)
      have openedSafe := separating.append openingSafe coreSafe
      have openedRead := scan_join separating openingSafe coreSafe
        (scan_literal rule.opening openingEnded) coreRead
      have closedSafe := separating.append openedSafe closingSafe
      have closedRead := scan_join separating openedSafe closingSafe openedRead
        (scan_literal rule.closing closingEnded)
      rw [wrapped]
      refine ⟨separating.append closedSafe restSafe, ?_⟩
      rw [scan_join separating closedSafe restSafe closedRead restRead]
      simp [literalsNames]

end Bodies

end SqlMapper.Placeholder
