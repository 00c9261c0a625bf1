import SqlMapper.Proofs.Placeholder.Soundness

/-!
Where the placeholders of a text are those of its literals, one literal after the other: in bodies
without trims, and in bodies in which every hash opens a placeholder and no trim can strip a
character of one. None is then lost, cut, merged or created.
-/

namespace SqlMapper.Placeholder

open Code Outcome Sql

section Tokens

/-- A character other than the separator belongs to one of the pieces of a list. -/
theorem mem_splitAt_of_mem (separator : Char) (list : List Char) (c : Char) (inside : c ∈ list)
    (other : c ≠ separator) : ∃ piece ∈ Text.splitAt separator list, c ∈ piece := by
  induction list with
  | nil => cases inside
  | cons first rest ih =>
      rw [Text.splitAt]
      by_cases separates : first = separator
      · simp only [separates, beq_self_eq_true, ↓reduceIte, List.mem_cons]
        rcases List.mem_cons.mp inside with same | later
        · exact absurd (same.trans separates) other
        · obtain ⟨piece, listed, held⟩ := ih later
          exact ⟨piece, .inr listed, held⟩
      · simp only [beq_iff_eq, separates, ↓reduceIte]
        cases split : Text.splitAt separator rest with
        | nil =>
            -- A rest with a character in it has a piece.
            rcases List.mem_cons.mp inside with same | later
            · exact ⟨[first], List.mem_singleton.mpr rfl, List.mem_singleton.mpr same⟩
            · obtain ⟨piece, listed, _⟩ := ih later
              rw [split] at listed
              cases listed
        | cons next pieces =>
            rcases List.mem_cons.mp inside with same | later
            · exact ⟨first :: next, List.mem_cons_self, List.mem_cons.mpr (.inl same)⟩
            · obtain ⟨piece, listed, held⟩ := ih later
              rw [split] at listed
              rcases List.mem_cons.mp listed with here | there
              · subst here
                exact ⟨first :: piece, List.mem_cons_self, List.mem_cons_of_mem first held⟩
              · exact ⟨piece, List.mem_cons_of_mem _ there, held⟩

/-- The tokens that a rule may strip hold no character of a placeholder. -/
def PlainTokens (rule : TrimRule) : Prop :=
  ∀ token ∈ overrideTokens rule.leading.toList ++ overrideTokens rule.trailing.toList,
    ∀ c ∈ token, plain c = true

instance (rule : TrimRule) : Decidable (PlainTokens rule) :=
  decidable_of_iff
    ((overrideTokens rule.leading.toList ++ overrideTokens rule.trailing.toList).all
      (·.all plain) = true)
    (by simp only [PlainTokens, List.all_eq_true])

theorem plain_of_overrideTokens (list : List Char)
    (tokens : ∀ token ∈ overrideTokens list, ∀ c ∈ token, plain c = true) :
    ∀ c ∈ list, plain c = true := by
  intro c inside
  by_cases separator : c = '|'
  · subst separator
    rfl
  · obtain ⟨piece, listed, held⟩ := mem_splitAt_of_mem '|' list c inside separator
    have filled : (!piece.isEmpty) = true := by
      cases piece with
      | nil => cases held
      | cons => rfl
    exact tokens piece (List.mem_filter.mpr ⟨listed, filled⟩) c held

theorem plainRule_of_plainTokens {rule : TrimRule} (tokens : PlainTokens rule) :
    PlainRule rule := by
  intro c member
  rcases List.mem_append.mp member with leading | trailing
  · apply plain_of_overrideTokens rule.leading.toList _ c leading
    intro token listed
    exact tokens token (List.mem_append_left _ listed)
  · apply plain_of_overrideTokens rule.trailing.toList _ c trailing
    intro token listed
    exact tokens token (List.mem_append_right _ listed)

end Tokens

section Hashes

def hashesOpenFrom : List Char → Bool
  | [] => true
  | c :: rest => (c != '#' || rest.head? == some '{') && hashesOpenFrom rest

theorem hashesOpenFrom_iff (text : List Char) : hashesOpenFrom text = true ↔ HashesOpen text := by
  induction text with
  | nil => simp [hashesOpenFrom, hashesOpen_separating.empty]
  | cons c rest ih =>
      rw [hashesOpenFrom, Bool.and_eq_true, ih]
      constructor
      · rintro ⟨here, later⟩ before after same
        cases before with
        | nil =>
            simp only [List.nil_append, List.cons.injEq] at same
            obtain ⟨rfl, rfl⟩ := same
            simpa using here
        | cons d before =>
            simp only [List.cons_append, List.cons.injEq] at same
            exact later before after same.2
      · intro all
        refine ⟨?_, fun before after same => all (c :: before) after (by rw [same]; rfl)⟩
        by_cases hash : c = '#'
        · subst hash
          simpa using all [] rest rfl
        · simp [hash]

instance (text : List Char) : Decidable (HashesOpen text) :=
  decidable_of_iff _ (hashesOpenFrom_iff text)

end Hashes

/-- A body without trims, or one in which every hash opens a placeholder within its literal and no
token holds a character of a placeholder. -/
def Composing (m : Mapper) (body : List Node) : Prop :=
  bodyRules body = [] ∨
    (∀ literal ∈ bodyLiterals m body, HashesOpen literal.toList) ∧
      ∀ rule ∈ bodyRules body, PlainTokens rule

instance (m : Mapper) (body : List Node) : Decidable (Composing m body) :=
  inferInstanceAs (Decidable (_ ∨ _ ∧ _))

mutual

theorem solidBody_of_no_rules (m : Mapper) (body : List Node) (bare : bodyRules body = []) :
    SolidBody m body := by
  cases body with
  | nil => trivial
  | cons node rest =>
      rw [bodyRules, List.append_eq_nil_iff] at bare
      exact ⟨solidNode_of_no_rules m node bare.1, solidBody_of_no_rules m rest bare.2⟩

theorem solidNode_of_no_rules (m : Mapper) (node : Node) (bare : nodeRules node = []) :
    SolidNode m node := by
  cases node with
  | text value => trivial
  | fragment reference => trivial
  | conditional test body => exact solidBody_of_no_rules m body bare
  | trim rule body => cases bare

end

theorem seamless_of_composing {m : Mapper} {body : List Node} (composing : Composing m body) :
    Seamless m body := by
  rcases composing with bare | ⟨hashes, tokens⟩
  · exact .inl (solidBody_of_no_rules m body bare)
  · exact .inr ⟨fun rule member => plainRule_of_plainTokens (tokens rule member), .inl hashes⟩

/-- The bindings of an accepted statement are the placeholders of its emitted literals in order, and
no more than were counted. -/
theorem bindings_of_composing (m : Mapper) (accepted : Accepted m) (statement : Statement)
    (member : statement ∈ m.statements.values) (composing : Composing m statement.body)
    (record : Record) (sql : String) (rendered : render m statement record = .ok sql) :
    ∃ shape count literals prepared bindings, m.parameterShape statement = .ok shape ∧
      placeholderSlots m statement shape = .ok count ∧
      emittedBody m statement record statement.body = .ok literals ∧
      prepare shape record sql = .ok (prepared, bindings) ∧
      bindings.map (fun binding => binding.field.property) = literalPlaceholders literals ∧
      bindings.length ≤ count := by
  obtain ⟨shape, walk, found, walked, counted⟩ := walk_of_accepted m accepted statement member
  obtain ⟨literals, derived, emitted⟩ := renders_of_render sql rendered
  obtain ⟨checked, enough⟩ := checked_of_walkBody derived .none _ walk walked
  have read := scan_of_seamless derived (seamless_of_composing composing) walk walked
  have listed : names sql.toList = literalsNames literals := by rw [names, read]
  have known : ∀ name ∈ names sql.toList, (shape.field? name).isSome := by
    intro name held
    rw [listed, literalsNames, List.mem_flatMap] at held
    obtain ⟨literal, here, held⟩ := held
    exact (checked literal here).2 name held
  obtain ⟨prepared, bindings, success, properties⟩ :=
    (prepare_eq_ok_iff shape record sql (literalsNames literals)).mpr ⟨known, listed⟩
  refine ⟨shape, walk.count, literals, prepared, bindings, found, counted, emitted, success, ?_, ?_⟩
  · rw [literalPlaceholders_eq, properties]
  · have same := congrArg List.length properties
    rw [List.length_map] at same
    simp only [Nat.zero_add] at enough
    omega

/-- A trim inside a trim, of whose two conditions the second is taken. -/
def narrowing : List Node :=
  [.text "DELETE FROM t WHERE id > #\x7bid\x7d",
    .trim ⟨" AND (", ")", "AND |OR ", ""⟩
      [.conditional "id == YB_INT_NULL" [.text " AND id < #\x7bid\x7d"],
        .trim ⟨"", "", "", ","⟩ [.text " OR #\x7bid\x7d IN (#\x7bid\x7d, 3),"]]]

theorem narrowing_rendered :
    render (deleting narrowing) (deletion narrowing) ⟨[("id", .int 7)]⟩ =
      .ok "DELETE FROM t WHERE id > #\x7bid\x7d AND (#\x7bid\x7d IN (#\x7bid\x7d, 3))" := by
  decide +kernel

theorem narrowing_bindings :
    Composing (deleting narrowing) narrowing ∧
      ∃ prepared bindings,
        prepare identified ⟨[("id", .int 7)]⟩
          "DELETE FROM t WHERE id > #\x7bid\x7d AND (#\x7bid\x7d IN (#\x7bid\x7d, 3))" =
            .ok (prepared, bindings) ∧
        bindings.map (fun binding => binding.field.property) = ["id", "id", "id"] := by
  have composing : Composing (deleting narrowing) narrowing := by decide +kernel
  obtain ⟨shape, _, literals, prepared, bindings, found, _, emitted, success, listed, _⟩ :=
    bindings_of_composing (deleting narrowing) (by decide +kernel) (deletion narrowing)
      (List.mem_singleton.mpr rfl) composing ⟨[("id", .int 7)]⟩ _ narrowing_rendered
  have sameShape : identified = shape := Except.ok.inj found
  subst sameShape
  have spelled : (emittedBody (deleting narrowing) (deletion narrowing) ⟨[("id", .int 7)]⟩
      narrowing).map literalPlaceholders = .ok ["id", "id", "id"] := by decide +kernel
  rw [show (deletion narrowing).body = narrowing from rfl] at emitted
  rw [emitted] at spelled
  exact ⟨composing, prepared, bindings, success, listed.trans (Except.ok.inj spelled)⟩

end SqlMapper.Placeholder
