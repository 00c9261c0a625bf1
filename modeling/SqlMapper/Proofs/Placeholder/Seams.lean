import SqlMapper.Proofs.Placeholder.Plain

/-!
The hash flag of the walk, followed along the pieces that a record puts together. Where a piece may
come to end in a hash, the next one cannot come to start with a brace. This carries over to what a
trim leaves of the pieces, as long as it leaves something of each and stands inside no other trim.
-/

namespace SqlMapper.Placeholder

open Code Outcome Sql

section Chains

/-- Pieces that follow one another under the hash flag: it is `hash` before them and at least
`after` behind them. -/
def Chained (strip : Stripping) : Bool → List (List Char) → Bool → Prop
  | hash, [], after => hash = true → after = true
  | hash, piece :: rest, after =>
      (hash = true → strip.startsBrace piece = false) ∧
        Chained strip (strip.endsHash piece) rest after

theorem startsWith_iff (c : Char) (text : List Char) :
    Stripping.startsWith c text = true ↔ text.head? = some c := by
  rw [Stripping.startsWith]
  cases text with
  | nil => simp [List.isPrefixOf]
  | cons d rest =>
      simp only [List.isPrefixOf, Bool.and_true, beq_iff_eq, List.head?_cons, Option.some.injEq]
      exact eq_comm

theorem endsWith_iff (c : Char) (text : List Char) :
    Stripping.endsWith c text = true ↔ text.getLast? = some c := by
  rw [Stripping.endsWith, List.isSuffixOf, ← List.head?_reverse]
  exact startsWith_iff c text.reverse

theorem startsBrace_none (text : List Char) :
    Stripping.none.startsBrace text = true ↔ text.head? = some '{' := by
  simp [Stripping.startsBrace, Stripping.none, startsWith_iff]

theorem endsHash_none (text : List Char) :
    Stripping.none.endsHash text = true ↔ text.getLast? = some '#' := by
  simp [Stripping.endsHash, Stripping.none, endsWith_iff]

variable {strip : Stripping}

theorem startsBrace_of_head (text : List Char) (first : text.head? = some '{') :
    strip.startsBrace text = true := by
  simp [Stripping.startsBrace, (startsWith_iff '{' text).mpr first]

theorem endsHash_of_last (text : List Char) (last : text.getLast? = some '#') :
    strip.endsHash text = true := by
  simp [Stripping.endsHash, (endsWith_iff '#' text).mpr last]

theorem chained_mono {hash hash' after after' : Bool} {pieces : List (List Char)}
    (chain : Chained strip hash pieces after) (start : hash' = true → hash = true)
    (stop : after = true → after' = true) : Chained strip hash' pieces after' := by
  induction pieces generalizing hash hash' with
  | nil => exact fun holds => stop (chain (start holds))
  | cons piece rest ih => exact ⟨fun holds => chain.1 (start holds), ih chain.2 id⟩

theorem chained_append {hash middle after : Bool} {first second : List (List Char)}
    (left : Chained strip hash first middle) (right : Chained strip middle second after) :
    Chained strip hash (first ++ second) after := by
  induction first generalizing hash with
  | nil => exact chained_mono right left id
  | cons piece rest ih => exact ⟨left.1, ih left.2⟩

theorem scan_chained (pieces : List (List Char)) (hash after : Bool) (text : List Char)
    (chain : Chained .none hash pieces after)
    (whole : ∀ piece ∈ pieces, closed piece = true ∧ piece ≠ [])
    (ended : closed text = true) (flagged : text.getLast? = some '#' → hash = true) :
    scan none (text ++ pieces.flatten) = (names text ++ pieces.flatMap names, true) := by
  -- `text` is what has been read so far, and the flag is set if it ends in a hash.
  induction pieces generalizing hash text with
  | nil => simp [names, ← ended, closed]
  | cons piece rest ih =>
      rw [List.forall_mem_cons] at whole
      obtain ⟨⟨pieceEnded, written⟩, others⟩ := whole
      have apart : text.getLast? = some '#' → piece.head? ≠ some '{' := by
        intro last first
        have started := (startsBrace_none piece).mpr first
        rw [chain.1 (flagged last)] at started
        cases started
      have nextFlagged : (text ++ piece).getLast? = some '#' →
          Stripping.none.endsHash piece = true := by
        intro last
        rw [List.getLast?_append_of_ne_nil _ written] at last
        exact (endsHash_none piece).mpr last
      have next := ih (Stripping.none.endsHash piece) (text ++ piece) chain.2 others
        (by rw [closed_append text piece ended apart, pieceEnded]) nextFlagged
      rw [List.flatten_cons, ← List.append_assoc, next, names_append text piece ended apart]
      simp

end Chains

section Cutting

variable {rule : TrimRule} {content : List Char}

/-- A literal of which a rule leaves something, whatever it strips from it. -/
def Outlasts (rule : TrimRule) (literal : List Char) : Prop :=
  ∀ lead ∈ [] :: overrideTokens rule.leading.toList,
    ∀ trail ∈ [] :: overrideTokens rule.trailing.toList,
      lead.length + trail.length < (Text.strip Text.isBlank literal).length

theorem startsBrace_of_token (strip : Stripping) (token rest text : List Char)
    (listed : token = [] ∨ token ∈ strip.leading) (active : strip.active = true)
    (bare : text.dropWhile Text.isBlank = token ++ rest) (first : rest.head? = some '{') :
    strip.startsBrace text = true := by
  have started := (startsWith_iff '{' rest).mpr first
  simp only [Stripping.startsBrace, active, bare, Bool.true_and, Bool.or_eq_true]
  rcases listed with none | member
  · subst none
    exact .inr (.inl started)
  · have cutOff : token.isPrefixOf? (token ++ rest) = some rest :=
      List.isPrefixOf?_eq_some_iff_append_eq.mpr rfl
    exact .inr (.inr (List.any_eq_true.mpr ⟨token, member, by rw [cutOff]; exact started⟩))

theorem endsHash_of_token (strip : Stripping) (token rest text : List Char)
    (listed : token = [] ∨ token ∈ strip.trailing) (active : strip.active = true)
    (bare : Text.dropRight Text.isBlank text = rest ++ token) (last : rest.getLast? = some '#') :
    strip.endsHash text = true := by
  have ended := (endsWith_iff '#' rest).mpr last
  simp only [Stripping.endsHash, active, bare, Bool.true_and, Bool.or_eq_true]
  rcases listed with none | member
  · subst none
    rw [List.append_nil]
    exact .inr (.inl ended)
  · have cutOff : token.isSuffixOf? (rest ++ token) = some rest :=
      List.isSuffixOf?_eq_some_iff_append_eq.mpr rfl
    exact .inr (.inr (List.any_eq_true.mpr ⟨token, member, by rw [cutOff]; exact ended⟩))

/-- What is left of the first piece starts with a brace only if the walk expects it to. -/
theorem startsBrace_of_cut (cut : Cut rule content) (strip : Stripping) (rest : List Char)
    (first : rest.head? = some '{') :
    (strip.under rule).startsBrace (cut.before ++ (cut.lead ++ rest)) = true := by
  have startsBare : ∀ c, (cut.lead ++ rest).head? = some c → Text.isBlank c = false := by
    intro c start
    cases lead : cut.lead with
    | nil =>
        rw [lead, List.nil_append, first, Option.some.injEq] at start
        subst start
        rfl
    | cons d tail =>
        rw [lead] at start
        exact cut.startsBare c (by rw [lead]; exact start)
  exact startsBrace_of_token _ cut.lead rest _
    (cut.leadToken.imp_right (List.mem_append_right strip.leading)) rfl
    (dropWhile_blanks Text.isBlank cut.before _ cut.blankBefore startsBare) first

/-- What is left of the last piece ends in a hash only if the walk expects it to. -/
theorem endsHash_of_cut (cut : Cut rule content) (strip : Stripping) (rest : List Char)
    (last : rest.getLast? = some '#') :
    (strip.under rule).endsHash (rest ++ cut.trail ++ cut.after) = true := by
  have endsBare : ∀ c, (rest ++ cut.trail).getLast? = some c → Text.isBlank c = false := by
    intro c stop
    rw [List.getLast?_append] at stop
    cases trail : cut.trail.getLast? with
    | none =>
        rw [trail, last, Option.none_or, Option.some.injEq] at stop
        subst stop
        rfl
    | some d =>
        rw [trail, Option.some_or] at stop
        exact cut.endsBare c (by rw [List.getLast?_append, trail]; exact stop)
  exact endsHash_of_token _ cut.trail rest _
    (cut.trailToken.imp_right (List.mem_append_right strip.trailing)) rfl
    (dropRight_blanks Text.isBlank _ cut.after cut.blankAfter endsBare) last

theorem lead_shorter (cut : Cut rule content) (piece tail : List Char)
    (split : content = piece ++ tail) (outlasts : Outlasts rule piece) :
    (cut.before ++ cut.lead).length < piece.length := by
  obtain ⟨before, after, whole, _, _, startsBare, _⟩ := strip_append Text.isBlank piece
  have room := outlasts cut.lead (List.mem_cons.mpr cut.leadToken) [] List.mem_cons_self
  cases bare : Text.strip Text.isBlank piece with
  | nil => simp [bare] at room
  | cons c rest =>
      rw [bare] at whole room startsBare
      have same : cut.before ++ (cut.lead ++ cut.core ++ cut.trail ++ cut.after) =
          before ++ (c :: rest ++ after ++ tail) := by
        have left : cut.before ++ (cut.lead ++ cut.core ++ cut.trail) ++ cut.after =
            before ++ c :: rest ++ after ++ tail := by rw [← cut.whole, split, whole]
        simpa only [List.append_assoc] using left
      have short := blanks_le Text.isBlank _ _ _ _ same cut.blankBefore c rfl (startsBare c rfl)
      have total := congrArg List.length whole
      simp only [List.length_append, List.length_cons, List.length_nil] at total room ⊢
      omega

theorem trail_shorter (cut : Cut rule content) (front piece : List Char)
    (split : content = front ++ piece) (outlasts : Outlasts rule piece) :
    (cut.trail ++ cut.after).length < piece.length := by
  obtain ⟨before, after, whole, _, _, _, endsBare⟩ := strip_append Text.isBlank piece
  have room := outlasts [] List.mem_cons_self cut.trail (List.mem_cons.mpr cut.trailToken)
  obtain ⟨bare, bareIs⟩ : ∃ bare, Text.strip Text.isBlank piece = bare := ⟨_, rfl⟩
  rw [bareIs] at whole room endsBare
  cases last : bare.getLast? with
  | none => simp [List.getLast?_eq_none_iff.mp last] at room
  | some c =>
      -- The same argument as at the start, read backwards.
      have same : cut.after.reverse ++ (cut.before ++ (cut.lead ++ cut.core ++ cut.trail)).reverse =
          after.reverse ++ (front ++ before ++ bare).reverse := by
        have left : cut.before ++ (cut.lead ++ cut.core ++ cut.trail) ++ cut.after =
            front ++ (before ++ bare ++ after) := by rw [← cut.whole, split, whole]
        rw [← List.reverse_append, ← List.reverse_append, left]
        simp only [List.append_assoc]
      have start : (front ++ before ++ bare).reverse.head? = some c := by
        rw [List.head?_reverse, List.getLast?_append, last]
        rfl
      have short := blanks_le Text.isBlank _ _ _ _ same
        (fun d member => cut.blankAfter d (List.mem_reverse.mp member)) c start (endsBare c last)
      have total := congrArg List.length whole
      simp only [List.length_append, List.length_reverse, List.length_nil] at total room short ⊢
      omega

end Cutting

section Kept

variable {rule : TrimRule} {strip : Stripping}

/-- A text put together from pieces that are read apart, under the hash flag. -/
def Pieced (hash : Bool) (text : List Char) (found : List String) (after : Bool) : Prop :=
  ∃ pieces : List (List Char), text = pieces.flatten ∧ pieces.flatMap names = found ∧
    (∀ piece ∈ pieces, closed piece = true ∧ piece ≠ []) ∧ Chained .none hash pieces after

theorem pieced_mono {hash hash' after after' : Bool} {text : List Char} {found : List String}
    (pieced : Pieced hash text found after) (start : hash' = true → hash = true)
    (stop : after = true → after' = true) : Pieced hash' text found after' := by
  obtain ⟨pieces, joined, listed, whole, chain⟩ := pieced
  exact ⟨pieces, joined, listed, whole, chained_mono chain start stop⟩

theorem pieced_append {hash middle after : Bool} {first second : List Char}
    {firstFound secondFound : List String} (left : Pieced hash first firstFound middle)
    (right : Pieced middle second secondFound after) :
    Pieced hash (first ++ second) (firstFound ++ secondFound) after := by
  obtain ⟨pieces, rfl, rfl, whole, chain⟩ := left
  obtain ⟨others, rfl, rfl, otherWhole, otherChain⟩ := right
  refine ⟨pieces ++ others, by simp, by simp, ?_, chained_append chain otherChain⟩
  exact List.forall_mem_append.mpr ⟨whole, otherWhole⟩

-- What is kept of a piece cannot start with a brace where the walk rules that out for the piece.
theorem startsBrace_kept {piece kept : List Char} (unbraced : strip.startsBrace piece = false)
    (shown : kept.head? = some '{' → strip.startsBrace piece = true) :
    Stripping.none.startsBrace kept = false := by
  rw [← Bool.not_eq_true]
  intro started
  have braced := shown ((startsBrace_none kept).mp started)
  rw [unbraced] at braced
  cases braced

/-- Only the last of the pieces is cut, at its end. -/
theorem chained_cut_last (middle : List (List Char)) (last kept : List Char)
    {hash hash' after : Bool} (chain : Chained strip hash (middle ++ [last]) after)
    (start : hash' = true → hash = true)
    (first : kept.head? = some '{' → last.head? = some '{')
    (stop : kept.getLast? = some '#' → strip.endsHash last = true) :
    Chained .none hash' (middle ++ [kept]) after := by
  induction middle generalizing hash hash' with
  | nil =>
      refine ⟨fun holds => ?_, fun holds => chain.2 (stop ((endsHash_none kept).mp holds))⟩
      apply startsBrace_kept (chain.1 (start holds))
      intro braced
      exact startsBrace_of_head last (first braced)
  | cons piece rest ih =>
      refine ⟨fun holds => ?_, ih chain.2 ?_⟩
      · exact startsBrace_kept (chain.1 (start holds)) (startsBrace_of_head piece)
      · exact fun holds => endsHash_of_last piece ((endsHash_none piece).mp holds)

theorem pieced_core_single (isPlain : PlainRule rule) (piece : List Char) (hash after : Bool)
    (cut : Cut rule piece) (outlasts : Outlasts rule piece) (ended : closed piece = true)
    (chain : Chained (Stripping.none.under rule) hash [piece] after) :
    Pieced hash cut.core (names piece) after := by
  have room := outlasts cut.lead (List.mem_cons.mpr cut.leadToken) cut.trail
    (List.mem_cons.mpr cut.trailToken)
  have written : cut.core ≠ [] := by
    intro none
    rw [cut.stripped] at room
    simp [none] at room
  have read := scan_core isPlain cut
  have whole : ∀ kept ∈ [cut.core], closed kept = true ∧ kept ≠ [] := by
    intro kept member
    rw [List.mem_singleton.mp member, closed, read]
    exact ⟨ended, written⟩
  refine ⟨[cut.core], by simp, by simp [names, read], whole, ?_, ?_⟩
  · intro holds
    apply startsBrace_kept (chain.1 holds)
    intro first
    have shown := startsBrace_of_cut cut .none (cut.core ++ (cut.trail ++ cut.after))
      (by rw [List.head?_append, first]; rfl)
    have same : cut.before ++ (cut.lead ++ (cut.core ++ (cut.trail ++ cut.after))) = piece := by
      simpa only [List.append_assoc] using (content_eq cut).symm
    rwa [same] at shown
  · intro ends
    have last := (endsHash_none cut.core).mp ends
    have shown := endsHash_of_cut cut .none (cut.before ++ cut.lead ++ cut.core)
      (by rw [List.getLast?_append, last]; rfl)
    have same : cut.before ++ cut.lead ++ cut.core ++ cut.trail ++ cut.after = piece := by
      simpa only [List.append_assoc] using (content_eq cut).symm
    rw [same] at shown
    exact chain.2 shown

theorem pieced_core_several (isPlain : PlainRule rule) {content : List Char}
    (first last : List Char) (middle : List (List Char)) (hash after : Bool)
    (split : content = first ++ (middle.flatten ++ last)) (cut : Cut rule content)
    (firstOutlasts : Outlasts rule first) (lastOutlasts : Outlasts rule last)
    (whole : ∀ piece ∈ middle, closed piece = true ∧ piece ≠ [])
    (firstEnded : closed first = true) (lastEnded : closed last = true)
    (chain : Chained (Stripping.none.under rule) hash (first :: (middle ++ [last])) after) :
    Pieced hash cut.core (names first ++ (middle.flatMap names ++ names last)) after := by
  have leadShort := lead_shorter cut first _ split firstOutlasts
  have trailShort := trail_shorter cut (first ++ middle.flatten) last
    (by rw [split, List.append_assoc]) lastOutlasts
  -- The cut at the start falls into the first piece, the cut at the end into the last one.
  obtain ⟨firstKept, firstCut⟩ : cut.before ++ cut.lead <+: first := by
    have cutOff : cut.before ++ cut.lead <+: content :=
      ⟨cut.core ++ (cut.trail ++ cut.after), by rw [← List.append_assoc, ← content_eq cut]⟩
    have piece : first <+: content := ⟨middle.flatten ++ last, split.symm⟩
    exact List.prefix_of_prefix_length_le cutOff piece (Nat.le_of_lt leadShort)
  obtain ⟨lastKept, lastCut⟩ : cut.trail ++ cut.after <:+ last := by
    have cutOff : cut.trail ++ cut.after <:+ content :=
      ⟨cut.before ++ cut.lead ++ cut.core, (content_eq cut).symm⟩
    have piece : last <:+ content :=
      ⟨first ++ middle.flatten, by rw [split, List.append_assoc]⟩
    exact List.suffix_of_suffix_length_le cutOff piece (Nat.le_of_lt trailShort)
  have firstWritten : firstKept ≠ [] := by
    intro none
    rw [← firstCut, none, List.append_nil] at leadShort
    exact absurd leadShort (Nat.lt_irrefl _)
  have lastWritten : lastKept ≠ [] := by
    intro none
    rw [← lastCut, none, List.nil_append] at trailShort
    exact absurd trailShort (Nat.lt_irrefl _)
  -- So all pieces but these two are kept as they are.
  have joined : cut.core = firstKept ++ (middle.flatten ++ lastKept) := by
    have same : (cut.before ++ cut.lead) ++ cut.core ++ (cut.trail ++ cut.after) =
        (cut.before ++ cut.lead) ++ (firstKept ++ (middle.flatten ++ lastKept)) ++
          (cut.trail ++ cut.after) := by
      refine ((content_eq cut).symm.trans split).trans ?_
      rw [← firstCut, ← lastCut]
      simp only [List.append_assoc]
    exact List.append_cancel_left (List.append_cancel_right same)
  have firstRead : scan none firstKept = scan none first := by
    rw [← firstCut, scan_plain_append _ _ (plain_lead isPlain cut)]
  have lastRead : scan none lastKept = scan none last := by
    rw [← lastCut, scan_append_plain none _ _ (plain_trail isPlain cut)]
  refine ⟨firstKept :: (middle ++ [lastKept]), by simp [joined], ?_, ?_, ?_, ?_⟩
  · simp [names, firstRead, lastRead]
  · simp only [List.forall_mem_cons, List.forall_mem_append]
    exact ⟨⟨by rw [closed, firstRead]; exact firstEnded, firstWritten⟩, whole,
      ⟨by rw [closed, lastRead]; exact lastEnded, lastWritten⟩, by simp⟩
  · intro holds
    apply startsBrace_kept (chain.1 holds)
    intro braced
    have shown := startsBrace_of_cut cut .none firstKept braced
    rwa [← List.append_assoc, firstCut] at shown
  · apply chained_cut_last middle last lastKept chain.2
    · intro holds
      apply endsHash_of_last
      rw [← firstCut, List.getLast?_append_of_ne_nil _ firstWritten]
      exact (endsHash_none firstKept).mp holds
    · intro start
      rw [← lastCut, List.head?_append, start]
      rfl
    · intro stop
      have shown := endsHash_of_cut cut .none lastKept stop
      rwa [List.append_assoc, lastCut] at shown

/-- A trim that is nested in no other leaves pieces that are still read apart. -/
theorem pieced_core (isPlain : PlainRule rule) (pieces : List (List Char)) {content : List Char}
    (same : content = pieces.flatten) (hash after : Bool)
    (outlasts : ∀ piece ∈ pieces, Outlasts rule piece)
    (whole : ∀ piece ∈ pieces, closed piece = true ∧ piece ≠ [])
    (chain : Chained (Stripping.none.under rule) hash pieces after) (cut : Cut rule content) :
    Pieced hash cut.core (pieces.flatMap names) after := by
  cases pieces with
  | nil =>
      have none : cut.core = [] := by
        have empty : (cut.before ++ cut.lead) ++ cut.core ++ (cut.trail ++ cut.after) = [] :=
          (content_eq cut).symm.trans same
        simp only [List.append_eq_nil_iff] at empty
        exact empty.1.2
      exact ⟨[], by rw [none]; rfl, rfl, by simp, chain⟩
  | cons first rest =>
      rw [List.forall_mem_cons] at outlasts whole
      rcases List.eq_nil_or_concat rest with none | ⟨middle, last, concat⟩
      · subst none
        have only : content = first := by simpa using same
        subst only
        simpa using pieced_core_single isPlain content hash after cut outlasts.1 whole.1.1 chain
      · rw [List.concat_eq_append] at concat
        subst concat
        simp only [List.forall_mem_append, List.forall_mem_singleton] at outlasts whole
        have several := pieced_core_several isPlain first last middle hash after
          (by simpa using same) cut outlasts.1 outlasts.2.2 whole.2.1 whole.1.1 whole.2.2.1 chain
        simpa using several

end Kept

end SqlMapper.Placeholder
