import SqlMapper.Files.Glob
import SqlMapper.Proofs.Files.Paths

/-!
What a pattern of one star selects. The text after the star has no special characters, so a matching
path ends in it; and the path as it is seen from a directory ends like the path itself. The default
pattern therefore selects no file whose name ends in another way.
-/

namespace SqlMapper.Glob

/-- A character that a pattern matches with itself only. -/
def Plain (c : Char) : Prop :=
  c ≠ '*' ∧ c ≠ '?' ∧ c ≠ '[' ∧ c ≠ '{' ∧ c ≠ '\\'

instance (c : Char) : Decidable (Plain c) :=
  inferInstanceAs (Decidable (_ ∧ _))

variable {ending text : List Char}

theorem ne_yes_failed (pattern : List Char) : failed pattern ≠ .yes := by
  rw [failed]
  split <;> simp

theorem mem_of_matchesNothing {fuel : Nat} {pattern : List Char} (brace : pattern.head? ≠ some '{')
    (matched : matchesNothing fuel pattern = .yes) :
    pattern ∈ ["", "*", "**", "/**", "**/", "/**/"].map String.toList := by
  cases fuel with
  | zero => cases matched
  | succ fuel =>
      have other : ∀ inner, pattern = '{' :: inner → False := by
        rintro inner rfl
        exact brace rfl
      rw [matchesNothing.eq_3 _ _ other] at matched
      split at matched
      · next listed =>
          obtain ⟨empty, member, same⟩ := List.any_eq_true.mp listed
          exact List.mem_map.mpr ⟨empty, member, beq_iff_eq.mp same⟩
      · exact absurd matched (ne_yes_failed _)

/-- Without special characters only the empty pattern matches the empty text. -/
theorem eq_nil_of_matchesNothing {fuel : Nat} {pattern : List Char}
    (plain : ∀ c ∈ pattern, Plain c) (matched : matchesNothing fuel pattern = .yes) :
    pattern = [] := by
  have star : '*' ∉ pattern := fun member => (plain _ member).1 rfl
  have brace : pattern.head? ≠ some '{' := fun head =>
    (plain _ (List.mem_of_head? head)).2.2.2.1 rfl
  have listed := mem_of_matchesNothing brace matched
  simp only [List.map_cons, List.map_nil, List.mem_cons, List.not_mem_nil, or_false] at listed
  rcases listed with rfl | rfl | rfl | rfl | rfl | rfl
  · rfl
  all_goals exact absurd (by decide) star

theorem validFrom_plain {pattern : List Char} (plain : ∀ c ∈ pattern, Plain c)
    (closed : '}' ∉ pattern) {fuel : Nat} (enough : pattern.length < fuel) :
    validFrom fuel 0 pattern = true := by
  induction pattern generalizing fuel with
  | nil =>
      obtain ⟨less, rfl⟩ := Nat.exists_eq_succ_of_ne_zero (Nat.ne_of_gt enough)
      rfl
  | cons c rest ih =>
      obtain ⟨less, rfl⟩ := Nat.exists_eq_succ_of_ne_zero (Nat.ne_of_gt (Nat.zero_lt_of_lt enough))
      rw [List.forall_mem_cons] at plain
      rw [List.mem_cons, not_or] at closed
      obtain ⟨_, _, bracket, brace, escape⟩ := plain.1
      simp only [validFrom, beq_iff_eq, escape, bracket, brace, Ne.symm closed.1, ↓reduceIte]
      exact ih plain.2 closed.2 (Nat.lt_of_succ_lt_succ enough)

theorem validChars_plain {pattern : List Char} (plain : ∀ c ∈ pattern, Plain c)
    (closed : '}' ∉ pattern) : validChars pattern = true :=
  validFrom_plain plain closed (Nat.lt_succ_self _)

theorem ne_bad_failed {pattern : List Char} (valid : validChars pattern = true) :
    failed pattern ≠ .bad := by
  simp [failed, valid]

theorem ne_bad_matchesNothing {fuel : Nat} {pattern : List Char} (brace : pattern.head? ≠ some '{')
    (valid : validChars pattern = true) : matchesNothing fuel pattern ≠ .bad := by
  cases fuel with
  | zero => nofun
  | succ fuel =>
      have other : ∀ inner, pattern = '{' :: inner → False := by
        rintro inner rfl
        exact brace rfl
      rw [matchesNothing.eq_3 _ _ other]
      split
      · nofun
      · exact ne_bad_failed valid

/-- The text has the ending, and no separator before it. -/
def Ends (ending text : List Char) : Prop :=
  ∃ stem, text = stem ++ ending ∧ Path.separator ∉ stem

theorem ends_cons (c : Char) (rest : List Char) :
    Ends ending (c :: rest) ↔ c :: rest = ending ∨ c ≠ Path.separator ∧ Ends ending rest := by
  constructor
  · rintro ⟨stem, split, apart⟩
    cases stem with
    | nil => exact .inl split
    | cons first stem =>
        obtain ⟨rfl, rfl⟩ := List.cons.inj split
        rw [List.mem_cons, not_or] at apart
        exact .inr ⟨Ne.symm apart.1, stem, rfl, apart.2⟩
  · rintro (same | ⟨other, stem, rfl, apart⟩)
    · exact ⟨[], same, List.not_mem_nil⟩
    · exact ⟨c :: stem, rfl, by simp [Ne.symm other, apart]⟩

/-- What a verdict on a star and a plain ending has to be. -/
def Judges (ending text : List Char) (verdict : Verdict) : Prop :=
  (verdict = .yes ↔ Ends ending text) ∧ ('}' ∉ ending → verdict ≠ .bad)

theorem judges_failed {pattern : List Char} (plain : ∀ c ∈ ending, Plain c)
    (rest : pattern <:+ ending) (other : ¬ Ends ending text) :
    Judges ending text (failed pattern) := by
  refine ⟨iff_of_false (ne_yes_failed _) other, fun closed => ne_bad_failed ?_⟩
  exact validChars_plain (fun c member => plain c (rest.subset member))
    fun member => closed (rest.subset member)

theorem run_unfit {s : State} {unread : List Char} (fuel : Nat) (filled : s.name.isEmpty = false)
    (stepped : s.step = .unfit unread) :
    run (fuel + 1) s = s.fallback.elim (failed unread) (run fuel) := by
  simp only [run, filled, stepped, Bool.false_eq_true, ↓reduceIte]
  cases s.fallback <;> rfl

/-- A match behind a star with an ending, of which a part is matched and a part is left. -/
def behindStar (ending matched pattern name : List Char) (fresh : Bool) : State :=
  ⟨pattern, name, fresh, some ⟨ending, matched ++ name⟩, none⟩

theorem step_behindStar {p c : Char} {matched tail name : List Char} {fresh : Bool}
    (plain : Plain p) :
    (behindStar ending matched (p :: tail) (c :: name) fresh).step =
      literalStep (behindStar ending matched (p :: tail) (c :: name) fresh) p c name tail := by
  obtain ⟨star, question, bracket, brace, escape⟩ := plain
  simp [behindStar, State.step, star, question, bracket, brace, escape]

/-- At the end of the text nothing of the ending may be left. -/
theorem judges_matchesNothing (plain : ∀ c ∈ ending, Plain c) {matched pattern : List Char}
    (split : ending = matched ++ pattern) (fuel : Nat) :
    Judges ending matched (matchesNothing (fuel + 1) pattern) := by
  have rest : pattern <:+ ending := ⟨matched, split.symm⟩
  have unread : ∀ c ∈ pattern, Plain c := fun c member => plain c (rest.subset member)
  have brace : pattern.head? ≠ some '{' := fun head =>
    (unread _ (List.mem_of_head? head)).2.2.2.1 rfl
  refine ⟨⟨fun yes => ?_, ?_⟩, fun closed => ne_bad_matchesNothing brace
    (validChars_plain unread fun member => closed (rest.subset member))⟩
  · rw [eq_nil_of_matchesNothing unread yes, List.append_nil] at split
    exact ⟨[], split.symm, List.not_mem_nil⟩
  · rintro ⟨stem, whole, _⟩
    have lengths := congrArg List.length whole
    rw [split, List.length_append, List.length_append] at lengths
    have none : pattern = [] := List.eq_nil_of_length_eq_zero (by omega)
    subst none
    rfl

/-- Where the ending does not fit, the star takes the next character, unless that is a separator. -/
theorem judges_unfit (plain : ∀ c ∈ ending, Plain c) {fuel : Nat} {matched pattern name : List Char}
    {c : Char} {fresh : Bool} (split : ending = matched ++ pattern)
    (apart : matched ++ c :: name ≠ ending)
    (stepped : (behindStar ending matched pattern (c :: name) fresh).step = .unfit pattern)
    (onward : ∀ d text, matched ++ c :: name = d :: text →
      Judges ending text (run fuel (behindStar ending [] ending text false))) :
    Judges ending (matched ++ c :: name)
      (run (fuel + 1) (behindStar ending matched pattern (c :: name) fresh)) := by
  rw [run_unfit fuel rfl stepped, behindStar]
  cases whole : matched ++ c :: name with
  | nil => simp at whole
  | cons d text =>
      rw [whole] at apart
      by_cases stop : d = Path.separator
      · simp only [State.fallback, stop, beq_self_eq_true, ↓reduceIte]
        refine judges_failed plain ⟨matched, split.symm⟩ fun ends => ?_
        rcases (ends_cons _ _).mp ends with same | ⟨other, _⟩
        · exact apart (stop ▸ same)
        · exact other rfl
      · simp only [State.fallback, beq_iff_eq, stop, ↓reduceIte]
        have later := onward d text whole
        rw [Judges, ends_cons]
        simpa [stop, apart, Judges, behindStar] using later

/-- Behind a star the ending is matched up to some place, the text since the star is known, and
whoever fails begins anew one character later. -/
theorem judges_run (plain : ∀ c ∈ ending, Plain c) (fuel : Nat) (matched pattern name : List Char)
    (split : ending = matched ++ pattern) (fresh : Bool)
    (enough : (matched ++ name).length * (ending.length + 1) + pattern.length < fuel) :
    Judges ending (matched ++ name) (run fuel (behindStar ending matched pattern name fresh)) := by
  induction fuel generalizing matched pattern name fresh with
  | zero => omega
  | succ fuel ih =>
      cases name with
      | nil =>
          rw [List.append_nil]
          exact judges_matchesNothing plain split pattern.length
      | cons c name =>
          -- The star takes one character more, and the whole ending is tried there.
          have anew (d : Char) (text : List Char) (whole : matched ++ c :: name = d :: text) :
              Judges ending text (run fuel (behindStar ending [] ending text false)) := by
            refine ih [] ending text rfl false ?_
            rw [whole, List.length_cons, Nat.succ_mul] at enough
            rw [List.nil_append]
            omega
          cases pattern with
          | nil => exact judges_unfit plain split (by simp [split]) rfl anew
          | cons p tail =>
              have unread : Plain p := plain p (by simp [split])
              by_cases same : p = c
              · subst same
                have onward := ih (matched ++ [p]) tail name (by simpa using split)
                  (p == Path.separator) (by
                    simp only [List.append_assoc, List.singleton_append, List.length_cons] at enough ⊢
                    omega)
                rw [run, step_behindStar unread]
                simpa [literalStep, behindStar] using onward
              · refine judges_unfit plain split (by simp [split, Ne.symm same]) ?_ anew
                rw [step_behindStar unread, literalStep, if_neg (by simpa using same)]
                rfl

/-- A star with a plain ending matches the texts with the ending and no separator before it. -/
theorem judges_verdict (plain : ∀ c ∈ ending, Plain c) (text : List Char) :
    Judges ending text (verdict ('*' :: ending) text) := by
  have enough : text.length * (ending.length + 1) + ending.length + 1 <
      stepsFor ('*' :: ending) text := by
    have room : (text.length + 1) * (ending.length + 1) < (ending.length + 3) * (text.length + 2) := by
      rw [Nat.mul_comm]
      exact Nat.mul_lt_mul_of_lt_of_lt (by omega) (by omega)
    have whole := Nat.lt_of_lt_of_le room (Nat.le_mul_self _)
    rw [Nat.succ_mul, ← Nat.add_assoc] at whole
    exact whole
  rw [verdict]
  generalize stepsFor ('*' :: ending) text = fuel at enough
  obtain ⟨fuel, rfl⟩ : ∃ less, fuel = less + 1 := ⟨fuel - 1, by omega⟩
  cases text with
  | nil =>
      have starred : ('*' :: ending).head? ≠ some '{' := by simp
      refine ⟨⟨fun yes => ?_, ?_⟩, fun closed => ne_bad_matchesNothing starred ?_⟩
      · have listed := mem_of_matchesNothing starred yes
        have star : '*' ∉ ending := fun member => (plain _ member).1 rfl
        simp at listed
        rcases listed with rfl | rfl | rfl
        · exact ⟨[], rfl, List.not_mem_nil⟩
        all_goals exact absurd (by decide) star
      · rintro ⟨stem, none, _⟩
        rw [(List.append_eq_nil_iff.mp none.symm).2]
        rfl
      · exact validFrom_plain plain closed (Nat.lt_succ_self _)
  | cons c rest =>
      have stepped : State.step ⟨'*' :: ending, c :: rest, true, none, none⟩ =
          .proceed ⟨ending, c :: rest, false, some ⟨ending, c :: rest⟩, none⟩ := by
        cases ending with
        | nil => rfl
        | cons p tail =>
            -- The ending begins with no second star, so this one stays within a segment.
            have other := (plain p List.mem_cons_self).1
            simp only [State.step, beq_self_eq_true, ↓reduceIte, starStep]
            split
            · next same => exact absurd (List.cons.inj same).1 other
            · rfl
      rw [run, stepped]
      exact judges_run plain fuel [] ending (c :: rest) rfl false (by simpa using enough)

theorem fits_iff {ending path : String} (plain : ∀ c ∈ ending.toList, Plain c) :
    fits ("*" ++ ending) path = true ↔ Ends ending.toList path.toList := by
  have judged := judges_verdict plain path.toList
  rw [fits, String.toList_append, decide_eq_true_iff]
  exact judged.1

end SqlMapper.Glob

namespace SqlMapper.Path

theorem dropCommon_suffix (first second : List String) : (dropCommon first second).2 <:+ second := by
  fun_induction dropCommon first second with
  | case1 a as b bs _ ih => exact ih.trans (List.suffix_cons b bs)
  | case2 => exact List.suffix_rfl
  | case3 => exact List.suffix_rfl

theorem getLast?_ofParts (rooted : Bool) {list : List String} {final : String}
    (last : list.getLast? = some final) (segment : Segment final) :
    (ofParts rooted list).toList.getLast? = final.toList.getLast? := by
  obtain ⟨before, rfl⟩ := List.getLast?_eq_some_iff.mp last
  obtain ⟨text, spelled⟩ := toList_ofParts_concat rooted before final
  have filled : final.toList ≠ [] := fun empty => segment.1 (String.toList_eq_nil_iff.mp empty)
  rw [spelled, List.getLast?_append, List.getLast?_eq_some_getLast filled]
  rfl

/-- A path is seen from a directory by steps up, and down along its last parts. -/
theorem steps_of_relative? {directory target inside : String}
    (seen : relative? directory target = some inside) :
    inside = "." ∨ ∃ up down : List String, down <:+ (stackOf target).reverse ∧
      inside = Text.join "/" (up.map (fun _ => "..") ++ down) := by
  have spelled : baseParts (clean target) = (stackOf target).reverse :=
    baseParts_ofParts (tidy_stackOf target)
  rw [relative?] at seen
  split at seen
  · cases seen
    exact .inl rfl
  · split at seen
    · cases seen
    · simp only [spelled] at seen
      split at seen
      · cases seen
      · cases seen
        exact .inr ⟨_, _, dropCommon_suffix _ _, rfl⟩

/-- A path ends as it does when it is seen from a directory, unless it is seen as a directory above
it. -/
theorem getLast?_of_relative? {directory target inside : String} {c : Char}
    (seen : relative? directory target = some inside)
    (last : inside.toList.getLast? = some c) (other : c ≠ '.') :
    (clean target).toList.getLast? = some c := by
  rcases steps_of_relative? seen with rfl | ⟨up, down, suffix, rfl⟩
  · exact absurd (Option.some.inj last).symm other
  · generalize above : up.map (fun _ => "..") = back at last
    cases ends : (back ++ down).getLast? with
    | none =>
        rw [List.getLast?_eq_none_iff.mp ends] at last
        cases last
    | some final =>
        have joined : Text.join "/" (back ++ down) = ofParts false (back ++ down) := by
          cases steps : back ++ down with
          | nil =>
              rw [steps] at ends
              cases ends
          | cons first rest => rfl
        rw [joined] at last
        have final_cases := ends
        rw [List.getLast?_append, Option.or_eq_some_iff] at final_cases
        -- The last part is one of the path's own, or leads up and ends with a dot.
        rcases final_cases with below | ⟨_, dots⟩
        · obtain ⟨before, split⟩ := suffix
          have whole : (stackOf target).reverse.getLast? = some final := by
            rw [← split, List.getLast?_append, below]
            rfl
          have segment := (tidy_stackOf target).segments final (List.mem_of_getLast? whole)
          rw [clean, ← last, getLast?_ofParts false ends segment]
          exact getLast?_ofParts (isRooted target) whole segment
        · have up : final = ".." := by
            rw [← above] at dots
            obtain ⟨_, _, same⟩ := List.mem_map.mp (List.mem_of_getLast? dots)
            exact same.symm
          subst up
          rw [getLast?_ofParts false ends ⟨by decide, by decide⟩] at last
          exact absurd (Option.some.inj last).symm other

end SqlMapper.Path

namespace SqlMapper

/-- How the names of documents end that the default pattern selects. -/
def documentEnding : String :=
  "-mapper.xml"

theorem plain_documentEnding : ∀ c ∈ documentEnding.toList, Glob.Plain c := by
  have all : documentEnding.toList.all (fun c => decide (Glob.Plain c)) = true := by decide
  intro c member
  exact of_decide_eq_true (List.all_eq_true.mp all c member)

variable {directory pattern path : String} (standard : effectivePattern pattern = defaultPattern)

include standard

/-- The default pattern selects by the ending alone, as long as a path has no separator before it. -/
theorem selects_standard_iff {inside : String} (seen : Path.relative? directory path = some inside) :
    selects directory pattern path = true ↔
      Glob.Ends documentEnding.toList inside.toList := by
  have starred : defaultPattern = "*" ++ documentEnding := by decide
  rw [selects, seen, standard, starred]
  exact Glob.fits_iff plain_documentEnding

/-- The default pattern is well formed wherever it is tried. -/
theorem breaks_standard (directory path : String) : breaks directory pattern path = false := by
  rw [breaks]
  split
  · next inside _ =>
      have starred : defaultPattern.toList = '*' :: documentEnding.toList := by decide
      have closed : '}' ∉ documentEnding.toList := by decide
      have judged := (Glob.judges_verdict plain_documentEnding inside.toList).2 closed
      simpa [standard, starred] using judged
  · rfl

/-- The default pattern selects only files whose names end like those of documents. -/
theorem getLast?_of_selects (chosen : selects directory pattern path = true) :
    (Path.clean path).toList.getLast? = some 'l' := by
  cases seen : Path.relative? directory path with
  | none =>
      rw [selects, seen] at chosen
      cases chosen
  | some inside =>
      obtain ⟨stem, spelled, _⟩ := (selects_standard_iff standard seen).mp chosen
      refine Path.getLast?_of_relative? seen ?_ (by decide)
      rw [spelled, List.getLast?_append]
      rfl

end SqlMapper
