import Mathlib.Data.List.Basic
import SqlMapper.Sql.Trim

/-!
What a trim takes away from its content: the blanks around it, then at most one token at the start
and one at the end of what is left. The core stays as it is.
-/

namespace SqlMapper.Sql

theorem dropLeading_append (tokens : List (List Char)) (text : List Char) :
    ∃ token, (token = [] ∨ token ∈ tokens) ∧ text = token ++ dropLeading tokens text := by
  unfold dropLeading
  split
  · next rest found =>
      obtain ⟨token, member, cut⟩ := List.exists_of_findSome?_eq_some found
      exact ⟨token, .inr member, (List.append_eq_of_isPrefixOf?_eq_some cut).symm⟩
  · exact ⟨[], .inl rfl, rfl⟩

theorem dropTrailing_append (tokens : List (List Char)) (text : List Char) :
    ∃ token, (token = [] ∨ token ∈ tokens) ∧ text = dropTrailing tokens text ++ token := by
  unfold dropTrailing
  split
  · next rest found =>
      obtain ⟨token, member, cut⟩ := List.exists_of_findSome?_eq_some found
      exact ⟨token, .inr member, (List.append_eq_of_isSuffixOf?_eq_some cut).symm⟩
  · exact ⟨[], .inl rfl, (List.append_nil text).symm⟩

section Blanks

variable (blank : Char → Bool)

theorem head?_dropWhile_fails (text : List Char) (c : Char)
    (first : (text.dropWhile blank).head? = some c) : blank c = false := by
  have kept := List.head?_dropWhile_not blank text
  rw [first] at kept
  simpa using kept

theorem dropRight_append (text : List Char) :
    ∃ tail, text = Text.dropRight blank text ++ tail ∧ ∀ c ∈ tail, blank c = true := by
  refine ⟨(text.reverse.takeWhile blank).reverse, ?_, ?_⟩
  · rw [Text.dropRight, ← List.reverse_append, List.takeWhile_append_dropWhile,
      List.reverse_reverse]
  · intro c member
    exact List.all_eq_true.mp List.all_takeWhile c (List.mem_reverse.mp member)

theorem getLast?_dropRight_fails (text : List Char) (c : Char)
    (last : (Text.dropRight blank text).getLast? = some c) : blank c = false := by
  rw [Text.dropRight, List.getLast?_reverse] at last
  exact head?_dropWhile_fails blank text.reverse c last

theorem dropWhile_blanks (head rest : List Char) (blanks : ∀ c ∈ head, blank c = true)
    (bare : ∀ c, rest.head? = some c → blank c = false) :
    (head ++ rest).dropWhile blank = rest := by
  rw [List.dropWhile_append_of_pos blanks]
  cases rest with
  | nil => rfl
  | cons c tail => simp [bare c rfl]

theorem dropRight_blanks (text tail : List Char) (blanks : ∀ c ∈ tail, blank c = true)
    (bare : ∀ c, text.getLast? = some c → blank c = false) :
    Text.dropRight blank (text ++ tail) = text := by
  rw [Text.dropRight, List.reverse_append, dropWhile_blanks, List.reverse_reverse]
  · exact fun c member => blanks c (List.mem_reverse.mp member)
  · exact fun c first => bare c (by rwa [List.head?_reverse] at first)

/-- A text is its stripped form with blanks around it. -/
theorem strip_append (text : List Char) :
    ∃ before after, text = before ++ Text.strip blank text ++ after ∧
      (∀ c ∈ before, blank c = true) ∧ (∀ c ∈ after, blank c = true) ∧
      (∀ c, (Text.strip blank text).head? = some c → blank c = false) ∧
      (∀ c, (Text.strip blank text).getLast? = some c → blank c = false) := by
  obtain ⟨after, right, blankAfter⟩ := dropRight_append blank (text.dropWhile blank)
  rw [← Text.strip] at right
  refine ⟨text.takeWhile blank, after, ?_, List.all_eq_true.mp List.all_takeWhile, blankAfter, ?_,
    getLast?_dropRight_fails blank (text.dropWhile blank)⟩
  · rw [List.append_assoc, ← right, List.takeWhile_append_dropWhile]
  · intro c first
    -- cutting blanks off the end keeps the first character
    have kept : (text.dropWhile blank).head? = some c := by
      rw [right, List.head?_append, first]
      rfl
    exact head?_dropWhile_fails blank text c kept

/-- Blanks at the start of a text end where its first other character stands. -/
theorem blanks_le (head rest other bare : List Char) (same : head ++ rest = other ++ bare)
    (blanks : ∀ c ∈ head, blank c = true) (c : Char) (first : bare.head? = some c)
    (stop : blank c = false) : head.length ≤ other.length := by
  obtain ⟨tail, rfl⟩ := List.head?_eq_some_iff.mp first
  rcases List.append_eq_append_iff.mp same with ⟨more, rfl, _⟩ | ⟨more, rfl, split⟩
  · simp
  · cases more with
    | nil => simp
    | cons d more =>
        have here : d = c := by simpa using (congrArg List.head? split).symm
        have blankHere := blanks d (by simp)
        rw [here, stop] at blankHere
        cases blankHere

end Blanks

/-- A content taken apart as a rule trims it. -/
structure Cut (rule : TrimRule) (content : List Char) where
  before : List Char
  lead : List Char
  core : List Char
  trail : List Char
  after : List Char
  whole : content = before ++ (lead ++ core ++ trail) ++ after
  stripped : Text.strip Text.isBlank content = lead ++ core ++ trail
  blankBefore : ∀ c ∈ before, Text.isBlank c = true
  blankAfter : ∀ c ∈ after, Text.isBlank c = true
  leadToken : lead = [] ∨ lead ∈ overrideTokens rule.leading.toList
  trailToken : trail = [] ∨ trail ∈ overrideTokens rule.trailing.toList
  startsBare : ∀ c, (lead ++ core ++ trail).head? = some c → Text.isBlank c = false
  endsBare : ∀ c, (lead ++ core ++ trail).getLast? = some c → Text.isBlank c = false

/-- Every content can be taken apart, and its core is what a trim wraps. -/
theorem trimChars_cut (rule : TrimRule) (content : List Char) :
    ∃ cut : Cut rule content,
      trimChars rule content = rule.opening.toList ++ cut.core ++ rule.closing.toList := by
  obtain ⟨before, after, whole, blankBefore, blankAfter, startsBare, endsBare⟩ :=
    strip_append Text.isBlank content
  obtain ⟨bare, bareIs⟩ : ∃ bare, Text.strip Text.isBlank content = bare := ⟨_, rfl⟩
  rw [bareIs] at whole startsBare endsBare
  obtain ⟨lead, leadToken, leadCut⟩ :=
    dropLeading_append (overrideTokens rule.leading.toList) bare
  obtain ⟨core, coreIs⟩ : ∃ core, dropTrailing (overrideTokens rule.trailing.toList)
      (dropLeading (overrideTokens rule.leading.toList) bare) = core := ⟨_, rfl⟩
  obtain ⟨trail, trailToken, trailCut⟩ :=
    dropTrailing_append (overrideTokens rule.trailing.toList)
      (dropLeading (overrideTokens rule.leading.toList) bare)
  rw [trailCut, ← List.append_assoc, coreIs] at leadCut
  rw [leadCut] at startsBare endsBare whole
  refine ⟨⟨before, lead, core, trail, after, whole, bareIs.trans leadCut, blankBefore,
    blankAfter, leadToken, trailToken, startsBare, endsBare⟩, ?_⟩
  simp only [trimChars, bareIs, coreIs]

/-- The characters of a token are characters of the list it was split from. -/
theorem mem_of_mem_overrideTokens (list token : List Char) (member : token ∈ overrideTokens list)
    (c : Char) (inside : c ∈ token) : c ∈ list := by
  have split : ∀ piece ∈ Text.splitAt '|' list, ∀ d ∈ piece, d ∈ list := by
    clear member inside
    induction list with
    | nil => simp [Text.splitAt]
    | cons first rest ih =>
        intro piece listed d held
        rw [Text.splitAt] at listed
        split at listed
        · rcases List.mem_cons.mp listed with none | later
          · simp [none] at held
          · exact List.mem_cons_of_mem first (ih piece later d held)
        · split at listed
          · simp only [List.mem_singleton] at listed
            simp_all
          · next next pieces found =>
              rcases List.mem_cons.mp listed with same | later
              · rw [same] at held
                rcases List.mem_cons.mp held with here | held
                · exact List.mem_cons.mpr (.inl here)
                · exact List.mem_cons_of_mem first
                    (ih next (found ▸ List.mem_cons_self) d held)
              · exact List.mem_cons_of_mem first
                  (ih piece (found ▸ List.mem_cons_of_mem next later) d held)
  exact split token (List.mem_of_mem_filter member) c inside

end SqlMapper.Sql
