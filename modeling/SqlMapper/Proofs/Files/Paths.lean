import SqlMapper.Files.Path

/-!
Paths as lists of parts. Cleaning a path gives a tidy list of parts, one that cleaning leaves as it
is, and a tidy list is read back from its spelling. A name that is put below a directory is therefore
the last part of the path, and the rest of the path is that of the directory.
-/

namespace SqlMapper.Path

/-- A text that can stand between separators. -/
def Segment (part : String) : Prop :=
  part ≠ "" ∧ separator ∉ part.toList

instance (part : String) : Decidable (Segment part) :=
  inferInstanceAs (Decidable (_ ∧ _))

/-- Cleaned parts in reverse: no part is empty or `.`, and `..` stands in front only, and not at
all below the root. -/
def Tidy (rooted : Bool) : List String → Prop
  | [] => True
  | part :: before =>
      Segment part ∧ part ≠ "." ∧ (part = ".." → rooted = false ∧ ∀ other ∈ before, other = "..") ∧
        Tidy rooted before

variable {rooted : Bool} {part name path : String} {done : List String}

section Spelling

theorem segments_parts (path : String) : ∀ part ∈ parts path, Segment part := by
  intro part member
  obtain ⟨piece, kept, rfl⟩ := List.mem_map.mp member
  obtain ⟨listed, filled⟩ := List.mem_filter.mp kept
  constructor
  · intro empty
    rw [String.ofList_eq_empty_iff.mp empty] at filled
    cases filled
  · rw [String.toList_ofList]
    exact Text.not_mem_of_mem_splitAt listed

theorem parts_append (first second : String) :
    parts (first ++ "/" ++ second) = parts first ++ parts second := by
  have split : (first ++ "/" ++ second).toList = first.toList ++ separator :: second.toList := by
    simp [separator]
  simp only [parts, split, Text.splitAt_append, List.filter_append, List.map_append]

theorem parts_segment (segment : Segment part) : parts part = [part] := by
  have filled : part.toList.isEmpty = false := by
    simpa [List.isEmpty_eq_false_iff] using segment.1
  simp only [parts, Text.splitAt_of_not_mem segment.2]
  simp [filled]

theorem parts_join {list : List String} (segments : ∀ part ∈ list, Segment part) :
    parts (Text.join "/" list) = list := by
  induction list with
  | nil => rfl
  | cons first rest ih =>
      rw [List.forall_mem_cons] at segments
      cases rest with
      | nil => exact parts_segment segments.1
      | cons second rest =>
          rw [Text.join, parts_append, parts_segment segments.1, ih segments.2]
          · rfl
          · simp

theorem isRooted_segment_append (segment : Segment part) (rest : String) :
    isRooted (part ++ rest) = false := by
  obtain ⟨filled, apart⟩ := segment
  rw [isRooted, String.toList_append]
  cases spelled : part.toList with
  | nil => exact absurd (String.toList_eq_nil_iff.mp spelled) filled
  | cons c tail =>
      rw [spelled, List.mem_cons, not_or] at apart
      simpa using Ne.symm apart.1

theorem isRooted_ofParts {list : List String} (segments : ∀ part ∈ list, Segment part) :
    isRooted (ofParts rooted list) = rooted := by
  cases rooted with
  | true => simp [ofParts, isRooted, separator]
  | false =>
      cases list with
      | nil => decide
      | cons first rest =>
          have segment := segments first List.mem_cons_self
          cases rest with
          | nil => simpa [ofParts, Text.join] using isRooted_segment_append segment ""
          | cons second rest =>
              simp only [ofParts, Text.join, Bool.false_eq_true, ↓reduceIte, List.isEmpty_cons,
                String.append_assoc]
              exact isRooted_segment_append segment _

/-- The parts are read back, but for the current directory, which has none. -/
theorem parts_ofParts {list : List String} (segments : ∀ part ∈ list, Segment part)
    (spelled : rooted = true ∨ list ≠ []) : parts (ofParts rooted list) = list := by
  cases rooted with
  | true =>
      have split := parts_append "" (Text.join "/" list)
      have none : parts "" = [] := rfl
      rw [parts_join segments, none] at split
      simpa [ofParts] using split
  | false =>
      obtain wrong | filled := spelled
      · cases wrong
      · have nonempty : list.isEmpty = false := List.isEmpty_eq_false_iff.mpr filled
        simp only [ofParts, Bool.false_eq_true, ↓reduceIte, nonempty]
        exact parts_join segments

/-- The last part ends the spelling. -/
theorem toList_ofParts_concat (rooted : Bool) (list : List String) (part : String) :
    ∃ before, (ofParts rooted (list ++ [part])).toList = before ++ part.toList := by
  have joined : ∃ before, (Text.join "/" (list ++ [part])).toList = before ++ part.toList := by
    induction list with
    | nil => exact ⟨[], rfl⟩
    | cons first rest ih =>
        obtain ⟨before, spelled⟩ := ih
        refine ⟨first.toList ++ ['/'] ++ before, ?_⟩
        rw [List.cons_append, Text.join, String.toList_append, spelled]
        · simp
        · simp
  obtain ⟨before, spelled⟩ := joined
  cases rooted with
  | true => exact ⟨'/' :: before, by simp [ofParts, spelled]⟩
  | false => exact ⟨before, by simp [ofParts, spelled]⟩

end Spelling

section Cleaning

theorem Tidy.segments (tidy : Tidy rooted done) : ∀ part ∈ done.reverse, Segment part := by
  intro part member
  rw [List.mem_reverse] at member
  induction done with
  | nil => cases member
  | cons first before ih =>
      rcases List.mem_cons.mp member with rfl | later
      · exact tidy.1
      · exact ih tidy.2.2.2 later

theorem tidy_cleanPart (tidy : Tidy rooted done) (segment : Segment part) :
    Tidy rooted (cleanPart rooted done part) := by
  unfold cleanPart
  by_cases here : part = "."
  · simpa [here] using tidy
  · by_cases up : part = ".."
    · subst up
      simp only [beq_iff_eq, String.reduceEq, ↓reduceIte]
      cases done with
      | nil =>
          cases rooted with
          | true => trivial
          | false => exact ⟨segment, here, fun _ => ⟨rfl, by simp⟩, trivial⟩
      | cons last before =>
          by_cases above : last = ".."
          · obtain ⟨relative, others⟩ := tidy.2.2.1 above
            simp only [above, ↓reduceIte]
            refine ⟨segment, here, fun _ => ⟨relative, ?_⟩, above ▸ tidy⟩
            rw [List.forall_mem_cons]
            exact ⟨rfl, others⟩
          · simpa [above] using tidy.2.2.2
    · simp only [beq_iff_eq, here, up, ↓reduceIte]
      exact ⟨segment, here, fun same => absurd same up, tidy⟩

theorem tidy_foldl {list : List String} (segments : ∀ part ∈ list, Segment part)
    (tidy : Tidy rooted done) : Tidy rooted (list.foldl (cleanPart rooted) done) := by
  induction list generalizing done with
  | nil => exact tidy
  | cons first rest ih =>
      rw [List.forall_mem_cons] at segments
      exact ih segments.2 (tidy_cleanPart tidy segments.1)

/-- One part more or less: what is on the way to the cleaned parts was on the way before. -/
theorem suffix_cleanPart {below : List String} (suffix : below <:+ cleanPart rooted done part) :
    below = cleanPart rooted done part ∨ below <:+ done := by
  unfold cleanPart at suffix ⊢
  split
  · rw [if_pos ‹_›] at suffix
    exact .inr suffix
  · rw [if_neg ‹_›] at suffix
    split
    · rw [if_pos ‹_›] at suffix
      cases done with
      | nil =>
          cases rooted with
          | true => exact .inr suffix
          | false =>
              rcases List.suffix_cons_iff.mp suffix with same | rest
              · exact .inl same
              · exact .inr rest
      | cons last before =>
          simp only at suffix ⊢
          split
          · rw [if_pos ‹_›] at suffix
            exact List.suffix_cons_iff.mp suffix
          · rw [if_neg ‹_›] at suffix
            exact .inr (suffix.trans (List.suffix_cons last before))
    · rw [if_neg ‹_›] at suffix
      exact List.suffix_cons_iff.mp suffix

/-- Cleaning leaves tidy parts as they are. -/
theorem foldl_of_tidy (tidy : Tidy rooted done) :
    done.reverse.foldl (cleanPart rooted) [] = done := by
  induction done with
  | nil => rfl
  | cons part before ih =>
      obtain ⟨_, other, up, rest⟩ := tidy
      rw [List.reverse_cons, List.foldl_append, ih rest]
      simp only [List.foldl_cons, List.foldl_nil, cleanPart, beq_iff_eq, other, ↓reduceIte]
      by_cases above : part = ".."
      · obtain ⟨relative, others⟩ := up above
        subst above
        simp only [↓reduceIte, relative]
        cases before with
        | nil => rfl
        | cons last before =>
            simp [others last List.mem_cons_self]
      · simp [above]

theorem clean_ofParts (tidy : Tidy rooted done) :
    clean (ofParts rooted done.reverse) = ofParts rooted done.reverse := by
  have segments := tidy.segments
  simp only [clean, isRooted_ofParts segments]
  by_cases spelled : rooted = true ∨ done.reverse ≠ []
  · rw [parts_ofParts segments spelled, foldl_of_tidy tidy]
  · obtain ⟨relative, none⟩ := not_or.mp spelled
    have empty : done = [] := by simpa using none
    subst empty
    cases rooted with
    | true => exact absurd rfl relative
    | false => decide

theorem clean_ofParts_concat {list : List String} (segments : ∀ part ∈ list, Segment part)
    (segment : Segment part) :
    clean (ofParts rooted (list ++ [part])) = ofParts rooted
      (cleanPart rooted (list.foldl (cleanPart rooted) []) part).reverse := by
  have all : ∀ other ∈ list ++ [part], Segment other := by
    intro other member
    rcases List.mem_append.mp member with before | last
    · exact segments other before
    · exact List.mem_singleton.mp last ▸ segment
  simp only [clean, isRooted_ofParts all, parts_ofParts all (.inr (List.append_ne_nil_of_right_ne_nil
    _ (List.cons_ne_nil _ _))), List.foldl_append, List.foldl_cons, List.foldl_nil]

theorem endsOpen_ofParts (segment : Segment part) (rooted : Bool) (list : List String) :
    endsOpen (ofParts rooted (list ++ [part])) = false := by
  obtain ⟨before, spelled⟩ := toList_ofParts_concat rooted list part
  obtain ⟨filled, apart⟩ := segment
  have nonempty : part.toList ≠ [] := fun empty => filled (String.toList_eq_nil_iff.mp empty)
  have last : (before ++ part.toList).getLast? = some (part.toList.getLast nonempty) := by
    rw [List.getLast?_append, List.getLast?_eq_some_getLast nonempty]
    rfl
  rw [endsOpen, spelled, last, beq_eq_false_iff_ne, ne_eq, Option.some.injEq]
  intro same
  exact apart (same ▸ List.getLast_mem nonempty)

/-- The directory of a tidy path has all of its parts but the last. -/
theorem directory_ofParts (tidy : Tidy rooted (part :: done)) :
    Path.directory (ofParts rooted (part :: done).reverse) = ofParts rooted done.reverse := by
  have segments := tidy.segments
  rw [List.reverse_cons] at segments ⊢
  rw [Path.directory, isRooted_ofParts segments, parts_ofParts segments (.inr (by simp)),
    endsOpen_ofParts tidy.1, if_neg Bool.false_ne_true, List.dropLast_concat]
  exact clean_ofParts tidy.2.2.2

theorem baseParts_ofParts (tidy : Tidy rooted done) :
    baseParts (ofParts rooted done.reverse) = done.reverse := by
  by_cases spelled : rooted = true ∨ done.reverse ≠ []
  · have parts := parts_ofParts tidy.segments spelled
    rw [baseParts, if_neg, parts]
    intro current
    rw [beq_iff_eq.mp current] at parts
    have single : done = ["."] := by
      rw [← List.reverse_inj, ← parts]
      rfl
    rw [single] at tidy
    exact tidy.2.1 rfl
  · obtain ⟨relative, none⟩ := not_or.mp spelled
    have empty : done = [] := by simpa using none
    cases rooted with
    | true => exact absurd rfl relative
    | false =>
        rw [empty]
        rfl

/-- Tidy parts are spelled in different ways. -/
theorem ofParts_inj {other : Bool} {stack : List String} (first : Tidy rooted done)
    (second : Tidy other stack) (same : ofParts rooted done.reverse = ofParts other stack.reverse) :
    rooted = other ∧ done = stack := by
  constructor
  · have spelled := congrArg isRooted same
    rwa [isRooted_ofParts first.segments, isRooted_ofParts second.segments] at spelled
  · rw [← List.reverse_inj, ← baseParts_ofParts first, same, baseParts_ofParts second]

end Cleaning

section Names

/-- A text that names an entry of a directory. -/
def FileName (name : String) : Prop :=
  Segment name ∧ name ≠ "." ∧ name ≠ ".."

instance (name : String) : Decidable (FileName name) :=
  inferInstanceAs (Decidable (_ ∧ _))

/-- The cleaned parts of a directory, in reverse. -/
def stackOf (directory : String) : List String :=
  (parts directory).foldl (cleanPart (isRooted directory)) []

theorem tidy_stackOf (directory : String) : Tidy (isRooted directory) (stackOf directory) :=
  tidy_foldl (segments_parts directory) trivial

variable (named : FileName name) (directory : String)

include named

theorem tidy_name : Tidy (isRooted directory) (name :: stackOf directory) :=
  ⟨named.1, named.2.1, fun up => absurd up named.2.2, tidy_stackOf directory⟩

/-- The path of a name is that of its directory with one part more. -/
theorem join_name :
    join directory name = ofParts (isRooted directory) (name :: stackOf directory).reverse := by
  obtain ⟨segment, here, up⟩ := named
  have last (done : List String) : cleanPart (isRooted directory) done name = name :: done := by
    simp [cleanPart, here, up]
  by_cases empty : directory = ""
  · subst empty
    have relative : isRooted name = false := by
      simpa using isRooted_segment_append segment ""
    have none : isRooted "" = false := rfl
    rw [none] at last
    simp only [join, beq_self_eq_true, ↓reduceIte, segment.1, beq_iff_eq, clean, relative,
      parts_segment segment, List.foldl_cons, List.foldl_nil, last]
    rfl
  · have same : isRooted (directory ++ "/" ++ name) = isRooted directory := by
      rw [isRooted, isRooted, String.toList_append, String.toList_append]
      cases spelled : directory.toList with
      | nil => exact absurd (String.toList_eq_nil_iff.mp spelled) empty
      | cons c rest => rfl
    simp only [join, beq_iff_eq, empty, segment.1, ↓reduceIte, clean, same, parts_append,
      parts_segment segment, List.foldl_append, List.foldl_cons, List.foldl_nil, last]
    rfl

theorem isRooted_join : isRooted (join directory name) = isRooted directory := by
  rw [join_name named]
  exact isRooted_ofParts (tidy_name named directory).segments

theorem parts_join_name : parts (join directory name) = (stackOf directory).reverse ++ [name] := by
  rw [join_name named, parts_ofParts (tidy_name named directory).segments (.inr (by simp)),
    List.reverse_cons]

theorem clean_join : clean (join directory name) = join directory name := by
  rw [join_name named, clean_ofParts (tidy_name named directory)]

/-- A path is not that of its directory. -/
theorem join_ne_clean : join directory name ≠ clean directory := by
  intro same
  have spelled := parts_join_name named directory
  rw [same] at spelled
  by_cases some : isRooted directory = true ∨ (stackOf directory).reverse ≠ []
  · have parts_clean : parts (clean directory) = (stackOf directory).reverse :=
      parts_ofParts (tidy_stackOf directory).segments some
    rw [parts_clean] at spelled
    simpa using congrArg List.length spelled
  · obtain ⟨relative, none⟩ := not_or.mp some
    have empty : (stackOf directory).reverse = [] := by simpa using none
    have current : clean directory = "." := by
      show ofParts (isRooted directory) (stackOf directory).reverse = "."
      simp [ofParts, relative, empty]
    rw [current, empty] at spelled
    have named' : name = "." := by simpa [parts, Text.splitAt, separator] using spelled.symm
    exact named.2.1 named'

theorem endsOpen_join : endsOpen (join directory name) = false := by
  rw [join_name named, List.reverse_cons]
  exact endsOpen_ofParts named.1 _ _

theorem directory_join : Path.directory (join directory name) = clean directory := by
  rw [join_name named, directory_ofParts (tidy_name named directory)]
  rfl

theorem name_eq_of_join_eq {other : String} (second : FileName other)
    (same : join directory name = join directory other) : name = other := by
  have spelled := congrArg parts same
  rw [parts_join_name named, parts_join_name second] at spelled
  simpa using spelled

end Names

end SqlMapper.Path
