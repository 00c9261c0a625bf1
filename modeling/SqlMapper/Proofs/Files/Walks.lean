import Mathlib.Data.Finset.Card
import Mathlib.Data.List.Basic
import SqlMapper.Proofs.Files.Growth

/-!
Walks of a volume, and what growing changes of them. A walk goes from a directory to its members,
whose paths are one part longer, so no walk needs more fuel than there are keys. On a volume that has
grown the walk meets what it met before, and what is new.
-/

namespace SqlMapper

namespace Text

theorem insertBefore_of_le {text : String} {texts : List String}
    (least : ∀ other ∈ texts, text ≤ other) : insertBefore text texts = text :: texts := by
  cases texts with
  | nil => rfl
  | cons first rest =>
      have before : ¬ first < text := String.not_lt.mpr (least first List.mem_cons_self)
      rw [insertBefore, if_neg before]

theorem filter_insertBefore (keep : String → Bool) (text : String) {texts : List String}
    (increasing : texts.Pairwise (· ≤ ·)) :
    (insertBefore text texts).filter keep =
      if keep text then insertBefore text (texts.filter keep) else texts.filter keep := by
  induction texts with
  | nil => simp [insertBefore, List.filter_cons]
  | cons first rest ih =>
      obtain ⟨least, others⟩ := List.pairwise_cons.mp increasing
      by_cases less : first < text
      · rw [insertBefore, if_pos less, List.filter_cons, ih others, List.filter_cons]
        by_cases kept : keep first
        · simp only [kept, ↓reduceIte, insertBefore, less]
          split <;> rfl
        · simp only [kept, Bool.false_eq_true, ↓reduceIte]
      · have before : ∀ other ∈ (first :: rest).filter keep, text ≤ other := by
          intro other member
          rcases List.mem_cons.mp (List.mem_of_mem_filter member) with rfl | later
          · exact String.not_lt.mp less
          · exact String.le_trans (String.not_lt.mp less) (least other later)
        rw [insertBefore, if_neg less, insertBefore_of_le before, List.filter_cons]

theorem filter_sorted (keep : String → Bool) (texts : List String) :
    (sorted texts).filter keep = sorted (texts.filter keep) := by
  induction texts with
  | nil => rfl
  | cons text rest ih =>
      rw [sorted, filter_insertBefore keep text (pairwise_sorted rest), ih, List.filter_cons]
      split <;> rfl

theorem mem_sorted (other : String) (texts : List String) : other ∈ sorted texts ↔ other ∈ texts := by
  induction texts with
  | nil => rfl
  | cons text rest ih => rw [sorted, mem_insertBefore, ih, List.mem_cons]

/-- Texts that contribute nothing may be left out before sorting. -/
theorem flatMap_sorted_append {β : Type} (f : String → List β) (texts more : List String)
    (none : ∀ text ∈ more, f text = []) :
    (sorted (texts ++ more)).flatMap f = (sorted texts).flatMap f := by
  have filtered (texts : List String) :
      texts.flatMap f = (texts.filter fun text => !(f text).isEmpty).flatMap f := by
    induction texts with
    | nil => rfl
    | cons text rest ih =>
        rw [List.flatMap_cons, List.filter_cons, ih]
        by_cases empty : f text = [] <;> simp [empty]
  have dropped : more.filter (fun text => !(f text).isEmpty) = [] := by
    rw [List.filter_eq_nil_iff]
    intro text member
    simp [none text member]
  rw [filtered, filtered (sorted texts), filter_sorted, filter_sorted, List.filter_append, dropped,
    List.append_nil]

end Text

namespace Path

variable {rooted : Bool} {part path : String} {done : List String}

theorem base_ofParts (named : FileName part) (tidy : Tidy rooted done) :
    base (ofParts rooted (part :: done).reverse) = part := by
  have parts : parts (ofParts rooted (part :: done).reverse) = (part :: done).reverse :=
    parts_ofParts (named.tidy tidy).segments (.inr (by simp))
  have filled : ofParts rooted (part :: done).reverse ≠ "" := by
    intro empty
    rw [empty] at parts
    simpa [Path.parts, Text.splitAt] using congrArg List.length parts
  rw [base, if_neg (by simpa using filled), parts, List.reverse_cons, List.getLast?_concat]

/-- A name below a directory, by the clean spelling of the directory. -/
theorem join_of_clean (named : FileName part) (tidy : Tidy rooted done)
    (spelled : clean path = ofParts rooted done.reverse) :
    join path part = ofParts rooted (part :: done).reverse := by
  obtain ⟨same, stack⟩ := ofParts_inj (tidy_stackOf path) tidy spelled
  rw [join_name named, same, stack]

/-- A separator at the end leads to the directory itself. -/
theorem foldl_followed (path : String) :
    (parts path ++ if endsOpen path then ["."] else []).foldl (cleanPart (isRooted path)) [] =
      stackOf path := by
  rw [List.foldl_append]
  split <;> rfl

theorem join_ne_empty (named : FileName part) (directory : String) : join directory part ≠ "" := by
  intro empty
  have parts := parts_join_name named directory
  rw [empty] at parts
  simpa [Path.parts, Text.splitAt] using congrArg List.length parts

theorem stackOf_join (named : FileName part) (directory : String) :
    stackOf (join directory part) = part :: stackOf directory := by
  have tidy := tidy_name named directory
  rw [stackOf, isRooted_join named, parts_join_name named, ← List.reverse_cons, foldl_of_tidy tidy]

end Path

namespace Volume

variable {v next : Volume} {path name : String} {entry : FileEntry} {written : List String}

section Looking

variable {operation key : String}

theorem keyOf_of_disk (disk : v.medium = .disk) (path : String) : v.keyOf path = Path.clean path := by
  simp [keyOf, disk]

theorem key_of_locate (success : v.locate operation path = .ok key) : key = v.keyOf path := by
  unfold locate at success
  split at success
  · cases success
    rfl
  · next disk =>
      split at success
      · cases success
      · have found := key_of_follow _ _ success
        rw [Path.foldl_followed] at found
        rw [keyOf_of_disk disk]
        exact found

theorem look_eq_ok (success : v.look path = .ok entry) : v.get? (v.keyOf path) = some entry := by
  rw [look, find] at success
  obtain ⟨key, located, found⟩ := (Outcome.bind_eq_ok_iff _ _ _).mp success
  split at found
  · next there =>
      cases found
      rw [← key_of_locate located]
      exact there
  · cases found

/-- What is found is still found on a volume that has grown. -/
theorem Extends.look (frame : v.Extends next written) (success : v.look path = .ok entry) :
    ∃ now, next.look path = .ok now := by
  rw [Volume.look, find] at success
  obtain ⟨key, located, found⟩ := (Outcome.bind_eq_ok_iff _ _ _).mp success
  split at found
  · next there =>
      obtain ⟨now, later, _⟩ := frame.kept there
      refine ⟨now, ?_⟩
      rw [Volume.look, find, frame.medium, frame.locate located]
      simp [Except.bind, later]
  · cases found

/-- All directories that are passed are there. -/
theorem directories_of_follow (done rest : List String)
    (above : ∀ stack, stack <:+ done → stack ≠ done →
      v.isDirectory (Path.ofParts (Path.isRooted path) stack.reverse) = true)
    (success : v.follow operation path done rest = .ok key) :
    ∀ stack, stack <:+ rest.foldl (Path.cleanPart (Path.isRooted path)) done →
      stack ≠ rest.foldl (Path.cleanPart (Path.isRooted path)) done →
      v.isDirectory (Path.ofParts (Path.isRooted path) stack.reverse) = true := by
  induction rest generalizing done with
  | nil => exact above
  | cons part rest ih =>
      rw [follow] at success
      split at success
      · cases success
      · next entry found =>
          split at success
          · next isDirectory =>
              refine ih _ ?_ success
              intro stack suffix proper
              rcases Path.suffix_cleanPart suffix with same | sooner
              · exact absurd same proper
              · by_cases last : stack = done
                · rw [last, Volume.isDirectory, found]
                  exact isDirectory
                · exact above stack sooner last
          · cases success

/-- A clean path can be followed when all directories on it are there. -/
theorem follow_of_directories (v : Volume) (operation path : String) (done rest : List String)
    (tidy : Path.Tidy (Path.isRooted path) (rest.reverse ++ done))
    (above : ∀ stack, stack <:+ rest.reverse ++ done → stack ≠ rest.reverse ++ done →
      v.isDirectory (Path.ofParts (Path.isRooted path) stack.reverse) = true) :
    v.follow operation path done rest =
      .ok (Path.ofParts (Path.isRooted path) (rest.reverse ++ done).reverse) := by
  induction rest generalizing done with
  | nil => rfl
  | cons part rest ih =>
      rw [List.reverse_cons, List.append_assoc, List.singleton_append] at tidy above ⊢
      have here := above done ((List.suffix_cons part done).trans (List.suffix_append _ _)) (by
        intro same
        have lengths := congrArg List.length same
        simp at lengths
        omega)
      have kept : Path.cleanPart (Path.isRooted path) done part = part :: done := by
        have tidy := tidy.suffix (List.suffix_append _ _)
        have cleaned := Path.foldl_of_tidy tidy
        rw [List.reverse_cons, List.foldl_append, Path.foldl_of_tidy tidy.2.2.2] at cleaned
        exact cleaned
      rw [isDirectory] at here
      rw [follow]
      split at here
      · next entry found =>
          simp only [found, here, ↓reduceIte, kept]
          exact ih _ tidy above
      · cases here

/-- On a disk each member of a directory is located when all directories on the way are there. -/
theorem locate_join_of_directories (named : Path.FileName name) (disk : v.medium = .disk)
    (above : ∀ stack, stack <:+ Path.stackOf path →
      v.isDirectory (Path.ofParts (Path.isRooted path) stack.reverse) = true) (operation : String) :
    v.locate operation (Path.join path name) = .ok (Path.join path name) := by
  have split : (Path.parts (Path.join path name)).reverse ++ [] = name :: Path.stackOf path := by
    rw [Path.parts_join_name named, ← List.reverse_cons, List.reverse_reverse, List.append_nil]
  have followed := v.follow_of_directories operation (Path.join path name) []
    (Path.parts (Path.join path name))
  rw [split, Path.isRooted_join named] at followed
  simp only [locate, disk, beq_iff_eq, Path.join_ne_empty named, ↓reduceIte,
    Path.endsOpen_join named, Bool.false_eq_true, List.append_nil]
  rw [followed (Path.tidy_name named path), ← Path.join_name named]
  intro stack suffix proper
  rcases List.suffix_cons_iff.mp suffix with whole | before
  · exact absurd whole proper
  · exact above stack before

/-- From a directory that is located each of its members is. -/
theorem locate_join (named : Path.FileName name) (located : v.locate operation path = .ok key)
    (isDirectory : v.isDirectory (v.keyOf path) = true) (other : String) :
    v.locate other (Path.join path name) = .ok (Path.join path name) := by
  cases medium : v.medium with
  | memory => simp [locate, medium, keyOf_join named]
  | disk =>
      rw [keyOf_of_disk medium] at isDirectory
      simp only [locate, medium] at located
      split at located
      · cases located
      · have above := directories_of_follow [] _ (fun stack suffix proper =>
          absurd (List.suffix_nil.mp suffix) proper) located
        rw [Path.foldl_followed] at above
        apply locate_join_of_directories named medium
        intro stack suffix
        by_cases last : stack = Path.stackOf path
        · rw [last]
          exact isDirectory
        · exact above stack suffix last

/-- What is there below a directory is found. -/
theorem look_join (named : Path.FileName name) (success : v.look path = .ok entry)
    (isDirectory : entry.isDirectory = true) {member : FileEntry}
    (found : v.get? (Path.join path name) = some member) :
    v.look (Path.join path name) = .ok member := by
  have here : v.isDirectory (v.keyOf path) = true := by
    rw [Volume.isDirectory, look_eq_ok success]
    exact isDirectory
  rw [look, find] at success ⊢
  obtain ⟨key, located, _⟩ := (Outcome.bind_eq_ok_iff _ _ _).mp success
  rw [locate_join named located here]
  simp [Except.bind, found]

end Looking

section Depth

def keys (v : Volume) : Finset String :=
  (v.entries.map (·.1)).toFinset

theorem mem_keys (v : Volume) (key : String) : key ∈ v.keys ↔ (v.get? key).isSome = true := by
  rw [keys, List.mem_toFinset, get?, List.mem_map]
  induction v.entries with
  | nil => simp
  | cons first rest ih =>
      rw [List.lookup_cons]
      by_cases same : key = first.1
      · simp [same]
      · have differs : (key == first.1) = false := beq_false_of_ne same
        rw [differs, ← ih]
        simp [Ne.symm same]

theorem card_keys_le (v : Volume) : v.keys.card ≤ v.entries.length := by
  simpa [keys] using (v.entries.map (·.1)).toFinset_card_le

theorem Extends.card_keys_le (frame : v.Extends next written) : v.keys.card ≤ next.keys.card := by
  refine Finset.card_le_card fun key member => ?_
  rw [mem_keys] at member ⊢
  exact frame.isSome member

/-- The number of keys that are longer than a path: a walk from there goes no deeper. -/
def room (v : Volume) (path : String) : Nat :=
  (v.keys.filter fun key => (Path.stackOf path).length < (Path.parts key).length).card

theorem room_le (v : Volume) (path : String) : v.room path ≤ v.keys.card :=
  Finset.card_filter_le _ _

theorem room_join_lt (named : Path.FileName name) (found : v.look (Path.join path name) = .ok entry) :
    v.room (Path.join path name) < v.room path := by
  have there := look_eq_ok found
  rw [keyOf_join named] at there
  refine Finset.card_lt_card ((Finset.ssubset_iff_of_subset ?_).mpr ⟨Path.join path name, ?_, ?_⟩)
  · intro key member
    rw [Finset.mem_filter, Path.stackOf_join named, List.length_cons] at member
    rw [Finset.mem_filter]
    exact ⟨member.1, by omega⟩
  · rw [Finset.mem_filter, mem_keys, there, Path.parts_join_name named]
    simp
  · rw [Finset.mem_filter, Path.stackOf_join named, Path.parts_join_name named]
    simp

theorem Orderly.fileName (orderly : v.Orderly) {key : String} (found : v.get? key = some entry) :
    ∀ name ∈ Text.sorted (entry.members.map Path.base), Path.FileName name := by
  intro name member
  obtain ⟨listed, inside, rfl⟩ := List.mem_map.mp ((Text.mem_sorted _ _).mp member)
  obtain ⟨rooted, part, done, named, tidy, rfl, _⟩ := orderly.placed found inside
  rw [Path.base_ofParts named tidy]
  exact named

theorem visitsFrom_of_file (fuel : Nat) (looked : v.look path = .ok entry)
    (file : entry.isDirectory = false) :
    v.visitsFrom (fuel + 1) path = [.file path entry.contents.length] := by
  simp [visitsFrom, looked, file]

theorem visitsFrom_of_directory (fuel : Nat) (looked : v.look path = .ok entry)
    (isDirectory : entry.isDirectory = true)
    (opened : v.refusals.openings.contains path = false) :
    v.visitsFrom (fuel + 1) path =
      (Text.sorted (entry.members.map Path.base)).flatMap fun name =>
        v.visitsFrom fuel (Path.join path name) := by
  simp only [visitsFrom, looked, isDirectory, opened, Bool.not_true, Bool.false_eq_true, ↓reduceIte]

/-- A walk is the same with any fuel that covers the room below its path. -/
theorem visitsFrom_of_room (orderly : v.Orderly) {fuel more : Nat} (enough : v.room path + 2 ≤ fuel)
    (other : v.room path + 2 ≤ more) : v.visitsFrom fuel path = v.visitsFrom more path := by
  induction fuel generalizing more path with
  | zero => omega
  | succ fuel ih =>
      obtain ⟨more, rfl⟩ : ∃ less, more = less + 1 := ⟨more - 1, by omega⟩
      rw [visitsFrom, visitsFrom]
      split
      · rfl
      · next entry found =>
          split
          · rfl
          · split
            · rfl
            · refine List.flatMap_congr fun name member => ?_
              have named := orderly.fileName (look_eq_ok found) name member
              cases below : v.look (Path.join path name) with
              | error cause =>
                  obtain ⟨fuel, rfl⟩ : ∃ less, fuel = less + 1 := ⟨fuel - 1, by omega⟩
                  obtain ⟨more, rfl⟩ : ∃ less, more = less + 1 := ⟨more - 1, by omega⟩
                  rw [visitsFrom, visitsFrom, below]
              | ok member =>
                  have less := room_join_lt named below
                  exact ih (by omega) (by omega)

end Depth

section Grown

/-- A path that is spelled like every directory on the way to the output directory that has its key. In
memory this is all but a matter of course: only the root has more than one spelling. -/
def Aligned (v : Volume) (output path : String) : Prop :=
  ∀ done, v.Passes output done →
    v.keyOf path = v.keyOf (Path.ofParts (Path.isRooted output) done.reverse) →
    Path.clean path = Path.ofParts (Path.isRooted output) done.reverse

variable {output : String}

/-- A key that is the path of a name is spelled in one way. -/
theorem clean_of_keyOf {rooted : Bool} {done : List String} (named : Path.FileName name)
    (tidy : Path.Tidy rooted done) (same : v.keyOf path = Path.ofParts rooted (name :: done).reverse) :
    Path.clean path = Path.ofParts rooted (name :: done).reverse := by
  simp only [keyOf] at same
  split at same
  · have parts := Path.baseParts_ofParts (named.tidy tidy)
    rw [← same] at parts
    simp [Path.baseParts, Path.parts, Text.splitAt, Path.separator] at parts
  · exact same

theorem aligned_ofParts (v : Volume) (output : String) {rooted : Bool} {done : List String}
    (named : Path.FileName name) (tidy : Path.Tidy rooted done) :
    v.Aligned output (Path.ofParts rooted (name :: done).reverse) := by
  intro stack passes same
  rw [keyOf_ofParts v named tidy] at same
  have spelled := clean_of_keyOf named tidy same.symm
  rw [Path.clean_ofParts passes.tidy] at spelled
  rw [spelled, Path.clean_ofParts (named.tidy tidy)]

theorem aligned_join (v : Volume) (output : String) (named : Path.FileName name)
    (directory : String) : v.Aligned output (Path.join directory name) := by
  rw [Path.join_name named]
  exact aligned_ofParts v output named (Path.tidy_stackOf directory)

/-- A path whose spelling agrees with that of the directories in which the output directory begins. -/
theorem aligned_of_starts
    (alike : ∀ start ∈ Path.starts output, v.keyOf path = v.keyOf start → Path.clean path = start) :
    v.Aligned output path := by
  intro done passes same
  rcases passes.start_or_above with start | ⟨part, rest, rfl, named, above⟩
  · exact alike _ start same
  · rw [keyOf_ofParts v named above.tidy] at same
    exact clean_of_keyOf named above.tidy same

/-- A member that is new to an aligned directory is reached under its own name. -/
theorem Fresh.join_eq {member : String} (fresh : Fresh v next output (v.keyOf path) member)
    (aligned : v.Aligned output path) : Path.FileName (Path.base member) ∧
      Path.join path (Path.base member) = member ∧ v.keyOf member = member := by
  obtain ⟨_, _, part, done, named, passes, rfl, parent⟩ := fresh
  rw [Path.base_ofParts named passes.tidy]
  exact ⟨named, Path.join_of_clean named passes.tidy (aligned done passes parent),
    keyOf_ofParts v named passes.tidy⟩

/-- What a walk is looked through for: chosen files, and failures. -/
def Visit.counts (chosen : String → Bool) : Visit → Bool
  | .file path _ => chosen path
  | .failure _ => true

/-- On the way to the output directory only what is a directory already is refused to be opened. -/
def Readable (v : Volume) (output : String) : Prop :=
  ∀ stack, v.Passes output stack → ∀ path ∈ v.refusals.openings,
    Path.clean path = Path.ofParts (Path.isRooted output) stack.reverse →
      v.isDirectory (v.keyOf path) = true

variable {chosen : String → Bool} (frame : v.Extends next written) (grows : v.Grows next output)
  (readable : v.Readable output) (unchosen : ∀ path ∈ written, chosen path = false)

include frame grows readable unchosen

/-- Below a member that is new there is nothing but directories and what was written. -/
theorem filter_visits_fresh (fuel : Nat) {member : String} {now : FileEntry}
    (fresh : Fresh v next output (v.keyOf path) member) (aligned : v.Aligned output path)
    (looked : next.look path = .ok now) (isDirectory : now.isDirectory = true) :
    (next.visitsFrom fuel (Path.join path (Path.base member))).filter (Visit.counts chosen) = [] := by
  induction fuel generalizing path member now with
  | zero => rfl
  | succ fuel ih =>
      obtain ⟨named, joined, own⟩ := fresh.join_eq aligned
      obtain ⟨entry, found⟩ := Option.isSome_iff_exists.mp fresh.present
      have later := look_join named looked isDirectory (joined.symm ▸ found)
      have onward := aligned_join v output named path
      rw [joined] at later onward ⊢
      cases inner : entry.isDirectory with
      | true =>
          -- A directory that could not be opened would have been there already.
          have opened : next.refusals.openings.contains member = false := by
            rw [frame.refusals, List.contains_eq_mem, decide_eq_false_iff_not]
            intro refused
            obtain ⟨stack, passes, reached⟩ := grows.passed fresh.absent found inner
            have there := readable stack passes member refused
              (onward stack passes (own.trans reached))
            rw [own, Volume.isDirectory, fresh.absent] at there
            cases there
          rw [visitsFrom_of_directory fuel later inner opened, List.filter_flatMap,
            List.flatMap_eq_nil_iff]
          intro name listed
          obtain ⟨below, inside, rfl⟩ := List.mem_map.mp ((Text.mem_sorted _ _).mp listed)
          exact ih (own.symm ▸ grows.made fresh.absent found below inside) onward later inner
      | false =>
          have inside : member ∈ written := by
            apply Classical.byContradiction
            intro apart
            have made := (frame.made fresh.absent found apart).1
            rw [inner] at made
            cases made
          rw [visitsFrom_of_file fuel later inner]
          simp [Visit.counts, unchosen member inside]

variable (orderly : v.Orderly)

include orderly

/-- A file that is not chosen may have become a directory above the output directory. -/
theorem filter_visits_turned (fuel : Nat) {now : FileEntry} (aligned : v.Aligned output path)
    (turned : now.isDirectory = true → Path.clean path ∈ Path.upwards output)
    (found : v.look path = .ok entry) (file : entry.isDirectory = false)
    (looked : next.look path = .ok now) (passed : chosen path = false) :
    (next.visitsFrom fuel path).filter (Visit.counts chosen) = [] := by
  cases fuel with
  | zero => rfl
  | succ fuel =>
      have there := look_eq_ok found
      have later := look_eq_ok looked
      rw [keyOf_of_medium frame.medium] at later
      cases inner : now.isDirectory with
      | true =>
          have opened : next.refusals.openings.contains path = false := by
            rw [frame.refusals, List.contains_eq_mem, decide_eq_false_iff_not]
            intro refused
            obtain ⟨stack, passes, spelled⟩ := v.passes_of_mem_upwards (turned inner)
            have already := readable stack passes path refused spelled
            simp [Volume.isDirectory, there, file] at already
          obtain ⟨news, members, fresh, _⟩ := grows.kept there later
          rw [visitsFrom_of_directory fuel looked inner opened, List.filter_flatMap,
            List.flatMap_eq_nil_iff]
          intro name listed
          obtain ⟨below, inside, rfl⟩ := List.mem_map.mp ((Text.mem_sorted _ _).mp listed)
          rw [members, List.mem_append] at inside
          rcases inside with sooner | new
          · have directory := orderly.directory there sooner
            rw [file] at directory
            cases directory
          · exact filter_visits_fresh frame grows readable unchosen fuel (fresh below new) aligned
              looked inner
      | false =>
          rw [visitsFrom_of_file fuel looked inner]
          simp [Visit.counts, passed]

/-- The files that became directories are above the output directory. -/
def Turns (v next : Volume) (output : String) : Prop :=
  ∀ path entry now, v.Aligned output path → v.get? (v.keyOf path) = some entry →
    next.get? (v.keyOf path) = some now → entry.isDirectory = false → now.isDirectory = true →
      Path.clean path ∈ Path.upwards output

/-- A file that is met again, and as it was if it is chosen. -/
theorem filter_visits_file (turns : v.Turns next output) (fuel : Nat) (aligned : v.Aligned output path)
    (found : v.look path = .ok entry) (file : entry.isDirectory = false)
    (stays : chosen path = true → next.get? (v.keyOf path) = v.get? (v.keyOf path)) :
    (next.visitsFrom (fuel + 1) path).filter (Visit.counts chosen) =
      (v.visitsFrom (fuel + 1) path).filter (Visit.counts chosen) := by
  obtain ⟨now, looked⟩ := frame.look found
  have there := look_eq_ok found
  have later := look_eq_ok looked
  rw [keyOf_of_medium frame.medium] at later
  by_cases pick : chosen path = true
  · have same := stays pick
    rw [there, later, Option.some.injEq] at same
    rw [visitsFrom_of_file fuel found file, visitsFrom_of_file fuel looked (same ▸ file), same]
  · have passed : chosen path = false := by simpa using pick
    have turned := turns path entry now aligned there later file
    rw [filter_visits_turned frame grows readable unchosen orderly (fuel + 1) aligned turned found
      file looked passed, visitsFrom_of_file fuel found file]
    simp [Visit.counts, passed]

/-- A walk that fails nowhere finds the same chosen files after the volume has grown, and still fails
nowhere. -/
theorem filter_visits (turns : v.Turns next output) (fuel : Nat) (aligned : v.Aligned output path)
    (free : ∀ cause, Visit.failure cause ∉ v.visitsFrom fuel path)
    (stays : ∀ file size, Visit.file file size ∈ v.visitsFrom fuel path → chosen file = true →
      next.get? (v.keyOf file) = v.get? (v.keyOf file)) :
    (next.visitsFrom fuel path).filter (Visit.counts chosen) =
      (v.visitsFrom fuel path).filter (Visit.counts chosen) := by
  induction fuel generalizing path with
  | zero => rfl
  | succ fuel ih =>
      cases found : v.look path with
      | error cause =>
          refine absurd ?_ (free cause)
          simp [visitsFrom, found]
      | ok entry =>
          cases kind : entry.isDirectory with
          | false =>
              refine filter_visits_file frame grows readable unchosen orderly turns fuel aligned found
                kind (stays path entry.contents.length ?_)
              simp [visitsFrom_of_file fuel found kind]
          | true =>
              obtain ⟨now, looked⟩ := frame.look found
              have there := look_eq_ok found
              have later := look_eq_ok looked
              rw [keyOf_of_medium frame.medium] at later
              have opened : v.refusals.openings.contains path = false := by
                rw [Bool.eq_false_iff]
                intro refused
                exact free .refused (by simp [visitsFrom, found, kind, -List.contains_eq_mem, refused])
              have isDirectory : now.isDirectory = true := by
                obtain ⟨same, again, remains, _⟩ := frame.kept there
                rw [later, Option.some.injEq] at again
                exact again ▸ remains kind
              have visited := visitsFrom_of_directory fuel found kind opened
              obtain ⟨news, members, fresh, _⟩ := grows.kept there later
              -- Nothing that counts is found below what is new, and the rest is as before.
              have nothing : ∀ name ∈ news.map Path.base, (next.visitsFrom fuel
                  (Path.join path name)).filter (Visit.counts chosen) = [] := by
                intro name listed
                obtain ⟨below, inside, rfl⟩ := List.mem_map.mp listed
                exact filter_visits_fresh frame grows readable unchosen fuel (fresh below inside)
                  aligned looked isDirectory
              rw [visitsFrom_of_directory fuel looked isDirectory (frame.refusals.symm ▸ opened),
                members, List.map_append, List.filter_flatMap,
                Text.flatMap_sorted_append _ _ _ nothing, visited, List.filter_flatMap]
              refine List.flatMap_congr fun name listed => ?_
              have named := orderly.fileName there name listed
              have below {visit : Visit} (inside : visit ∈ v.visitsFrom fuel (Path.join path name)) :
                  visit ∈ v.visitsFrom (fuel + 1) path := by
                rw [visited]
                exact List.mem_flatMap.mpr ⟨name, listed, inside⟩
              exact ih (aligned_join v output named path)
                (fun cause inside => free cause (below inside))
                fun file size inside => stays file size (below inside)

end Grown

section Meeting

variable {file : String} {size fuel : Nat}

/-- A file is met where the walk begins, or below a member. -/
theorem met_here_or_below (met : Visit.file file size ∈ v.visitsFrom (fuel + 1) path) :
    ∃ entry, v.look path = .ok entry ∧ (file = path ∧ entry.isDirectory = false ∨
      ∃ name ∈ Text.sorted (entry.members.map Path.base),
        Visit.file file size ∈ v.visitsFrom fuel (Path.join path name)) := by
  rw [visitsFrom] at met
  split at met
  · simp at met
  · next entry found =>
      refine ⟨entry, found, ?_⟩
      split at met
      · next kind =>
          simp only [List.mem_singleton, Visit.file.injEq] at met
          exact .inl ⟨met.1, by simpa using kind⟩
      · split at met
        · simp at met
        · exact .inr (List.mem_flatMap.mp met)

/-- The files of a walk are found where they are met. -/
theorem look_of_mem_visits (met : Visit.file file size ∈ v.visitsFrom fuel path) :
    ∃ entry, v.look file = .ok entry ∧ entry.isDirectory = false := by
  induction fuel generalizing path with
  | zero => cases met
  | succ fuel ih =>
      obtain ⟨entry, found, ⟨rfl, kind⟩ | ⟨name, _, below⟩⟩ := met_here_or_below met
      · exact ⟨entry, found, kind⟩
      · exact ih below

theorem aligned_of_mem_visits {output : String} (orderly : v.Orderly) (aligned : v.Aligned output path)
    (met : Visit.file file size ∈ v.visitsFrom fuel path) : v.Aligned output file := by
  induction fuel generalizing path with
  | zero => cases met
  | succ fuel ih =>
      obtain ⟨entry, found, ⟨rfl, _⟩ | ⟨name, listed, below⟩⟩ := met_here_or_below met
      · exact aligned
      · have named := orderly.fileName (look_eq_ok found) name listed
        exact ih (aligned_join v output named path) below

theorem filter_files (chosen : String → Bool) (visits : List Visit) :
    (visits.filterMap Visit.file?).filter chosen =
      ((visits.filter (Visit.counts chosen)).filterMap Visit.file?) := by
  induction visits with
  | nil => rfl
  | cons visit rest ih =>
      cases visit with
      | failure cause => exact ih
      | file found size =>
          by_cases pick : chosen found = true
          · simp [Visit.file?, Visit.counts, pick, ih]
          · simp [Visit.file?, Visit.counts, pick, ih]

/-- A walk with the fuel of a volume that has grown is no other walk. -/
theorem Extends.visits_eq (frame : v.Extends next written) (orderly : v.Orderly) (path : String) :
    v.visitsFrom (next.entries.length + 2) path = v.visits path := by
  have room := v.room_le path
  have kept := v.card_keys_le
  have grown := frame.card_keys_le
  have counted := next.card_keys_le
  exact visitsFrom_of_room orderly (by omega) (by omega)

end Meeting

end Volume

end SqlMapper
