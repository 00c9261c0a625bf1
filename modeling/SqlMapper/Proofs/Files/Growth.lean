import Mathlib.Data.List.Infix
import SqlMapper.Proofs.Files.Frame
import SqlMapper.Proofs.Lookup

/-!
How a volume grows when something is written below a directory. A directory that is there keeps its
members in their order and gets new ones at the end. Whatever is listed anew was not there before, and
lies on the way to the directory that is written into, or is a file in it.
-/

namespace SqlMapper

namespace Path

variable {rooted : Bool} {part : String} {stack done : List String}

/-- The steps up with which the cleaned parts begin; they are at the end of the parts in reverse. -/
def stepsUp (stack : List String) : List String :=
  stack.dropWhile (· != "..")

/-- A path and the directories above it, as the path spells them. -/
def upwards (path : String) : List String :=
  (stackOf path).tails.map fun stack => ofParts (isRooted path) stack.reverse

/-- The directories that a path goes up through before it goes down. -/
def starts (path : String) : List String :=
  (stepsUp (stackOf path)).tails.map fun stack => ofParts (isRooted path) stack.reverse

theorem stepsUp_cons (named : FileName part) : stepsUp (part :: done) = stepsUp done := by
  simp [stepsUp, named.2.2]

theorem stepsUp_of_head {stack : List String} (head : stack.head? = some "..") :
    stepsUp stack = stack := by
  cases stack with
  | nil => rfl
  | cons first rest =>
      cases head
      simp [stepsUp]

/-- The parts that are not in front are names. -/
theorem Tidy.fileName (tidy : Tidy rooted (part :: done)) (down : part ≠ "..") : FileName part :=
  ⟨tidy.1, tidy.2.1, down⟩

theorem FileName.tidy (named : FileName part) (tidy : Tidy rooted done) :
    Tidy rooted (part :: done) :=
  ⟨named.1, named.2.1, fun up => absurd up named.2.2, tidy⟩

theorem Tidy.suffix (tidy : Tidy rooted stack) (suffix : done <:+ stack) : Tidy rooted done := by
  induction stack with
  | nil =>
      rw [List.suffix_nil.mp suffix]
      trivial
  | cons first rest ih =>
      rcases List.suffix_cons_iff.mp suffix with rfl | later
      · exact tidy
      · exact ih tidy.2.2.2 later

theorem stepsUp_suffix (suffix : done <:+ stack) : stepsUp done <:+ stepsUp stack := by
  induction stack with
  | nil => rw [List.suffix_nil.mp suffix]
  | cons first rest ih =>
      rcases List.suffix_cons_iff.mp suffix with rfl | later
      · exact List.suffix_rfl
      · by_cases up : first = ".."
        · subst up
          have whole : stepsUp (".." :: rest) = ".." :: rest := stepsUp_of_head rfl
          rw [whole]
          exact ((List.dropWhile_suffix _).trans later).trans (List.suffix_cons _ rest)
        · have down : stepsUp (first :: rest) = stepsUp rest := by simp [stepsUp, up]
          rw [down]
          exact ih later

/-- Steps up are only added along a path. -/
theorem stepsUp_cleanPart (tidy : Tidy rooted done) :
    stepsUp done <:+ stepsUp (cleanPart rooted done part) := by
  unfold cleanPart
  split
  · exact List.suffix_rfl
  · split
    · cases done with
      | nil => exact List.nil_suffix
      | cons last before =>
          by_cases above : last = ".."
          · subst above
            simp only [beq_self_eq_true, ↓reduceIte]
            exact stepsUp_suffix (List.suffix_cons _ _)
          · simp only [beq_iff_eq, above, ↓reduceIte]
            rw [stepsUp_cons (tidy.fileName above)]
    · exact stepsUp_suffix (List.suffix_cons _ _)

theorem stepsUp_foldl {rest : List String} (segments : ∀ part ∈ rest, Segment part)
    (tidy : Tidy rooted done) : stepsUp done <:+ stepsUp (rest.foldl (cleanPart rooted) done) := by
  induction rest generalizing done with
  | nil => exact List.suffix_rfl
  | cons first rest ih =>
      rw [List.forall_mem_cons] at segments
      exact (stepsUp_cleanPart tidy).trans (ih segments.2 (tidy_cleanPart tidy segments.1))

/-- A name below a directory is none of the directories in which paths begin. -/
theorem join_ne_start {name : String} (named : FileName name) (directory : String) (rooted : Bool) :
    join directory name ≠ ofParts rooted [] := by
  intro same
  have empty : Tidy rooted [] := trivial
  rw [join_name named] at same
  cases (ofParts_inj (tidy_name named directory) empty same).2

end Path

namespace Volume

variable {v next : Volume} {output key member : String} {entry : FileEntry} {written : List String}
  {stack : List String}

/-- The directories in which a path begins, and to which it goes up, are there. -/
def Begins (v : Volume) (path : String) : Prop :=
  ∀ start ∈ Path.starts path, v.isDirectory (v.keyOf start) = true

instance (v : Volume) (path : String) : Decidable (v.Begins path) :=
  decidable_of_iff ((Path.starts path).all (fun start => v.isDirectory (v.keyOf start)) = true)
    List.all_eq_true

/-- The cleaned parts of the directories that are passed on the way to the output directory. On a disk
the way goes through the parts as they are spelled, and those that are taken back are passed as well. -/
def Passes (v : Volume) (output : String) (stack : List String) : Prop :=
  ∃ before, before <+: Path.parts output ∧ (v.medium = .memory → before = Path.parts output) ∧
    stack <:+ before.foldl (Path.cleanPart (Path.isRooted output)) []

theorem passes_of_suffix (v : Volume) (suffix : stack <:+ Path.stackOf output) :
    v.Passes output stack :=
  ⟨Path.parts output, List.prefix_rfl, fun _ => rfl, suffix⟩

theorem passes_stackOf (v : Volume) (output : String) : v.Passes output (Path.stackOf output) :=
  v.passes_of_suffix List.suffix_rfl

theorem passes_of_mem_upwards (v : Volume) {path : String} (member : path ∈ Path.upwards output) :
    ∃ stack, v.Passes output stack ∧ path = Path.ofParts (Path.isRooted output) stack.reverse := by
  obtain ⟨stack, suffix, rfl⟩ := List.mem_map.mp member
  exact ⟨stack, v.passes_of_suffix ((List.mem_tails _ _).mp suffix), rfl⟩

namespace Passes

theorem of_suffix {above : List String} (passes : v.Passes output stack) (suffix : above <:+ stack) :
    v.Passes output above := by
  obtain ⟨before, way, memory, reached⟩ := passes
  exact ⟨before, way, memory, suffix.trans reached⟩

theorem tidy (passes : v.Passes output stack) : Path.Tidy (Path.isRooted output) stack := by
  obtain ⟨before, way, _, reached⟩ := passes
  have empty : Path.Tidy (Path.isRooted output) [] := trivial
  have segments : ∀ part ∈ before, Path.Segment part :=
    fun part member => Path.segments_parts output part (way.subset member)
  exact (Path.tidy_foldl segments empty).suffix reached

/-- In memory only the directories above the output directory are passed. -/
theorem straight (passes : v.Passes output stack) (memory : v.medium = .memory) :
    stack <:+ Path.stackOf output := by
  obtain ⟨before, _, whole, reached⟩ := passes
  rw [whole memory] at reached
  exact reached

/-- The steps up come first on the way, and are never taken back. -/
theorem up (passes : v.Passes output stack) :
    Path.stepsUp stack <:+ Path.stepsUp (Path.stackOf output) := by
  obtain ⟨before, ⟨rest, way⟩, _, reached⟩ := passes
  have segments : ∀ part ∈ before ++ rest, Path.Segment part := way ▸ Path.segments_parts output
  rw [List.forall_mem_append] at segments
  have empty : Path.Tidy (Path.isRooted output) [] := trivial
  rw [Path.stackOf, ← way, List.foldl_append]
  exact (Path.stepsUp_suffix reached).trans
    (Path.stepsUp_foldl segments.2 (Path.tidy_foldl segments.1 empty))

/-- Up from a directory on the way is another one, unless the way begins there. -/
theorem start_or_above (passes : v.Passes output stack) :
    Path.ofParts (Path.isRooted output) stack.reverse ∈ Path.starts output ∨
      ∃ part done, stack = part :: done ∧ Path.FileName part ∧ v.Passes output done := by
  have first (start : Path.stepsUp stack = stack) :
      Path.ofParts (Path.isRooted output) stack.reverse ∈ Path.starts output :=
    List.mem_map_of_mem ((List.mem_tails _ _).mpr (start ▸ passes.up))
  cases stack with
  | nil => exact .inl (first rfl)
  | cons part done =>
      by_cases up : part = ".."
      · exact .inl (first (Path.stepsUp_of_head (by rw [up, List.head?_cons])))
      · exact .inr ⟨part, done, rfl, passes.tidy.fileName up,
          passes.of_suffix (List.suffix_cons part done)⟩

end Passes

theorem keyOf_of_medium (same : next.medium = v.medium) (path : String) :
    next.keyOf path = v.keyOf path := by
  simp only [keyOf, same]

theorem Extends.begins {path : String} (frame : v.Extends next written) (begins : v.Begins path) :
    next.Begins path := by
  intro start member
  rw [keyOf_of_medium frame.medium]
  exact frame.isDirectory (begins start member)

theorem keyOf_clean (v : Volume) (path : String) : v.keyOf (Path.clean path) = v.keyOf path := by
  have clean : Path.clean (Path.clean path) = Path.clean path :=
    Path.clean_ofParts (Path.tidy_stackOf path)
  simp only [keyOf, clean]

/-- The key of a name below a directory is its path. -/
theorem keyOf_ofParts (v : Volume) {rooted : Bool} {part : String} {done : List String}
    (named : Path.FileName part) (tidy : Path.Tidy rooted done) :
    v.keyOf (Path.ofParts rooted (part :: done).reverse) =
      Path.ofParts rooted (part :: done).reverse := by
  have whole := named.tidy tidy
  have apart (text : String) (single : Path.baseParts text = [] ∨ Path.baseParts text = [".."]) :
      Path.ofParts rooted (part :: done).reverse ≠ text := by
    intro same
    have parts := Path.baseParts_ofParts whole
    rw [same] at parts
    rcases single with none | up
    · rw [none] at parts
      simp at parts
    · rw [up] at parts
      have last := congrArg List.getLast? parts
      rw [List.reverse_cons, List.getLast?_concat] at last
      simp at last
      exact named.2.2 last.symm
  simp only [keyOf, Path.clean_ofParts whole, beq_false_of_ne (apart "." (.inl rfl)),
    beq_false_of_ne (apart ".." (.inr rfl)), Bool.or_self, Bool.and_false, Bool.false_eq_true,
    ↓reduceIte]

theorem parentOf_ofParts (v : Volume) {rooted : Bool} {part : String} {done : List String}
    (named : Path.FileName part) (tidy : Path.Tidy rooted done) :
    v.parentOf (Path.ofParts rooted (part :: done).reverse) =
      v.keyOf (Path.ofParts rooted done.reverse) := by
  rw [parentOf, Path.directory_ofParts (named.tidy tidy)]

/-- On a disk each part of a path leads to a directory that is passed. -/
theorem passes_of_parts (disk : v.medium = .disk) {before rest : List String} {part : String}
    (whole : Path.parts output = before ++ part :: rest) :
    ∃ stack, v.Passes output stack ∧ Path.clean (Path.ofParts (Path.isRooted output)
      (before ++ [part])) = Path.ofParts (Path.isRooted output) stack.reverse := by
  have segments : ∀ other ∈ before ++ part :: rest, Path.Segment other :=
    whole ▸ Path.segments_parts output
  rw [List.forall_mem_append, List.forall_mem_cons] at segments
  refine ⟨_, ⟨before ++ [part], ⟨rest, by simp [whole]⟩, fun memory => ?_, ?_⟩,
    Path.clean_ofParts_concat segments.1 segments.2.1⟩
  · rw [disk] at memory
    cases memory
  · rw [List.foldl_concat]

/-- What is not there is a name below a directory on its way. -/
theorem onward_of_absent (begins : v.Begins output) (absent : v.get? (v.keyOf output) = none) :
    ∃ part done, Path.stackOf output = part :: done ∧ Path.FileName part ∧ v.Passes output done ∧
      v.keyOf output = Path.ofParts (Path.isRooted output) (part :: done).reverse := by
  have same : v.keyOf output =
      v.keyOf (Path.ofParts (Path.isRooted output) (Path.stackOf output).reverse) := by
    rw [← keyOf_clean]
    rfl
  rcases (passes_stackOf v output).start_or_above with start | ⟨part, done, split, named, passes⟩
  · have here := begins _ start
    rw [← same, isDirectory, absent] at here
    cases here
  · rw [split, keyOf_ofParts v named passes.tidy] at same
    exact ⟨part, done, split, named, passes, same⟩

/-- Only directories have members, and the members of a directory stand right below it; a path does
not begin in a file. -/
structure Orderly (v : Volume) : Prop where
  rooted : v.Rooted
  directory : ∀ {key entry member}, v.get? key = some entry → member ∈ entry.members →
    entry.isDirectory = true
  placed : ∀ {key entry member}, v.get? key = some entry → member ∈ entry.members →
    ∃ rooted part done, Path.FileName part ∧ Path.Tidy rooted done ∧
      member = Path.ofParts rooted (part :: done).reverse ∧
      key = v.keyOf (Path.ofParts rooted done.reverse)

/-- A member that a directory did not have: it is new, and stands right below the directory on the way
to the output directory, or in it. -/
structure Fresh (v next : Volume) (output key member : String) : Prop where
  absent : v.get? member = none
  present : (next.get? member).isSome = true
  placed : ∃ part done, Path.FileName part ∧ v.Passes output done ∧
    member = Path.ofParts (Path.isRooted output) (part :: done).reverse ∧
    key = v.keyOf (Path.ofParts (Path.isRooted output) done.reverse)

theorem Fresh.mono {last : Volume} (fresh : Fresh v next output key member)
    (grows : ∀ other, (next.get? other).isSome = true → (last.get? other).isSome = true) :
    Fresh v last output key member :=
  ⟨fresh.absent, grows member fresh.present, fresh.placed⟩

/-- Members are only added, at the end and new ones. What gets none stays a file or a directory, and
what gets one is a directory. -/
structure Grows (v next : Volume) (output : String) : Prop where
  kept : ∀ {key entry now}, v.get? key = some entry → next.get? key = some now →
    ∃ news, now.members = entry.members ++ news ∧
      (∀ member ∈ news, Fresh v next output key member) ∧
      (news = [] → now.isDirectory = entry.isDirectory)
  made : ∀ {key now}, v.get? key = none → next.get? key = some now →
    ∀ member ∈ now.members, Fresh v next output key member
  directory : ∀ {key now member}, next.get? key = some now → member ∈ now.members →
    now.isDirectory = true
  /-- Only directories on the way are made. -/
  passed : ∀ {key now}, v.get? key = none → next.get? key = some now → now.isDirectory = true →
    ∃ stack, v.Passes output stack ∧ key = v.keyOf (Path.ofParts (Path.isRooted output) stack.reverse)

namespace Grows

theorem refl (orderly : v.Orderly) (output : String) : Grows v v output where
  directory := orderly.directory
  kept := by
    intro key entry now found later
    rw [found, Option.some.injEq] at later
    subst later
    exact ⟨[], by simp, by simp, fun _ => rfl⟩
  made := by
    intro key now absent found
    rw [absent] at found
    cases found
  passed := by
    intro key now absent found
    rw [absent] at found
    cases found

/-- One more entry is put, which has the members of the old one and new ones. -/
theorem put (grows : Grows v next output)
    (kept : ∀ old, v.get? key = some old → ∃ news, entry.members = old.members ++ news ∧
      (∀ member ∈ news, Fresh v (next.put key entry) output key member) ∧
      (news = [] → entry.isDirectory = old.isDirectory))
    (made : v.get? key = none →
      ∀ member ∈ entry.members, Fresh v (next.put key entry) output key member)
    (directory : ∀ member ∈ entry.members, entry.isDirectory = true)
    (passed : v.get? key = none → entry.isDirectory = true → ∃ stack, v.Passes output stack ∧
      key = v.keyOf (Path.ofParts (Path.isRooted output) stack.reverse)) :
    Grows v (next.put key entry) output where
  passed := by
    intro other now absent later isDirectory
    rw [get?_put] at later
    split at later
    · next same =>
        cases later
        subst same
        exact passed absent isDirectory
    · exact grows.passed absent later isDirectory
  directory := by
    intro other now member later listed
    rw [get?_put] at later
    split at later
    · cases later
      exact directory member listed
    · exact grows.directory later listed
  kept := by
    intro other old now found later
    by_cases same : other = key
    · subst same
      rw [get?_put_self, Option.some.injEq] at later
      exact later ▸ kept old found
    · -- Any other entry has grown already, and what is new in it stays new.
      rw [get?_put, if_neg same] at later
      obtain ⟨news, members, fresh, stays⟩ := grows.kept found later
      exact ⟨news, members, fun member listed =>
        (fresh member listed).mono fun any => isSome_put next key any entry, stays⟩
  made := by
    intro other now absent later member listed
    by_cases same : other = key
    · subst same
      rw [get?_put_self, Option.some.injEq] at later
      exact made absent member (later ▸ listed)
    · rw [get?_put, if_neg same] at later
      exact (grows.made absent later member listed).mono fun any => isSome_put next key any entry

/-- A new key is listed in its directory. -/
theorem list (orderly : v.Orderly) (grows : Grows v next output) {parent : String}
    (fresh : Fresh v next output parent key) (listed : next.get? parent = some entry) :
    Grows v (next.put parent (entry.withMember key)) output := by
  obtain ⟨added, members, only, already⟩ : ∃ added,
      (entry.withMember key).members = entry.members ++ added ∧ (∀ member ∈ added, member = key) ∧
        (added = [] → key ∈ entry.members) := by
    by_cases inside : key ∈ entry.members
    · exact ⟨[], by simp [FileEntry.withMember, inside], by simp, fun _ => inside⟩
    · exact ⟨[key], by simp [FileEntry.withMember, inside], by simp, by simp⟩
  have newer {news : List String} (others : ∀ member ∈ news, Fresh v next output parent member) :
      ∀ member ∈ news ++ added,
        Fresh v (next.put parent (entry.withMember key)) output parent member := by
    intro member inside
    have before : Fresh v next output parent member := by
      rcases List.mem_append.mp inside with sooner | last
      · exact others member sooner
      · exact only member last ▸ fresh
    exact before.mono fun any => isSome_put next parent any _
  refine grows.put ?_ ?_ (fun _ _ => rfl) ?_
  · intro old found
    obtain ⟨news, same, others, _⟩ := grows.kept found listed
    refine ⟨news ++ added, by rw [members, same, List.append_assoc], newer others, ?_⟩
    intro none
    -- The key was listed before it was there, and only directories have members.
    obtain ⟨rfl, rfl⟩ := List.append_eq_nil_iff.mp none
    have inside : key ∈ old.members := by simpa [same] using already rfl
    exact (orderly.directory found inside).symm
  · intro absent
    rw [members]
    exact newer (grows.made absent listed)
  · intro _ _
    obtain ⟨_, _, part, done, _, passes, _, above⟩ := fresh
    exact ⟨done, passes, above⟩

theorem listUp (orderly : v.Orderly) (begins : v.Begins output) (fuel : Nat)
    (frame : v.Extends next written) (grows : Grows v next output) (fresh : v.get? key = none)
    (there : (next.get? key).isSome = true) {part : String} {done : List String}
    (named : Path.FileName part) (passes : v.Passes output done)
    (spelled : key = Path.ofParts (Path.isRooted output) (part :: done).reverse) :
    Grows v (Volume.listUp fuel next key) output := by
  -- Going up ends at the latest where the way begins, which is there.
  induction fuel generalizing next key part done with
  | zero => exact grows
  | succ fuel ih =>
      have parent : v.parentOf key = v.keyOf (Path.ofParts (Path.isRooted output) done.reverse) := by
        rw [spelled, parentOf_ofParts v named passes.tidy]
      obtain ⟨u, made, listed⟩ := listUp_succ fuel next key
      rw [frame.parentOf_eq] at made listed
      obtain ⟨grown, present⟩ : Grows v u output ∧ (u.get? key).isSome = true := by
        rcases made with ⟨_, rfl⟩ | ⟨absent, rfl⟩
        · exact ⟨grows, there⟩
        · have before := frame.get?_eq_none absent
          have reached := isSome_put next (v.parentOf key) key .directory there
          refine ⟨?_, isSome_listUp fuel reached⟩
          rcases passes.start_or_above with start | ⟨last, rest, rfl, name, above⟩
          · have here := begins _ start
            rw [← parent, isDirectory, before] at here
            cases here
          · have grown : Grows v (next.put (v.parentOf key) .directory) output := by
              refine grows.put ?_ (fun _ _ inside => by cases inside) (fun _ inside => by cases inside)
                fun _ _ => ⟨_, passes, parent⟩
              intro old found
              rw [before] at found
              cases found
            exact ih (frame.putDirectory before) grown before (by simp) name above
              (parent.trans (keyOf_ofParts v name above.tidy))
      have placed : Fresh v u output (v.parentOf key) key :=
        ⟨fresh, present, part, done, named, passes, spelled, parent⟩
      rcases listed with ⟨_, done⟩ | ⟨above, held, done⟩
      · rw [done]
        exact grown
      · rw [done]
        exact grown.list orderly placed held

section Operations

variable (orderly : v.Orderly) (begins : v.Begins output) (frame : v.Extends next written)
  (grows : Grows v next output) {part : String} {done : List String} {contents : List UInt8}

include orderly begins frame grows

theorem add (named : Path.FileName part) (passes : v.Passes output done)
    (spelled : key = Path.ofParts (Path.isRooted output) (part :: done).reverse)
    (absent : next.get? key = none) (empty : entry.members = [])
    (onward : entry.isDirectory = true → v.Passes output (part :: done)) :
    Grows v (next.add key entry) output := by
  have before := frame.get?_eq_none absent
  have put : next.Extends (next.put key entry) [key] := by
    refine (Extends.refl next [key]).put ?_ fun _ apart => absurd List.mem_cons_self apart
    intro old found
    rw [absent] at found
    cases found
  have grown : Grows v (next.put key entry) output := by
    refine grows.put ?_ ?_ ?_ fun _ isDirectory =>
      ⟨_, onward isDirectory, spelled.trans (keyOf_ofParts v named passes.tidy).symm⟩
    · intro old found
      rw [before] at found
      cases found
    all_goals simp [empty]
  exact grown.listUp orderly begins _ (frame.trans put) before (by simp) named passes spelled

theorem putFile (named : Path.FileName part) (passes : v.Passes output done)
    (spelled : key = Path.ofParts (Path.isRooted output) (part :: done).reverse) :
    Grows v (next.putFile key contents) output := by
  unfold Volume.putFile
  split
  · next entry found =>
      have mono {member : String} (fresh : Fresh v next output key member) :
          Fresh v (next.put key { entry with contents }) output key member :=
        fresh.mono fun any => isSome_put next key any _
      refine grows.put ?_ ?_ ?_ fun absent isDirectory => grows.passed absent found isDirectory
      · intro old before
        obtain ⟨news, members, fresh, stays⟩ := grows.kept before found
        exact ⟨news, members, fun member inside => mono (fresh member inside), stays⟩
      · intro absent member inside
        exact mono (grows.made absent found member inside)
      · intro member inside
        have directory : entry.isDirectory = true := grows.directory found inside
        exact directory
  · next absent => exact grows.add orderly begins frame named passes spelled absent rfl nofun

theorem write {last : Volume} (named : Path.FileName part)
    (success : next.write (Path.join output part) contents = .ok last) : Grows v last output := by
  obtain ⟨key, located, rfl, _⟩ := write_eq_ok success
  obtain rfl := key_of_locate_join named located
  exact grows.putFile orderly begins frame named (passes_stackOf v output) (Path.join_name named output)

/-- All directories of the output directory are made from the first part on. -/
theorem makeEach {last : Volume} (disk : v.medium = .disk) (before rest : List String)
    (whole : Path.parts output = before ++ rest)
    (success : next.makeEach (Path.ofParts (Path.isRooted output)) before rest = .ok last) :
    Grows v last output := by
  induction rest generalizing next written before with
  | nil =>
      cases success
      exact grows
  | cons part rest ih =>
      have onward : Path.parts output = before ++ [part] ++ rest := by simpa using whole
      obtain ⟨stack, passes, spelled⟩ := passes_of_parts disk whole
      rw [Volume.makeEach, spelled] at success
      split at success
      · split at success
        · exact ih frame grows _ onward success
        · cases success
      · next absent =>
          have made : next.Extends (next.add (Path.ofParts (Path.isRooted output) stack.reverse)
              .directory) [] := extends_add absent (.inr rfl)
          rcases passes.start_or_above with start | ⟨last, above, rfl, named, onTheWay⟩
          · have here := begins _ start
            have before := frame.get?_eq_none absent
            simp [keyOf, disk, Path.clean_ofParts passes.tidy, isDirectory, before] at here
          · exact ih (frame.trans made) (grows.add orderly begins frame named onTheWay rfl absent rfl
              fun _ => passes) _ onward success

theorem makeDirectory {last : Volume} (success : next.makeDirectory output = .ok last) :
    Grows v last output := by
  unfold Volume.makeDirectory at success
  split at success
  · cases success
  · split at success
    · next memory =>
        simp only at success
        split at success
        · cases success
          exact grows
        · next absent =>
            cases success
            have absent : next.get? (next.keyOf output) = none := by simpa using absent
            have key : next.keyOf output = v.keyOf output := keyOf_of_medium frame.medium output
            have before := frame.get?_eq_none (key ▸ absent)
            obtain ⟨part, done, split, named, passes, spelled⟩ := onward_of_absent begins before
            exact grows.add orderly begins frame named passes (key.trans spelled) absent rfl
              fun _ => split ▸ passes_stackOf v output
    · next disk =>
        split at success
        · cases success
        · exact grows.makeEach orderly begins frame (frame.medium.symm.trans disk) [] _ rfl success

end Operations

theorem orderly (orderly : v.Orderly) (frame : v.Extends next written) (grows : Grows v next output)
    (below : ∀ rooted, Path.ofParts rooted [] ∉ written) : next.Orderly where
  rooted := by
    intro rooted now later
    cases before : v.get? (Path.ofParts rooted []) with
    | none => exact (frame.made before later (below rooted)).1
    | some entry =>
        obtain ⟨same, found, stays, _⟩ := frame.kept before
        rw [later, Option.some.injEq] at found
        exact found ▸ stays (orderly.rooted rooted entry before)
  directory := grows.directory
  placed := by
    intro key now member later listed
    have fresh (fresh : Fresh v next output key member) :
        ∃ rooted part done, Path.FileName part ∧ Path.Tidy rooted done ∧
          member = Path.ofParts rooted (part :: done).reverse ∧
          key = next.keyOf (Path.ofParts rooted done.reverse) := by
      obtain ⟨_, _, part, done, named, passes, spelled, parent⟩ := fresh
      exact ⟨_, part, done, named, passes.tidy, spelled,
        parent.trans (keyOf_of_medium frame.medium _).symm⟩
    cases before : v.get? key with
    | none => exact fresh (grows.made before later member listed)
    | some entry =>
        obtain ⟨news, members, newer, _⟩ := grows.kept before later
        rw [members, List.mem_append] at listed
        rcases listed with sooner | now
        · obtain ⟨rooted, part, done, named, tidy, spelled, parent⟩ := orderly.placed before sooner
          exact ⟨rooted, part, done, named, tidy, spelled,
            parent.trans (keyOf_of_medium frame.medium _).symm⟩
        · exact fresh (newer member now)

end Grows

/-- There is nothing but bare directories on an empty volume. -/
theorem entry_of_empty {medium : Medium} (found : (empty medium).get? key = some entry) :
    entry = .directory := by
  cases medium <;> simp only [empty, get?, List.lookup_cons, List.lookup_nil] at found
  · split at found <;> cases found
    rfl
  · split at found
    · cases found
      rfl
    · split at found <;> cases found
      rfl

theorem orderly_empty (medium : Medium) : (empty medium).Orderly := by
  refine ⟨?_, ?_, ?_⟩
  · intro rooted entry found
    rw [entry_of_empty found]
    rfl
  · intro key entry member found inside
    rw [entry_of_empty found] at inside
    cases inside
  · intro key entry member found inside
    rw [entry_of_empty found] at inside
    cases inside

/-- A volume stays orderly when a file is put below a directory. -/
theorem Orderly.putFile (orderly : v.Orderly) {directory name : String}
    (begins : v.Begins directory) (named : Path.FileName name) (contents : List UInt8) :
    (v.putFile (Path.join directory name) contents).Orderly := by
  have grows : Grows v (v.putFile (Path.join directory name) contents) directory :=
    (Grows.refl orderly directory).putFile orderly begins (Extends.refl v []) named
      (passes_stackOf v directory) (Path.join_name named directory)
  exact grows.orderly orderly (extends_putFile v _ contents) fun rooted member =>
    Path.join_ne_start named directory rooted (List.mem_singleton.mp member).symm

theorem Orderly.write (orderly : v.Orderly) {directory name : String} {contents : List UInt8}
    (begins : v.Begins directory) (named : Path.FileName name)
    (success : v.write (Path.join directory name) contents = .ok next) : next.Orderly := by
  obtain ⟨key, located, rfl, _⟩ := write_eq_ok success
  obtain rfl := key_of_locate_join named located
  exact orderly.putFile begins named contents

theorem Orderly.makeDirectory (orderly : v.Orderly) {path : String} (begins : v.Begins path)
    (success : v.makeDirectory path = .ok next) : next.Orderly :=
  ((Grows.refl orderly path).makeDirectory orderly begins (Extends.refl v []) success).orderly orderly
    (extends_makeDirectory success) fun _ => List.not_mem_nil

/-- Taking entries away, or members from entries, keeps a volume orderly. -/
theorem Orderly.of_less (orderly : v.Orderly) (medium : next.medium = v.medium)
    (less : ∀ {key now}, next.get? key = some now → ∃ entry, v.get? key = some entry ∧
      now.isDirectory = entry.isDirectory ∧ ∀ member ∈ now.members, member ∈ entry.members) :
    next.Orderly where
  rooted := by
    intro rooted now later
    obtain ⟨entry, found, same, _⟩ := less later
    rw [same]
    exact orderly.rooted rooted entry found
  directory := by
    intro key now member later listed
    obtain ⟨entry, found, same, kept⟩ := less later
    rw [same]
    exact orderly.directory found (kept member listed)
  placed := by
    intro key now member later listed
    obtain ⟨entry, found, _, kept⟩ := less later
    simp only [keyOf_of_medium medium]
    exact orderly.placed found (kept member listed)

theorem Orderly.remove (orderly : v.Orderly) {path : String} (success : v.remove path = .ok next) :
    next.Orderly := by
  unfold Volume.remove at success
  simp only at success
  split at success
  · cases success
  · cases success
    refine orderly.of_less (by split <;> rfl) ?_
    intro key now later
    rw [get?, lookup_filter_ne] at later
    split at later
    · cases later
    · split at later
      · next entry found =>
          rw [← get?, get?_put] at later
          split at later
          · next here =>
              cases later
              refine ⟨entry, here ▸ found, rfl, ?_⟩
              intro member inside
              exact List.mem_of_mem_filter inside
          · exact ⟨now, later, rfl, fun _ => id⟩
      · exact ⟨now, later, rfl, fun _ => id⟩

end Volume

end SqlMapper
