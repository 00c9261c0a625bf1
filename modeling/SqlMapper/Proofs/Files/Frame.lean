import SqlMapper.Files.Volume
import SqlMapper.Proofs.Files.Paths
import SqlMapper.Proofs.Outcome

/-!
What writing changes on a volume. Files are written and directories are made without touching
anything else: every other entry stays as it is, or becomes the directory of something new and keeps
its contents; whatever else is new is an empty directory.
-/

namespace SqlMapper.Volume

variable {v next : Volume} {key other path name directory : String} {entry now : FileEntry}
  {written : List String}

theorem lookup_putEntry (entries : List (String × FileEntry)) (key other : String)
    (entry : FileEntry) :
    (putEntry key entry entries).lookup other =
      if other = key then some entry else entries.lookup other := by
  induction entries with
  | nil =>
      by_cases same : other = key
      · simp [putEntry, same]
      · have differs : (other == key) = false := beq_false_of_ne same
        simp [putEntry, List.lookup_cons, same, differs]
  | cons first rest ih =>
      rcases first with ⟨name, old⟩
      rw [putEntry]
      by_cases here : name = key
      · subst here
        by_cases same : other = name
        · simp [same]
        · have differs : (other == name) = false := beq_false_of_ne same
          simp [List.lookup_cons, same, differs]
      · rw [if_neg (by simpa using here), List.lookup_cons, List.lookup_cons, ih]
        by_cases this : other = name
        · simp [this, here]
        · have differs : (other == name) = false := beq_false_of_ne this
          simp [differs]

@[simp]
theorem get?_put (v : Volume) (key other : String) (entry : FileEntry) :
    (v.put key entry).get? other = if other = key then some entry else v.get? other :=
  lookup_putEntry v.entries key other entry

theorem get?_put_self (v : Volume) (key : String) (entry : FileEntry) :
    (v.put key entry).get? key = some entry := by
  rw [get?_put, if_pos rfl]

theorem isSome_put (v : Volume) (key other : String) (entry : FileEntry)
    (there : (v.get? other).isSome = true) : ((v.put key entry).get? other).isSome = true := by
  rw [get?_put]
  split
  · rfl
  · exact there

/-- An entry is left as it is, or becomes the directory of something new. -/
def Left (v next : Volume) (key : String) (entry now : FileEntry) : Prop :=
  now = entry ∨ now.isDirectory = true ∧ now.contents = entry.contents ∧
    ∃ new, v.get? new = none ∧ (next.get? new).isSome = true ∧ v.parentOf new = key

theorem Left.contents_eq (left : Left v next key entry now) : now.contents = entry.contents := by
  rcases left with rfl | ⟨_, same, _⟩
  · rfl
  · exact same

theorem Left.mono {last : Volume} (left : Left v next key entry now)
    (grows : ∀ other, (next.get? other).isSome = true → (last.get? other).isSome = true) :
    Left v last key entry now := by
  rcases left with same | ⟨made, kept, new, fresh, there, parent⟩
  · exact .inl same
  · exact .inr ⟨made, kept, new, fresh, grows new there, parent⟩

/-- The second volume comes from the first by writing at the given keys and making directories. -/
structure Extends (v next : Volume) (written : List String) : Prop where
  medium : next.medium = v.medium
  refusals : next.refusals = v.refusals
  kept : ∀ {key entry}, v.get? key = some entry → ∃ now, next.get? key = some now ∧
    (entry.isDirectory = true → now.isDirectory = true) ∧
    (key ∉ written → Left v next key entry now)
  made : ∀ {key now}, v.get? key = none → next.get? key = some now → key ∉ written →
    now.isDirectory = true ∧ now.contents = []

namespace Extends

theorem refl (v : Volume) (written : List String) : Extends v v written where
  medium := rfl
  refusals := rfl
  kept := fun found => ⟨_, found, id, fun _ => .inl rfl⟩
  made := by
    intro key now absent found
    rw [absent] at found
    cases found

theorem isSome (extended : Extends v next written) (there : (v.get? key).isSome = true) :
    (next.get? key).isSome = true := by
  obtain ⟨entry, found⟩ := Option.isSome_iff_exists.mp there
  obtain ⟨now, later, _⟩ := extended.kept found
  rw [later]
  rfl

theorem get?_eq_none (extended : Extends v next written) (absent : next.get? key = none) :
    v.get? key = none := by
  cases found : v.get? key with
  | none => rfl
  | some entry =>
      have there : (next.get? key).isSome = true := extended.isSome (by rw [found]; rfl)
      rw [absent] at there
      cases there

theorem isDirectory (extended : Extends v next written) (before : v.isDirectory key = true) :
    next.isDirectory key = true := by
  rw [Volume.isDirectory] at before ⊢
  cases found : v.get? key with
  | none =>
      rw [found] at before
      cases before
  | some entry =>
      rw [found] at before
      obtain ⟨now, later, stays, _⟩ := extended.kept found
      rw [later]
      exact stays before

theorem parentOf_eq (extended : Extends v next written) (key : String) :
    next.parentOf key = v.parentOf key := by
  simp only [parentOf, keyOf, extended.medium]

/-- One more entry is put, which may be a directory or stand at a key that is written. -/
theorem put (extended : Extends v next written)
    (fits : ∀ old, v.get? key = some old → (old.isDirectory = true → entry.isDirectory = true) ∧
      (key ∉ written → Left v (next.put key entry) key old entry))
    (fresh : v.get? key = none → key ∉ written →
      entry.isDirectory = true ∧ entry.contents = []) :
    Extends v (next.put key entry) written where
  medium := extended.medium
  refusals := extended.refusals
  kept := by
    intro other old found
    by_cases same : other = key
    · subst same
      obtain ⟨stays, left⟩ := fits old found
      exact ⟨entry, by simp, stays, left⟩
    · obtain ⟨now, later, stays, left⟩ := extended.kept found
      refine ⟨now, by simpa [same] using later, stays, fun apart => (left apart).mono ?_⟩
      intro any
      exact isSome_put next key any entry
  made := by
    intro other now absent found apart
    by_cases same : other = key
    · subst same
      rw [get?_put, if_pos rfl, Option.some.injEq] at found
      subst found
      exact fresh absent apart
    · rw [get?_put, if_neg same] at found
      exact extended.made absent found apart

theorem trans {last : Volume} {more : List String} (first : Extends v next written)
    (second : Extends next last more) : Extends v last (written ++ more) where
  medium := second.medium.trans first.medium
  refusals := second.refusals.trans first.refusals
  kept := by
    intro key entry found
    obtain ⟨middle, between, stays, left⟩ := first.kept found
    obtain ⟨now, later, remains, rest⟩ := second.kept between
    refine ⟨now, later, remains ∘ stays, ?_⟩
    intro apart
    rw [List.mem_append, not_or] at apart
    -- What the second volume lists is new to the first one as well, since entries do not go away.
    rcases rest apart.2 with rfl | ⟨made, same, new, fresh, there, parent⟩
    · exact (left apart.1).mono fun any => second.isSome
    · refine .inr ⟨made, same.trans (left apart.1).contents_eq, new, first.get?_eq_none fresh,
        there, ?_⟩
      rw [← parent, first.parentOf_eq]
  made := by
    intro key now absent found apart
    rw [List.mem_append, not_or] at apart
    cases between : next.get? key with
    | none => exact second.made between found apart.2
    | some middle =>
        obtain ⟨isDirectory, empty⟩ := first.made absent between apart.1
        obtain ⟨other, later, stays, left⟩ := second.kept between
        rw [found, Option.some.injEq] at later
        subst later
        exact ⟨stays isDirectory, (left apart.2).contents_eq.trans empty⟩

end Extends

section Listing

/-- What listing a key does: its directory is made and listed first, unless it is there, and then
gets the key as a member. -/
theorem listUp_succ (fuel : Nat) (v : Volume) (key : String) :
    ∃ u, ((v.get? (v.parentOf key)).isSome = true ∧ u = v ∨
        v.get? (v.parentOf key) = none ∧
          u = listUp fuel (v.put (v.parentOf key) .directory) (v.parentOf key)) ∧
      (u.get? (v.parentOf key) = none ∧ listUp (fuel + 1) v key = u ∨
        ∃ parent, u.get? (v.parentOf key) = some parent ∧
          listUp (fuel + 1) v key = u.put (v.parentOf key) (parent.withMember key)) := by
  have last (u : Volume)
      (reached : (if (v.get? (v.parentOf key)).isSome then v
        else listUp fuel (v.put (v.parentOf key) .directory) (v.parentOf key)) = u) :
      u.get? (v.parentOf key) = none ∧ listUp (fuel + 1) v key = u ∨
        ∃ parent, u.get? (v.parentOf key) = some parent ∧
          listUp (fuel + 1) v key = u.put (v.parentOf key) (parent.withMember key) := by
    simp only [listUp, reached]
    cases listed : u.get? (v.parentOf key) with
    | none => exact .inl ⟨rfl, rfl⟩
    | some parent => exact .inr ⟨parent, rfl, rfl⟩
  by_cases there : (v.get? (v.parentOf key)).isSome = true
  · exact ⟨v, .inl ⟨there, rfl⟩, last v (if_pos there)⟩
  · exact ⟨_, .inr ⟨by simpa using there, rfl⟩, last _ (if_neg there)⟩

/-- Listing a key keeps the contents of every entry. -/
theorem contents_listUp (fuel : Nat) {v : Volume} {key : String}
    (found : v.get? other = some entry) :
    ∃ now, (listUp fuel v key).get? other = some now ∧ now.contents = entry.contents := by
  induction fuel generalizing v key entry with
  | zero => exact ⟨entry, found, rfl⟩
  | succ fuel ih =>
      obtain ⟨u, made, listed⟩ := listUp_succ fuel v key
      obtain ⟨now, later, same⟩ :
          ∃ now, u.get? other = some now ∧ now.contents = entry.contents := by
        rcases made with ⟨_, rfl⟩ | ⟨absent, rfl⟩
        · exact ⟨entry, found, rfl⟩
        · apply ih
          have apart : other ≠ v.parentOf key := by
            rintro rfl
            rw [found] at absent
            cases absent
          rw [get?_put, if_neg apart]
          exact found
      rcases listed with ⟨_, done⟩ | ⟨parent, held, done⟩
      · exact ⟨now, by rw [done]; exact later, same⟩
      · rw [done, get?_put]
        split
        · next here =>
            rw [here, held, Option.some.injEq] at later
            subst later
            exact ⟨_, rfl, same⟩
        · exact ⟨now, later, same⟩

theorem isSome_listUp (fuel : Nat) {v : Volume} {key : String}
    (there : (v.get? other).isSome = true) : ((listUp fuel v key).get? other).isSome = true := by
  obtain ⟨entry, found⟩ := Option.isSome_iff_exists.mp there
  obtain ⟨now, later, _⟩ := contents_listUp fuel found
  rw [later]
  rfl

theorem contents_add (v : Volume) (key : String) (entry : FileEntry) :
    ∃ now, (v.add key entry).get? key = some now ∧ now.contents = entry.contents :=
  contents_listUp _ (get?_put_self v key entry)

/-- The directory of a new key lists it. -/
theorem Extends.list (extended : Extends v next written) (fresh : v.get? key = none)
    (there : (next.get? key).isSome = true) (listed : next.get? (v.parentOf key) = some entry) :
    Extends v (next.put (v.parentOf key) (entry.withMember key)) written := by
  apply extended.put
  · intro old found
    obtain ⟨now, later, _, left⟩ := extended.kept found
    rw [listed, Option.some.injEq] at later
    subst later
    exact ⟨fun _ => rfl, fun apart => .inr ⟨rfl, (left apart).contents_eq, key, fresh,
      isSome_put _ _ _ _ there, rfl⟩⟩
  · intro absent apart
    exact ⟨rfl, (extended.made absent listed apart).2⟩

/-- A directory is made where nothing is. -/
theorem Extends.putDirectory (extended : Extends v next written) (absent : v.get? key = none) :
    Extends v (next.put key .directory) written := by
  apply extended.put
  · intro old found
    rw [absent] at found
    cases found
  · intro _ _
    exact ⟨rfl, rfl⟩

theorem Extends.listUp (fuel : Nat) (extended : Extends v next written) (fresh : v.get? key = none)
    (there : (next.get? key).isSome = true) : Extends v (listUp fuel next key) written := by
  induction fuel generalizing next key with
  | zero => exact extended
  | succ fuel ih =>
      obtain ⟨u, made, listed⟩ := listUp_succ fuel next key
      rw [extended.parentOf_eq] at made listed
      obtain ⟨grown, present⟩ : Extends v u written ∧ (u.get? key).isSome = true := by
        rcases made with ⟨_, rfl⟩ | ⟨absent, rfl⟩
        · exact ⟨extended, there⟩
        · have before := extended.get?_eq_none absent
          exact ⟨ih (extended.putDirectory before) before (by simp),
            isSome_listUp fuel (isSome_put next (v.parentOf key) key .directory there)⟩
      rcases listed with ⟨_, done⟩ | ⟨parent, held, done⟩
      · rw [done]
        exact grown
      · rw [done]
        exact grown.list fresh present held

/-- An entry is added: a directory, or a file at a key that is written. -/
theorem extends_add (fresh : v.get? key = none) (owned : key ∈ written ∨ entry = .directory) :
    Extends v (v.add key entry) written := by
  refine Extends.listUp _ ((Extends.refl v written).put ?_ ?_) fresh (by simp)
  · intro old found
    rw [fresh] at found
    cases found
  · intro _ apart
    rcases owned with inside | rfl
    · exact absurd inside apart
    · exact ⟨rfl, rfl⟩

end Listing

section Directories

theorem extends_makeEach (spelled : List String → String) (done rest : List String) {v : Volume}
    (success : v.makeEach spelled done rest = .ok next) : Extends v next [] := by
  induction rest generalizing v done with
  | nil =>
      cases success
      exact .refl _ []
  | cons part rest ih =>
      rw [makeEach] at success
      split at success
      · split at success
        · exact ih _ success
        · cases success
      · next absent =>
          have made : Extends v (v.add (Path.clean (spelled (done ++ [part]))) .directory) [] :=
            extends_add absent (.inr rfl)
          exact made.trans (ih _ success)

/-- Making a directory writes nothing. -/
theorem extends_makeDirectory (success : v.makeDirectory path = .ok next) : Extends v next [] := by
  unfold makeDirectory at success
  split at success
  · cases success
  · split at success
    · simp only at success
      split at success
      · cases success
        exact .refl v []
      · next absent =>
          cases success
          exact extends_add (by simpa using absent) (.inr rfl)
    · split at success
      · cases success
      · exact extends_makeEach _ _ _ success

end Directories

section Locating

variable {operation : String}

/-- A path that can be followed leads to its clean spelling. -/
theorem key_of_follow (done rest : List String)
    (success : v.follow operation path done rest = .ok key) :
    key = Path.ofParts (Path.isRooted path)
      (rest.foldl (Path.cleanPart (Path.isRooted path)) done).reverse := by
  induction rest generalizing done with
  | nil =>
      cases success
      rfl
  | cons part rest ih =>
      rw [follow] at success
      split at success
      · cases success
      · split at success
        · exact ih _ success
        · cases success

/-- The last directory on the way is there. -/
theorem directory_of_follow (done rest : List String) {last : String}
    (success : v.follow operation path done (rest ++ [last]) = .ok key) :
    ∃ entry, v.get? (Path.ofParts (Path.isRooted path)
      (rest.foldl (Path.cleanPart (Path.isRooted path)) done).reverse) = some entry ∧
      entry.isDirectory = true := by
  induction rest generalizing done with
  | nil =>
      rw [List.nil_append, follow] at success
      split at success
      · cases success
      · next entry found =>
          split at success
          · next isDirectory => exact ⟨entry, found, isDirectory⟩
          · cases success
  | cons part rest ih =>
      rw [List.cons_append, follow] at success
      split at success
      · cases success
      · split at success
        · exact ih _ success
        · cases success

/-- A path that can be followed stays so, since no directory goes away. -/
theorem Extends.follow (extended : Extends v next written) (done rest : List String)
    (success : v.follow operation path done rest = .ok key) :
    next.follow operation path done rest = .ok key := by
  induction rest generalizing done with
  | nil => exact success
  | cons part rest ih =>
      rw [Volume.follow] at success ⊢
      split at success
      · cases success
      · next entry found =>
          split at success
          · next isDirectory =>
              obtain ⟨now, later, stays, _⟩ := extended.kept found
              simp only [later, stays isDirectory, ↓reduceIte]
              exact ih _ success
          · cases success

theorem Extends.locate (extended : Extends v next written)
    (success : v.locate operation path = .ok key) : next.locate operation path = .ok key := by
  unfold Volume.locate at success ⊢
  rw [extended.medium]
  split at success
  · rw [← success]
    simp only [keyOf, extended.medium]
  · split at success
    · cases success
    · next filled =>
        simp only [filled]
        exact extended.follow _ _ success

variable (named : Path.FileName name)

include named

theorem keyOf_join (v : Volume) (directory : String) :
    v.keyOf (Path.join directory name) = Path.join directory name := by
  have spelled := Path.parts_join_name named directory
  have apart (text : String) (single : Path.parts text = [text]) (differs : name ≠ text) :
      Path.join directory name ≠ text := by
    intro same
    rw [same, single] at spelled
    have last := congrArg List.getLast? spelled
    rw [List.getLast?_concat] at last
    simp at last
    exact differs last.symm
  simp only [keyOf, Path.clean_join named]
  simp [apart "." rfl named.2.1, apart ".." rfl named.2.2]

theorem parentOf_join (v : Volume) (directory : String) :
    v.parentOf (Path.join directory name) = v.keyOf (Path.clean directory) := by
  rw [parentOf, Path.directory_join named]

/-- The path of a name below a directory is its own key. -/
theorem key_of_locate_join
    (success : v.locate operation (Path.join directory name) = .ok key) :
    key = Path.join directory name := by
  unfold locate at success
  split at success
  · cases success
    exact keyOf_join named v directory
  · split at success
    · cases success
    · have found := key_of_follow _ _ success
      rw [Path.endsOpen_join named, if_neg Bool.false_ne_true, List.append_nil] at found
      exact found.trans (Path.clean_join named directory)

/-- On a disk a path can be located only when its directory is there. -/
theorem parent_of_locate_join (disk : v.medium = .disk)
    (success : v.locate operation (Path.join directory name) = .ok key) :
    v.parentOf (Path.join directory name) = Path.clean directory ∧
      ∃ entry, v.get? (Path.clean directory) = some entry ∧ entry.isDirectory = true := by
  constructor
  · have kept : Path.clean (Path.clean directory) = Path.clean directory :=
      Path.clean_ofParts (Path.tidy_stackOf directory)
    rw [parentOf_join named]
    simp [keyOf, disk, kept]
  · simp only [locate, disk] at success
    split at success
    · cases success
    · rw [Path.endsOpen_join named, if_neg Bool.false_ne_true, List.append_nil,
        Path.parts_join_name named] at success
      have found := directory_of_follow _ _ success
      rw [Path.isRooted_join named, Path.foldl_of_tidy (Path.tidy_stackOf directory)] at found
      exact found

end Locating

section Writing

variable {contents : List UInt8}

theorem extends_putFile (v : Volume) (key : String) (contents : List UInt8) :
    Extends v (v.putFile key contents) [key] := by
  unfold putFile
  split
  · next entry found =>
      refine (Extends.refl v [key]).put ?_ ?_
      · intro old same
        rw [found, Option.some.injEq] at same
        subst same
        exact ⟨id, fun apart => absurd (List.mem_singleton.mpr rfl) apart⟩
      · intro absent
        rw [found] at absent
        cases absent
  · next absent => exact extends_add absent (.inl (List.mem_singleton.mpr rfl))

theorem contents_putFile (v : Volume) (key : String) (contents : List UInt8) :
    ∃ entry, (v.putFile key contents).get? key = some entry ∧ entry.contents = contents := by
  unfold putFile
  split
  · exact ⟨_, get?_put_self _ _ _, rfl⟩
  · exact contents_add _ _ _

/-- A key whose directory is there is listed in it at once. -/
theorem add_eq {parent : FileEntry} (there : v.get? (v.parentOf key) = some parent)
    (apart : key ≠ v.parentOf key) (entry : FileEntry) :
    v.add key entry = (v.put key entry).put (v.parentOf key) (parent.withMember key) := by
  have same : (v.put key entry).parentOf key = v.parentOf key := rfl
  have listed : (v.put key entry).get? (v.parentOf key) = some parent := by
    rw [get?_put, if_neg (Ne.symm apart)]
    exact there
  simp only [add, listUp, same, listed, Option.isSome_some, ↓reduceIte]

/-- A file whose directory is there is put without touching anything but the two. -/
theorem putFile_alone (contents : List UInt8) {parent : FileEntry}
    (there : v.get? (v.parentOf key) = some parent)
    (apart : key ≠ v.parentOf key) (file : v.isDirectory key = false) :
    (∃ entry, (v.putFile key contents).get? key = some entry ∧ entry.isDirectory = false) ∧
      ∀ other, other ≠ key → other ≠ v.parentOf key →
        (v.putFile key contents).get? other = v.get? other := by
  unfold putFile
  cases found : v.get? key with
  | some entry =>
      rw [isDirectory, found] at file
      refine ⟨⟨_, get?_put_self _ _ _, file⟩, ?_⟩
      intro other differs _
      rw [get?_put, if_neg differs]
  | none =>
      simp only [add_eq there apart]
      constructor
      · refine ⟨{ isDirectory := false, contents }, ?_, rfl⟩
        rw [get?_put, if_neg apart, get?_put_self]
      · intro other differs above
        rw [get?_put, if_neg above, get?_put, if_neg differs]

/-- The path leads to an entry with these contents, which on a disk is a file. -/
def Stores (v : Volume) (path : String) (contents : List UInt8) : Prop :=
  v.locate "open" path = .ok path ∧ ∃ entry, v.get? path = some entry ∧
    entry.contents = contents ∧ (v.medium = .disk → entry.isDirectory = false)

theorem Stores.read (stores : Stores v path contents)
    (openable : v.refusals.openings.contains path = false) : v.read path = .ok contents := by
  obtain ⟨located, entry, found, same, file⟩ := stores
  simp only [Volume.read, openable, find, located, Except.bind, found]
  by_cases disk : v.medium = .disk
  · simp [disk, file disk, same]
  · simp [disk, same]

theorem write_eq_ok (success : v.write path contents = .ok next) :
    ∃ key, v.locate "open" path = .ok key ∧ next = v.putFile key contents ∧
      (v.medium = .disk → v.isDirectory key = false) := by
  unfold write at success
  split at success
  · cases success
  · rw [Outcome.bind_eq_ok_iff] at success
    obtain ⟨key, located, success⟩ := success
    split at success
    · cases success
    · next writable =>
        cases success
        refine ⟨key, located, rfl, fun disk => ?_⟩
        simpa [disk] using writable

variable (named : Path.FileName name)

include named

/-- A file that is written below a directory holds what was written. -/
theorem stores_of_write (success : v.write (Path.join directory name) contents = .ok next) :
    Extends v next [Path.join directory name] ∧
      Stores next (Path.join directory name) contents := by
  obtain ⟨key, located, rfl, writable⟩ := write_eq_ok success
  obtain rfl := key_of_locate_join named located
  have extended := extends_putFile v (Path.join directory name) contents
  refine ⟨extended, extended.locate located, ?_⟩
  obtain ⟨entry, found, same⟩ := contents_putFile v (Path.join directory name) contents
  refine ⟨entry, found, same, fun disk => ?_⟩
  have before : v.medium = .disk := extended.medium ▸ disk
  obtain ⟨parent, folder, there, _⟩ := parent_of_locate_join named before located
  rw [← parent] at there
  obtain ⟨⟨other, again, file⟩, _⟩ := putFile_alone contents there
    (by rw [parent]; exact Path.join_ne_clean named directory) (writable before)
  rw [found, Option.some.injEq] at again
  exact again ▸ file

/-- What a file holds is not changed by writing another one next to it. -/
theorem Stores.write {other : String} {bytes : List UInt8} (second : Path.FileName other)
    (differs : name ≠ other) (stores : Stores v (Path.join directory name) bytes)
    (success : v.write (Path.join directory other) contents = .ok next) :
    Stores next (Path.join directory name) bytes := by
  obtain ⟨located, entry, found, same, file⟩ := stores
  have apart : Path.join directory name ≠ Path.join directory other :=
    fun equal => differs (Path.name_eq_of_join_eq named directory second equal)
  obtain ⟨extended, _⟩ := stores_of_write second success
  obtain ⟨now, later, _, left⟩ := extended.kept found
  have left := left (by simpa using apart)
  refine ⟨extended.locate located, now, later, left.contents_eq.trans same, fun disk => ?_⟩
  have before : v.medium = .disk := extended.medium ▸ disk
  rcases left with rfl | ⟨_, _, new, fresh, there, parent⟩
  · exact file before
  · -- Only the file is new, and its directory is not a file next to it.
    obtain ⟨key, placed, rfl, writable⟩ := write_eq_ok success
    obtain rfl := key_of_locate_join second placed
    obtain ⟨folder, entry, present, _⟩ := parent_of_locate_join second before placed
    rw [← folder] at present
    obtain ⟨_, only⟩ := putFile_alone contents present
      (by rw [folder]; exact Path.join_ne_clean second directory) (writable before)
    have written : new = Path.join directory other := by
      apply Classical.byContradiction
      intro differs
      have above : new ≠ v.parentOf (Path.join directory other) := by
        rintro rfl
        rw [present] at fresh
        cases fresh
      rw [only new differs above, fresh] at there
      cases there
    rw [written, folder] at parent
    exact absurd parent.symm (Path.join_ne_clean named directory)

end Writing

section Disk

/-- The directories in which paths begin are no files. -/
def Rooted (v : Volume) : Prop :=
  ∀ rooted entry, v.get? (Path.ofParts rooted []) = some entry → entry.isDirectory = true

/-- Files stay as they are, but for those that are written. -/
def KeepsFiles (v next : Volume) (written : List String) : Prop :=
  ∀ key entry, v.get? key = some entry → entry.isDirectory = false → key ∉ written →
    next.get? key = some entry

theorem KeepsFiles.trans {last : Volume} {more : List String}
    (first : KeepsFiles v next written) (second : KeepsFiles next last more) :
    KeepsFiles v last (written ++ more) := by
  intro key entry found file apart
  rw [List.mem_append, not_or] at apart
  exact second key entry (first key entry found file apart.1) file apart.2

theorem Extends.rooted (extended : Extends v next []) (root : v.Rooted) : next.Rooted := by
  intro rooted entry found
  cases before : v.get? (Path.ofParts rooted []) with
  | none => exact (extended.made before found List.not_mem_nil).1
  | some old =>
      obtain ⟨now, later, stays, _⟩ := extended.kept before
      rw [found, Option.some.injEq] at later
      exact later ▸ stays (root rooted old before)

/-- Listing a key changes nothing outside a set of keys that has the directory of each. -/
theorem get?_listUp_outside (fuel : Nat) {v : Volume} {key : String} (inside : String → Prop)
    (closed : ∀ any, inside any → inside (v.parentOf any)) (member : inside key)
    (outside : ¬ inside other) : (listUp fuel v key).get? other = v.get? other := by
  induction fuel generalizing v key with
  | zero => rfl
  | succ fuel ih =>
      have placed : inside (v.parentOf key) := closed key member
      have apart : other ≠ v.parentOf key := fun same => outside (same ▸ placed)
      obtain ⟨u, made, listed⟩ := listUp_succ fuel v key
      have same : u.get? other = v.get? other := by
        rcases made with ⟨_, rfl⟩ | ⟨_, rfl⟩
        · rfl
        · have rest := ih (v := v.put (v.parentOf key) .directory) closed placed
          rw [rest, get?_put, if_neg apart]
      rcases listed with ⟨_, done⟩ | ⟨parent, _, done⟩
      · rw [done, same]
      · rw [done, get?_put, if_neg apart, same]

/-- An entry is added without touching files, if only new keys have to be listed. -/
theorem keepsFiles_add_of_closed (inside : String → Prop)
    (closed : ∀ any, inside any → inside (v.parentOf any)) (member : inside key)
    (fresh : ∀ any, inside any → v.get? any = none) (entry : FileEntry) :
    KeepsFiles v (v.add key entry) [] := by
  intro other old found _ _
  have outside : ¬ inside other := by
    intro member
    rw [fresh other member] at found
    cases found
  have differs : other ≠ key := fun same => outside (same ▸ member)
  have listed := get?_listUp_outside (v := v.put key entry) ((Path.parts key).length + 2) inside
    closed member outside
  rw [add, listed, get?_put, if_neg differs]
  exact found

variable (disk : v.medium = .disk)

include disk

theorem parentOf_tidy {rooted : Bool} {part : String} {done : List String}
    (tidy : Path.Tidy rooted (part :: done)) :
    v.parentOf (Path.ofParts rooted (part :: done).reverse) = Path.ofParts rooted done.reverse := by
  rw [parentOf, Path.directory_ofParts tidy]
  simp [keyOf, disk, Path.clean_ofParts tidy.2.2.2]

theorem parentOf_root (rooted : Bool) :
    v.parentOf (Path.ofParts rooted []) = Path.ofParts rooted [] := by
  have clean : Path.clean (Path.directory (Path.ofParts rooted [])) = Path.ofParts rooted [] := by
    cases rooted <;> decide
  simp [parentOf, keyOf, disk, clean]

/-- A directory is made where paths begin, or below a directory that is there. -/
theorem keepsFiles_add {rooted : Bool} {stack : List String} (root : v.Rooted)
    (tidy : Path.Tidy rooted stack) (fresh : v.get? (Path.ofParts rooted stack.reverse) = none)
    (parents : ∀ part done, stack = part :: done → done ≠ [] →
      ∃ entry, v.get? (Path.ofParts rooted done.reverse) = some entry ∧ entry.isDirectory = true) :
    KeepsFiles v (v.add (Path.ofParts rooted stack.reverse) .directory) [] := by
  cases stack with
  | nil =>
      apply keepsFiles_add_of_closed (· = Path.ofParts rooted [])
      · rintro any rfl
        exact parentOf_root disk rooted
      · rfl
      · rintro any rfl
        exact fresh
  | cons part done =>
      have above := parentOf_tidy disk tidy
      cases parent : v.get? (Path.ofParts rooted done.reverse) with
      | some folder =>
          have isDirectory : folder.isDirectory = true := by
            cases done with
            | nil => exact root rooted folder parent
            | cons next rest =>
                obtain ⟨entry, found, isDirectory⟩ := parents part _ rfl (List.cons_ne_nil _ _)
                rw [parent, Option.some.injEq] at found
                exact found ▸ isDirectory
          rw [← above] at parent
          have apart : Path.ofParts rooted (part :: done).reverse
              ≠ v.parentOf (Path.ofParts rooted (part :: done).reverse) := by
            intro same
            rw [← same, fresh] at parent
            cases parent
          intro key entry found file _
          rw [add_eq parent apart, get?_put, get?_put]
          split
          · next here =>
              rw [here, parent, Option.some.injEq] at found
              rw [← found, isDirectory] at file
              cases file
          · split
            · next here =>
                rw [here, fresh] at found
                cases found
            · exact found
      | none =>
          -- Only the directory in which paths begin may be missing, and then it is made as well.
          have top : done = [] := by
            apply Classical.byContradiction
            intro filled
            obtain ⟨entry, found, _⟩ := parents part done rfl filled
            rw [parent] at found
            cases found
          subst top
          apply keepsFiles_add_of_closed fun any =>
            any = Path.ofParts rooted [part].reverse ∨ any = Path.ofParts rooted []
          · rintro any (rfl | rfl)
            · exact .inr above
            · exact .inr (parentOf_root disk rooted)
          · exact .inl rfl
          · rintro any (rfl | rfl)
            · exact fresh
            · exact parent

omit disk in
theorem keepsFiles_makeEach {rooted : Bool} (done rest : List String) {v : Volume}
    (disk : v.medium = .disk) (root : v.Rooted)
    (segments : ∀ part ∈ done ++ rest, Path.Segment part)
    (parents : ∀ below, below <:+ done.foldl (Path.cleanPart rooted) [] → below ≠ [] →
      ∃ entry, v.get? (Path.ofParts rooted below.reverse) = some entry ∧ entry.isDirectory = true)
    (success : v.makeEach (Path.ofParts rooted) done rest = .ok next) : KeepsFiles v next [] := by
  -- From part to part, all that the path has passed is a directory. A directory is only made below
  -- one of these, so no file is listed in.
  induction rest generalizing v done with
  | nil =>
      cases success
      exact fun _ _ found _ _ => found
  | cons part rest ih =>
      have before : ∀ other ∈ done, Path.Segment other := fun other member =>
        segments other (List.mem_append_left _ member)
      have segment : Path.Segment part := segments part (by simp)
      have after : ∀ other ∈ done ++ [part] ++ rest, Path.Segment other := by
        simpa using segments
      have earlier : Path.Tidy rooted (done.foldl (Path.cleanPart rooted) []) :=
        Path.tidy_foldl before trivial
      have tidy := Path.tidy_cleanPart earlier segment
      have onTheWay : ∀ {below}, below <:+ Path.cleanPart rooted
          (done.foldl (Path.cleanPart rooted) []) part → _ := Path.suffix_cleanPart
      have stack : (done ++ [part]).foldl (Path.cleanPart rooted) []
          = Path.cleanPart rooted (done.foldl (Path.cleanPart rooted) []) part := by simp
      rw [makeEach, Path.clean_ofParts_concat before segment] at success
      generalize Path.cleanPart rooted (done.foldl (Path.cleanPart rooted) []) part = grown
        at tidy onTheWay stack success
      split at success
      · next entry found =>
          split at success
          · next isDirectory =>
              refine ih _ disk root after ?_ success
              intro below suffix filled
              rw [stack] at suffix
              rcases onTheWay suffix with rfl | sooner
              · exact ⟨entry, found, isDirectory⟩
              · exact parents below sooner filled
          · cases success
      · next fresh =>
          have extended : Extends v (v.add (Path.ofParts rooted grown.reverse) .directory) [] :=
            extends_add fresh (.inr rfl)
          have kept : KeepsFiles v (v.add (Path.ofParts rooted grown.reverse) .directory) [] := by
            refine keepsFiles_add disk root tidy fresh ?_
            rintro last above rfl filled
            rcases onTheWay (List.suffix_cons last above) with same | sooner
            · simpa using congrArg List.length same
            · exact parents above sooner filled
          refine kept.trans (ih _ (extended.medium.trans disk) (extended.rooted root) after ?_ success)
          intro below suffix filled
          rw [stack] at suffix
          rcases onTheWay suffix with rfl | sooner
          · obtain ⟨now, found, _⟩ := contents_add v (Path.ofParts rooted below.reverse) .directory
            exact ⟨now, found, (extended.made fresh found List.not_mem_nil).1⟩
          · obtain ⟨entry, found, isDirectory⟩ := parents below sooner filled
            obtain ⟨now, later, stays, _⟩ := extended.kept found
            exact ⟨now, later, stays isDirectory⟩

theorem keepsFiles_makeDirectory (root : v.Rooted) (success : v.makeDirectory path = .ok next) :
    KeepsFiles v next [] := by
  simp only [makeDirectory, disk] at success
  split at success
  · cases success
  · split at success
    · cases success
    · refine keepsFiles_makeEach [] (Path.parts path) disk root (Path.segments_parts path) ?_ success
      intro below suffix filled
      exact absurd (List.suffix_nil.mp suffix) filled

theorem keepsFiles_write {contents : List UInt8} (named : Path.FileName name)
    (success : v.write (Path.join directory name) contents = .ok next) :
    KeepsFiles v next [Path.join directory name] := by
  obtain ⟨key, located, rfl, writable⟩ := write_eq_ok success
  obtain rfl := key_of_locate_join named located
  obtain ⟨folder, parent, there, isDirectory⟩ := parent_of_locate_join named disk located
  rw [← folder] at there
  obtain ⟨_, others⟩ := putFile_alone contents there
    (by rw [folder]; exact Path.join_ne_clean named directory) (writable disk)
  intro key entry found file apart
  rw [List.mem_singleton] at apart
  rw [others key apart ?_]
  · exact found
  · rintro rfl
    rw [there, Option.some.injEq] at found
    rw [← found, isDirectory] at file
    cases file

end Disk

end SqlMapper.Volume
