import SqlMapper.Proofs.Files.Walks

/-!
Trees of files. A volume is a tree if its directories list exactly what is there: every member is there
and listed once, and whatever is there is a member of the directory above it, but for the directories
in which paths begin. An empty volume is a tree, and writing files and making directories keeps it one.
-/

namespace SqlMapper.Volume

variable {v next : Volume} {key output : String} {entry old : FileEntry} {unlisted : List String}
  {rooted : Bool} {part : String} {done : List String}

/-- An orderly volume whose directories list exactly what is there. Some keys may not be listed yet. -/
structure Tree (v : Volume) (unlisted : List String) : Prop extends Orderly v where
  present : ∀ {key entry member}, v.get? key = some entry → member ∈ entry.members →
    (v.get? member).isSome = true
  distinct : ∀ {key entry}, v.get? key = some entry → entry.members.Nodup
  listed : ∀ {rooted part done entry}, Path.FileName part → Path.Tidy rooted done →
    v.get? (Path.ofParts rooted (part :: done).reverse) = some entry →
    Path.ofParts rooted (part :: done).reverse ∉ unlisted →
    ∃ parent, v.get? (v.keyOf (Path.ofParts rooted done.reverse)) = some parent ∧
      Path.ofParts rooted (part :: done).reverse ∈ parent.members

theorem ofParts_ne_start (named : Path.FileName part) (tidy : Path.Tidy rooted done) (other : Bool) :
    Path.ofParts rooted (part :: done).reverse ≠ Path.ofParts other [] := by
  intro same
  have empty : Path.Tidy other [] := trivial
  cases (Path.ofParts_inj (named.tidy tidy) empty same).2

theorem tree_empty (medium : Medium) : (empty medium).Tree [] where
  toOrderly := orderly_empty medium
  present := by
    intro key entry member found inside
    rw [entry_of_empty found] at inside
    cases inside
  distinct := by
    intro key entry found
    rw [entry_of_empty found]
    exact List.nodup_nil
  listed := by
    intro rooted part done entry named tidy found
    have root : Path.ofParts rooted (part :: done).reverse ≠ "/" := ofParts_ne_start named tidy true
    have current : Path.ofParts rooted (part :: done).reverse ≠ "." :=
      ofParts_ne_start named tidy false
    generalize Path.ofParts rooted (part :: done).reverse = key at found root current
    cases medium <;>
      simp [empty, get?, List.lookup_cons, beq_false_of_ne root, beq_false_of_ne current] at found

theorem medium_listUp (fuel : Nat) (v : Volume) (key : String) :
    (listUp fuel v key).medium = v.medium := by
  induction fuel generalizing v key with
  | zero => rfl
  | succ fuel ih =>
      obtain ⟨u, made, listed⟩ := listUp_succ fuel v key
      have same : u.medium = v.medium := by
        rcases made with ⟨_, rfl⟩ | ⟨_, rfl⟩
        · rfl
        · exact ih _ _
      rcases listed with ⟨_, done⟩ | ⟨_, _, done⟩
      · rw [done, same]
      · rw [done]
        exact same

theorem follow_refusing (v : Volume) (refusals : Refusals) (operation path : String)
    (done rest : List String) :
    follow { v with refusals } operation path done rest = v.follow operation path done rest := by
  induction rest generalizing done with
  | nil => rfl
  | cons part rest ih =>
      simp only [follow, ih]
      rfl

/-- What a volume refuses is no matter of what is known of a path. -/
theorem look_refusing (v : Volume) (refusals : Refusals) (path : String) :
    look { v with refusals } path = v.look path := by
  simp only [look, find, locate, follow_refusing]
  rfl

namespace Tree

/-- An entry is put that keeps the members of the old one. It lists what it is put for, and is itself
listed, or yet to be. -/
theorem put {more : List String} (tree : v.Tree unlisted)
    (root : ∀ start, key = Path.ofParts start [] → entry.isDirectory = true)
    (directory : ∀ member ∈ entry.members, entry.isDirectory = true)
    (placed : ∀ member ∈ entry.members, ∃ rooted part done, Path.FileName part ∧
      Path.Tidy rooted done ∧ member = Path.ofParts rooted (part :: done).reverse ∧
      key = v.keyOf (Path.ofParts rooted done.reverse))
    (present : ∀ member ∈ entry.members, (v.get? member).isSome = true)
    (distinct : entry.members.Nodup)
    (kept : ∀ old, v.get? key = some old → ∀ member ∈ old.members, member ∈ entry.members)
    (fresh : v.get? key = none → key ∈ more)
    (settled : ∀ other ∈ unlisted, other ∈ more ∨ other ∈ entry.members) :
    (v.put key entry).Tree more := by
  have before {other : String} {now : FileEntry} (later : (v.put key entry).get? other = some now) :
      other = key ∧ now = entry ∨ other ≠ key ∧ v.get? other = some now := by
    rw [get?_put] at later
    split at later
    · next same =>
        cases later
        exact .inl ⟨same, rfl⟩
    · next apart => exact .inr ⟨apart, later⟩
  refine ⟨⟨?rooted, ?directory, ?placed⟩, ?present, ?distinct, ?listed⟩
  case rooted =>
    intro start now later
    rcases before later with ⟨same, rfl⟩ | ⟨_, there⟩
    · exact root start same.symm
    · exact tree.rooted start now there
  case directory =>
    intro other now member later inside
    rcases before later with ⟨_, rfl⟩ | ⟨_, there⟩
    · exact directory member inside
    · exact tree.directory there inside
  case placed =>
    intro other now member later inside
    rcases before later with ⟨rfl, rfl⟩ | ⟨_, there⟩
    · exact placed member inside
    · exact tree.placed there inside
  case present =>
    intro other now member later inside
    refine isSome_put v key member entry ?_
    rcases before later with ⟨_, rfl⟩ | ⟨_, there⟩
    · exact present member inside
    · exact tree.present there inside
  case distinct =>
    intro other now later
    rcases before later with ⟨_, rfl⟩ | ⟨_, there⟩
    · exact distinct
    · exact tree.distinct there
  case listed =>
    intro rooted part done now named tidy later apart
    rw [show (v.put key entry).keyOf = v.keyOf from rfl, get?_put]
    by_cases inside : Path.ofParts rooted (part :: done).reverse ∈ entry.members
    · obtain ⟨_, _, _, called, ordered, same, folder⟩ := placed _ inside
      obtain ⟨rfl, stack⟩ := Path.ofParts_inj (named.tidy tidy) (called.tidy ordered) same
      cases stack
      exact ⟨entry, if_pos folder.symm, inside⟩
    · -- It is not listed by the new entry, so it was there before and was listed then.
      have known : ∃ first, v.get? (Path.ofParts rooted (part :: done).reverse) = some first := by
        rcases before later with ⟨same, _⟩ | ⟨_, there⟩
        · rw [same] at apart ⊢
          exact Option.ne_none_iff_exists'.mp fun absent => apart (fresh absent)
        · exact ⟨now, there⟩
      obtain ⟨first, there⟩ := known
      obtain ⟨parent, above, listed⟩ := tree.listed named tidy there fun waiting =>
        (settled _ waiting).elim apart inside
      refine ⟨parent, ?_, listed⟩
      rw [if_neg]
      · exact above
      · intro same
        exact inside (kept parent (same ▸ above) _ listed)

theorem put_same (tree : v.Tree unlisted) (found : v.get? key = some old)
    (members : entry.members = old.members) (kind : entry.isDirectory = old.isDirectory) :
    (v.put key entry).Tree unlisted := by
  refine tree.put ?_ ?_ ?_ ?_ (members ▸ tree.distinct found) ?_ ?_ fun _ => .inl
  · intro start same
    exact kind.trans (tree.rooted start old (same ▸ found))
  · intro member inside
    exact kind.trans (tree.directory found (members ▸ inside))
  · intro member inside
    exact tree.placed found (members ▸ inside)
  · intro member inside
    exact tree.present found (members ▸ inside)
  · intro other same member inside
    rw [found, Option.some.injEq] at same
    exact members ▸ same ▸ inside
  · intro absent
    rw [found] at absent
    cases absent

/-- A new entry without members has yet to be listed. -/
theorem put_new (tree : v.Tree unlisted) (named : Path.FileName part) (tidy : Path.Tidy rooted done)
    (spelled : key = Path.ofParts rooted (part :: done).reverse) (absent : v.get? key = none)
    (bare : entry.members = []) : (v.put key entry).Tree (key :: unlisted) := by
  refine tree.put ?_ (by simp [bare]) (by simp [bare]) (by simp [bare]) (by simp [bare]) ?_
    (fun _ => List.mem_cons_self) fun other waiting => .inl (List.mem_cons_of_mem key waiting)
  · intro start same
    exact absurd (spelled.symm.trans same) (ofParts_ne_start named tidy start)
  · intro old found
    rw [absent] at found
    cases found

theorem mem_withMember (entry : FileEntry) (key member : String) :
    member ∈ (entry.withMember key).members ↔ member = key ∨ member ∈ entry.members := by
  by_cases inside : key ∈ entry.members
  · have known : member = key → member ∈ entry.members := fun same => same ▸ inside
    simpa [FileEntry.withMember, inside] using known
  · simp [FileEntry.withMember, inside, or_comm]

theorem nodup_withMember (distinct : old.members.Nodup) (key : String) :
    (old.withMember key).members.Nodup := by
  by_cases inside : key ∈ old.members
  · simpa [FileEntry.withMember, inside] using distinct
  · have apart : ∀ member ∈ old.members, member ≠ key := fun member sooner same =>
      inside (same ▸ sooner)
    simpa [FileEntry.withMember, inside, List.nodup_append] using ⟨distinct, apart⟩

/-- A directory lists a key that was not listed yet. -/
theorem list (tree : v.Tree (key :: unlisted)) (named : Path.FileName part)
    (tidy : Path.Tidy rooted done) (spelled : key = Path.ofParts rooted (part :: done).reverse)
    (there : (v.get? key).isSome = true)
    (found : v.get? (v.keyOf (Path.ofParts rooted done.reverse)) = some old) :
    (v.put (v.keyOf (Path.ofParts rooted done.reverse)) (old.withMember key)).Tree unlisted := by
  refine tree.put (fun _ _ => rfl) (fun _ _ => rfl) ?_ ?_ (nodup_withMember (tree.distinct found) key)
    ?_ ?_ ?_
  · intro member inside
    rcases (mem_withMember _ _ _).mp inside with rfl | sooner
    · exact ⟨rooted, part, done, named, tidy, spelled, rfl⟩
    · exact tree.placed found sooner
  · intro member inside
    rcases (mem_withMember _ _ _).mp inside with rfl | sooner
    · exact there
    · exact tree.present found sooner
  · intro other same member inside
    rw [found, Option.some.injEq] at same
    exact (mem_withMember _ _ _).mpr (.inr (same ▸ inside))
  · intro absent
    rw [found] at absent
    cases absent
  · intro other waiting
    rw [mem_withMember]
    rcases List.mem_cons.mp waiting with rfl | later
    · exact .inr (.inl rfl)
    · exact .inl later

theorem listUp (fuel : Nat) (tree : v.Tree (key :: unlisted)) (named : Path.FileName part)
    (passes : v.Passes output done)
    (spelled : key = Path.ofParts (Path.isRooted output) (part :: done).reverse)
    (there : (v.get? key).isSome = true) (enough : done.length < fuel)
    (begins : ∀ start ∈ Path.starts output, (v.get? (v.keyOf start)).isSome = true) :
    (Volume.listUp fuel v key).Tree unlisted := by
  -- Going up ends at the latest where the way begins, which is there.
  induction fuel generalizing v key part done unlisted with
  | zero => omega
  | succ fuel ih =>
      have parent : v.parentOf key = v.keyOf (Path.ofParts (Path.isRooted output) done.reverse) := by
        rw [spelled, parentOf_ofParts v named passes.tidy]
      obtain ⟨u, made, listed⟩ := listUp_succ fuel v key
      obtain ⟨upper, same, present, folder⟩ : u.Tree (key :: unlisted) ∧ u.medium = v.medium ∧
          (u.get? key).isSome = true ∧ (u.get? (v.parentOf key)).isSome = true := by
        rcases made with ⟨folder, rfl⟩ | ⟨absent, rfl⟩
        · exact ⟨tree, rfl, there, folder⟩
        · refine ⟨?_, medium_listUp _ _ _, isSome_listUp fuel (isSome_put v _ _ _ there),
            isSome_listUp fuel (by simp)⟩
          rcases passes.start_or_above with start | ⟨last, above, rfl, called, onward⟩
          · have here := begins _ start
            rw [← parent, absent] at here
            cases here
          · have own := parent.trans (keyOf_ofParts v called onward.tidy)
            have put : (v.put (v.parentOf key) .directory).Tree (v.parentOf key :: key :: unlisted) :=
              tree.put_new called onward.tidy own absent rfl
            refine ih put called onward own (by simp) (Nat.lt_of_succ_lt_succ enough) ?_
            intro start member
            exact isSome_put v _ _ _ (begins start member)
      rcases listed with ⟨none, _⟩ | ⟨entry, found, done⟩
      · rw [none] at folder
        cases folder
      · rw [done, parent, ← keyOf_of_medium same]
        rw [parent, ← keyOf_of_medium same] at found
        exact upper.list named passes.tidy spelled present found

/-- What a volume refuses is no matter of its tree. -/
theorem refusing (tree : v.Tree unlisted) (refusals : Refusals) :
    Tree { v with refusals } unlisted :=
  ⟨⟨tree.rooted, tree.directory, tree.placed⟩, tree.present, tree.distinct, tree.listed⟩

theorem isSome_of_begins (begins : v.Begins output) :
    ∀ start ∈ Path.starts output, (v.get? (v.keyOf start)).isSome = true := by
  intro start member
  have here := begins start member
  rw [isDirectory] at here
  split at here
  · next found => rw [found]; rfl
  · cases here

variable (tree : v.Tree []) (begins : v.Begins output)

include tree begins

theorem add (named : Path.FileName part) (passes : v.Passes output done)
    (spelled : key = Path.ofParts (Path.isRooted output) (part :: done).reverse)
    (absent : v.get? key = none) (bare : entry.members = []) : (v.add key entry).Tree [] := by
  have room : done.length < (Path.parts key).length + 2 := by
    rw [spelled, Path.parts_ofParts (named.tidy passes.tidy).segments (.inr (by simp))]
    simp
    omega
  exact (tree.put_new named passes.tidy spelled absent bare).listUp _ named passes spelled (by simp)
    room fun start member => isSome_put v _ _ _ (isSome_of_begins begins start member)

theorem putFile (named : Path.FileName part) (contents : List UInt8) :
    (v.putFile (Path.join output part) contents).Tree [] := by
  unfold Volume.putFile
  split
  · next found => exact tree.put_same found rfl rfl
  · next absent =>
      exact tree.add begins named (v.passes_stackOf output) (Path.join_name named output) absent rfl

theorem write (named : Path.FileName part) {contents : List UInt8}
    (success : v.write (Path.join output part) contents = .ok next) : next.Tree [] := by
  obtain ⟨key, located, rfl, _⟩ := write_eq_ok success
  obtain rfl := key_of_locate_join named located
  exact tree.putFile begins named contents

omit tree begins in
theorem makeEach (disk : v.medium = .disk) (tree : v.Tree []) (begins : v.Begins output)
    (before rest : List String) (whole : Path.parts output = before ++ rest)
    (success : v.makeEach (Path.ofParts (Path.isRooted output)) before rest = .ok next) :
    next.Tree [] := by
  induction rest generalizing v before with
  | nil =>
      cases success
      exact tree
  | cons part rest ih =>
      obtain ⟨stack, passes, spelled⟩ := passes_of_parts disk whole
      rw [Volume.makeEach, spelled] at success
      have onward : Path.parts output = before ++ [part] ++ rest := by simpa using whole
      split at success
      · split at success
        · exact ih disk tree begins _ onward success
        · cases success
      · next absent =>
          have made : v.Extends (v.add (Path.ofParts (Path.isRooted output) stack.reverse)
              .directory) [] := extends_add absent (.inr rfl)
          rcases passes.start_or_above with start | ⟨last, above, rfl, named, way⟩
          · have here := isSome_of_begins begins _ start
            rw [keyOf_of_disk disk, Path.clean_ofParts passes.tidy, absent] at here
            cases here
          · exact ih (made.medium.trans disk) (tree.add begins named way rfl absent rfl)
              (made.begins begins) _ onward success

theorem makeDirectory (success : v.makeDirectory output = .ok next) : next.Tree [] := by
  unfold Volume.makeDirectory at success
  split at success
  · cases success
  · split at success
    · simp only at success
      split at success
      · cases success
        exact tree
      · next absent =>
          cases success
          have absent : v.get? (v.keyOf output) = none := by simpa using absent
          obtain ⟨part, done, _, named, passes, spelled⟩ := onward_of_absent begins absent
          exact tree.add begins named passes spelled absent rfl
    · next disk =>
        split at success
        · cases success
        · exact makeEach disk tree begins [] _ rfl success

end Tree

end SqlMapper.Volume
