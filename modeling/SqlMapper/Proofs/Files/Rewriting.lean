import SqlMapper.Proofs.Files.Frame

/-!
Doing again what was done. Entries are replaced in their place, so a file that is written with the
contents that it has leaves the volume as it is, and of several contents only the last one counts. A
directory that was made is not made again.
-/

namespace SqlMapper.Volume

variable {v next middle : Volume} {key other path : String} {entry old : FileEntry}
  {contents bytes : List UInt8} {written : List String}

section Entries

variable {entries : List (String × FileEntry)}

theorem putEntry_self (found : entries.lookup key = some entry) :
    putEntry key entry entries = entries := by
  induction entries with
  | nil => cases found
  | cons first rest ih =>
      rcases first with ⟨name, held⟩
      rw [List.lookup_cons] at found
      rw [putEntry]
      by_cases same : key = name
      · subst same
        simp only [beq_self_eq_true, Option.some.injEq] at found
        simp [found]
      · rw [beq_false_of_ne same] at found
        rw [if_neg (by simpa using Ne.symm same), ih found]

theorem putEntry_putEntry (key : String) (entry old : FileEntry)
    (entries : List (String × FileEntry)) :
    putEntry key entry (putEntry key old entries) = putEntry key entry entries := by
  induction entries with
  | nil => simp [putEntry]
  | cons first rest ih =>
      by_cases same : first.1 = key
      · simp [putEntry, same]
      · simp [putEntry, same, ih]

/-- Entries that are there are replaced in any order. -/
theorem putEntry_comm (apart : key ≠ other) (first : (entries.lookup key).isSome = true)
    (second : (entries.lookup other).isSome = true) (entry old : FileEntry) :
    putEntry key entry (putEntry other old entries) =
      putEntry other old (putEntry key entry entries) := by
  induction entries with
  | nil => cases first
  | cons head rest ih =>
      rcases head with ⟨name, held⟩
      rw [List.lookup_cons] at first second
      by_cases here : name = key
      · subst here
        simp [putEntry, apart]
      · by_cases there : name = other
        · subst there
          simp [putEntry, here]
        · rw [beq_false_of_ne (Ne.symm here)] at first
          rw [beq_false_of_ne (Ne.symm there)] at second
          simp [putEntry, here, there, ih first second]

end Entries

section Files

theorem putFile_of_some (found : v.get? key = some entry) (contents : List UInt8) :
    v.putFile key contents = v.put key { entry with contents } := by
  simp only [putFile, found]

theorem putFile_self (found : v.get? key = some entry) (same : entry.contents = contents) :
    v.putFile key contents = v := by
  subst same
  rw [putFile_of_some found, put, putEntry_self found]

theorem isSome_putFile (there : (v.get? other).isSome = true) (key : String)
    (contents : List UInt8) : ((v.putFile key contents).get? other).isSome = true :=
  (extends_putFile v key contents).isSome there

theorem putFile_putFile (there : (v.get? key).isSome = true) (contents bytes : List UInt8) :
    (v.putFile key bytes).putFile key contents = v.putFile key contents := by
  obtain ⟨entry, found⟩ := Option.isSome_iff_exists.mp there
  rw [putFile_of_some found, putFile_of_some (get?_put_self _ _ _), putFile_of_some found]
  simp only [put, putEntry_putEntry]

theorem putFile_comm (apart : key ≠ other) (first : (v.get? key).isSome = true)
    (second : (v.get? other).isSome = true) (contents bytes : List UInt8) :
    (v.putFile key contents).putFile other bytes = (v.putFile other bytes).putFile key contents := by
  obtain ⟨entry, found⟩ := Option.isSome_iff_exists.mp first
  obtain ⟨old, there⟩ := Option.isSome_iff_exists.mp second
  have found' : (v.put other { old with contents := bytes }).get? key = some entry := by
    rw [get?_put, if_neg apart, found]
  have there' : (v.put key { entry with contents }).get? other = some old := by
    rw [get?_put, if_neg (Ne.symm apart), there]
  rw [putFile_of_some found, putFile_of_some there', putFile_of_some there, putFile_of_some found']
  simp only [put, putEntry_comm apart first second]

def putFiles (v : Volume) (files : List (String × List UInt8)) : Volume :=
  files.foldl (fun v file => v.putFile file.1 file.2) v

variable {files : List (String × List UInt8)}

/-- What is put at a key makes no difference when something else is put there later. -/
theorem putFiles_putFile (there : ∀ file ∈ files, (v.get? file.1).isSome = true)
    (member : key ∈ files.map (·.1)) (contents : List UInt8) :
    (v.putFile key contents).putFiles files = v.putFiles files := by
  induction files generalizing v with
  | nil => cases member
  | cons file rest ih =>
      rcases file with ⟨path, bytes⟩
      rw [List.forall_mem_cons] at there
      show ((v.putFile key contents).putFile path bytes).putFiles rest =
        (v.putFile path bytes).putFiles rest
      by_cases same : key = path
      · subst same
        rw [putFile_putFile there.1]
      · have later : key ∈ rest.map (·.1) := by simpa [same] using member
        have present : (v.get? key).isSome = true := by
          obtain ⟨file, inside, rfl⟩ := List.mem_map.mp later
          exact there.2 file inside
        rw [putFile_comm same present there.1]
        exact ih (fun file inside => isSome_putFile (there.2 file inside) path bytes) later

/-- Putting files again that the volume holds changes nothing, even if some of them were put several
times. -/
theorem putFiles_self
    (held : ∀ before key contents after, files = before ++ (key, contents) :: after →
      key ∉ after.map (·.1) → ∃ entry, v.get? key = some entry ∧ entry.contents = contents)
    (there : ∀ file ∈ files, (v.get? file.1).isSome = true) : v.putFiles files = v := by
  induction files with
  | nil => rfl
  | cons file rest ih =>
      rcases file with ⟨key, contents⟩
      rw [List.forall_mem_cons] at there
      have others := ih (fun before name bytes after split => held ((key, contents) :: before) name
        bytes after (by rw [split]; rfl)) there.2
      show (v.putFile key contents).putFiles rest = v
      by_cases later : key ∈ rest.map (·.1)
      · rw [putFiles_putFile there.2 later, others]
      · obtain ⟨entry, found, same⟩ := held [] key contents rest rfl later
        rw [putFile_self found same, others]

end Files

section Writing

theorem granted_of_write (success : v.write path contents = .ok next) :
    v.refusals.writes.contains path = false := by
  rw [write] at success
  split at success
  · cases success
  · next granted => simpa using granted

/-- Where something is stored already, the file is put in its place. -/
theorem write_of_stores (stores : v.Stores path bytes)
    (granted : v.refusals.writes.contains path = false) (contents : List UInt8) :
    v.write path contents = .ok (v.putFile path contents) := by
  obtain ⟨located, entry, found, _, file⟩ := stores
  have writable : (v.medium = .disk && v.isDirectory path) = false := by
    rw [isDirectory, found]
    by_cases disk : v.medium = .disk
    · simp [file disk]
    · simp [disk]
  rw [write, granted, if_neg Bool.false_ne_true, located]
  simp only [Except.bind, writable, Bool.false_eq_true, ↓reduceIte]

theorem Stores.putFile (stores : v.Stores other bytes) (there : (v.get? key).isSome = true)
    (contents : List UInt8) : ∃ bytes, (v.putFile key contents).Stores other bytes := by
  obtain ⟨located, entry, found, same, file⟩ := stores
  obtain ⟨old, held⟩ := Option.isSome_iff_exists.mp there
  have onward := (extends_putFile v key contents).locate located
  rw [putFile_of_some held] at onward ⊢
  by_cases here : other = key
  · subst here
    rw [found, Option.some.injEq] at held
    subst held
    exact ⟨contents, onward, _, get?_put_self _ _ _, rfl, file⟩
  · exact ⟨bytes, onward, entry, by rw [get?_put, if_neg here, found], same, file⟩

end Writing

section Directories

/-- A directory that was made is there, and so are those on the way to it. -/
theorem makeEach_again (spelled : List String → String) (done rest : List String) {v : Volume}
    (success : v.makeEach spelled done rest = .ok middle) (frame : middle.Extends next written) :
    next.makeEach spelled done rest = .ok next := by
  induction rest generalizing v done with
  | nil => rfl
  | cons part rest ih =>
      obtain ⟨u, here, onward⟩ : ∃ u : Volume,
          u.isDirectory (Path.clean (spelled (done ++ [part]))) = true ∧
            u.makeEach spelled (done ++ [part]) rest = .ok middle := by
        rw [makeEach] at success
        split at success
        · next entry found =>
            split at success
            · next kind => exact ⟨v, by rw [isDirectory, found]; exact kind, success⟩
            · cases success
        · next absent =>
            refine ⟨_, ?_, success⟩
            obtain ⟨now, found, _⟩ :=
              contents_add v (Path.clean (spelled (done ++ [part]))) .directory
            have made : v.Extends (v.add (Path.clean (spelled (done ++ [part]))) .directory) [] :=
              extends_add absent (.inr rfl)
            rw [isDirectory, found]
            exact (made.made absent found List.not_mem_nil).1
      have there := frame.isDirectory ((extends_makeEach _ _ _ onward).isDirectory here)
      rw [isDirectory] at there
      rw [makeEach]
      split at there
      · simp only [there, ↓reduceIte]
        exact ih _ onward
      · cases there

theorem makeDirectory_again (success : v.makeDirectory path = .ok middle)
    (frame : middle.Extends next written) : next.makeDirectory path = .ok next := by
  have begun := extends_makeDirectory success
  have refusals : next.refusals = v.refusals := frame.refusals.trans begun.refusals
  have medium : next.medium = v.medium := frame.medium.trans begun.medium
  unfold makeDirectory at success ⊢
  rw [refusals, medium]
  split at success
  · cases success
  · next granted =>
      rw [if_neg granted]
      split at success
      · next memory =>
          have there : (middle.get? (v.keyOf path)).isSome = true := by
            simp only at success
            split at success
            · next here =>
                cases success
                exact here
            · cases success
              obtain ⟨now, found, _⟩ := contents_add v (v.keyOf path) .directory
              rw [found]
              rfl
          have same : next.keyOf path = v.keyOf path := by simp only [keyOf, medium]
          simp only [same, frame.isSome there, ↓reduceIte]
      · split at success
        · cases success
        · next filled =>
            rw [if_neg filled]
            exact makeEach_again _ _ _ success frame

end Directories

end SqlMapper.Volume
