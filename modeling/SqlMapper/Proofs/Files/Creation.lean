import SqlMapper.Proofs.Files.Growth
import SqlMapper.Proofs.Files.Walks

/-!
A directory that was made can be written into: all directories on the way to it are there, so that
the path of a file in it is located.
-/

namespace SqlMapper

namespace Path

theorem clean_start (rooted : Bool) : clean (ofParts rooted []) = ofParts rooted [] := by
  cases rooted <;> decide

theorem start_mem_starts (path : String) : ofParts (isRooted path) [] ∈ starts path := by
  have last : ([] : List String) ∈ (stepsUp (stackOf path)).tails :=
    (List.mem_tails _ _).mpr List.nil_suffix
  exact List.mem_map.mpr ⟨[], last, rfl⟩

end Path

namespace Volume

variable {v next : Volume} {directory name : String}

theorem isDirectory_add {key : String} (absent : v.get? key = none) :
    (v.add key .directory).isDirectory key = true := by
  have extended : Extends v (v.add key .directory) [] := extends_add absent (.inr rfl)
  obtain ⟨now, found, _⟩ := contents_add v key .directory
  rw [isDirectory, found]
  exact (extended.made absent found List.not_mem_nil).1

-- From part to part, all that the path has passed is a directory.
theorem directories_of_makeEach {rooted : Bool} (done rest : List String) {v : Volume}
    (segments : ∀ part ∈ done ++ rest, Path.Segment part)
    (above : ∀ stack, stack <:+ done.foldl (Path.cleanPart rooted) [] →
      v.isDirectory (Path.ofParts rooted stack.reverse) = true)
    (success : v.makeEach (Path.ofParts rooted) done rest = .ok next) :
    ∀ stack, stack <:+ (done ++ rest).foldl (Path.cleanPart rooted) [] →
      next.isDirectory (Path.ofParts rooted stack.reverse) = true := by
  induction rest generalizing v done with
  | nil =>
      cases success
      rw [List.append_nil]
      exact above
  | cons part rest ih =>
      have before : ∀ other ∈ done, Path.Segment other := fun other member =>
        segments other (List.mem_append_left _ member)
      have onward : done ++ part :: rest = done ++ [part] ++ rest := by simp
      have grown : (done ++ [part]).foldl (Path.cleanPart rooted) [] =
          Path.cleanPart rooted (done.foldl (Path.cleanPart rooted) []) part := by simp
      rw [makeEach, Path.clean_ofParts_concat before (segments part (by simp))] at success
      rw [onward] at segments ⊢
      split at success
      · next entry found =>
          split at success
          · next isDirectory =>
              refine ih _ segments ?_ success
              intro stack suffix
              rw [grown] at suffix
              rcases Path.suffix_cleanPart suffix with rfl | sooner
              · rw [Volume.isDirectory, found]
                exact isDirectory
              · exact above stack sooner
          · cases success
      · next absent =>
          -- The new directory is the last of them; what was there stays.
          refine ih _ segments ?_ success
          intro stack suffix
          rw [grown] at suffix
          rcases Path.suffix_cleanPart suffix with rfl | sooner
          · exact isDirectory_add absent
          · have extended : Extends v _ [] := extends_add absent (.inr rfl)
            exact extended.isDirectory (above stack sooner)

/-- The path of a file in a directory that was made is located. -/
theorem locate_of_makeDirectory (named : Path.FileName name) (begins : v.Begins directory)
    (made : v.makeDirectory directory = .ok next) (operation : String) :
    next.locate operation (Path.join directory name) = .ok (Path.join directory name) := by
  cases medium : v.medium with
  | memory =>
      have memory : next.medium = .memory := (extends_makeDirectory made).medium.trans medium
      simp [locate, memory, keyOf_join named]
  | disk =>
      have disk : next.medium = .disk := (extends_makeDirectory made).medium.trans medium
      have start := begins _ (Path.start_mem_starts directory)
      rw [keyOf_of_disk medium, Path.clean_start] at start
      simp only [makeDirectory, medium] at made
      split at made
      · cases made
      · split at made
        · cases made
        · have above := directories_of_makeEach [] (Path.parts directory)
            (Path.segments_parts directory) (by
              intro stack suffix
              rw [List.suffix_nil.mp suffix]
              exact start) made
          exact locate_join_of_directories named disk above operation

end Volume

end SqlMapper
