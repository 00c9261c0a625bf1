import SqlMapper.Files.Discovery
import SqlMapper.Proofs.Files.Selection
import SqlMapper.Proofs.Files.Walks

/-!
Discovery on a volume that has grown. The documents are found again if the names of the files that
were written end in another way than those of documents, and if no document has become a directory.
-/

namespace SqlMapper

namespace Volume

variable {v next : Volume} {directory pattern output : String} {paths written : List String}

theorem discover_eq_ok_iff : discover v directory pattern = .ok paths ↔
    Glob.valid (effectivePattern pattern) = true ∧
      (∃ entry, v.look directory = .ok entry ∧ entry.isDirectory = true) ∧
      v.scanFault? directory pattern = none ∧ v.selected directory pattern = paths := by
  unfold discover
  by_cases valid : Glob.valid (effectivePattern pattern) = true
  · cases here : v.look directory with
    | error cause => simp [valid]
    | ok entry =>
        cases kind : entry.isDirectory <;> cases scan : v.scanFault? directory pattern <;>
          simp [valid, kind]
  · simp [valid]

theorem scanFault?_eq_none_iff (v : Volume) (directory pattern : String) :
    v.scanFault? directory pattern = none ↔
      (∀ cause, Visit.failure cause ∉ v.visits directory) ∧
        ∀ path size, Visit.file path size ∈ v.visits directory →
          breaks directory pattern path = false := by
  rw [scanFault?, List.findSome?_eq_none_iff]
  constructor
  · intro none
    refine ⟨fun cause met => (nomatch none _ met), fun path size met => ?_⟩
    simpa [Visit.fault?] using none _ met
  · rintro ⟨free, formed⟩ visit met
    cases visit with
    | file path size => simp [Visit.fault?, formed path size met]
    | failure cause => exact absurd met (free cause)

theorem mem_selected (v : Volume) (directory pattern document : String) :
    document ∈ v.selected directory pattern ↔
      document ∈ v.filesBelow directory ∧ selects directory pattern document = true := by
  rw [selected, Text.mem_sorted, List.mem_filter]

theorem getLast?_keyOf {path : String} {c : Char}
    (last : (Path.clean path).toList.getLast? = some c) (other : c ≠ '.') :
    (v.keyOf path).toList.getLast? = some c := by
  simp only [keyOf]
  split
  · next root =>
      simp only [Bool.and_eq_true, Bool.or_eq_true, beq_iff_eq] at root
      rcases root.2 with here | above
      · rw [here] at last
        exact absurd (Option.some.inj last).symm other
      · rw [above] at last
        exact absurd (Option.some.inj last).symm other
  · exact last

/-- A file that is there as it was is read as before. -/
theorem Extends.read {path : String} {contents : List UInt8} (frame : v.Extends next written)
    (same : next.get? (v.keyOf path) = v.get? (v.keyOf path))
    (success : v.read path = .ok contents) : next.read path = .ok contents := by
  rw [Volume.read] at success ⊢
  rw [frame.refusals, frame.medium]
  split at success
  · cases success
  · next opened =>
      rw [if_neg opened]
      obtain ⟨entry, found, done⟩ := (Outcome.bind_eq_ok_iff _ _ _).mp success
      rw [find] at found ⊢
      obtain ⟨key, located, there⟩ := (Outcome.bind_eq_ok_iff _ _ _).mp found
      obtain rfl := key_of_locate located
      rw [← same] at there
      simp only [frame.locate located, Except.bind] at there ⊢
      split at there
      · cases there
        exact done
      · cases there

variable (standard : effectivePattern pattern = defaultPattern) (orderly : v.Orderly)
  (frame : v.Extends next written) (turns : v.Turns next output)
  (aligned : v.Aligned output directory)
  (unlike : ∀ path ∈ written, path.toList.getLast? ≠ some 'l')
  (apart : ∀ document ∈ v.selected directory pattern, Path.clean document ∉ Path.upwards output)

include standard orderly frame turns aligned unlike apart

/-- A document is neither written nor made a directory. -/
theorem get?_selected {document : String} (member : document ∈ v.selected directory pattern) :
    next.get? (v.keyOf document) = v.get? (v.keyOf document) := by
  obtain ⟨listed, chosen⟩ := (v.mem_selected _ _ _).mp member
  obtain ⟨visit, met, kind⟩ := List.mem_filterMap.mp listed
  cases visit with
  | failure cause => cases kind
  | file path size =>
      cases kind
      obtain ⟨entry, found, file⟩ := look_of_mem_visits met
      have there := look_eq_ok found
      have unwritten : v.keyOf document ∉ written := by
        intro inside
        have last := getLast?_of_selects standard chosen
        exact unlike _ inside (getLast?_keyOf last (by decide))
      obtain ⟨now, later, _, left⟩ := frame.kept there
      rcases left unwritten with same | ⟨isDirectory, _⟩
      · rw [later, there, same]
      · exact absurd (turns document entry now (aligned_of_mem_visits orderly aligned met) there
          later file isDirectory) (apart document member)

/-- The documents of a directory are discovered again. -/
theorem discover_grown (grows : v.Grows next output) (readable : v.Readable output)
    (own : ∀ path ∈ written, Path.clean path = path)
    (found : discover v directory pattern = .ok paths) :
    discover next directory pattern = .ok paths := by
  obtain ⟨valid, ⟨entry, here, isDirectory⟩, scan, rfl⟩ := discover_eq_ok_iff.mp found
  have free := ((v.scanFault?_eq_none_iff directory pattern).mp scan).1
  have unchosen : ∀ path ∈ written, selects directory pattern path = false := by
    intro path inside
    rw [Bool.eq_false_iff]
    intro chosen
    have last := getLast?_of_selects standard chosen
    rw [own path inside] at last
    exact unlike path inside last
  -- Only visits that count are compared: the walk may meet more after the growth.
  have visits : (next.visits directory).filter (Visit.counts (selects directory pattern)) =
      (v.visits directory).filter (Visit.counts (selects directory pattern)) := by
    have whole := frame.visits_eq orderly directory
    rw [visits, ← whole]
    refine filter_visits frame grows readable unchosen orderly turns _ aligned ?_ ?_
    · rw [whole]
      exact free
    · intro file size met chosen
      rw [whole] at met
      exact get?_selected standard orderly frame turns aligned unlike apart
        ((v.mem_selected _ _ _).mpr ⟨List.mem_filterMap.mpr ⟨_, met, rfl⟩, chosen⟩)
  refine discover_eq_ok_iff.mpr ⟨valid, ?_, ?_, ?_⟩
  · obtain ⟨now, later⟩ := frame.look here
    have there := look_eq_ok later
    rw [keyOf_of_medium frame.medium] at there
    obtain ⟨same, again, stays, _⟩ := frame.kept (look_eq_ok here)
    rw [there, Option.some.injEq] at again
    exact ⟨now, later, again ▸ stays isDirectory⟩
  · rw [scanFault?_eq_none_iff]
    refine ⟨fun cause met => ?_, fun path _ _ => breaks_standard standard directory path⟩
    have kept : Visit.failure cause ∈ (v.visits directory).filter
        (Visit.counts (selects directory pattern)) := by
      rw [← visits]
      exact List.mem_filter.mpr ⟨met, rfl⟩
    exact free cause (List.mem_of_mem_filter kept)
  · rw [selected, selected, filesBelow, filesBelow, filter_files, filter_files, visits]

end Volume

end SqlMapper
