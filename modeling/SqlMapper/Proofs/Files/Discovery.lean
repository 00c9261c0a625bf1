import Mathlib.Data.List.Nodup
import SqlMapper.Proofs.Files.Rediscovery
import SqlMapper.Proofs.Files.Trees

/-!
What discovery finds on a tree of files. A walk from a directory meets each file below it once, under
the path of its names, and that path seen from the directory is the names again. So discovery returns
the files that the pattern selects, each once and in increasing order, unless the pattern turns out to
be ill formed at one of them. The default pattern never does, and selects right below the directory.
-/

namespace SqlMapper

namespace Text

theorem perm_insertBefore (text : String) (texts : List String) :
    List.Perm (insertBefore text texts) (text :: texts) := by
  induction texts with
  | nil => exact .refl _
  | cons first rest ih =>
      rw [insertBefore]
      split
      · exact (ih.cons first).trans (.swap text first rest)
      · exact .refl _

theorem perm_sorted (texts : List String) : List.Perm (sorted texts) texts := by
  induction texts with
  | nil => exact .refl _
  | cons text rest ih => exact (perm_insertBefore text _).trans (ih.cons text)

theorem pairwise_lt_sorted {texts : List String} (distinct : texts.Nodup) :
    (sorted texts).Pairwise (· < ·) := by
  have apart : (sorted texts).Nodup := (perm_sorted texts).nodup_iff.mpr distinct
  refine ((pairwise_sorted texts).and apart).imp ?_
  rintro first second ⟨le, ne⟩
  exact Classical.byContradiction fun not => ne (String.le_antisymm le (String.not_lt.mp not))

end Text

namespace Path

variable {directory path name : String} {names : List String}

/-- A path that goes down from a directory by at least one name. -/
def Below (directory path : String) : Prop :=
  ∃ names, names ≠ [] ∧ (∀ name ∈ names, FileName name) ∧ path = names.foldl join directory

theorem below_join (named : FileName name) (directory : String) :
    Below directory (join directory name) :=
  ⟨[name], List.cons_ne_nil _ _, by simpa using named, rfl⟩

theorem Below.of_join (named : FileName name) (below : Below (join directory name) path) :
    Below directory path := by
  obtain ⟨names, _, all, rfl⟩ := below
  exact ⟨name :: names, List.cons_ne_nil _ _, List.forall_mem_cons.mpr ⟨named, all⟩, rfl⟩

theorem stackOf_foldl (named : ∀ name ∈ names, FileName name) (directory : String) :
    stackOf (names.foldl join directory) = names.reverse ++ stackOf directory := by
  induction names generalizing directory with
  | nil => rfl
  | cons first rest ih =>
      rw [List.forall_mem_cons] at named
      rw [List.foldl_cons, ih named.2, stackOf_join named.1, List.reverse_cons, List.append_assoc]
      rfl

theorem isRooted_foldl (named : ∀ name ∈ names, FileName name) (directory : String) :
    isRooted (names.foldl join directory) = isRooted directory := by
  induction names generalizing directory with
  | nil => rfl
  | cons first rest ih =>
      rw [List.forall_mem_cons] at named
      rw [List.foldl_cons, ih named.2, isRooted_join named.1]

theorem dropCommon_append (first second : List String) :
    dropCommon first (first ++ second) = ([], second) := by
  induction first with
  | nil => cases second <;> rfl
  | cons part rest ih => simpa [dropCommon] using ih

/-- A path below a directory is seen from there as its names. -/
theorem relative?_foldl (filled : names ≠ []) (named : ∀ name ∈ names, FileName name)
    (directory : String) :
    relative? directory (names.foldl join directory) = some (Text.join "/" names) := by
  have source := tidy_stackOf directory
  have goal := tidy_stackOf (names.foldl join directory)
  rw [stackOf_foldl named, isRooted_foldl named] at goal
  have spelled : clean (names.foldl join directory) =
      ofParts (isRooted directory) (names.reverse ++ stackOf directory).reverse := by
    rw [← stackOf_foldl named, ← isRooted_foldl named]
    rfl
  have apart : clean directory ≠ clean (names.foldl join directory) := by
    intro same
    have lengths := congrArg List.length (ofParts_inj source goal (same.trans spelled)).2
    rw [List.length_append, List.length_reverse] at lengths
    exact filled (List.eq_nil_of_length_eq_zero (by omega))
  have parts : baseParts (clean directory) = (stackOf directory).reverse := baseParts_ofParts source
  have rooted : isRooted (clean directory) = isRooted directory := isRooted_ofParts source.segments
  rw [relative?]
  simp only [apart, beq_iff_eq, ↓reduceIte, bne_iff_ne, ne_eq]
  rw [spelled, isRooted_ofParts goal.segments, rooted, parts, baseParts_ofParts goal,
    List.reverse_append, List.reverse_reverse, dropCommon_append]
  simp

theorem separator_mem_join (first second : String) (rest : List String) :
    separator ∈ (Text.join "/" (first :: second :: rest)).toList := by
  rw [Text.join]
  · simp [separator]
  · simp

end Path

namespace Volume

variable {v : Volume} {directory path name file : String} {names : List String} {entry : FileEntry}
  {size : Nat}

def FileBelow (v : Volume) (directory path : String) : Prop :=
  Path.Below directory path ∧ ∃ entry, v.look path = .ok entry ∧ entry.isDirectory = false

/-- A directory that is spelled as its members are. Only the root of a volume in memory can be spelled
in another way. -/
def Spelled (v : Volume) (directory : String) : Prop :=
  ∀ entry, v.get? (v.keyOf directory) = some entry →
    ∀ member ∈ entry.members, Path.join directory (Path.base member) = member

/-- A directory may be opened, and so may all directories below it. Files are not opened by a walk. -/
def Opens (v : Volume) (directory : String) : Prop :=
  ∀ path entry, path = directory ∨ Path.Below directory path → v.look path = .ok entry →
    entry.isDirectory = true → path ∉ v.refusals.openings

theorem keyOf_eq_clean (apart : v.medium = .disk ∨ v.keyOf path ≠ "/") :
    v.keyOf path = Path.clean path := by
  rcases apart with disk | other
  · exact keyOf_of_disk disk path
  · simp only [keyOf] at other ⊢
    split
    · next root => exact absurd (if_pos root) other
    · rfl

theorem spelled_of_key (orderly : v.Orderly) (apart : v.medium = .disk ∨ v.keyOf directory ≠ "/") :
    v.Spelled directory := by
  intro entry found member inside
  obtain ⟨rooted, part, done, named, tidy, rfl, same⟩ := orderly.placed found inside
  have spelled : Path.clean directory = Path.ofParts rooted done.reverse := by
    rw [← keyOf_eq_clean apart, same, keyOf_eq_clean (same ▸ apart), Path.clean_ofParts tidy]
  rw [Path.base_ofParts named tidy, Path.join_of_clean named tidy spelled]

/-- A directory is spelled as its members are, if the root of a volume in memory is. -/
theorem spelled_of_root (orderly : v.Orderly)
    (root : v.medium = .memory → v.keyOf directory = "/" → v.Spelled directory) :
    v.Spelled directory := by
  by_cases apart : v.medium = .disk ∨ v.keyOf directory ≠ "/"
  · exact spelled_of_key orderly apart
  · rw [not_or, not_not] at apart
    refine root ?_ apart.2
    cases medium : v.medium with
    | memory => rfl
    | disk => exact absurd medium apart.1

theorem spelled_join (orderly : v.Orderly) (named : Path.FileName name) (directory : String) :
    v.Spelled (Path.join directory name) := by
  refine spelled_of_key orderly (.inr ?_)
  rw [keyOf_join named]
  exact Path.join_ne_start named directory true

theorem Opens.opened (opens : v.Opens directory) (looked : v.look directory = .ok entry)
    (isDirectory : entry.isDirectory = true) : v.refusals.openings.contains directory = false := by
  rw [List.contains_eq_mem, decide_eq_false_iff_not]
  exact opens directory entry (.inl rfl) looked isDirectory

theorem Opens.join (opens : v.Opens directory) (named : Path.FileName name) :
    v.Opens (Path.join directory name) := by
  rintro path entry (rfl | below)
  · exact opens _ entry (.inr (Path.below_join named directory))
  · exact opens path entry (.inr (below.of_join named))

theorem Opens.foldl (opens : v.Opens directory) (named : ∀ name ∈ names, Path.FileName name) :
    v.Opens (names.foldl Path.join directory) := by
  induction names generalizing directory with
  | nil => exact opens
  | cons first rest ih =>
      rw [List.forall_mem_cons] at named
      exact ih (opens.join named.1) named.2

section Walks

variable (tree : v.Tree [])

include tree

/-- A member is found where a walk looks for it. -/
theorem Tree.look_member (spelled : v.Spelled path) (looked : v.look path = .ok entry)
    (isDirectory : entry.isDirectory = true)
    (listed : name ∈ Text.sorted (entry.members.map Path.base)) :
    ∃ member, v.look (Path.join path name) = .ok member := by
  have named := tree.fileName (look_eq_ok looked) name listed
  obtain ⟨key, inside, rfl⟩ := List.mem_map.mp ((Text.mem_sorted _ _).mp listed)
  have same := spelled entry (look_eq_ok looked) key inside
  obtain ⟨member, found⟩ := Option.isSome_iff_exists.mp (tree.present (look_eq_ok looked) inside)
  exact ⟨member, look_join named looked isDirectory (same.symm ▸ found)⟩

/-- A walk of a tree fails nowhere. -/
theorem Tree.free_visits (fuel : Nat) (spelled : v.Spelled path) (opens : v.Opens path)
    (looked : v.look path = .ok entry) (cause : FileError) :
    Visit.failure cause ∉ v.visitsFrom fuel path := by
  induction fuel generalizing path entry with
  | zero => exact List.not_mem_nil
  | succ fuel ih =>
      cases kind : entry.isDirectory with
      | false => simp [visitsFrom_of_file fuel looked kind]
      | true =>
          rw [visitsFrom_of_directory fuel looked kind (opens.opened looked kind)]
          intro met
          obtain ⟨name, listed, below⟩ := List.mem_flatMap.mp met
          have named := tree.fileName (look_eq_ok looked) name listed
          obtain ⟨member, found⟩ := tree.look_member spelled looked kind listed
          exact ih (spelled_join tree.toOrderly named path) (opens.join named) found below

omit tree in
/-- Whatever a walk meets has the names on the way as its path. -/
theorem below_of_met (orderly : v.Orderly) (fuel : Nat)
    (met : Visit.file file size ∈ v.visitsFrom fuel path) :
    ∃ names : List String,
      (∀ name ∈ names, Path.FileName name) ∧ file = names.foldl Path.join path := by
  induction fuel generalizing path with
  | zero => cases met
  | succ fuel ih =>
      obtain ⟨entry, found, ⟨rfl, _⟩ | ⟨name, listed, below⟩⟩ := met_here_or_below met
      · exact ⟨[], by simp, rfl⟩
      · have named := orderly.fileName (look_eq_ok found) name listed
        obtain ⟨names, all, rfl⟩ := ih below
        exact ⟨name :: names, List.forall_mem_cons.mpr ⟨named, all⟩, rfl⟩

omit tree in
/-- The path of a file tells the first name on the way to it. -/
theorem name_unique (orderly : v.Orderly) {first second : String} (one : Path.FileName first)
    (two : Path.FileName second) (fuel : Nat) {visit other : Visit}
    (met : visit ∈ v.visitsFrom fuel (Path.join path first))
    (again : other ∈ v.visitsFrom fuel (Path.join path second))
    (same : visit.file? = other.file?) (isFile : visit.file? = some file) : first = second := by
  rw [isFile] at same
  cases visit with
  | failure cause => cases isFile
  | file found size =>
      cases other with
      | failure cause => cases same
      | file also more =>
          cases isFile
          cases same
          obtain ⟨names, named, spelled⟩ := below_of_met orderly fuel met
          obtain ⟨others, called, alike⟩ := below_of_met orderly fuel again
          have stack := congrArg Path.stackOf (spelled.symm.trans alike)
          rw [Path.stackOf_foldl named, Path.stackOf_foldl called, Path.stackOf_join one,
            Path.stackOf_join two, List.append_cons, List.append_cons others.reverse] at stack
          have last := congrArg List.getLast? (List.append_cancel_right stack)
          simpa using last

/-- A walk comes to everything that is there below a directory. -/
theorem Tree.visits_foldl (opens : v.Opens path) (looked : v.look path = .ok entry)
    (named : ∀ name ∈ names, Path.FileName name)
    (there : (v.get? (v.keyOf (names.foldl Path.join path))).isSome = true) :
    (∃ now, v.look (names.foldl Path.join path) = .ok now) ∧
      ∀ fuel, v.visitsFrom fuel (names.foldl Path.join path) ⊆
        v.visitsFrom (fuel + names.length) path := by
  -- From the path up: its directory lists it, and so is there as well.
  induction names using List.reverseRecOn with
  | nil => exact ⟨⟨entry, looked⟩, fun fuel => List.Subset.refl _⟩
  | append_singleton names name ih =>
      rw [List.forall_mem_append, List.forall_mem_singleton] at named
      obtain ⟨before, last⟩ := named
      rw [List.foldl_append, List.foldl_cons, List.foldl_nil] at there ⊢
      generalize reached : names.foldl Path.join path = folder at there ih ⊢
      rw [keyOf_join last] at there
      obtain ⟨member, found⟩ := Option.isSome_iff_exists.mp there
      obtain ⟨parent, above, inside⟩ := tree.listed last (Path.tidy_stackOf folder)
        (Path.join_name last folder ▸ found) List.not_mem_nil
      rw [← Path.join_name last] at inside
      have key : v.keyOf (Path.ofParts (Path.isRooted folder) (Path.stackOf folder).reverse) =
          v.keyOf folder := keyOf_clean v folder
      rw [key] at above
      obtain ⟨⟨now, onward⟩, later⟩ := ih before (by rw [above]; rfl)
      have same := look_eq_ok onward
      rw [above, Option.some.injEq] at same
      subst same
      have isDirectory := tree.directory above inside
      refine ⟨⟨member, look_join last onward isDirectory found⟩, fun fuel => ?_⟩
      have opened : v.refusals.openings.contains folder = false :=
        (reached ▸ opens.foldl before).opened onward isDirectory
      have listed : name ∈ Text.sorted (parent.members.map Path.base) := by
        rw [Text.mem_sorted, List.mem_map]
        refine ⟨_, inside, ?_⟩
        rw [Path.join_name last, Path.base_ofParts last (Path.tidy_stackOf folder)]
      rw [List.length_append, List.length_singleton, Nat.add_comm names.length, ← Nat.add_assoc]
      refine List.Subset.trans ?_ (later (fuel + 1))
      rw [visitsFrom_of_directory fuel onward isDirectory opened]
      exact fun visit met => List.mem_flatMap.mpr ⟨name, listed, met⟩

/-- The files that a walk meets are those that are below its directory. -/
theorem Tree.mem_filesBelow_iff (opens : v.Opens directory) (looked : v.look directory = .ok entry)
    (isDirectory : entry.isDirectory = true) (path : String) :
    path ∈ v.filesBelow directory ↔ v.FileBelow directory path := by
  constructor
  · intro listed
    obtain ⟨visit, met, same⟩ := List.mem_filterMap.mp listed
    cases visit with
    | failure cause => cases same
    | file found size =>
        cases same
        obtain ⟨now, there, kind⟩ := look_of_mem_visits met
        obtain ⟨names, named, spelled⟩ := below_of_met tree.toOrderly _ met
        refine ⟨⟨names, ?_, named, spelled⟩, now, there, kind⟩
        rintro rfl
        rw [spelled, List.foldl_nil, looked] at there
        cases there
        rw [isDirectory] at kind
        cases kind
  · rintro ⟨⟨names, _, named, rfl⟩, now, there, kind⟩
    have present : (v.get? (v.keyOf (names.foldl Path.join directory))).isSome = true := by
      rw [look_eq_ok there]
      rfl
    obtain ⟨_, subset⟩ := tree.visits_foldl opens looked named present
    have met := subset (v.room directory + 1 + 1)
      (by rw [visitsFrom_of_file _ there kind]; exact List.mem_singleton_self _)
    -- The fuel of the walk is as good as any that suffices.
    have room := v.room_le directory
    have keys := v.card_keys_le
    have same : v.visitsFrom (v.room directory + 1 + 1 + names.length) directory =
        v.visits directory := visitsFrom_of_room tree.toOrderly (by omega) (by omega)
    exact List.mem_filterMap.mpr ⟨_, same ▸ met, rfl⟩

theorem Tree.nodup_files (fuel : Nat) (spelled : v.Spelled path) (opens : v.Opens path) :
    ((v.visitsFrom fuel path).filterMap Visit.file?).Nodup := by
  induction fuel generalizing path with
  | zero => exact List.nodup_nil
  | succ fuel ih =>
      cases looked : v.look path with
      | error cause => simp [visitsFrom, looked, List.filterMap_cons, Visit.file?]
      | ok entry =>
          cases kind : entry.isDirectory with
          | false =>
              simp [visitsFrom_of_file fuel looked kind, Visit.file?]
          | true =>
              have there := look_eq_ok looked
              rw [visitsFrom_of_directory fuel looked kind (opens.opened looked kind),
                List.filterMap_flatMap, List.nodup_flatMap]
              refine ⟨fun name listed => ?_, ?_⟩
              · have named := tree.fileName there name listed
                exact ih (spelled_join tree.toOrderly named path) (opens.join named)
              · have distinct : (entry.members.map Path.base).Nodup :=
                  (tree.distinct there).map_on fun first inside second also same => by
                    rw [← spelled entry there first inside, same, spelled entry there second also]
                have apart := (Text.perm_sorted _).nodup_iff.mpr distinct
                refine apart.imp_of_mem ?_
                intro first second one two differ file here also
                obtain ⟨visit, met, same⟩ := List.mem_filterMap.mp here
                obtain ⟨other, again, alike⟩ := List.mem_filterMap.mp also
                exact differ (name_unique tree.toOrderly (tree.fileName there first one)
                  (tree.fileName there second two) fuel met again (same.trans alike.symm) same)

end Walks

section Discovering

variable {pattern : String}

/-- Where nothing else ends a scan, an ill-formed pattern does. -/
theorem scanFault?_of_breaks (free : ∀ cause, Visit.failure cause ∉ v.visits directory)
    (listed : path ∈ v.filesBelow directory) (broken : breaks directory pattern path = true) :
    v.scanFault? directory pattern = some .broken := by
  obtain ⟨visit, met, same⟩ := List.mem_filterMap.mp listed
  cases fault : v.scanFault? directory pattern with
  | none =>
      have formed := ((v.scanFault?_eq_none_iff directory pattern).mp fault).2
      cases visit with
      | failure cause => cases same
      | file found size =>
          cases same
          rw [formed path size met] at broken
          cases broken
  | some error =>
      obtain ⟨other, inside, faulty⟩ := List.exists_of_findSome?_eq_some fault
      cases other with
      | failure cause => exact absurd inside (free cause)
      | file found size =>
          rw [Visit.fault?] at faulty
          split at faulty <;> cases faulty
          rfl

/-- Right below a directory the default pattern selects by the ending of the name, and further below
nothing. -/
theorem selects_standard_foldl_iff (standard : effectivePattern pattern = defaultPattern)
    (filled : names ≠ []) (named : ∀ name ∈ names, Path.FileName name) :
    selects directory pattern (names.foldl Path.join directory) = true ↔
      ∃ name, names = [name] ∧ documentEnding.toList <:+ name.toList := by
  rw [selects_standard_iff standard (Path.relative?_foldl filled named directory)]
  constructor
  · rintro ⟨stem, spelled, apart⟩
    match names, filled with
    | [name], _ => exact ⟨name, rfl, stem, spelled.symm⟩
    | first :: second :: rest, _ =>
        have inside := Path.separator_mem_join first second rest
        rw [spelled, List.mem_append] at inside
        exact absurd (inside.resolve_left apart) (by decide)
  · rintro ⟨name, rfl, stem, spelled⟩
    refine ⟨stem, spelled.symm, fun inside => ?_⟩
    have segment := (named name List.mem_cons_self).1.2
    rw [← spelled] at segment
    exact segment (List.mem_append_left _ inside)

theorem standard_fileBelow_iff (standard : effectivePattern pattern = defaultPattern) :
    v.FileBelow directory path ∧ selects directory pattern path = true ↔
      ∃ name, Path.FileName name ∧ documentEnding.toList <:+ name.toList ∧
        path = Path.join directory name ∧
        ∃ file, v.look path = .ok file ∧ file.isDirectory = false := by
  constructor
  · rintro ⟨⟨⟨names, filled, named, rfl⟩, file, held⟩, chosen⟩
    obtain ⟨name, rfl, ending⟩ := (selects_standard_foldl_iff standard filled named).mp chosen
    exact ⟨name, named name List.mem_cons_self, ending, rfl, file, held⟩
  · rintro ⟨name, named, ending, rfl, file, held⟩
    refine ⟨⟨Path.below_join named directory, file, held⟩, ?_⟩
    have single : ∀ other ∈ [name], Path.FileName other := by simpa using named
    exact (selects_standard_foldl_iff standard (List.cons_ne_nil _ _) single).mpr
      ⟨name, rfl, ending⟩

/-- On a tree whose directories may be opened discovery fails if the pattern turns out to be ill formed
at a file below the directory. Else it returns, in strictly increasing order, the files below the
directory that the pattern selects. With the default pattern it always does, and these are the files
right below the directory whose names end like those of documents. -/
theorem discover_on_tree (v : Volume) (tree : v.Tree []) (directory pattern : String)
    (entry : FileEntry) (there : v.look directory = .ok entry) (isDirectory : entry.isDirectory = true)
    (valid : Glob.valid (effectivePattern pattern) = true)
    (root : v.medium = .memory → v.keyOf directory = "/" → v.Spelled directory)
    (opens : v.Opens directory) :
    ((∃ path, v.FileBelow directory path ∧ breaks directory pattern path = true) →
      discover v directory pattern = .error .broken) ∧
    ((∀ path, v.FileBelow directory path → breaks directory pattern path = false) →
      ∃ files, discover v directory pattern = .ok files ∧ files.Pairwise (· < ·) ∧
        ∀ path, path ∈ files ↔ v.FileBelow directory path ∧ selects directory pattern path = true) ∧
    (effectivePattern pattern = defaultPattern →
      ∃ files, discover v directory pattern = .ok files ∧ files.Pairwise (· < ·) ∧
        ∀ path, path ∈ files ↔ ∃ name, Path.FileName name ∧
          documentEnding.toList <:+ name.toList ∧ path = Path.join directory name ∧
          ∃ file, v.look path = .ok file ∧ file.isDirectory = false) := by
  have spelled := spelled_of_root tree.toOrderly root
  have free := tree.free_visits (v.entries.length + 2) spelled opens there
  have listed := tree.mem_filesBelow_iff opens there isDirectory
  have found (formed : ∀ path, v.FileBelow directory path → breaks directory pattern path = false) :
      discover v directory pattern = .ok (v.selected directory pattern) := by
    refine discover_eq_ok_iff.mpr ⟨valid, ⟨entry, there, isDirectory⟩, ?_, rfl⟩
    refine (v.scanFault?_eq_none_iff directory pattern).mpr ⟨free, fun path size met => ?_⟩
    exact formed path ((listed path).mp (List.mem_filterMap.mpr ⟨_, met, rfl⟩))
  have increasing : (v.selected directory pattern).Pairwise (· < ·) :=
    Text.pairwise_lt_sorted ((tree.nodup_files _ spelled opens).filter _)
  refine ⟨?_, fun formed => ⟨_, found formed, increasing, fun path => ?_⟩, fun standard => ?_⟩
  · rintro ⟨path, below, broken⟩
    have fault := scanFault?_of_breaks free ((listed path).mpr below) broken
    simp [discover, valid, there, isDirectory, fault]
  · rw [mem_selected, listed]
  · refine ⟨_, found fun path _ => breaks_standard standard directory path, increasing, fun path => ?_⟩
    rw [mem_selected, listed, standard_fileBelow_iff standard]

/-- Files without contents, each by its directory and its name. -/
def touched (v : Volume) (files : List (String × String)) : Volume :=
  files.foldl (fun v file => v.putFile (Path.join file.1 file.2) []) v

theorem Tree.touched {v : Volume} (tree : v.Tree []) (files : List (String × String))
    (placed : ∀ file ∈ files, Path.FileName file.2 ∧ v.Begins file.1) :
    (v.touched files).Tree [] := by
  induction files generalizing v with
  | nil => exact tree
  | cons file rest ih =>
      rw [List.forall_mem_cons] at placed
      obtain ⟨⟨named, begins⟩, later⟩ := placed
      refine ih (tree.putFile begins named []) fun other member => ?_
      exact ⟨(later other member).1, (extends_putFile v _ []).begins (later other member).2⟩

theorem fileBelow_join {name : String} (named : Path.FileName name)
    (spelled : path = Path.join directory name)
    (file : (v.look path).map (·.isDirectory) = .ok false) : v.FileBelow directory path :=
  ⟨spelled ▸ Path.below_join named directory, (Outcome.map_eq_ok_iff _ _ _).mp file⟩

/-- Two documents in a directory, and one further below. -/
def nested : Volume :=
  (empty .memory).touched
    [("in", "a-mapper.xml"), ("in", "b-mapper.xml"), ("in/sub", "c-mapper.xml")]

theorem aMapper : Path.FileName "a-mapper.xml" := by
  decide

theorem bMapper : Path.FileName "b-mapper.xml" := by
  decide

theorem nested_tree : nested.Tree [] :=
  (tree_empty .memory).touched _ (by decide)

theorem nested_eq : nested =
    ⟨.memory, [("/", ⟨true, [], ["in"]⟩), ("in/a-mapper.xml", ⟨false, [], []⟩),
      ("in", ⟨true, [], ["in/a-mapper.xml", "in/b-mapper.xml", "in/sub"]⟩),
      ("in/b-mapper.xml", ⟨false, [], []⟩), ("in/sub/c-mapper.xml", ⟨false, [], []⟩),
      ("in/sub", ⟨true, [], ["in/sub/c-mapper.xml"]⟩)], {}⟩ := by
  decide +kernel

theorem nested_directory : (nested.look "in").map (·.isDirectory) = .ok true := by
  rw [nested_eq]
  decide +kernel

theorem nested_file : (nested.look "in/a-mapper.xml").map (·.isDirectory) = .ok false := by
  rw [nested_eq]
  decide +kernel

/-- A file that may not be opened. -/
def withheld : Volume :=
  { nested with refusals := { openings := ["in/a-mapper.xml"] } }

theorem withheld_file : (withheld.look "in/a-mapper.xml").map (·.isDirectory) = .ok false := by
  rw [withheld, look_refusing]
  exact nested_file

theorem withheld_opens : withheld.Opens "in" := by
  rintro path entry _ looked isDirectory refused
  obtain rfl : path = "in/a-mapper.xml" := List.mem_singleton.mp refused
  have file := withheld_file
  rw [looked] at file
  cases isDirectory.symm.trans (Except.ok.inj file)

theorem withheld_discovered :
    withheld.Tree [] ∧ (withheld.look "in").map (·.isDirectory) = .ok true ∧
      Glob.valid (effectivePattern "**/c*") = true ∧ withheld.keyOf "in" ≠ "/" ∧
      withheld.Opens "in" ∧ discover withheld "in" "**/c*" = .ok ["in/sub/c-mapper.xml"] ∧
      (∀ path, path ∈ ["in/sub/c-mapper.xml"] ↔
        withheld.FileBelow "in" path ∧ selects "in" "**/c*" path = true) ∧
      ∃ files, discover withheld "in" "" = .ok files ∧ "in/a-mapper.xml" ∈ files := by
  have tree : withheld.Tree [] := nested_tree.refusing _
  have directory : (withheld.look "in").map (·.isDirectory) = .ok true := by
    rw [withheld, look_refusing]
    exact nested_directory
  have below : withheld.keyOf "in" ≠ "/" := by
    rw [withheld, nested_eq]
    decide +kernel
  have found : discover withheld "in" "**/c*" = .ok ["in/sub/c-mapper.xml"] := by
    rw [withheld, nested_eq]
    decide +kernel
  obtain ⟨entry, there, isDirectory⟩ := (Outcome.map_eq_ok_iff _ _ _).mp directory
  have claimed (pattern : String) (valid : Glob.valid (effectivePattern pattern) = true) :=
    discover_on_tree withheld tree "in" pattern entry there isDirectory valid
      (fun _ root => absurd root below) withheld_opens
  obtain ⟨broken, chosen, _⟩ := claimed "**/c*" (by decide)
  have formed : ∀ path, withheld.FileBelow "in" path → breaks "in" "**/c*" path = false := by
    intro path inside
    rw [Bool.eq_false_iff]
    intro breaking
    have failed := broken ⟨path, inside, breaking⟩
    rw [found] at failed
    cases failed
  obtain ⟨files, same, _, exactly⟩ := chosen formed
  cases found.symm.trans same
  obtain ⟨others, standard, _, right⟩ := (claimed "" (by decide)).2.2 rfl
  have document := (Outcome.map_eq_ok_iff _ _ _).mp withheld_file
  exact ⟨tree, directory, by decide, below, withheld_opens, found, exactly, others, standard,
    (right _).mpr ⟨"a-mapper.xml", aMapper, by decide, by decide, document⟩⟩

/-- A file of a tree that a valid pattern selects, while discovery fails. -/
structure Misses (v : Volume) (directory pattern path : String) (error : DiscoveryError) : Prop where
  tree : v.Tree []
  existing : (v.look directory).map (·.isDirectory) = .ok true
  valid : Glob.valid (effectivePattern pattern) = true
  below : v.FileBelow directory path
  selected : selects directory pattern path = true
  failed : discover v directory pattern = .error error

/-- A volume on which the root has two spellings. -/
def crossed : Volume :=
  (empty .memory).touched [(".", "a-mapper.xml"), ("/abs", "b-mapper.xml")]

/-- A directory that may not be opened. -/
def barred : Volume :=
  { nested with refusals := { openings := ["in/sub"] } }

/-- A negated class that ends at its first item leaves a brace to be closed. -/
theorem nested_missed : Misses nested "in" "[!a\x7b]-mapper.xml" "in/b-mapper.xml" .broken where
  tree := nested_tree
  existing := nested_directory
  valid := by decide +kernel
  below := fileBelow_join bMapper (by decide) (by rw [nested_eq]; decide +kernel)
  selected := by decide +kernel
  failed := by
    rw [nested_eq]
    decide +kernel

/-- In memory the root lists absolute paths as well, which are not found from the current directory. -/
theorem crossed_missed :
    Misses crossed "." "**" "a-mapper.xml" (.unscanned (.unknown "open" "abs")) where
  tree := (tree_empty .memory).touched _ (by decide)
  existing := by decide +kernel
  valid := by decide +kernel
  below := fileBelow_join aMapper (by decide) (by decide +kernel)
  selected := by decide +kernel
  failed := by decide +kernel

/-- One directory that may not be opened hides the files of all others. -/
theorem barred_missed : Misses barred "in" "" "in/a-mapper.xml" (.unscanned .refused) where
  tree := nested_tree.refusing _
  existing := by
    rw [barred, look_refusing]
    exact nested_directory
  valid := by decide +kernel
  below := fileBelow_join aMapper (by decide) (by rw [barred, look_refusing]; exact nested_file)
  selected := by decide +kernel
  failed := by
    rw [barred, nested_eq]
    decide +kernel

/-- Discovery misses files that a valid pattern selects. -/
theorem trees_missed :
    Misses nested "in" "[!a\x7b]-mapper.xml" "in/b-mapper.xml" .broken ∧
      Misses crossed "." "**" "a-mapper.xml" (.unscanned (.unknown "open" "abs")) ∧
      Misses barred "in" "" "in/a-mapper.xml" (.unscanned .refused) :=
  ⟨nested_missed, crossed_missed, barred_missed⟩

end Discovering

end Volume

end SqlMapper
