import SqlMapper.Proofs.Files.Creation
import SqlMapper.Proofs.Settings.Precedence
import SqlMapper.Proofs.Yaml.Documents
import SqlMapper.Settings.Saving

/-!
What is loaded after settings were saved. The writer and the reader list the settings separately: of
those that the reader knows, the writer leaves out the password, which is secret, and also the number
of jobs and the required version. These come back as their defaults, and all others as they were.
-/

namespace SqlMapper

namespace SettingSources

variable {s : SettingSources} {key : SettingKey}

/-- Without flags and variables the file counts, and then the default. -/
theorem value_of_file (flags : s.flags = []) (unset : ∀ name, s.setVariable?
    (SettingKey.variableOf name) = none) :
    s.value key = (s.fileValue? key).getD (.scalar (key.default s.processors)) := by
  have noFlag : s.flagValue? key = none := by simp [flagValue?, flags]
  have noVariable : s.variableValue? key = none := by
    rw [variableValue?, SettingKey.variableName, unset]
    split <;> rfl
  have noGroup : s.groupReplaced = false := by rw [groupReplaced, unset, Option.isSome_none]
  rw [value, candidates, noFlag, noVariable, noGroup]
  cases s.fileValue? key <;> simp

end SettingSources

namespace Surroundings

/-- Surroundings in which a settings file with some contents is the only source of settings. -/
structure OnlyFile (w : Surroundings) (contents : List UInt8) : Prop where
  file : ∃ path, w.settingsFile? = some path ∧ w.volume.read path = .ok contents
  shared : ∀ entry, w.volume.look ".env" ≠ .ok entry
  own : ∀ entry, w.volume.look ".env.local" ≠ .ok entry
  unset : ∀ name, w.environment.lookup ("YOBATIS_" ++ name) = none
  /-- The number of processors fits into 64 bits. -/
  countable : (w.processors : Int) ≤ Int64.maxValue.toInt

variable {w : Surroundings} {contents : List UInt8}

theorem variablesIn?_of_absent {path : String} (absent : ∀ entry, w.volume.look path ≠ .ok entry) :
    w.variablesIn? path = none := by
  cases looked : w.volume.look path with
  | error cause => simp [variablesIn?, looked, Except.toOption]
  | ok entry => exact absurd looked (absent entry)

theorem OnlyFile.setVariable? (only : w.OnlyFile contents) (file : Yaml.Tree) (name : String) :
    (w.sources [] file).setVariable? (SettingKey.variableOf name) = none := by
  have nowhere : ∀ place, w.definition? (SettingKey.variableOf name) place = none := by
    intro place
    cases place with
    | process => exact only.unset _
    | localFile => simp [definition?, entry?, variablesIn?_of_absent only.own]
    | sharedFile => simp [definition?, entry?, variablesIn?_of_absent only.shared]
  rw [setVariable?_sources, inForce?, List.findSome?_eq_none_iff.mpr fun place _ => nowhere place]
  rfl

end Surroundings

namespace Settings

/-- The reader gives back the scalars that the writer wrote. -/
def ReadsBack (s : Settings) : Prop :=
  Yaml.read (Text.encode s.savedText) = some (Yaml.treeOf s.savedItems)

/-- Settings whose texts have no line breaks. -/
structure OnLines (s : Settings) : Prop where
  host : Yaml.OnOneLine s.host.toList
  user : Yaml.OnOneLine s.user.toList
  database : Yaml.OnOneLine s.database.toList
  input : Yaml.OnOneLine s.input.toList
  output : Yaml.OnOneLine s.output.toList
  pattern : Yaml.OnOneLine s.pattern.toList

/-- What is left of settings that were saved: what is not saved has its default again. -/
def kept (s : Settings) (processors : Nat) : Settings :=
  { s with password := "", jobs := processors, requiredVersion := "" }

variable {s : Settings}

theorem breaches_kept (valid : s.breaches = []) (processors : Nat) :
    (s.kept processors).breaches = [] := by
  simp only [breaches, List.append_eq_nil_iff] at valid
  obtain ⟨⟨⟨⟨⟨⟨host, port⟩, input⟩, output⟩, pattern⟩, _⟩, _⟩ := valid
  have jobs : checkJobs processors = [] := by simp [checkJobs]
  have version : checkVersion "" = [] := rfl
  simp only [kept, breaches, host, port, input, output, pattern, jobs, version, List.append_nil]

/-- Nothing is lost exactly if what is not saved has its default anyway. -/
theorem kept_eq_iff (s : Settings) (processors : Nat) :
    { s.kept processors with password := s.password } = s ↔
      s.jobs = processors ∧ s.requiredVersion = "" := by
  constructor
  · intro same
    have jobs := congrArg Settings.jobs same
    have version := congrArg Settings.requiredVersion same
    exact ⟨jobs.symm, version.symm⟩
  · rintro ⟨jobs, version⟩
    rw [kept, ← jobs, ← version]

theorem port_of_valid (valid : s.breaches = []) : 1 ≤ s.port ∧ s.port ≤ 65535 := by
  simp only [breaches, List.append_eq_nil_iff] at valid
  have port := valid.1.1.1.1.1.2
  unfold checkPort at port
  split at port
  · cases port
  · split at port
    · cases port
    · omega

theorem isName_lastName (key : SettingKey) : Yaml.IsName key.lastName := by
  cases key <;>
    exact ⟨⟨List.all_eq_true.mp (by decide), ⟨_, _, rfl, by decide⟩, by decide⟩, by decide +kernel⟩

theorem isName_group : Yaml.IsName SettingKey.group :=
  ⟨⟨List.all_eq_true.mp (by decide), ⟨_, _, rfl, by decide⟩, by decide⟩, by decide +kernel⟩

/-- Whatever the texts hold, they are read back unless they have line breaks. -/
theorem readsBack_of_lines (valid : s.breaches = []) (lines : s.OnLines) : s.ReadsBack := by
  have entry : ∀ (key : SettingKey) (scalar : Yaml.Plain), scalar.IsLine →
      Yaml.IsEntry (key.lastName, scalar) := fun key scalar line => ⟨isName_lastName key, line⟩
  have port : (Yaml.Plain.int s.port).IsLine := by
    obtain ⟨least, most⟩ := port_of_valid valid
    have weight : (Binary64.signWeight : Int) = 9223372036854775808 := rfl
    constructor <;> omega
  apply Yaml.read_write
  · simp [savedItems]
  · simp only [savedItems, List.forall_mem_cons]
    refine ⟨entry .input _ lines.input, entry .pattern _ lines.pattern, ⟨isName_group, ?_, ?_, ?_⟩,
      entry .output _ lines.output, List.forall_mem_nil _⟩
    · simp
    · simp only [List.forall_mem_cons]
      exact ⟨entry .database _ lines.database, entry .host _ lines.host, entry .port _ port,
        entry .user _ lines.user, List.forall_mem_nil _⟩
    · simp only [List.map_cons, List.map_nil]
      decide
  · simp only [savedItems, List.map_cons, List.map_nil, Yaml.Item.key]
    decide

/-- The names of settings are in lower case. -/
theorem lowerKeys_saved (s : Settings) :
    lowerKeys (Yaml.treeOf s.savedItems) = Yaml.treeOf s.savedItems := by
  have lower : ∀ key : SettingKey, Text.lower key.lastName = key.lastName := by
    intro key
    cases key <;> decide +kernel
  have group : Text.lower SettingKey.group = SettingKey.group := by decide +kernel
  simp [Yaml.treeOf, savedItems, Yaml.Item.key, Yaml.Item.tree, lowerKeys, lowerEntries, SettingKey.name,
    SettingKey.isGrouped, lower, group]

/-- The scalar that is saved for a setting. -/
def saved? (s : Settings) : SettingKey → Option Yaml.Plain
  | .host => some (.text s.host)
  | .port => some (.int s.port)
  | .user => some (.text s.user)
  | .database => some (.text s.database)
  | .input => some (.text s.input)
  | .output => some (.text s.output)
  | .pattern => some (.text s.pattern)
  | .password | .jobs | .requiredVersion => none

/-- The reader finds what the writer put under the name of a setting. -/
theorem fileValue?_saved {sources : SettingSources}
    (file : sources.file = Yaml.treeOf s.savedItems) (key : SettingKey) :
    sources.fileValue? key = (s.saved? key).map fun scalar => .scalar scalar.scalar := by
  cases key <;>
    simp [SettingSources.fileValue?, SettingSources.present?, file, Yaml.treeOf, savedItems,
      Yaml.Item.key, Yaml.Item.tree, lookup_cons_ite, SettingKey.name, SettingKey.isGrouped, SettingKey.lastName, SettingKey.group,
      Yaml.Tree.isNull, Yaml.Plain.scalar, saved?]

/-- Every setting is what its saved scalar decodes to, or its default. -/
theorem holds_kept (valid : s.breaches = []) {processors : Nat}
    (countable : (processors : Int) ≤ Int64.maxValue.toInt) (key : SettingKey) : (s.kept processors).Holds key
      (((s.saved? key).map fun scalar => .scalar scalar.scalar).getD
        (.scalar (key.default processors))) := by
  obtain ⟨least, most⟩ := port_of_valid valid
  have port : (Int64.ofInt s.port).toInt = s.port :=
    Int64.toInt_ofInt_of_le (by omega) (by omega)
  have jobs : (Int64.ofInt processors).toInt = processors := by
    rw [Int64.toInt_maxValue] at countable
    exact Int64.toInt_ofInt_of_le (by omega) (by omega)
  cases key with
  | port => exact congrArg some port
  | jobs => exact congrArg some jobs
  | _ => rfl

/-- The file alone gives what was saved. -/
theorem settings_of_saved (valid : s.breaches = []) {sources : SettingSources}
    (file : sources.file = Yaml.treeOf s.savedItems) (flags : sources.flags = [])
    (unset : ∀ name, sources.setVariable? (SettingKey.variableOf name) = none)
    (countable : (sources.processors : Int) ≤ Int64.maxValue.toInt) :
    sources.settings = .ok (s.kept sources.processors) := by
  rw [SettingSources.settings_eq_ok_iff]
  constructor
  · simp [SettingSources.groupMisplaced, file, Yaml.treeOf, savedItems, Yaml.Item.key, Yaml.Item.tree,
      lookup_cons_ite, SettingKey.name, SettingKey.isGrouped, SettingKey.lastName, SettingKey.group]
  · intro key
    rw [SettingSources.value_of_file flags unset, fileValue?_saved file]
    exact holds_kept valid countable key

/-- What was saved is loaded, where no other source has a say. -/
theorem loadSettings_of_saved (valid : s.breaches = []) (reads : s.ReadsBack) {w : Surroundings}
    (only : w.OnlyFile (Text.encode s.savedText)) :
    (loadSettings w []).outcome = .ok (s.kept w.processors) := by
  obtain ⟨path, found, read⟩ := only.file
  have tree : settingsTree? (Text.encode s.savedText) = some (Yaml.treeOf s.savedItems) := by
    rw [← lowerKeys_saved, settingsTree?, reads]
    rfl
  rw [Surroundings.loadSettings_eq_ok_iff]
  refine ⟨Yaml.treeOf s.savedItems, ?_, ?_, breaches_kept valid w.processors⟩
  · rw [Surroundings.readSettingsFile_eq_ok_iff]
    exact .inr ⟨path, _, found, read, tree⟩
  · exact settings_of_saved valid rfl rfl (only.setVariable? _) only.countable

def savedPath (directory : String) : String :=
  Path.join directory (Surroundings.fileStem ++ ".yaml")

theorem fileName_saved : Path.FileName (Surroundings.fileStem ++ ".yaml") := by
  decide

/-- A directory that can be made, where the settings file can be written and read. -/
structure Takes (v made : Volume) (directory : String) : Prop where
  begins : v.Begins directory
  making : v.makeDirectory directory = .ok made
  /-- No directory is in the place of the file. -/
  free : made.medium = .disk → made.isDirectory (savedPath directory) = false
  writable : savedPath directory ∉ made.refusals.writes
  readable : savedPath directory ∉ made.refusals.openings

/-- Saving puts the text into the file. -/
theorem save_of_takes (s : Settings) {v made : Volume} {directory : String}
    (takes : Takes v made directory) :
    ∃ next, s.save v directory = (.ok (savedPath directory), next) ∧
      next.read (savedPath directory) = .ok (Text.encode s.savedText) := by
  have located : made.locate "open" (savedPath directory) = .ok (savedPath directory) :=
    Volume.locate_of_makeDirectory fileName_saved takes.begins takes.making "open"
  have free : (made.medium = .disk && made.isDirectory (savedPath directory)) = false := by
    by_cases disk : made.medium = .disk
    · simp [disk, takes.free disk]
    · simp [disk]
  have wrote : made.write (savedPath directory) (Text.encode s.savedText) =
      .ok (made.putFile (savedPath directory) (Text.encode s.savedText)) := by
    simp [Volume.write, takes.writable, located, Except.bind, free]
  obtain ⟨extended, stored⟩ := Volume.stores_of_write fileName_saved wrote
  refine ⟨made.putFile (savedPath directory) (Text.encode s.savedText), ?_, stored.read ?_⟩
  · have told : Path.join directory (Surroundings.fileStem ++ ".yaml") = savedPath directory := rfl
    simp [save, takes.making, told, wrote]
  · rw [extended.refusals]
    simpa [savedPath] using takes.readable

/-- The file does not depend on the password. -/
theorem save_password (s : Settings) (password : String) (v : Volume) (directory : String) :
    { s with password }.save v directory = s.save v directory :=
  rfl

/-- Settings that are in order are saved into every directory that takes the file, and loaded from it
where it is the only source. All that was saved comes back. The password does not, and is not in the
file; and neither do the number of jobs and the required version. So every setting but the password
comes back exactly if the number of jobs is that of the processors and no version is required. -/
theorem loadSettings_of_save (valid : s.breaches = []) (reads : s.ReadsBack) {v made : Volume}
    {directory : String} (takes : Takes v made directory) :
    ∃ next, s.save v directory = (.ok (savedPath directory), next) ∧
      next.read (savedPath directory) = .ok (Text.encode s.savedText) ∧
      (∀ password, { s with password }.save v directory = s.save v directory) ∧
      ∀ (w : Surroundings) (contents : List UInt8),
        next.read (savedPath directory) = .ok contents → w.OnlyFile contents →
          (loadSettings w []).outcome = .ok (s.kept w.processors) ∧
            ({ s.kept w.processors with password := s.password } = s ↔
              s.jobs = w.processors ∧ s.requiredVersion = "") := by
  obtain ⟨next, saved, stored⟩ := s.save_of_takes takes
  refine ⟨next, saved, stored, fun password => s.save_password password v directory, ?_⟩
  intro w contents read only
  rw [stored, Except.ok.injEq] at read
  subst read
  constructor
  · exact loadSettings_of_saved valid reads only
  · exact s.kept_eq_iff w.processors

/-- Settings with values of their own for all names. -/
def busy : Settings where
  host := "db"
  port := 3307
  user := "app"
  password := "secret"
  database := "shop"
  input := "mappers"
  output := "gen"
  pattern := "*-mapper.xml"
  jobs := 3
  requiredVersion := ">= 0.1.0"

/-- A directory in which nothing but `busy` was saved. -/
def saving : Surroundings where
  volume := (busy.save (Volume.empty .disk) ".").2
  directory := "/work"
  home := "/home"
  environment := []
  processors := 1

theorem readsBack_busy : busy.ReadsBack := by
  apply readsBack_of_lines
  · decide +kernel
  · constructor <;> exact Yaml.onOneLine_of_any (by decide)

theorem onlyFile_saving : saving.OnlyFile (Text.encode busy.savedText) where
  file := ⟨".yobatis.yaml", by decide +kernel, by decide +kernel⟩
  shared := by
    have absent : (saving.volume.look ".env").toOption = none := by decide +kernel
    intro entry looked
    simp [looked, Except.toOption] at absent
  own := by
    have absent : (saving.volume.look ".env.local").toOption = none := by decide +kernel
    intro entry looked
    simp [looked, Except.toOption] at absent
  unset _ := rfl
  countable := by decide

theorem takes_saving : Takes (Volume.empty .disk) (Volume.empty .disk) "." where
  begins := by decide +kernel
  making := by decide +kernel
  free := by decide +kernel
  writable := by decide +kernel
  readable := by decide +kernel

theorem busy_loaded :
    busy.breaches = [] ∧ busy.ReadsBack ∧ Takes (Volume.empty .disk) (Volume.empty .disk) "." ∧
      saving.OnlyFile (Text.encode busy.savedText) ∧
      (loadSettings saving []).outcome = .ok (busy.kept 1) := by
  have valid : busy.breaches = [] := by decide +kernel
  obtain ⟨next, _, read, _, loaded⟩ := loadSettings_of_save valid readsBack_busy takes_saving
  exact ⟨valid, readsBack_busy, takes_saving, onlyFile_saving,
    (loaded saving _ read onlyFile_saving).1⟩

/-- The number of jobs and the required version are lost. -/
theorem busy_not_kept :
    busy.breaches = [] ∧ saving.OnlyFile (Text.encode busy.savedText) ∧
      ∃ loaded, (loadSettings saving []).outcome = .ok loaded ∧
        loaded.jobs ≠ busy.jobs ∧ loaded.requiredVersion ≠ busy.requiredVersion := by
  have valid : busy.breaches = [] := by decide +kernel
  have loaded := loadSettings_of_saved valid readsBack_busy onlyFile_saving
  exact ⟨valid, onlyFile_saving, _, loaded, by decide, by decide⟩

end Settings

end SqlMapper
