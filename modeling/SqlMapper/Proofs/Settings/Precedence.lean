import SqlMapper.Proofs.Outcome
import SqlMapper.Proofs.Settings.Variables
import SqlMapper.Settings.Loading

/-!
Which source of a setting counts. Loading succeeds exactly if the settings file can be read, every
setting can be decoded from the value that counts for its key, and no rule is broken. The variables
of the environment are put together from three places before they are looked at: those of
`.env.local` replace those of the process, and those of `.env` are added where none is there. So the
order in which the sources count is not the documented one, in which the process comes first.
-/

namespace SqlMapper

/-- Where a variable can be defined. -/
inductive Place where
  | process
  | localFile
  | sharedFile
  deriving DecidableEq

/-- Where the value of a setting can come from. -/
inductive Origin where
  | flag
  | variableIn (place : Place)
  | settingsFile
  | default
  deriving DecidableEq

theorem findSome?_cons_or {α β : Type} (f : α → Option β) (first : α) (rest : List α) :
    (first :: rest).findSome? f = (f first).or (rest.findSome? f) := by
  rw [List.findSome?_cons]
  cases f first <;> rfl

namespace Origin

/-- The order that the documentation gives, what counts most first. -/
def documented : List Origin :=
  [flag, variableIn .process, variableIn .localFile, variableIn .sharedFile, settingsFile, default]

/-- The order in which the sources count when settings are loaded. -/
def loaded : List Origin :=
  [flag, variableIn .localFile, variableIn .process, variableIn .sharedFile, settingsFile, default]

end Origin

namespace Settings

/-- Whether a setting is what a value decodes to. -/
def Holds (s : Settings) (key : SettingKey) (value : Yaml.Tree) : Prop :=
  match key with
  | .host => asText value = some s.host
  | .port => asInteger value = some s.port
  | .user => asText value = some s.user
  | .password => asText value = some s.password
  | .database => asText value = some s.database
  | .input => asText value = some s.input
  | .output => asText value = some s.output
  | .pattern => asText value = some s.pattern
  | .jobs => asInteger value = some s.jobs
  | .requiredVersion => asText value = some s.requiredVersion

theorem validate_eq_ok_iff (s : Settings) : s.validate = .ok () ↔ s.breaches = [] := by
  unfold validate
  split
  · next whole => simp [whole]
  · next broken => simpa using broken

end Settings

namespace SettingSources

theorem text_eq_ok_iff (s : SettingSources) (key : SettingKey) (value : String) :
    s.text key = .ok value ↔ asText (s.value key) = some value := by
  unfold text
  split <;> simp_all

theorem integer_eq_ok_iff (s : SettingSources) (key : SettingKey) (value : Int) :
    s.integer key = .ok value ↔ asInteger (s.value key) = some value := by
  unfold integer
  split <;> simp_all

/-- Settings are what the values of their keys decode to. -/
theorem settings_eq_ok_iff (s : SettingSources) (settings : Settings) :
    s.settings = .ok settings ↔
      s.groupMisplaced = false ∧ ∀ key, settings.Holds key (s.value key) := by
  unfold SettingSources.settings
  cases s.groupMisplaced with
  | true => simp [bind, Except.bind, throw, throwThe, MonadExceptOf.throw]
  | false =>
      simp only [Bool.false_eq_true, if_false, bind, Outcome.bind_eq_ok_iff, text_eq_ok_iff,
        integer_eq_ok_iff, true_and]
      constructor
      · rintro ⟨host, hostHeld, port, portHeld, user, userHeld, password, passwordHeld, database,
          databaseHeld, input, inputHeld, output, outputHeld, pattern, patternHeld, jobs, jobsHeld,
          version, versionHeld, same⟩
        cases same
        intro key
        cases key <;> assumption
      · intro held
        exact ⟨_, held .host, _, held .port, _, held .user, _, held .password, _, held .database, _,
          held .input, _, held .output, _, held .pattern, _, held .jobs, _, held .requiredVersion,
          rfl⟩

end SettingSources

namespace Surroundings

variable (w : Surroundings) (flags : List (SettingKey × Option Yaml.Scalar)) (file : Yaml.Tree)

/-- The entries of a file of variables, if it is there and can be read. -/
def variablesIn? (path : String) : Option (List (String × String)) := do
  let _ ← (w.volume.look path).toOption
  let contents ← (w.volume.read path).toOption
  (Variables.read (Text.decode contents)).toOption

def entry? (path name : String) : Option String :=
  (w.variablesIn? path).bind fun entries => Variables.lastValue? entries name

def definition? (name : String) : Place → Option String
  | .process => w.environment.lookup name
  | .localFile => w.entry? ".env.local" name
  | .sharedFile => w.entry? ".env" name

/-- What a place offers as the value of a variable; an empty text is no value. -/
def offered? (name : String) (place : Place) : Option String :=
  (w.definition? name place).filter fun value => value != ""

/-- The environment with a file of variables. -/
def withVariables (path : String)
    (add : List (String × String) → List (String × String) → List (String × String))
    (environment : List (String × String)) : List (String × String) :=
  match w.variablesIn? path with
  | some more => add environment more
  | none => environment

def loadedEnvironment : List (String × String) :=
  w.withVariables ".env.local" Variables.replaceAll
    (w.withVariables ".env" Variables.addAll w.environment)

/-- The sources of settings that are found around a program. -/
def sources : SettingSources where
  flags := flags
  environment := w.loadedEnvironment
  file := file
  processors := w.processors

/-- Without a settings file its tree is empty; otherwise it can be read and is a mapping. -/
theorem readSettingsFile_eq_ok_iff (tree : Yaml.Tree) :
    (readSettingsFile w).outcome = .ok tree ↔
      w.settingsFile? = none ∧ tree = .empty ∨
        ∃ path contents, w.settingsFile? = some path ∧ w.volume.read path = .ok contents ∧
          settingsTree? contents = some tree := by
  unfold readSettingsFile
  cases w.settingsFile? with
  | none => simp [Logged.pure, eq_comm]
  | some path =>
      cases opened : w.volume.read path with
      | error cause => simp [opened, Except.toOption, Logged.fail]
      | ok contents =>
          cases known : settingsTree? contents with
          | none => simp [opened, Except.toOption, known, Logged.fail]
          | some other =>
              simp [opened, Except.toOption, known, Logged.bind, Logged.write, Logged.pure]

theorem readVariables_outcome (path : String)
    (add : List (String × String) → List (String × String) → List (String × String))
    (environment : List (String × String)) :
    (readVariables w.volume path add environment).outcome =
      .ok (w.withVariables path add environment) := by
  unfold readVariables withVariables variablesIn?
  cases w.volume.look path with
  | error cause => rfl
  | ok entry =>
      cases w.volume.read path with
      | error cause => rfl
      | ok contents =>
          cases known : Variables.read (Text.decode contents) with
          | error fault =>
              simp [known, Except.mapError, Except.toOption, Logged.bind, Logged.write, Logged.pure]
          | ok more => simp [known, Except.mapError, Except.toOption, Logged.pure]

theorem loadSettings_eq_ok_iff (settings : Settings) :
    (loadSettings w flags).outcome = .ok settings ↔
      ∃ file, (readSettingsFile w).outcome = .ok file ∧
        (w.sources flags file).settings = .ok settings ∧ settings.breaches = [] := by
  simp only [loadSettings, bind, Logged.bind_outcome_eq_ok_iff, readVariables_outcome,
    Except.ok.injEq]
  constructor
  · rintro ⟨file, opened, _, rfl, _, rfl, found, decoded, _, valid, same⟩
    cases same
    exact ⟨file, opened, decoded, (settings.validate_eq_ok_iff).mp valid⟩
  · rintro ⟨file, opened, decoded, whole⟩
    exact ⟨file, opened, _, rfl, _, rfl, settings, decoded, (),
      (settings.validate_eq_ok_iff).mpr whole, rfl⟩

theorem lookup_withVariables_addAll (path : String) (environment : List (String × String))
    (name : String) :
    (w.withVariables path Variables.addAll environment).lookup name =
      (environment.lookup name).or (w.entry? path name) := by
  unfold withVariables entry?
  cases w.variablesIn? path with
  | none => simp
  | some more => exact Variables.lookup_addAll environment more name

theorem lookup_withVariables_replaceAll (path : String) (environment : List (String × String))
    (name : String) :
    (w.withVariables path Variables.replaceAll environment).lookup name =
      (w.entry? path name).or (environment.lookup name) := by
  unfold withVariables entry?
  cases w.variablesIn? path with
  | none => simp
  | some more => exact Variables.lookup_replaceAll environment more name

/-- The places of a variable, in the order in which they count. -/
def places : List Place :=
  [.localFile, .process, .sharedFile]

theorem lookup_loadedEnvironment (name : String) :
    w.loadedEnvironment.lookup name = places.findSome? (w.definition? name) := by
  rw [loadedEnvironment, lookup_withVariables_replaceAll, lookup_withVariables_addAll]
  simp only [places, findSome?_cons_or, List.findSome?_nil, Option.or_none, definition?]

/-- The value of a variable when settings are looked up; an empty one counts as not set. -/
def inForce? (name : String) : Option String :=
  (places.findSome? (w.definition? name)).filter fun value => value != ""

theorem setVariable?_sources (name : String) :
    (w.sources flags file).setVariable? name = w.inForce? name := by
  unfold SettingSources.setVariable? inForce?
  rw [sources, lookup_loadedEnvironment]
  cases places.findSome? (w.definition? name) with
  | none => rfl
  | some value => by_cases empty : value = "" <;> simp [Option.filter, empty]

/-- A variable that no empty definition keeps from being looked at. -/
def Filled (name : String) : Prop :=
  places.Pairwise fun above below => w.definition? name above = some "" → w.offered? name below = none

/-- Where no empty definition stands before a value, the first value is that of the first
definition. -/
theorem filter_findSome? (name : String) {order : List Place}
    (filled : order.Pairwise fun above below =>
      w.definition? name above = some "" → w.offered? name below = none) :
    (order.findSome? (w.definition? name)).filter (fun value => value != "") =
      order.findSome? (w.offered? name) := by
  induction order with
  | nil => rfl
  | cons first rest ih =>
      obtain ⟨free, filled⟩ := List.pairwise_cons.mp filled
      rw [findSome?_cons_or, findSome?_cons_or]
      cases here : w.definition? name first with
      | none => simpa [offered?, here] using ih filled
      | some value =>
          by_cases empty : value = ""
          · subst value
            have later : rest.findSome? (w.offered? name) = none :=
              List.findSome?_eq_none_iff.mpr fun place member => free place member here
            simp [offered?, here, later]
          · have full : (value != "") = true := bne_iff_ne.mpr empty
            simp [offered?, here, Option.filter, full]

/-- What an origin offers as the value of a setting. -/
def offer? (key : SettingKey) : Origin → Option Yaml.Tree
  | .flag => (w.sources flags file).flagValue? key
  | .variableIn place => (w.offered? key.variableName place).map fun value => .scalar (.text value)
  | .settingsFile => (w.sources flags file).fileValue? key
  | .default => some (.scalar (key.default w.processors))

/-- A setting for which flags, variables, the settings file and the default are all looked at. -/
structure Ranked (key : SettingKey) : Prop where
  /-- A group without a value is in the file only if the setting has a flag. -/
  shown : key.isGrouped = true → (w.sources flags file).hidesVariables = true →
    (flags.lookup key).isSome
  /-- There is no variable for the group as a whole. -/
  alone : key.isGrouped = true → (w.sources flags file).groupReplaced = false

variable {w flags file}

theorem Ranked.variableValue? {key : SettingKey} (ranked : w.Ranked flags file key) :
    (w.sources flags file).variableValue? key =
      (w.inForce? key.variableName).map fun value => .scalar (.text value) := by
  have looked : (key.isGrouped && (w.sources flags file).hidesVariables &&
      (flags.lookup key).isNone) = false := by
    by_contra hidden
    simp only [Bool.not_eq_false, Bool.and_eq_true] at hidden
    have bound := ranked.shown hidden.1.1 hidden.1.2
    simp [Option.isNone_iff_eq_none.mp hidden.2] at bound
  rw [SettingSources.variableValue?, show (w.sources flags file).flags = flags from rfl, looked,
    setVariable?_sources]
  simp

/-- A flag comes before the variable, the settings file after it, and the default last. -/
theorem Ranked.value {key : SettingKey} (ranked : w.Ranked flags file key) :
    some ((w.sources flags file).value key) =
      (w.offer? flags file key .flag).or
        (((w.inForce? key.variableName).map fun value => .scalar (.text value)).or
          ((w.offer? flags file key .settingsFile).or (w.offer? flags file key .default))) := by
  have all : (key.isGrouped && (w.sources flags file).groupReplaced) = false := by
    by_contra replaced
    simp only [Bool.not_eq_false, Bool.and_eq_true] at replaced
    simp [ranked.alone replaced.1] at replaced
  rw [SettingSources.value, SettingSources.candidates, all, ranked.variableValue?]
  simp only [findSome?_cons_or, offer?, List.cons_append, List.nil_append, Bool.false_eq_true,
    if_false, List.findSome?_nil, Option.or_none, id, Option.or_some, Option.getD_some]
  rfl

/-- The sources of a setting count in the order of loading. -/
theorem Ranked.first {key : SettingKey} (ranked : w.Ranked flags file key)
    (filled : w.Filled key.variableName) :
    Origin.loaded.findSome? (w.offer? flags file key) =
      some ((w.sources flags file).value key) := by
  rw [ranked.value, inForce?, filter_findSome? w key.variableName filled]
  simp only [Origin.loaded, places, findSome?_cons_or, List.findSome?_nil, Option.or_none,
    Option.map_or, Option.or_assoc]
  rfl

variable (w flags file)

/-- The orders differ only where the process and `.env.local` both have a value, each its own, and no
flag comes before them. -/
theorem documented_eq_loaded_iff (key : SettingKey) :
    Origin.documented.findSome? (w.offer? flags file key) =
        Origin.loaded.findSome? (w.offer? flags file key) ↔
      (w.offer? flags file key .flag).isSome ∨ w.offered? key.variableName .process = none ∨
        w.offered? key.variableName .localFile = none ∨
        w.offered? key.variableName .process = w.offered? key.variableName .localFile := by
  simp only [Origin.documented, Origin.loaded, findSome?_cons_or]
  cases w.offer? flags file key .flag with
  | some value => simp
  | none =>
      simp only [offer?]
      cases w.offered? key.variableName .process with
      | none => simp
      | some first =>
          cases w.offered? key.variableName .localFile with
          | none => simp
          | some second => simp

/-- Loading succeeds exactly if the settings file can be read, every setting is what the value that
counts for its key decodes to, and no rule is broken. Definitions of a variable in `.env.local` come
before those of the process, and these before those of `.env`. So the value of a setting is that of
its first source in the order of loading, and of the documented order only if not both the process
and `.env.local` define its variable, each in its own way. -/
theorem loadSettings_by_origin :
    (∀ settings, (loadSettings w flags).outcome = .ok settings ↔
      ∃ file, (readSettingsFile w).outcome = .ok file ∧
        (w.sources flags file).groupMisplaced = false ∧
        (∀ key, settings.Holds key ((w.sources flags file).value key)) ∧ settings.breaches = []) ∧
    (∀ name, w.loadedEnvironment.lookup name = places.findSome? (w.definition? name)) ∧
    ∀ file key, w.Ranked flags file key →
      some ((w.sources flags file).value key) =
        (w.offer? flags file key .flag).or
          (((w.inForce? key.variableName).map fun value => .scalar (.text value)).or
            ((w.offer? flags file key .settingsFile).or (w.offer? flags file key .default))) ∧
      (w.Filled key.variableName →
        Origin.loaded.findSome? (w.offer? flags file key) =
          some ((w.sources flags file).value key) ∧
        (Origin.documented.findSome? (w.offer? flags file key) =
            some ((w.sources flags file).value key) ↔
          (w.offer? flags file key .flag).isSome ∨ w.offered? key.variableName .process = none ∨
            w.offered? key.variableName .localFile = none ∨
            w.offered? key.variableName .process = w.offered? key.variableName .localFile)) := by
  refine ⟨?_, w.lookup_loadedEnvironment, ?_⟩
  · intro settings
    simp only [loadSettings_eq_ok_iff, SettingSources.settings_eq_ok_iff, and_assoc]
  · intro file key ranked
    refine ⟨ranked.value, ?_⟩
    intro filled
    have first := ranked.first filled
    constructor
    · exact first
    · rw [← first]
      exact w.documented_eq_loaded_iff flags file key

/-- Surroundings with every kind of source but flags. -/
def layered : Surroundings where
  volume := (((Volume.empty .disk).putFile ".yobatis.yaml" (Text.encode "output: file\n")).putFile
    ".env" (Text.encode "YOBATIS_OUTPUT=shared\n")).putFile
    ".env.local" (Text.encode "YOBATIS_INPUT=local\n")
  directory := "/work"
  home := "/home"
  environment := [("YOBATIS_INPUT", "process")]
  processors := 1

/-- The settings file of `layered`. -/
def layeredFile : Yaml.Tree :=
  (settingsTree? (Text.encode "output: file\n")).getD .empty

theorem readSettingsFile_layered : (readSettingsFile layered).outcome = .ok layeredFile := by
  have found : layered.settingsFile? = some ".yobatis.yaml" := by decide +kernel
  have read : layered.volume.read ".yobatis.yaml" = .ok (Text.encode "output: file\n") := by
    decide +kernel
  have mapping : (settingsTree? (Text.encode "output: file\n")).isSome := by decide +kernel
  obtain ⟨tree, known⟩ := Option.isSome_iff_exists.mp mapping
  apply (layered.readSettingsFile_eq_ok_iff layeredFile).mpr
  exact .inr ⟨_, _, found, read, by simp [layeredFile, known]⟩

theorem layered_by_origin :
    (readSettingsFile layered).outcome = .ok layeredFile ∧
      layered.Ranked [] layeredFile .output ∧ layered.Filled SettingKey.output.variableName ∧
      Origin.documented.findSome? (layered.offer? [] layeredFile .output) =
        some ((layered.sources [] layeredFile).value .output) := by
  have ranked : layered.Ranked [] layeredFile .output := ⟨by decide +kernel, by decide +kernel⟩
  have filled : layered.Filled SettingKey.output.variableName := by
    unfold Filled
    decide +kernel
  have unset : layered.offered? SettingKey.output.variableName .process = none := by decide +kernel
  have values := ((loadSettings_by_origin layered []).2.2 layeredFile .output ranked).2 filled
  exact ⟨readSettingsFile_layered, ranked, filled, values.2.mpr (.inr (.inl unset))⟩

/-- The process defines the input of `layered`, but that of `.env.local` is loaded. -/
theorem layered_overruled :
    ∃ settings, (loadSettings layered []).outcome = .ok settings ∧
      (readSettingsFile layered).outcome = .ok layeredFile ∧
      Origin.documented.findSome? (layered.offer? [] layeredFile .input) =
        some (.scalar (.text "process")) ∧
      ¬ settings.Holds .input (.scalar (.text "process")) := by
  have loaded : (loadSettings layered []).outcome = .ok {
      host := "localhost", port := 3306, user := "", password := "", database := "",
      input := "local", output := "shared", pattern := defaultPattern, jobs := 1,
      requiredVersion := "" } := by decide +kernel
  have process : layered.offered? SettingKey.input.variableName .process = some "process" := by
    decide +kernel
  refine ⟨_, loaded, readSettingsFile_layered, ?_, ?_⟩
  · have flag : layered.offer? [] layeredFile .input .flag = none := rfl
    rw [Origin.documented, findSome?_cons_or, flag, Option.none_or, findSome?_cons_or, offer?,
      process]
    rfl
  · simp [Settings.Holds, asText]

end Surroundings

end SqlMapper
