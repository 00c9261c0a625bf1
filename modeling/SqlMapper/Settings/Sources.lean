import SqlMapper.Number.Shortest
import SqlMapper.Settings.Basic
import SqlMapper.Settings.Variables
import SqlMapper.Yaml.Tree

/-!
Where settings come from. Each has a key; a flag that was given counts first, then a variable of
the environment that is not empty, then the settings file, then the default. Values of another type
are converted where that makes sense.
-/
namespace SqlMapper

inductive SettingKey where
  | host | port | user | password | database
  | input | output | pattern | jobs | requiredVersion
  deriving DecidableEq

namespace SettingKey

def all : List SettingKey :=
  [host, port, user, password, database, input, output, pattern, jobs, requiredVersion]

/-- The group of the settings of a connection. -/
def group : String :=
  "mysql"

def lastName : SettingKey → String
  | host => "host"
  | port => "port"
  | user => "user"
  | password => "password"
  | database => "database"
  | input => "input"
  | output => "output"
  | pattern => "mapper_pattern"
  | jobs => "jobs"
  | requiredVersion => "required_version"

def isGrouped : SettingKey → Bool
  | host | port | user | password | database => true
  | _ => false

def name (key : SettingKey) : String :=
  if key.isGrouped then group ++ "." ++ key.lastName else key.lastName

def ofName? (name : String) : Option SettingKey :=
  all.find? fun key => key.name == name

def variableOf (name : String) : String :=
  "YOBATIS_" ++ String.ofList (name.toList.map fun c => if c == '.' then '_' else c.toUpper)

def variableName (key : SettingKey) : String :=
  variableOf key.name

/-- The default; as many jobs as there are processors. -/
def default (processors : Nat) : SettingKey → Yaml.Scalar
  | host => .text "localhost"
  | port => .int 3306
  | user | password | database | requiredVersion => .text ""
  | input | output => .text "."
  | pattern => .text defaultPattern
  | jobs => .int processors

end SettingKey

structure SettingSources where
  /-- The flags that are bound to keys; one that was given has a value. -/
  flags : List (SettingKey × Option Yaml.Scalar) := []
  environment : List (String × String) := []
  /-- The settings file, with keys in lower case. -/
  file : Yaml.Tree := .empty
  processors : Nat := 1

namespace SettingSources

/-- An entry of the file that is not null. -/
def present? (tree : Yaml.Tree) (name : String) : Option Yaml.Tree :=
  match tree.entries.lookup name with
  | some value => if value.isNull then none else some value
  | none => none

def flagValue? (s : SettingSources) (key : SettingKey) : Option Yaml.Tree :=
  match s.flags.lookup key with
  | some (some value) => some (.scalar value)
  | _ => none

/-- A group that stands in the file without a value keeps its variables from being looked at. -/
def hidesVariables (s : SettingSources) : Bool :=
  match s.file.entries.lookup SettingKey.group with
  | some value => value.isNull
  | none => false

/-- The value of a variable that is set; an empty one counts as not set. -/
def setVariable? (s : SettingSources) (name : String) : Option String :=
  match s.environment.lookup name with
  | some value => if value == "" then none else some value
  | none => none

def variableValue? (s : SettingSources) (key : SettingKey) : Option Yaml.Tree :=
  if key.isGrouped && s.hidesVariables && (s.flags.lookup key).isNone then none
  else (s.setVariable? key.variableName).map fun value => .scalar (.text value)

/-- A variable for the group as a whole hides the file and the defaults of its settings. -/
def groupReplaced (s : SettingSources) : Bool :=
  (s.setVariable? (SettingKey.variableOf SettingKey.group)).isSome

/-- The value in the file: under the whole name, or in the group. -/
def fileValue? (s : SettingSources) (key : SettingKey) : Option Yaml.Tree :=
  match present? s.file key.name with
  | some value => some value
  | none =>
      if key.isGrouped then
        (present? s.file SettingKey.group).bind fun group => present? group key.lastName
      else none

/-- The sources of a setting, the one that counts most first. -/
def candidates (s : SettingSources) (key : SettingKey) : List (Option Yaml.Tree) :=
  [s.flagValue? key, s.variableValue? key] ++
    if key.isGrouped && s.groupReplaced then []
    else [s.fileValue? key, some (.scalar (key.default s.processors))]

/-- The value of a setting: that of the first source that has one. -/
def value (s : SettingSources) (key : SettingKey) : Yaml.Tree :=
  ((s.candidates key).findSome? id).getD .empty

/-- Whether something else than a mapping is in the place of the group. -/
def groupMisplaced (s : SettingSources) : Bool :=
  match s.file.entries.lookup SettingKey.group with
  | some (.mapping _) | none => false
  | some value => !value.isNull || s.groupReplaced

end SettingSources

/-- The integer part of a number that fits into 64 bits, else the least integer. -/
def truncated (x : Binary64) : Int :=
  let magnitude : Nat := (x.significand <<< x.scale) >>> 1074
  if x.isNaN || x.isInfinite || Binary64.signWeight ≤ magnitude then Int64.minValue.toInt
  else if x.negative then -(magnitude : Int) else magnitude

/-- Floating point numbers are always written out as settings. -/
def settingLayout : Shortest.Layout :=
  ⟨-400, 400⟩

/-- A value as a text; no value is the empty text. -/
def asText : Yaml.Tree → Option String
  | .scalar .null => some ""
  | .scalar (.text value) => some value
  | .scalar (.int value) => some (toString value)
  | .scalar (.bool value) => some (if value then "1" else "0")
  | .scalar (.float value) => some (Shortest.render settingLayout value)
  | _ => none

/-- A value as an integer of 64 bits; no value and the empty text are zero. -/
def asInteger : Yaml.Tree → Option Int
  | .scalar .null => some 0
  | .scalar (.text value) =>
      if value == "" then some 0
      else (Number.readMarkedInteger value).toOption.map Int64.toInt
  | .scalar (.int value) => some (Int64.ofInt value).toInt
  | .scalar (.bool value) => some (if value then 1 else 0)
  | .scalar (.float value) => some (truncated value)
  | _ => none

namespace SettingSources

def text (s : SettingSources) (key : SettingKey) : Except SettingsError String :=
  match asText (s.value key) with
  | some value => .ok value
  | none => .error (.undecodable key.name)

def integer (s : SettingSources) (key : SettingKey) : Except SettingsError Int :=
  match asInteger (s.value key) with
  | some value => .ok value
  | none => .error (.undecodable key.name)

def settings (s : SettingSources) : Except SettingsError Settings := do
  if s.groupMisplaced then throw (.undecodable SettingKey.group)
  return {
    host := ← s.text .host
    port := ← s.integer .port
    user := ← s.text .user
    password := ← s.text .password
    database := ← s.text .database
    input := ← s.text .input
    output := ← s.text .output
    pattern := ← s.text .pattern
    jobs := ← s.integer .jobs
    requiredVersion := ← s.text .requiredVersion }

end SettingSources
end SqlMapper
