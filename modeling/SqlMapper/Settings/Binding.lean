import SqlMapper.CommandLine.Flags
import SqlMapper.Settings.Sources
import SqlMapper.Text.Upper

/-!
Binding flags to settings: a flag that was given is a source of its setting.
-/
namespace SqlMapper

open CommandLine

structure BindingError where
  flag : String
  key : String
  deriving DecidableEq

def BindingError.message (e : BindingError) : String :=
  "unknown flag " ++ Text.quoted e.flag ++ " for key " ++ e.key

def FlagValue.scalar : FlagValue → Yaml.Scalar
  | .switch on => .bool on
  | .text value => .text value
  | .integer value => .int value

/-- Binds keys to flags. Keys that are no settings are bound without effect. -/
def bindFlags (flags : List Flag) (parsed : Parsed) :
    List (String × String) → Except BindingError (List (SettingKey × Option Yaml.Scalar))
  | [] => .ok []
  | (key, name) :: rest =>
      match named? flags name with
      | none => .error ⟨name, key⟩
      | some _ =>
          (bindFlags flags parsed rest).map fun bound =>
            match SettingKey.ofName? (Text.lower key) with
            | some setting => (setting, (parsed.last? name).map FlagValue.scalar) :: bound
            | none => bound

end SqlMapper
