import SqlMapper.Settings.Loading
import SqlMapper.Yaml.Writer

/-!
Saving settings: those of the connection but the password, and where documents and files are.
-/
namespace SqlMapper

inductive SaveError where
  | directory (cause : FileError)
  | file (cause : FileError)
  deriving DecidableEq

def SaveError.message : SaveError → String
  | .directory cause => cause.message
  | .file cause => "failed to write config: " ++ cause.message

namespace Settings

def savedItems (s : Settings) : List Yaml.Item := [
  .entry SettingKey.input.name (.text s.input),
  .entry SettingKey.pattern.name (.text s.pattern),
  .group SettingKey.group [
    (SettingKey.database.lastName, .text s.database),
    (SettingKey.host.lastName, .text s.host),
    (SettingKey.port.lastName, .int s.port),
    (SettingKey.user.lastName, .text s.user)],
  .entry SettingKey.output.name (.text s.output)]

def savedText (s : Settings) : String :=
  Yaml.write s.savedItems

/-- Writes the settings file into a directory and gives its path. -/
def save (s : Settings) (v : Volume) (directory : String) : Except SaveError String × Volume :=
  match v.makeDirectory directory with
  | .error cause => (.error (.directory cause), v)
  | .ok made =>
      let path := Path.join directory (Surroundings.fileStem ++ ".yaml")
      match made.write path (Text.encode s.savedText) with
      | .error cause => (.error (.file cause), made)
      | .ok next => (.ok path, next)

end Settings
end SqlMapper
