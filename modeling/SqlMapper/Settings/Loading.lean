import SqlMapper.Files.Volume
import SqlMapper.Log.Entry
import SqlMapper.Settings.Sources
import SqlMapper.Text.Upper
import SqlMapper.Yaml.Document

/-!
Loading settings: the settings file is looked for in the working directory and below the home
directory, files of variables are added to the environment, and the result is checked.
-/
namespace SqlMapper

/-- What a program finds around it. -/
structure Surroundings where
  volume : Volume
  /-- The working directory as messages show it. -/
  directory : String
  home : String
  environment : List (String × String)
  processors : Nat

namespace Surroundings

def fileStem : String :=
  ".yobatis"

/-- The names of a settings file, in the order in which they are tried. -/
def fileNames : List String :=
  ["json", "toml", "yaml", "yml", "properties", "props", "prop", "hcl", "tfvars", "dotenv", "env",
    "ini"].map (fun ending => fileStem ++ "." ++ ending) ++ [fileStem]

/-- The directories of a settings file, in the order in which they are tried. -/
def fileDirectories (w : Surroundings) : List String :=
  [".", w.home, Path.join w.home ".config/yobatis"]

def isFile (v : Volume) (path : String) : Bool :=
  match v.look path with
  | .ok entry => !entry.isDirectory
  | .error _ => false

def settingsFile? (w : Surroundings) : Option String :=
  (w.fileDirectories.flatMap fun directory => fileNames.map (Path.join directory)).find?
    (isFile w.volume)

def absolute (w : Surroundings) (path : String) : String :=
  if Path.isRooted path then path else Path.join w.directory path

end Surroundings

mutual

def lowerKeys : Yaml.Tree → Yaml.Tree
  | .mapping entries => .mapping (lowerEntries entries)
  | tree => tree

def lowerEntries : List (String × Yaml.Tree) → List (String × Yaml.Tree)
  | [] => []
  | (key, value) :: rest => (Text.lower key, lowerKeys value) :: lowerEntries rest

end

/-- The tree of a settings file, which is a mapping or empty. -/
def settingsTree? (contents : List UInt8) : Option Yaml.Tree :=
  match Yaml.read contents with
  | some (.mapping entries) => some (lowerKeys (.mapping entries))
  | some (.scalar .null) => some .empty
  | _ => none

def readSettingsFile (w : Surroundings) : Logged SettingsError Yaml.Tree :=
  match w.settingsFile? with
  | none => .pure .empty
  | some path =>
      match (w.volume.read path).toOption.bind settingsTree? with
      | none => .fail (.unreadable path)
      | some tree =>
          (Logged.write .debug "Loaded config file" [("path", .text (w.absolute path))]).bind
            fun () => .pure tree

/-- Adds a file of variables to those that are known. A file that cannot be read adds none. -/
def readVariables (v : Volume) (path : String)
    (add : List (String × String) → List (String × String) → List (String × String))
    (environment : List (String × String)) : Logged SettingsError (List (String × String)) :=
  match v.look path with
  | .error _ => .pure environment
  | .ok _ =>
      let outcome : Except String (List (String × String)) := match v.read path with
        | .error cause => .error cause.message
        | .ok contents => (Variables.read (Text.decode contents)).mapError Variables.FileFault.message
      match outcome with
      | .ok more => .pure (add environment more)
      | .error message =>
          (Logged.write .warn ("Failed to load " ++ path) [("error", .text message)]).bind
            fun () => .pure environment

/-- Loads and checks the settings; `flags` are those that are bound to keys. -/
def loadSettings (w : Surroundings) (flags : List (SettingKey × Option Yaml.Scalar)) :
    Logged SettingsError Settings := do
  let file ← readSettingsFile w
  let first ← readVariables w.volume ".env" Variables.addAll w.environment
  let environment ← readVariables w.volume ".env.local" Variables.replaceAll first
  let sources : SettingSources := { flags, environment, file, processors := w.processors }
  let settings ← Logged.ofExcept sources.settings
  Logged.ofExcept settings.validate
  .pure settings

end SqlMapper
