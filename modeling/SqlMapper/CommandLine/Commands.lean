import SqlMapper.CommandLine.Session
import SqlMapper.Terminal.Layout

/-!
The commands: generating files, scaffolding documents from a database, previewing a statement, and
showing the version.
-/
namespace SqlMapper.CommandLine

open Terminal

inductive Command where
  | init | gen | render | version
  deriving DecidableEq

namespace Command

def all : List Command :=
  [init, gen, render, version]

def name : Command → String
  | init => "init"
  | gen => "gen"
  | render => "render"
  | version => "version"

def flags : Command → List Flag
  | init => [
      { name := "host", letter := some 'H', kind := .text },
      { name := "port", letter := some 'P', kind := .integer },
      { name := "user", letter := some 'u', kind := .text },
      { name := "password", letter := some 'p', kind := .text },
      { name := "database", letter := some 'd', kind := .text },
      { name := "output", letter := some 'o', kind := .text },
      { name := "save-config", kind := .switch }]
  | gen => [
      { name := "input", letter := some 'i', kind := .text },
      { name := "output", letter := some 'o', kind := .text },
      { name := "pattern", kind := .text },
      { name := "jobs", letter := some 'j', kind := .integer },
      { name := "watch", letter := some 'w', kind := .switch },
      { name := "report", kind := .switch }]
  | render => [{ name := "set", letter := some 's', kind := .texts }]
  | version => [{ name := "short", kind := .switch }]

def bindings : Command → List (SettingKey × String)
  | init => [(.host, "host"), (.port, "port"), (.user, "user"), (.password, "password"),
      (.database, "database"), (.input, "output")]
  | gen => [(.input, "input"), (.output, "output"), (.pattern, "pattern"), (.jobs, "jobs")]
  | _ => []

end Command

/-- Loads the settings of a command and checks the version that they ask for. -/
def settingsFor (w : Setting) (command : Command) (parsed : Parsed) : Action Settings := do
  let bound ← Action.ofExcept .binding
    (bindFlags command.flags parsed (command.bindings.map fun b => (b.1.name, b.2)))
  let v ← Action.volume
  let settings ← Action.ofLogged .loading (loadSettings { w.surroundings with volume := v } bound)
  Action.ofExcept .version (Version.check w.release.version settings.requiredVersion)
  return settings

/-- The name of the program, as its headers show it. -/
def programName : String :=
  "yobatis"

def requestOf (w : Setting) (s : Settings) : GenerationRequest :=
  ⟨s.input, s.output, s.pattern, w.canceled⟩

def generateOnce (w : Setting) (s : Settings) (report : Bool) : Action Unit := do
  Action.print (header programName "Generating C mappers")
  let outcome ← Action.onVolume (generate · (requestOf w s))
  let generated ← Action.ofExcept .generation outcome
  let count := generated.outputs.length
  if count == 0 then
    Action.print (statusLine .warning ("No document in " ++ s.input ++ " matches " ++ s.pattern))
  Action.print (statusLine .success
    ("Compiled " ++ toString count ++ " documents into " ++ s.output ++ " in " ++ w.elapsed))
  if report then Action.print generated.report
  else
    Action.print (sectionTitle "Files")
    Action.print (bullets generated.files)

/-- Generates at the start of a watch, which ends when the caller gives up. -/
def generateWatching (w : Setting) (s : Settings) : Action Unit := do
  let v ← Action.volume
  Action.ofExcept .watch (v.watch (Path.clean s.input) (w.surroundings.absolute s.input))
  let outcome ← Action.onVolume (generate · (requestOf w s))
  match outcome with
  | .error error =>
      Action.printError (statusLine .error ("Generation failed: " ++ error.message))
  | .ok generated =>
      Action.print (statusLine .success
        ("Regenerated " ++ toString generated.outputs.length ++ " documents"))
  Action.print (statusLine .info
    ("Watching " ++ s.input ++ " for changes. Press Ctrl+C to stop."))
  Action.print (statusLine .info "Stopping watcher...")

def runGen (w : Setting) (parsed : Parsed) : Action Unit := do
  let settings ← settingsFor w .gen parsed
  if parsed.isOn "watch" then generateWatching w settings
  else generateOnce w settings (parsed.isOn "report")

def connectionOf (s : Settings) : Schema.Connection :=
  ⟨s.host, s.port, s.user, s.password, s.database⟩

/-- Saves the settings as the fourth step. -/
def saveSettings (s : Settings) (total : Int) : Action Unit := do
  Action.print (step 4 total "Saving configuration")
  let saved ← Action.onVolume fun v =>
    let done := s.save v "."
    (Logged.ofExcept done.1, done.2)
  let path ← Action.ofExcept .save saved
  Action.print (statusLine .info ("Configuration written to " ++ path))

def scaffoldDatabase (w : Setting) (s : Settings) (save : Bool) : Action Unit := do
  let total := if save then 4 else 3
  Action.print (header programName "Scaffolding mapper documents")
  Action.print (step 1 total ("Connecting to " ++ s.host ++ ":" ++ toString s.port))
  Action.ofLogged .connection (Schema.connect (connectionOf s) w.server w.canceled)
  Action.print (step 2 total ("Introspecting " ++ s.database))
  let described ← Action.ask (Schema.introspect w.server s.database)
  let outcome ← Action.onVolume fun v => initProject v s.input (some described)
  let paths ← Action.ofExcept .init outcome
  Action.print (step 3 total "Writing mapper documents")
  Action.print (bullets paths)
  if save then saveSettings s total
  Action.print (statusLine .success
    ("Scaffolded " ++ toString (paths.length - 1) ++ " tables into " ++ s.input))

def runInit (w : Setting) (parsed : Parsed) : Action Unit := do
  let settings ← settingsFor w .init parsed
  Action.ofExcept .connectionSettings settings.validateConnection
  scaffoldDatabase w settings (parsed.isOn "save-config")

/-- A property and its value from `property=value`. -/
def assignmentOf (argument : String) : Except CommandError (String × String) :=
  match Text.upTo '=' argument.toList with
  | ([], _) | (_, none) => .error (.value argument)
  | (property, some value) => .ok (String.ofList property, String.ofList value)

def assignmentsOf : List String → Except CommandError (List (String × String))
  | [] => .ok []
  | argument :: rest =>
      (assignmentOf argument).bind fun first =>
        (assignmentsOf rest).map fun more => first :: more

def bindingRow (b : Sql.Binding) : List String :=
  [toString b.position, b.field.property, b.mysqlType, b.display]

def showPreview (p : Preview) : Action Unit := do
  Action.print (header p.mapper.space (p.statement.kind.name ++ " " ++ p.statement.id))
  Action.print (sectionTitle "SQL")
  Action.print (code p.evaluated.sql "sql")
  Action.print (sectionTitle "Prepared")
  Action.print (code p.evaluated.prepared "sql")
  if !p.evaluated.bindings.isEmpty then
    Action.print (sectionTitle "Bindings")
    Action.print (table ["Slot", "Field", "Type", "Value"] (p.evaluated.bindings.map bindingRow))

def runRender (w : Setting) (parsed : Parsed) : Action Unit := do
  let values ← Action.ofExcept id (assignmentsOf (parsed.allTexts "set"))
  let v ← Action.volume
  let shown ← Action.ofLogged .preview
    (preview v w.canceled (parsed.others.headD "") ((parsed.others.drop 1).headD "") values)
  showPreview shown

def releaseLines (r : Release) : String :=
  "yobatis version " ++ r.version ++ "\n  Git Commit: " ++ r.commit ++ "\n  Build Date: " ++ r.date
    ++ "\n  Go Version: " ++ r.toolchain ++ "\n  OS/Arch: " ++ r.platform ++ "\n"
    ++ if r.constraint == "" then ""
       else if r.satisfied then "  Required: " ++ r.constraint ++ " (satisfied)\n"
       else "  Required: " ++ r.constraint ++ " (" ++ r.problem ++ ")\n"

/-- Shows the version; settings that cannot be loaded only drop the constraint. -/
def runVersion (w : Setting) (parsed : Parsed) : Action Unit := do
  let v ← Action.volume
  let loaded := loadSettings { w.surroundings with volume := v } []
  Action.log loaded.log
  let release ← match loaded.outcome with
    | .ok settings => Action.pure (w.release.against settings.requiredVersion)
    | .error error => do
        Action.log [⟨.debug, "Version shown without project constraint",
          [("error", .text error.message)]⟩]
        Action.pure w.release
  if parsed.isOn "short" then Action.print (release.summary ++ "\n")
  else Action.print (releaseLines release)

namespace Command

def run (w : Setting) (parsed : Parsed) : Command → Action Unit
  | init => runInit w parsed
  | gen => runGen w parsed
  | render => runRender w parsed
  | version => runVersion w parsed

/-- A command without commands of its own takes a first argument for one. -/
def noArguments (command : String) : List String → Except UsageError Unit
  | [] => .ok ()
  | word :: _ => .error (.unknownCommand word (programName ++ " " ++ command) [])

def checkArguments (arguments : List String) : Command → Except UsageError Unit
  | init => noArguments "init" arguments
  | gen => noArguments "gen" arguments
  | render =>
      if arguments.length == 2 then .ok () else .error (.argumentCount 2 arguments.length)
  | version => .ok ()

end Command
end SqlMapper.CommandLine
