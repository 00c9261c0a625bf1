import SqlMapper.CommandLine.Flags
import SqlMapper.Files.Watch
import SqlMapper.Project.Preview
import SqlMapper.Project.Report
import SqlMapper.Project.Scaffolding
import SqlMapper.Schema.Introspection
import SqlMapper.Settings.Binding
import SqlMapper.Settings.Saving
import SqlMapper.Version.Release

/-!
A session of a command: what it prints, logs, asks a server and leaves on the volume. An action
changes the session and ends in a result or an error; the session keeps what was done before an
error.
-/
namespace SqlMapper.CommandLine

/-- Why a command line is refused before a command runs. -/
inductive UsageError where
  | flags (error : FlagError)
  | unknownCommand (word command : String) (similar : List String)
  | argumentCount (wanted received : Nat)
  deriving DecidableEq

def UsageError.message : UsageError → String
  | .flags error => error.message
  | .unknownCommand word command similar =>
      "unknown command " ++ Text.quoted word ++ " for " ++ Text.quoted command ++
        if similar.isEmpty then ""
        else "\n\nDid you mean this?\n" ++ String.join (similar.map fun name => "\t" ++ name ++ "\n")
  | .argumentCount wanted received =>
      "accepts " ++ toString wanted ++ " arg(s), received " ++ toString received

inductive CommandError where
  | usage (error : UsageError)
  | binding (error : BindingError)
  | loading (error : SettingsError)
  | connectionSettings (error : SettingsError)
  | version (error : Version.CheckError)
  | value (argument : String)
  | generation (error : GenerationError)
  | watch (error : WatchError)
  | connection (error : Schema.ConnectionError)
  | init (error : InitError Schema.InquiryError)
  | save (error : SaveError)
  | preview (error : PreviewError)

def CommandError.message : CommandError → String
  | .usage error => error.message
  | .binding error => error.message
  | .loading error => "failed to load configuration: " ++ error.message
  | .connectionSettings error => error.message
  | .version error => error.message
  | .value argument => "invalid --set " ++ Text.quoted argument ++ ": expected property=value"
  | .generation error => "generation failed: " ++ error.message
  | .watch error => "failed to create watcher: " ++ error.message
  | .connection error => error.message
  | .init error => "init failed: " ++ error.message Schema.InquiryError.message
  | .save error => error.message
  | .preview error => error.message

/-- What surrounds a command and does not change while it runs. -/
structure Setting where
  surroundings : Surroundings
  server : Schema.Server
  /-- Whether the caller has given up already. -/
  canceled : Bool
  release : Release
  /-- The time that a generation takes, as it is shown. -/
  elapsed : String

structure Session where
  volume : Volume
  output : String := ""
  errors : String := ""
  log : List Log.Entry := []
  queries : List String := []

def Action (α : Type) :=
  Session → Except CommandError α × Session

namespace Action

variable {α β ε : Type}

def pure (value : α) : Action α :=
  fun s => (.ok value, s)

def fail (error : CommandError) : Action α :=
  fun s => (.error error, s)

def bind (first : Action α) (next : α → Action β) : Action β :=
  fun s => match first s with
    | (.ok value, t) => next value t
    | (.error error, t) => (.error error, t)

instance : Monad Action where
  pure := Action.pure
  bind := Action.bind

def print (text : String) : Action Unit :=
  fun s => (.ok (), { s with output := s.output ++ text })

def printError (text : String) : Action Unit :=
  fun s => (.ok (), { s with errors := s.errors ++ text })

def log (entries : List Log.Entry) : Action Unit :=
  fun s => (.ok (), { s with log := s.log ++ entries })

def ofExcept (asError : ε → CommandError) (outcome : Except ε α) : Action α :=
  fun s => (outcome.mapError asError, s)

/-- A computation that logs. -/
def ofLogged (asError : ε → CommandError) (x : Logged ε α) : Action α :=
  bind (log x.log) fun _ => ofExcept asError x.outcome

/-- A computation on the volume that logs; its outcome is handed on whatever it is. -/
def onVolume (f : Volume → Logged ε α × Volume) : Action (Except ε α) :=
  fun s =>
    let done := f s.volume
    (.ok done.1.outcome, { s with volume := done.2, log := s.log ++ done.1.log })

def volume : Action Volume :=
  fun s => (.ok s.volume, s)

def ask (x : Schema.Inquiry α) : Action (Except Schema.InquiryError α) :=
  fun s => (.ok x.outcome, { s with log := s.log ++ x.log, queries := s.queries ++ x.queries })

end Action
end SqlMapper.CommandLine
