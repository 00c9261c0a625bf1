import SqlMapper.Files.Glob
import SqlMapper.Text.Search
import SqlMapper.Version.Constraint

/-!
The settings of a project, and the checks they have to pass. A check that fails names the setting
and the rule; all of them are reported together.
-/
namespace SqlMapper

structure Settings where
  host : String
  port : Int
  user : String
  password : String
  database : String
  input : String
  output : String
  pattern : String
  jobs : Int
  requiredVersion : String
  deriving DecidableEq

/-- The rules that a setting can break. -/
inductive Rule where
  | required
  | least
  | most
  | pattern
  | constraint
  deriving DecidableEq

def Rule.name : Rule → String
  | .required => "required"
  | .least => "min"
  | .most => "max"
  | .pattern => "mapper_pattern"
  | .constraint => "version_constraint"

/-- A broken rule: the setting by its path, its last part, and the rule. -/
structure Breach where
  path : String
  field : String
  rule : Rule
  deriving DecidableEq

def Breach.message (b : Breach) : String :=
  "Key: 'Config." ++ b.path ++ "' Error:Field validation for '" ++ b.field ++ "' failed on the '"
    ++ b.rule.name ++ "' tag"

namespace Settings

def requireText (path field value : String) : List Breach :=
  if value == "" then [⟨path, field, .required⟩] else []

def checkPort (port : Int) : List Breach :=
  if port < 1 then [⟨"MySQL.Port", "Port", .least⟩]
  else if 65535 < port then [⟨"MySQL.Port", "Port", .most⟩]
  else []

def checkPattern (pattern : String) : List Breach :=
  if pattern == "" then [⟨"MapperPattern", "MapperPattern", .required⟩]
  else if Glob.valid pattern then []
  else [⟨"MapperPattern", "MapperPattern", .pattern⟩]

def checkJobs (jobs : Int) : List Breach :=
  if jobs < 0 then [⟨"Jobs", "Jobs", .least⟩] else []

/-- No constraint is needed; one that is given has to be readable. -/
def checkVersion (constraint : String) : List Breach :=
  if constraint == "" then []
  else match Version.readConstraints constraint with
    | .ok _ => []
    | .error _ => [⟨"RequiredVersion", "RequiredVersion", .constraint⟩]

/-- Every broken rule, in the order of the settings. -/
def breaches (s : Settings) : List Breach :=
  requireText "MySQL.Host" "Host" s.host
    ++ checkPort s.port
    ++ requireText "Input" "Input" s.input
    ++ requireText "Output" "Output" s.output
    ++ checkPattern s.pattern
    ++ checkJobs s.jobs
    ++ checkVersion s.requiredVersion

/-- The settings that a connection needs and that are missing. -/
def missingForConnection (s : Settings) : List String :=
  (if s.user == "" then ["mysql.user"] else [])
    ++ (if s.database == "" then ["mysql.database"] else [])

end Settings

inductive SettingsError where
  | unreadable (path : String)
  | undecodable (key : String)
  | invalid (breaches : List Breach)
  | missing (names : List String)
  deriving DecidableEq

def SettingsError.message : SettingsError → String
  | .unreadable path => "failed to read config file: " ++ path ++ " is not a mapping"
  | .undecodable key => "failed to decode configuration: " ++ key ++ " has another type"
  | .invalid breaches =>
      "invalid configuration: " ++ Text.join "\n" (breaches.map Breach.message)
  | .missing names => "invalid configuration: " ++ Text.join ", " names ++ " required"

namespace Settings

def validate (s : Settings) : Except SettingsError Unit :=
  match s.breaches with
  | [] => .ok ()
  | breaches => .error (.invalid breaches)

def validateConnection (s : Settings) : Except SettingsError Unit :=
  match s.missingForConnection with
  | [] => .ok ()
  | names => .error (.missing names)

end Settings
end SqlMapper
