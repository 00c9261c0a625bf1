import SqlMapper.CommandLine.Commands

/-!
Running a command line: the command is found among the arguments, its flags are parsed, and it is
run. Without a command the usage is shown.
-/
namespace SqlMapper.CommandLine

def commonFlags : List Flag := [
  { name := "verbose", letter := some 'v', kind := .switch },
  { name := "log-json", kind := .switch }]

def helpFlag : Flag :=
  { name := "help", letter := some 'h', kind := .switch }

def versionFlag : Flag :=
  { name := "version", kind := .switch }

/-- Commands that show help and do nothing else. -/
def helpCommands : List String :=
  ["help", "completion"]

/-- Whether an argument is a flag that takes the next argument for its value. -/
def takesNext (flags : List Flag) (argument : String) : Bool :=
  let isSwitch := fun (f : Option Flag) => match f with
    | some flag => flag.kind == .switch
    | none => false
  match argument.toList with
  | '-' :: '-' :: name => !name.contains '=' && !isSwitch (named? flags (String.ofList name))
  | ['-', letter] => letter != '=' && !isSwitch (lettered? flags letter)
  | _ => false

def isFlagged (argument : String) : Bool :=
  argument.toList.head? == some '-'

/-- The arguments that are neither flags nor values of flags. -/
def words (flags : List Flag) : List String → List String
  | [] => []
  | argument :: rest =>
      if argument == "--" then []
      else if takesNext flags argument then
        match rest with
        | _ :: next :: more => words flags (next :: more)
        | _ => []
      else if argument != "" && !isFlagged argument then argument :: words flags rest
      else words flags rest

/-- The arguments without the first that is a given word. -/
def withoutWord (flags : List Flag) (word : String) : List String → List String
  | [] => []
  | argument :: rest =>
      if argument == "--" then argument :: rest
      else if takesNext flags argument then
        match rest with
        | value :: more => argument :: value :: withoutWord flags word more
        | [] => [argument]
      else if argument == word then rest
      else argument :: withoutWord flags word rest

/-- One row of the table of edit distances, from the row before. -/
def distanceRow (c : UInt8) (word : List UInt8) (corner left : Nat) : List Nat → List Nat
  | [] => []
  | above :: rest =>
      match word with
      | [] => []
      | d :: more =>
          let cost := if c == d then corner else corner + 1
          let best := min cost (min (above + 1) (left + 1))
          best :: distanceRow c more above best rest

def distanceFrom (word : List UInt8) : Nat → List Nat → List UInt8 → List Nat
  | _, row, [] => row
  | index, row, c :: rest =>
      let first := row.headD 0
      let next := (index + 1) :: distanceRow c word first (index + 1) (row.drop 1)
      distanceFrom word (index + 1) next rest

/-- The number of bytes to change, add or drop that turns one word into another. -/
def distance (a b : String) : Nat :=
  let word := Text.encode b
  (distanceFrom word 0 (List.range (word.length + 1)) (Text.encode a)).getLastD 0

/-- The commands that a word may have meant: close to it, or beginning with it. -/
def similarCommands (word : String) : List String :=
  let typed := Text.lower word
  (Command.all.map Command.name ++ ["completion"]).filter fun name =>
    distance typed name ≤ 2 || typed.toList.isPrefixOf name.toList

/-- What a command line asks for. -/
inductive Request where
  | usage
  | release
  | command (command : Command) (parsed : Parsed)

def readProgram (arguments : List String) : Except UsageError Request :=
  match words commonFlags arguments with
  | word :: _ => .error (.unknownCommand word programName (similarCommands word))
  | [] =>
      match parse (commonFlags ++ [helpFlag, versionFlag]) arguments with
      | .error error => .error (.flags error)
      | .ok parsed =>
          if parsed.isOn "help" then .ok .usage
          else if parsed.isOn "version" then .ok .release
          else .ok .usage

def readCommand (command : Command) (arguments : List String) : Except UsageError Request :=
  match parse (command.flags ++ commonFlags ++ [helpFlag]) arguments with
  | .error error => .error (.flags error)
  | .ok parsed =>
      if parsed.isOn "help" then .ok .usage
      else (command.checkArguments parsed.others).map fun () => .command command parsed

def readRequest (arguments : List String) : Except UsageError Request :=
  match words commonFlags arguments with
  | [] => readProgram arguments
  | word :: _ =>
      match Command.all.find? fun command => command.name == word with
      | some command => readCommand command (withoutWord commonFlags word arguments)
      | none => if helpCommands.contains word then .ok .usage else readProgram arguments

def usageText : String :=
  "Usage:\n  yobatis [command]\n\nAvailable Commands:\n"
    ++ "  init        Scaffold mapper documents from a MySQL database\n"
    ++ "  gen         Compile mapper documents into C\n"
    ++ "  render      Show the SQL a statement runs for a record\n"
    ++ "  version     Print version information\n"

/-- How a run ended, and what it left. -/
structure Finished where
  error : Option CommandError
  session : Session
  /-- The help that was asked for. -/
  help : String := ""
  verbose : Bool := false
  /-- Whether the log is written as objects. -/
  objects : Bool := false

def Finished.exitCode (f : Finished) : UInt32 :=
  if f.error.isSome then 1 else 0

def run (w : Setting) (arguments : List String) : Finished :=
  let start : Session := { volume := w.surroundings.volume }
  match readRequest arguments with
  | .error error => { error := some (.usage error), session := start }
  | .ok .usage => { error := none, session := start, help := usageText }
  | .ok .release =>
      { error := none, session := start,
        help := programName ++ " version " ++ w.release.summary ++ "\n" }
  | .ok (.command command parsed) =>
      let done := command.run w parsed start
      { error := match done.1 with
          | .ok () => none
          | .error error => some error
        session := done.2
        verbose := parsed.isOn "verbose"
        objects := parsed.isOn "log-json" }

end SqlMapper.CommandLine
