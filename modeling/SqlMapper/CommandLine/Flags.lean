import SqlMapper.Number.Reading
import SqlMapper.Text.Search
import SqlMapper.Text.Utf8

/-!
Flags of a command line. A flag has a long name and perhaps a letter; a switch needs no value, other
flags take theirs from the same argument or from the next. Flags and other arguments may be mixed,
and two dashes alone end the flags.
-/
namespace SqlMapper.CommandLine

inductive FlagKind where
  | switch
  | text
  | integer
  /-- Every value that is given, in order. -/
  | texts
  deriving DecidableEq

structure Flag where
  name : String
  letter : Option Char := none
  kind : FlagKind
  deriving DecidableEq

inductive FlagError where
  | form (argument : String)
  | unknown (name : String)
  | unknownLetter (letter : Char) (group : String)
  | noValue (name : String)
  | noLetterValue (letter : Char) (group : String)
  | badValue (value : String) (flag : Flag) (cause : String)
  | help
  deriving DecidableEq

/-- How messages name a flag. -/
def Flag.title (f : Flag) : String :=
  match f.letter with
  | some letter => "-" ++ String.singleton letter ++ ", --" ++ f.name
  | none => "--" ++ f.name

def quotedLetter (c : Char) : String :=
  if c == '\'' then "'\\''"
  else if c == '"' then "'\"'"
  else "'" ++ String.ofList (Text.quotedChar c) ++ "'"

def FlagError.message : FlagError → String
  | .form argument => "bad flag syntax: " ++ argument
  | .unknown name => "unknown flag: --" ++ name
  | .unknownLetter letter group => "unknown shorthand flag: " ++ quotedLetter letter ++ " in -" ++ group
  | .noValue name => "flag needs an argument: --" ++ name
  | .noLetterValue letter group =>
      "flag needs an argument: " ++ quotedLetter letter ++ " in -" ++ group
  | .badValue value flag cause =>
      "invalid argument " ++ Text.quoted value ++ " for " ++ Text.quoted flag.title ++ " flag: " ++ cause
  | .help => "pflag: help requested"

inductive FlagValue where
  | switch (on : Bool)
  | text (value : String)
  | integer (value : Int)
  deriving DecidableEq

def truthWords : List (String × Bool) := [
  ("1", true), ("t", true), ("T", true), ("true", true), ("TRUE", true), ("True", true),
  ("0", false), ("f", false), ("F", false), ("false", false), ("FALSE", false), ("False", false)]

def Flag.read (f : Flag) (value : String) : Except FlagError FlagValue :=
  match f.kind with
  | .text | .texts => .ok (.text value)
  | .integer =>
      match Number.readMarkedInteger value with
      | .ok n => .ok (.integer n.toInt)
      | .error cause => .error (.badValue value f cause.message)
  | .switch =>
      match truthWords.lookup value with
      | some on => .ok (.switch on)
      | none =>
          let cause : Number.ReadError := ⟨"ParseBool", value, .form⟩
          .error (.badValue value f cause.message)

/-- The flags that were given, in order, and the other arguments. -/
structure Parsed where
  given : List (String × FlagValue) := []
  others : List String := []

namespace Parsed

def last? (p : Parsed) (name : String) : Option FlagValue :=
  p.given.reverse.lookup name

def isOn (p : Parsed) (name : String) : Bool :=
  p.last? name == some (.switch true)

def allTexts (p : Parsed) (name : String) : List String :=
  p.given.filterMap fun entry =>
    match entry with
    | (flag, .text value) => if flag == name then some value else none
    | _ => none

end Parsed

def named? (flags : List Flag) (name : String) : Option Flag :=
  flags.find? fun f => f.name == name

def lettered? (flags : List Flag) (letter : Char) : Option Flag :=
  flags.find? fun f => f.letter == some letter

/-- A flag with its value, and the arguments that are left. -/
abbrev Taken :=
  (String × FlagValue) × List String

def takeLong (flags : List Flag) (argument : String) (rest : List String) :
    Except FlagError Taken :=
  let text := argument.toList.drop 2
  if text.isEmpty || text.head? == some '-' || text.head? == some '=' then .error (.form argument)
  else
    let (nameText, given) := Text.upTo '=' text
    let name := String.ofList nameText
    match named? flags name with
    | none => .error (if name == "help" then .help else .unknown name)
    | some f =>
        match given, f.kind, rest with
        | some value, _, _ => (f.read (String.ofList value)).map fun v => ((name, v), rest)
        | none, .switch, _ => .ok ((name, .switch true), rest)
        | none, _, value :: after => (f.read value).map fun v => ((name, v), after)
        | none, _, [] => .error (.noValue name)

/-- The character whose code is the first byte of a letter: unknown letters are shown by it. -/
def firstByte (letter : Char) : Char :=
  match Text.encode (String.singleton letter) with
  | [] => letter
  | byte :: _ => Char.ofNat byte.toNat

/-- Takes the flags of a group of letters. -/
def takeLetters (flags : List Flag) (rest : List String) :
    List Char → Except FlagError (List (String × FlagValue) × List String)
  | [] => .ok ([], rest)
  | letter :: more =>
      let group := String.ofList (letter :: more)
      match lettered? flags letter with
      | none => .error (if letter == 'h' then .help else .unknownLetter (firstByte letter) group)
      | some f =>
          let single := fun (value : String) (after : List String) =>
            (f.read value).map fun v => ([(f.name, v)], after)
          match more, f.kind, rest with
          | '=' :: c :: value, _, _ => single (String.ofList (c :: value)) rest
          | _, .switch, _ =>
              (takeLetters flags rest more).map fun found =>
                ((f.name, .switch true) :: found.1, found.2)
          | c :: value, _, _ => single (String.ofList (c :: value)) rest
          | [], _, value :: after => single value after
          | [], _, [] => .error (.noLetterValue letter group)

/-- Parses arguments; the fuel is their number. -/
def parseFrom (flags : List Flag) : Nat → Parsed → List String → Except FlagError Parsed
  | 0, p, _ => .ok p
  | _, p, [] => .ok p
  | fuel + 1, p, argument :: rest =>
      match argument.toList with
      | '-' :: '-' :: more =>
          if more.isEmpty then .ok { p with others := p.others ++ rest }
          else (takeLong flags argument rest).bind fun taken =>
            parseFrom flags fuel { p with given := p.given ++ [taken.1] } taken.2
      | '-' :: c :: more =>
          (takeLetters flags rest (c :: more)).bind fun taken =>
            parseFrom flags fuel { p with given := p.given ++ taken.1 } taken.2
      | _ => parseFrom flags fuel { p with others := p.others ++ [argument] } rest

def parse (flags : List Flag) (arguments : List String) : Except FlagError Parsed :=
  parseFrom flags (arguments.length + 1) {} arguments

end SqlMapper.CommandLine
