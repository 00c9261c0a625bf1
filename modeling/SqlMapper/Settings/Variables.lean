import SqlMapper.Text.Blank
import SqlMapper.Text.Quoted
import SqlMapper.Text.Utf8

/-!
Files of variables: a name and a value on each line, with `=` or `:` between them. A value may be
quoted; unquoted it ends at a comment. Between double quotes and in unquoted values an earlier
variable can be named after a dollar sign.
-/
namespace SqlMapper.Variables

inductive FileFault where
  | noName
  | nameChar (c : Char)
  | openQuote (line : String)
  deriving DecidableEq

def FileFault.message : FileFault → String
  | .noName => "zero length string"
  | .nameChar c => "unexpected character " ++ Text.quoted (String.singleton c) ++ " in variable name"
  | .openQuote line => "unterminated quoted value " ++ line

/-- A blank that does not end the line. -/
def isGap (c : Char) : Bool :=
  c == '\t' || c == '\x0b' || c == '\x0c' || c == '\r' || c == ' ' || c == '\u0085' || c == '\u00a0'

/-- Whether a byte may stand in a name: letters and digits of the first 256 characters, an
underscore, a point, or a blank. -/
def isNameByte (b : UInt8) : Bool :=
  let c := Char.ofNat b.toNat
  c.isAlphanum || c == '_' || c == '.' || isGap c ||
    [0xaa, 0xb5, 0xba, 0xb2, 0xb3, 0xb9, 0xbc, 0xbd, 0xbe].contains b ||
    (0xc0 ≤ b && b != 0xd7 && b != 0xf7)

def isNameChar (c : Char) : Bool :=
  (Text.encode (String.singleton c)).all isNameByte

/-- Drops blank lines and comments before a statement. -/
def statementStart : Nat → List Char → List Char
  | 0, text => text
  | fuel + 1, text =>
      match text.dropWhile Text.isUnicodeBlank with
      | '#' :: rest => statementStart fuel (rest.dropWhile (· != '\n'))
      | other => other

/-- Drops the word `export` before a name. -/
def withoutExport (text : List Char) : List Char :=
  match "export".toList.isPrefixOf? text with
  | some (c :: rest) => if isGap c then rest.dropWhile isGap else text
  | _ => text

/-- The characters up to the mark between name and value, and what follows it; nothing follows if
there is no mark. -/
def nameFrom : List Char → Except FileFault (List Char × Option (List Char))
  | [] => .ok ([], none)
  | c :: rest =>
      if c == '=' || c == ':' then .ok ([], some rest)
      else if isNameChar c then (nameFrom rest).map fun found => (c :: found.1, found.2)
      else .error (.nameChar c)

/-- A name and the text at which its value begins. -/
def name (text : List Char) : Except FileFault (String × List Char) :=
  match withoutExport text with
  | [] => .error .noName
  | start =>
      (nameFrom start).map fun found =>
        match found.2 with
        | some rest =>
            (String.ofList (Text.dropRight Text.isUnicodeBlank found.1), rest.dropWhile isGap)
        | none => ("", start)

def isReferenceChar (c : Char) : Bool :=
  ('A' ≤ c && c ≤ 'Z') || c.isDigit || c == '_'

/-- Drops one character if it stands first. -/
def dropOne (c : Char) : List Char → List Char
  | first :: rest => if first == c then rest else first :: rest
  | [] => []

/-- A reference after its dollar sign: an optional parenthesis and brace, a name, and an optional
brace. Gives the name and the rest. -/
def reference (text : List Char) : List Char × List Char :=
  let inner := dropOne '\x7b' (dropOne '(' text)
  (inner.takeWhile isReferenceChar, dropOne '\x7d' (inner.dropWhile isReferenceChar))

/-- Puts the values of earlier variables in the place of references. -/
def expand (known : List (String × String)) : Nat → List Char → List Char
  | 0, text => text
  | _, [] => []
  | fuel + 1, c :: rest =>
      if c == '\\' && rest.head? == some '$' then
        let found := reference (rest.drop 1)
        let length := rest.length - found.2.length
        rest.take length ++ expand known fuel found.2
      else if c == '$' then
        let found := reference rest
        let length := rest.length - found.2.length
        let value :=
          if found.1.isEmpty then c :: rest.take length
          else ((known.reverse.lookup (String.ofList found.1)).getD "").toList
        value ++ expand known fuel found.2
      else c :: expand known fuel rest

def expanded (known : List (String × String)) (text : List Char) : String :=
  String.ofList (expand known (text.length + 1) text)

/-- Line breaks written as escapes. -/
def namedBreaks : List Char → List Char
  | '\\' :: c :: rest =>
      if c == 'n' then '\n' :: namedBreaks rest
      else if c == 'r' then '\r' :: namedBreaks rest
      else '\\' :: c :: namedBreaks rest
  | c :: rest => c :: namedBreaks rest
  | [] => []

/-- A backslash before anything but a dollar sign is dropped. -/
def withoutBackslashes : List Char → List Char
  | '\\' :: c :: rest =>
      if c == '$' then '\\' :: c :: withoutBackslashes rest else c :: withoutBackslashes rest
  | c :: rest => c :: withoutBackslashes rest
  | [] => []

/-- The text up to a closing quote that no backslash precedes, and what follows it. -/
def upToQuote (quote : Char) : Char → List Char → Option (List Char × List Char)
  | _, [] => none
  | before, c :: rest =>
      if c == quote && before != '\\' then some ([], rest)
      else (upToQuote quote c rest).map fun found => (c :: found.1, found.2)

/-- The text before the last comment sign that follows a blank, if there is one. -/
def beforeComment : List Char → Option (List Char)
  | a :: '#' :: rest =>
      match beforeComment ('#' :: rest) with
      | some before => some (a :: before)
      | none => if isGap a then some [a] else none
  | a :: rest => (beforeComment rest).map (a :: ·)
  | [] => none

def withoutComment (line : List Char) : List Char :=
  (beforeComment line).getD line

def isLineEnd (c : Char) : Bool :=
  c == '\n' || c == '\r'

def value (known : List (String × String)) (text : List Char) :
    Except FileFault (String × List Char) :=
  match text with
  | [] => .ok ("", [])
  | c :: rest =>
      if c == '"' || c == '\'' then
        match upToQuote c c rest with
        | none => .error (.openQuote (String.ofList (text.takeWhile (· != '\n'))))
        | some (inner, after) =>
            let bare := Text.strip (· == c) inner
            if c == '"' then .ok (expanded known (withoutBackslashes (namedBreaks bare)), after)
            else .ok (String.ofList bare, after)
      else
        let line := withoutComment (text.takeWhile fun d => !isLineEnd d)
        .ok (expanded known (Text.strip isGap line), text.dropWhile fun d => !isLineEnd d)

def statements : Nat → List (String × String) → List Char → Except FileFault (List (String × String))
  | 0, known, _ => .ok known
  | fuel + 1, known, text =>
      match statementStart (text.length + 1) text with
      | [] => .ok known
      | start =>
          (name start).bind fun named =>
            (value known named.2).bind fun found =>
              statements fuel (known ++ [(named.1, found.1)]) found.2

/-- Every line break as one newline where it was written as two characters. -/
def withNewlines : List Char → List Char
  | '\r' :: '\n' :: rest => '\n' :: withNewlines rest
  | c :: rest => c :: withNewlines rest
  | [] => []

/-- The variables of a file in order; the last of a name counts. -/
def read (text : String) : Except FileFault (List (String × String)) :=
  let characters := withNewlines text.toList
  statements (characters.length + 1) [] characters

/-- Whether an environment can hold a variable: it has a name, and no NUL in its value. -/
def isStorable (entry : String × String) : Bool :=
  entry.1 != "" && !entry.2.toList.contains '\x00'

def set (name value : String) (environment : List (String × String)) : List (String × String) :=
  (name, value) :: environment.filter fun known => known.1 != name

/-- The last value of each name, where an environment can hold it. -/
def lastValues (entries : List (String × String)) : List (String × String) :=
  (entries.foldl (fun known entry => set entry.1 entry.2 known) []).filter isStorable

/-- Adds the variables of a file; those that exist are kept. -/
def addAll (environment more : List (String × String)) : List (String × String) :=
  (lastValues more).foldl (fun known entry =>
    if known.any fun old => old.1 == entry.1 then known else known ++ [entry]) environment

/-- Adds the variables of a file; those that exist are replaced. -/
def replaceAll (environment more : List (String × String)) : List (String × String) :=
  (lastValues more).foldl (fun known entry => set entry.1 entry.2 known) environment

end SqlMapper.Variables
