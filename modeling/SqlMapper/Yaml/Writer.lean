import SqlMapper.Text.Search
import SqlMapper.Text.Utf8
import SqlMapper.Yaml.Character
import SqlMapper.Yaml.Scalar

/-!
Writing mappings as YAML: keys in increasing order, four blanks for each depth. A text is written
plainly when it reads back as itself, between double quotes when it would read as another scalar,
and between single quotes when its characters would be taken for structure.
-/
namespace SqlMapper.Yaml

/-- Words that older readers take for truth values. -/
def oldWords : List String :=
  ["y", "Y", "yes", "Yes", "YES", "on", "On", "ON", "n", "N", "no", "No", "NO", "off", "Off", "OFF"]

/-- Groups of at most sixty after colons, with an optional fraction. -/
def sixtyGroups : Nat → List Char → Bool
  | 0, _ => false
  | fuel + 1, text =>
      match text with
      | ':' :: a :: rest =>
          if !a.isDigit then false
          else
            let next := match rest with
              | b :: more => if a ≤ '5' && b.isDigit then more else rest
              | [] => []
            match next with
            | [] => true
            | '.' :: places => places.all fun c => c.isDigit || c == '_'
            | other => sixtyGroups fuel other
      | _ => false

/-- Whether older readers take a text for a number in base sixty. -/
def isSixtyNumber (text : String) : Bool :=
  match (Number.signed text.toList).2 with
  | c :: rest =>
      c.isDigit && sixtyGroups (rest.length + 1) (rest.dropWhile fun d => d.isDigit || d == '_')
  | [] => false

def readsAsText (text : String) : Bool :=
  Scalar.ofPlain text == .text text && !oldWords.contains text && !isSixtyNumber text

/-- Characters that are written as they are. -/
def isShown (c : Char) : Bool :=
  c == '\n' || (' ' ≤ c && c ≤ '~') ||
    ('\u00a0' ≤ c && c ≤ '\ufffd' && c != '\ufeff')

/-- Whether a character in a text, with its neighbours, would be taken for structure. -/
def marksStructure (before : Option Char) (c : Char) (after : Option Char) : Bool :=
  let opens := (after.map isGap).getD true
  match before with
  | none =>
      if c == '?' || c == ':' || c == '-' then opens else isReserved c && !isGap c
  | some b => (c == ':' && opens) || (c == '#' && (isGap b || isBreak b))

def holdsStructure (before : Option Char) : List Char → Bool
  | [] => false
  | c :: rest => marksStructure before c rest.head? || holdsStructure (some c) rest

/-- Whether two neighbours of given classes stand in a text. -/
def holdsPair (first second : Char → Bool) : List Char → Bool
  | a :: b :: rest => (first a && second b) || holdsPair first second (b :: rest)
  | _ => false

inductive Style where
  | plain | single | double | literal
  deriving DecidableEq

/-- What can be said of the characters of a text. -/
structure Shape where
  marker : Bool
  structured : Bool
  edged : Bool
  trailing : Bool
  /-- A tab is no obstacle to a literal block. -/
  tabbed : Bool
  special : Bool
  spaceBeforeBreak : Bool
  spaceAfterBreak : Bool
  broken : Bool

def Shape.of (text : List Char) : Shape where
  marker := text.take 3 == ['-', '-', '-'] || text.take 3 == ['.', '.', '.']
  structured := holdsStructure none text
  edged := (text.head?.map fun c => c == ' ' || isBreak c).getD false ||
    (text.getLast?.map fun c => c == ' ' || isBreak c).getD false
  trailing := text.getLast? == some ' '
  tabbed := text.contains '\t'
  special := text.any fun c => !isShown c && c != '\t'
  spaceBeforeBreak := holdsPair (· == ' ') isBreak text
  spaceAfterBreak := holdsPair isBreak (· == ' ') text
  broken := text.any isBreak

def styleOf (text : String) : Style :=
  let shape := Shape.of text.toList
  let quotable := !shape.tabbed && !shape.special && !shape.spaceBeforeBreak && !shape.spaceAfterBreak
  if text.toList.contains '\n' then
    if shape.trailing || shape.special || shape.spaceBeforeBreak then .double else .literal
  else if !readsAsText text then .double
  else if quotable && !shape.marker && !shape.structured && !shape.edged && !shape.broken then .plain
  else if quotable then .single
  else .double

def escapeLetters : List (Char × Char) := [
  ('\x00', '0'), ('\x07', 'a'), ('\x08', 'b'), ('\t', 't'), ('\n', 'n'), ('\x0b', 'v'),
  ('\x0c', 'f'), ('\r', 'r'), ('\x1b', 'e'), ('"', '"'), ('\\', '\\'), ('\u0085', 'N'),
  ('\u00a0', '_'), ('\u2028', 'L'), ('\u2029', 'P')]

def upperHex (width value : Nat) : List Char :=
  (Text.hexDigits width value).map Char.toUpper

def escapedChar (c : Char) : List Char :=
  if isShown c && !isBreak c && c != '"' && c != '\\' then [c]
  else match escapeLetters.lookup c with
    | some letter => ['\\', letter]
    | none =>
        if c.toNat ≤ 0xff then '\\' :: 'x' :: upperHex 2 c.toNat
        else if c.toNat ≤ 0xffff then '\\' :: 'u' :: upperHex 4 c.toNat
        else '\\' :: 'U' :: upperHex 8 c.toNat

/-- Blanks before an entry. -/
def margin (depth : Nat) : String :=
  Text.replicate (4 * depth) ' '

/-- A text on several lines: every line that is not empty starts with a margin. `fresh` says
whether a line starts here. -/
def indentedFrom (depth : Nat) : Bool → List Char → List Char
  | _, [] => []
  | fresh, c :: rest =>
      if isBreak c then c :: indentedFrom depth true rest
      else if fresh then (margin (depth + 1)).toList ++ c :: indentedFrom depth false rest
      else c :: indentedFrom depth false rest

def startsWithBreak (text : List Char) : Bool :=
  (text.head?.map isBreak).getD false

def endsWithBreak (text : List Char) : Bool :=
  startsWithBreak text.reverse

/-- A literal block below an entry. A text that starts with a break ends the first line itself. -/
def literalBlock (depth : Nat) (text : List Char) : String :=
  let lead := if startsWithBreak text || text.head? == some ' ' then "4" else ""
  let ending :=
    if !endsWithBreak text then "-"
    else if text.length == 1 || endsWithBreak text.dropLast then "+"
    else ""
  let first := if startsWithBreak text then "" else "\n"
  "|" ++ lead ++ ending ++ first ++ String.ofList (indentedFrom depth true text)

def withSingleQuotes (depth : Nat) (text : List Char) : List Char :=
  '\'' :: (indentedFrom depth false text).flatMap (fun c => if c == '\'' then ['\'', '\''] else [c])
    ++ ['\'']

def writtenText (depth : Nat) (text : String) : String :=
  match styleOf text with
  | .plain => text
  | .single => String.ofList (withSingleQuotes depth text.toList)
  | .double => "\"" ++ String.ofList (text.toList.flatMap escapedChar) ++ "\""
  | .literal => literalBlock depth text.toList

/-- A scalar of settings: a text or an integer. -/
inductive Plain where
  | text (value : String)
  | int (value : Int)
  deriving DecidableEq

def Plain.written (depth : Nat) : Plain → String
  | .text value => writtenText depth value
  | .int value => toString value

/-- The line break after a scalar; a literal block may end in one itself. -/
def Plain.ending : Plain → String
  | .text value =>
      if styleOf value = .literal && endsWithBreak value.toList then "" else "\n"
  | .int _ => "\n"

/-- An entry of a document of settings: a scalar, or a group of scalars. -/
inductive Item where
  | entry (key : String) (scalar : Plain)
  | group (key : String) (entries : List (String × Plain))

def writtenEntry (depth : Nat) (entry : String × Plain) : String :=
  margin depth ++ entry.1 ++ ": " ++ entry.2.written depth ++ entry.2.ending

def Item.written : Item → String
  | .entry key scalar => writtenEntry 0 (key, scalar)
  | .group key entries => key ++ ":\n" ++ String.join (entries.map (writtenEntry 1))

/-- The text of a document. The items are in the order in which they are written. -/
def write (items : List Item) : String :=
  String.join (items.map Item.written)

end SqlMapper.Yaml
