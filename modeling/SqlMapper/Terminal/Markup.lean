import SqlMapper.Text.Search

/-!
Color marks in texts: codes for the terminal, and tags in angle brackets that an empty closing tag
ends. Where nothing is colored they are dropped.
-/
namespace SqlMapper.Terminal

def isCodeMark (c : Char) : Bool :=
  c.isDigit || c == ';' || c == '?'

/-- What follows a color code whose escape character has been read, if it is one. -/
def afterCode? : List Char → Option (List Char)
  | '[' :: text =>
      match text.dropWhile isCodeMark with
      | 'm' :: rest => if (text.takeWhile isCodeMark).isEmpty then none else some rest
      | _ => none
  | _ => none

def dropCodes : Nat → List Char → List Char
  | 0, text => text
  | _, [] => []
  | fuel + 1, c :: rest =>
      if c == '\x1b' then
        match afterCode? rest with
        | some others => dropCodes fuel others
        | none => c :: dropCodes fuel rest
      else c :: dropCodes fuel rest

/-- A line without color codes, if one of them ends the colors. -/
def withoutCodes (line : List Char) : List Char :=
  if Text.occurs "[0m".toList line then dropCodes line.length line else line

def isTagMark (c : Char) : Bool :=
  c.isAlphanum || c == '_' || c == '=' || c == ',' || c == ';'

/-- What follows a tag whose opening bracket has been read, if it is one. -/
def afterTag? (text : List Char) : Option (List Char) :=
  let body := if text.head? == some '/' then text.drop 1 else text
  match body.dropWhile isTagMark with
  | '>' :: rest => some rest
  | _ => none

def dropTags : Nat → List Char → List Char
  | 0, text => text
  | _, [] => []
  | fuel + 1, c :: rest =>
      if c == '<' then
        match afterTag? rest with
        | some others => dropTags fuel others
        | none => c :: dropTags fuel rest
      else c :: dropTags fuel rest

/-- A text without tags, if there is a closing one. -/
def withoutTags (text : List Char) : List Char :=
  if Text.occurs "</>".toList text then dropTags text.length text else text

end SqlMapper.Terminal
