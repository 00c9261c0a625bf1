import SqlMapper.Log.Entry
import SqlMapper.Number.Shortest
import SqlMapper.Terminal.Layout
import SqlMapper.Text.Blank
import SqlMapper.Text.Quoted
import SqlMapper.Text.Search

/-!
Log entries as lines of text: the time, the level in four letters, the message, and the details as
pairs. A value of several lines is written below its name, and a value with blanks or signs between
quotes.
-/
namespace SqlMapper.Log

def Level.label : Level → String
  | .debug => "DEBU"
  | .info => "INFO"
  | .warn => "WARN"
  | .error => "ERRO"

def Detail.shown : Detail → String
  | .text value => value
  | .number value => toString value
  | .real value => Shortest.render ⟨-4, 6⟩ value
  | .truth value => if value then "true" else "false"
  | .nothing => "<nil>"

/-- A name as it is printed: tabs as blanks, and several lines of equal width. -/
def shownName (name : String) : String :=
  Terminal.joinLines (Terminal.block name)

def needsQuotes (c : Char) : Bool :=
  c == '"' || c == '=' || Text.isUnicodeBlank c || !Text.Printable.holds c || c == '\ufffd'

/-- A character of a value; what is not printable is escaped, and quotes where that is asked for. -/
def valueChar (quotes : Bool) (c : Char) : List Char :=
  if c == '"' then if quotes then ['\\', '"'] else ['"']
  else if Text.Printable.holds c then [c]
  else if c == '\x7f' then "\\u007f".toList
  else Text.quotedChar c

def valueText (quotes : Bool) (value : String) : String :=
  String.ofList (value.toList.flatMap (valueChar quotes))

/-- The lines of a value; a line break at the end begins no line. -/
def valueLines (value : String) : List (List Char) :=
  let lines := Text.splitAt '\n' value.toList
  match lines.reverse with
  | [] :: before => before.reverse
  | _ => lines

/-- A value of several lines, each after a bar. -/
def barLines (value : String) : String :=
  Text.join "\n" ((valueLines value).map fun line => "  │ " ++ valueText false (String.ofList line))

/-- A message with tabs as four blanks. -/
def messageText (message : String) : String :=
  String.ofList (message.toList.flatMap fun c => if c == '\t' then "    ".toList else [c])

/-- One detail; a value of several lines is ended if others follow, or if it is so itself. -/
def detailText (more : Bool) (detail : String × Detail) : String :=
  let name := shownName detail.1
  let value := detail.2.shown
  if detail.1 == messageName then " " ++ messageText value
  else if value.toList.contains '\n' then
    let ended := more || value.toList.getLast? == some '\n'
    "\n  " ++ name ++ "=\n" ++ barLines value ++ if ended then "\n" else ""
  else if value == "" then " " ++ name ++ "=\"\""
  else if value.toList.any needsQuotes then
    " " ++ name ++ "=\"" ++ valueText true value ++ "\""
  else " " ++ name ++ "=" ++ value

/-- The details in order; one without a name or with a name that is reserved is passed over. -/
def detailsText : List (String × Detail) → String
  | [] => ""
  | detail :: rest =>
      if detail.1 == "" || reservedNames.contains detail.1 then detailsText rest
      else detailText (!rest.isEmpty) detail ++ detailsText rest

/-- An entry as text; `time` stands in front. -/
def Entry.text (time : String) (e : Entry) : String :=
  time ++ " " ++ e.level.label ++ (if e.message == "" then "" else " " ++ messageText e.message)
    ++ detailsText e.details

/-- The lines of an entry; empty ones are left out. -/
def Entry.lines (time : String) (e : Entry) : List String :=
  ((Text.splitAt '\n' (e.text time).toList).filter fun line => !line.isEmpty).map String.ofList

/-- The name of a value that has none. -/
def nameless : String :=
  "!BADKEY"

/-- Details from a list of names and values in turn. What stands where a name is due and is no
text, or is the last, is a value without a name. -/
def detailsOf : List Detail → List (String × Detail)
  | [] => []
  | .text name :: value :: rest => (name, value) :: detailsOf rest
  | value :: rest => (nameless, value) :: detailsOf rest

end SqlMapper.Log
