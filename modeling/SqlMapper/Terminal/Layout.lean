import SqlMapper.Terminal.Markup
import SqlMapper.Terminal.Wrapping
import SqlMapper.Text.Blank
import SqlMapper.Text.Search

/-!
What commands print: boxed headers, sections, code, tables, lists, steps and status lines, without
colors and for a terminal of eighty columns.
-/
namespace SqlMapper.Terminal

def columns : Nat :=
  80

def blanks (count : Nat) : String :=
  Text.replicate count ' '

def widest (lines : List String) : Nat :=
  lines.foldl (fun most line => max most (widthOf line)) 0

/-- Tabs as four blanks and every line break as one character. -/
def plainChars : List Char → List Char
  | '\r' :: '\n' :: rest => '\n' :: plainChars rest
  | c :: rest => if c == '\t' then ' ' :: ' ' :: ' ' :: ' ' :: plainChars rest else c :: plainChars rest
  | [] => []

def splitLines (text : List Char) : List String :=
  (Text.splitAt '\n' text).map String.ofList

def joinLines (lines : List String) : String :=
  Text.join "\n" lines

def padTo (width : Nat) (line : String) : String :=
  line ++ blanks (width - widthOf line)

/-- Lines of equal width. -/
def aligned (lines : List String) : List String :=
  lines.map (padTo (widest lines))

/-- The lines of a text as they are printed. -/
def block (text : String) : List String :=
  aligned (splitLines (plainChars text.toList))

/-- Centers lines against each other; an odd blank goes to the left. -/
def centered (lines : List String) : List String :=
  lines.map fun line =>
    let gap := widest lines - widthOf line
    let left := (gap + 1) / 2
    blanks left ++ line ++ blanks (gap - left)

/-- Centers lines in a width; an odd blank goes to the right. -/
def centeredIn (width : Nat) (lines : List String) : List String :=
  lines.map fun line =>
    let gap := max width (widest lines) - widthOf line
    blanks (gap / 2) ++ line ++ blanks (gap - gap / 2)

def rule (width : Nat) : String :=
  Text.replicate width '─'

def boxed (lines : List String) : String :=
  let width := widest lines
  joinLines (["╭" ++ rule width ++ "╮"] ++ lines.map (fun line => "│" ++ line ++ "│")
    ++ ["╰" ++ rule width ++ "╯"])

def wrapLines (limit : Nat) (lines : List String) : List String :=
  splitLines (wrap limit (joinLines lines).toList)

/-- A title with a subtitle under it, in a box as wide as the terminal. -/
def header (title subtitle : String) : String :=
  let titleLines := block title
  let lines := centered (titleLines ++ [blanks (widest titleLines)] ++ block subtitle)
  let inner := columns - 2
  let padded := (wrapLines (inner - 4) lines).map fun line => "  " ++ line ++ "  "
  boxed (centeredIn inner padded) ++ "\n\n"

def sectionTitle (title : String) : String :=
  let lines := wrapLines columns (splitLines (plainChars title.toList))
  let width := max columns (widest lines)
  joinLines (lines.map (padTo width) ++ [rule width]) ++ "\n"

/-- Code in a box, under the name of its language if there is one. -/
def code (text language : String) : String :=
  let label := if language == "" then "" else joinLines (block (" " ++ language ++ " ")) ++ "\n"
  let body := String.ofList (Text.dropRight (· == '\n') text.toList)
  let lines := (splitLines (plainChars body.toList)).map fun line => " " ++ line ++ " "
  label ++ boxed (aligned lines) ++ "\n"

inductive Status where
  | success | warning | info | error
  deriving DecidableEq

def Status.sign : Status → String
  | .success => "✓"
  | .warning => "⚠"
  | .info => "ℹ"
  | .error => "✗"

/-- A status line: a sign and a text. -/
def statusLine (status : Status) (text : String) : String :=
  joinLines (block (status.sign ++ " " ++ text)) ++ "\n"

/-- A line on the progress of a task. -/
def step (number total : Int) (text : String) : String :=
  "[" ++ toString number ++ "/" ++ toString total ++ "] " ++ text ++ "\n"

def bullets (items : List String) : String :=
  String.join (items.map fun item => "  • " ++ item ++ "\n")

def cellLines (cell : String) : List String :=
  splitLines cell.toList

/-- The columns of a line of a cell; color codes do not count. -/
def cellWidth (line : String) : Nat :=
  Text.tableWidth (withoutCodes line.toList)

def cellColumns (cell : String) : Nat :=
  (cellLines cell).foldl (fun most line => max most (cellWidth line)) 0

/-- The greater of two widths in each place; where one list has ended the other counts. -/
def greaterWidths : List Nat → List Nat → List Nat
  | a :: as, b :: bs => max a b :: greaterWidths as bs
  | [], bs => bs
  | as, [] => as

/-- The width of each column: that of its widest cell. -/
def columnWidths : List (List String) → List Nat
  | [] => []
  | row :: rest => greaterWidths (row.map cellColumns) (columnWidths rest)

/-- One printed line of a row. -/
def rowLine (widths : List Nat) (row : List String) (index : Nat) : String :=
  Text.join " | " ((row.zip widths).map fun cell =>
    let line := ((cellLines cell.1)[index]?).getD ""
    line ++ blanks (cell.2 - cellWidth line)) ++ "\n"

def tableRow (widths : List Nat) (row : List String) : String :=
  let height := row.foldl (fun most cell => max most (cellLines cell).length) 0
  String.join ((List.range height).map (rowLine widths row))

/-- A row of headings, without color marks. -/
def headingRow (widths : List Nat) (row : List String) : String :=
  let plain := withoutTags (tableRow widths row).toList
  let lines := (splitLines plain).map fun line => String.ofList (withoutCodes line.toList)
  String.ofList (withoutTags (joinLines lines).toList)

/-- Rows under a row of headings, and an empty line. -/
def table (headings : List String) (rows : List (List String)) : String :=
  let widths := columnWidths (headings :: rows)
  headingRow widths headings ++ String.join (rows.map (tableRow widths)) ++ "\n"

end SqlMapper.Terminal
