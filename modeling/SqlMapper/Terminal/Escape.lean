import SqlMapper.Text.Utf8
import SqlMapper.Text.Width

/-!
Escape sequences: orders to the terminal among the characters of a text. They take no columns. A
text is measured by following the state of a terminal that reads it, and cut into items, each an
order, a control or one cluster of characters.
-/
namespace SqlMapper.Terminal

/-- Where in an order a terminal stands. `quiet` is a string whose content has no meaning. -/
inductive Mode where
  | ground
  | escape
  | escapeMiddle
  | controlStart
  | controlNumbers
  | controlMiddle
  | deviceStart
  | deviceNumbers
  | deviceMiddle
  | deviceText
  | systemText
  | quiet
  deriving DecidableEq

namespace Mode

/-- The modes in which characters above ASCII are part of an order. -/
def takesText (mode : Mode) : Bool :=
  mode = .deviceText || mode = .systemText

/-- The bytes that begin an order or end one, wherever they stand. -/
def afterHigh (mode : Mode) (byte : Nat) : Mode :=
  if mode.takesText then if byte == 0x9c then .ground else mode
  else if byte == 0x90 then .deviceStart
  else if byte == 0x98 || byte == 0x9e || byte == 0x9f then .quiet
  else if byte == 0x9b then .controlStart
  else if byte == 0x9d then .systemText
  else .ground

def afterEscape (byte : Nat) : Mode :=
  if byte < 0x20 || byte == 0x7f then .escape
  else if byte < 0x30 then .escapeMiddle
  else if byte == 0x50 then .deviceStart
  else if byte == 0x58 || byte == 0x5e || byte == 0x5f then .quiet
  else if byte == 0x5b then .controlStart
  else if byte == 0x5d then .systemText
  else .ground

/-- After the start and the numbers of an order: `numbers`, `middle` and `final` are the modes that
digits, punctuation and letters lead to. -/
def afterNumbers (mode numbers middle final : Mode) (byte : Nat) : Mode :=
  if byte < 0x20 || byte == 0x7f then mode
  else if byte < 0x30 then middle
  else if byte < 0x40 then numbers
  else final

def afterLow (mode : Mode) (byte : Nat) : Mode :=
  if byte == 0x1b then if mode = .deviceStart then .deviceText else .escape
  else if byte == 0x18 || byte == 0x1a then .ground
  else match mode with
    | .ground => .ground
    | .escape => afterEscape byte
    | .escapeMiddle => if byte < 0x30 || byte == 0x7f then .escapeMiddle else .ground
    | .controlStart => afterNumbers .controlStart .controlNumbers .controlMiddle .ground byte
    | .controlNumbers => afterNumbers .controlNumbers .controlNumbers .controlMiddle .ground byte
    | .controlMiddle => afterNumbers .controlMiddle .ground .controlMiddle .ground byte
    | .deviceStart =>
        if 0x08 ≤ byte && byte ≤ 0x0d then .deviceText
        else afterNumbers .deviceStart .deviceNumbers .deviceMiddle .deviceText byte
    | .deviceNumbers => afterNumbers .deviceNumbers .deviceNumbers .deviceMiddle .deviceText byte
    | .deviceMiddle => afterNumbers .deviceMiddle .deviceText .deviceMiddle .deviceText byte
    | .deviceText => .deviceText
    | .systemText => if byte == 0x07 then .ground else .systemText
    | .quiet => .quiet

end Mode

/-- The columns of a text that a terminal reads in a mode. A printable ASCII character counts on
its own; any other character counts with its cluster. -/
def widthIn (mode : Mode) : List Char → Nat
  | [] => 0
  | c :: rest =>
      if c.toNat < 0x80 then
        let shown := mode = .ground && 0x20 ≤ c.toNat && c.toNat < 0x7f
        (if shown then 1 else 0) + widthIn (mode.afterLow c.toNat) rest
      else if mode.takesText then
        let bytes := Text.encode (String.singleton c)
        widthIn (bytes.foldl (fun m b => m.afterHigh b.toNat) mode) rest
      else
        Text.clusterWidth (Text.clusterFrom c rest).1
          + widthIn .ground (Text.clusterFrom c rest).2
termination_by text => text.length
decreasing_by
  · simp
  · simp
  · exact Text.length_clusterFrom_lt c rest

def widthOf (line : String) : Nat :=
  widthIn .ground line.toList

/-- A piece of a text for wrapping: what it holds and the columns that it takes. -/
structure Item where
  text : List Char
  width : Nat
  deriving DecidableEq

/-- How a string in an order ends: with a bell if it is for the system, with an escape and a
backslash, or with a character that has the closing byte in it. What cannot stand in a string
ends it too and is left. -/
def stringEnd (forSystem : Bool) : List Char → List Char × List Char
  | [] => ([], [])
  | '\x1b' :: '\\' :: rest => (['\x1b', '\\'], rest)
  | c :: rest =>
      if c == '\x1b' || c == '\x18' || c == '\x1a' then ([], c :: rest)
      else if c == '\x07' && forSystem then ([c], rest)
      else if 0x80 ≤ c.toNat && (Text.encode (String.singleton c)).contains 0x9c then ([c], rest)
      else
        let (taken, others) := stringEnd forSystem rest
        (c :: taken, others)

def isNumberMark (c : Char) : Bool :=
  c.isDigit || c == ';' || c == ':'

def isMiddle (c : Char) : Bool :=
  0x20 ≤ c.toNat && c.toNat < 0x30

/-- The rest of an order with numbers, after the character that opened it. One that is not
finished takes what was read of it. -/
def numbersEnd (forDevice : Bool) (text : List Char) : List Char × List Char :=
  let marks := text.takeWhile fun c => 0x3c ≤ c.toNat && c.toNat < 0x40
  let afterMarks := text.drop marks.length
  let numbers := afterMarks.takeWhile isNumberMark
  let afterNumbers := afterMarks.drop numbers.length
  let middle := afterNumbers.takeWhile isMiddle
  let read := marks ++ numbers ++ middle
  match afterNumbers.drop middle.length with
  | [] => (read, [])
  | c :: rest =>
      if 0x40 ≤ c.toNat && c.toNat < 0x7f then
        if forDevice then
          let (taken, others) := stringEnd false rest
          (read ++ c :: taken, others)
        else (read ++ [c], rest)
      else (read, c :: rest)

/-- The rest of an order, after the escape character. -/
def orderEnd (text : List Char) : List Char × List Char :=
  let middle := text.takeWhile isMiddle
  match text.drop middle.length with
  | [] => (middle, [])
  | c :: rest =>
      if c == '[' || c == 'P' then
        let (taken, others) := numbersEnd (c == 'P') rest
        (middle ++ c :: taken, others)
      else if c == ']' || c == 'X' || c == '^' || c == '_' then
        let (taken, others) := stringEnd (c == ']') rest
        (middle ++ c :: taken, others)
      else if 0x30 ≤ c.toNat && c.toNat < 0x7f then (middle ++ [c], rest)
      else (middle, c :: rest)

/-- The first item of a text that starts with `c`, and the rest. -/
def itemFrom (c : Char) (rest : List Char) : Item × List Char :=
  if c == '\x1b' then
    let (taken, others) := orderEnd rest
    ({ text := c :: taken, width := 0 }, others)
  else if c.toNat < 0x80 then
    ({ text := [c], width := if 0x20 ≤ c.toNat && c.toNat < 0x7f then 1 else 0 }, rest)
  else
    let (cluster, others) := Text.clusterFrom c rest
    ({ text := cluster, width := Text.clusterWidth cluster }, others)

def itemsFrom : Nat → List Char → List Item
  | _, [] => []
  | 0, _ => []
  | fuel + 1, c :: rest =>
      let (item, others) := itemFrom c rest
      item :: itemsFrom fuel others

/-- The items of a text; their texts in order are the text. -/
def items (text : List Char) : List Item :=
  itemsFrom text.length text

end SqlMapper.Terminal
