import SqlMapper.Text.Quoted
import SqlMapper.Text.Search

/-!
Templates: a percent sign and a letter stand for the next of a list of texts. `s` and `v` put it in
as it is, `q` between quotes, `x` in hexadecimal; a width pads it and a precision cuts it, and a
number in brackets chooses the text. What does not fit together is said in the result.
-/
namespace SqlMapper.Text

/-- The directions between a percent sign and its letter. -/
structure Directions where
  left : Bool := false
  zero : Bool := false
  sharp : Bool := false
  plus : Bool := false
  space : Bool := false
  width : Option Nat := none
  precision : Option Nat := none

/-- Where filling stands: the text to come next, whether any text was chosen by number, whether
the numbers of this direction are in order, and whether a number was read last. -/
structure Cursor where
  next : Nat := 0
  reordered : Bool := false
  sound : Bool := true
  chosen : Bool := false

def flagsOf : Directions → List Char → Directions × List Char
  | d, [] => (d, [])
  | d, c :: rest =>
      if c == '-' then flagsOf { d with left := true } rest
      else if c == '0' then flagsOf { d with zero := true } rest
      else if c == '#' then flagsOf { d with sharp := true } rest
      else if c == '+' then flagsOf { d with plus := true } rest
      else if c == ' ' then flagsOf { d with space := true } rest
      else (d, c :: rest)

/-- The greatest number to which a further digit may be added. -/
def greatestCount : Nat := 1000000

/-- The digits at the start of a text as a number, and the rest. A number that grows too large is
none, and nothing is left after it. -/
def countFrom : Option Nat → List Char → Option Nat × List Char
  | known, [] => (known, [])
  | known, c :: rest =>
      if !c.isDigit then (known, c :: rest)
      else if greatestCount < known.getD 0 then (none, [])
      else countFrom (some (known.getD 0 * 10 + (c.toNat - '0'.toNat))) rest

/-- The number between brackets, whose opening one has been read, and the rest. Brackets that hold
something else are passed over; an open bracket that is not closed is alone passed over. -/
def choiceOf (text : List Char) : Option Nat × List Char :=
  match text.dropWhile (· != ']') with
  | [] => (none, text)
  | _ :: rest =>
      match countFrom none (text.takeWhile (· != ']')) with
      | (some n, []) => (some n, rest)
      | _ => (none, if text.length < 2 then text else rest)

/-- Reads a number in brackets, if one stands here; texts are counted from one. -/
def choose (count : Nat) (k : Cursor) : List Char → Cursor × List Char
  | '[' :: text =>
      let k := { k with reordered := true }
      match choiceOf text with
      | (some n, rest) =>
          if 0 < n && n ≤ count then ({ k with next := n - 1, chosen := true }, rest)
          else ({ k with sound := false, chosen := true }, rest)
      | (none, rest) => ({ k with sound := false, chosen := false }, rest)
  | text => ({ k with chosen := false }, text)

/-- A star takes the next text as a number, which a text never is. -/
def passStar (count : Nat) (k : Cursor) : Cursor :=
  { k with next := if k.next < count then k.next + 1 else k.next, chosen := false }

/-- What is read between a percent sign and its letter, and what had to be said of it. -/
structure Reading where
  directions : Directions
  cursor : Cursor
  remarks : String := ""
  rest : List Char

def withWidth (count : Nat) (r : Reading) : Reading :=
  match r.rest with
  | '*' :: rest =>
      { r with cursor := passStar count r.cursor, remarks := r.remarks ++ "%!(BADWIDTH)", rest }
  | text =>
      let (width, rest) := countFrom none text
      let cursor := { r.cursor with sound := r.cursor.sound && !(r.cursor.chosen && width.isSome) }
      { r with directions := { r.directions with width }, cursor, rest }

def withPrecision (count : Nat) (r : Reading) : Reading :=
  match r.rest with
  | '.' :: text =>
      let before := { r.cursor with sound := r.cursor.sound && !r.cursor.chosen }
      match choose count before text with
      | (cursor, '*' :: rest) =>
          { r with cursor := passStar count cursor, remarks := r.remarks ++ "%!(BADPREC)", rest }
      | (cursor, text) =>
          let (precision, rest) := countFrom none text
          { r with directions := { r.directions with precision := some (precision.getD 0) },
                   cursor, rest }
  | _ => r

/-- Reads flags, a choice, a width, a precision and a choice, in this order and each if present. -/
def readingOf (count : Nat) (k : Cursor) (text : List Char) : Reading :=
  let (directions, afterFlags) := flagsOf {} text
  let (cursor, rest) := choose count { k with sound := true } afterFlags
  let r := withPrecision count (withWidth count { directions, cursor, rest })
  if r.cursor.chosen then r
  else
    let (cursor, rest) := choose count r.cursor r.rest
    { r with cursor, rest }

def padded (d : Directions) (text : String) : String :=
  match d.width with
  | none => text
  | some width =>
      let fill := width - text.length
      if d.left then text ++ replicate fill ' '
      else if d.zero then replicate fill '0' ++ text
      else replicate fill ' ' ++ text

def shortened (d : Directions) (text : String) : String :=
  match d.precision with
  | none => text
  | some count => String.ofList (text.toList.take count)

/-- The text between quotes: between grave accents if `sharp` asks for it and they can hold it. -/
def quotedBy (d : Directions) (text : String) : String :=
  let text := shortened d text
  if d.sharp && isRaw text then "\x60" ++ text ++ "\x60"
  else if d.plus then quotedAscii text
  else quoted text

/-- The bytes of a text in hexadecimal; a precision counts bytes, and marks stand before the whole
or, with blanks between them, before each byte. -/
def hexText (d : Directions) (upper : Bool) (text : String) : String :=
  let bytes := text.toUTF8.toList
  let bytes := match d.precision with
    | none => bytes
    | some count => bytes.take count
  let digits := bytes.map fun b =>
    let two := hexDigits 2 b.toNat
    String.ofList (if upper then two.map Char.toUpper else two)
  let mark := if !d.sharp then "" else if upper then "0X" else "0x"
  if bytes.isEmpty then ""
  else if d.space then join " " (digits.map (mark ++ ·))
  else mark ++ String.join digits

/-- A text as a letter asks for it. A letter that asks for nothing known is shown with the text. -/
def directed (d : Directions) (letter : Char) (text : String) : String :=
  let sharpless := { d with sharp := false, plus := false }
  let asValue := if d.sharp then quotedBy sharpless text else shortened d text
  if letter == 's' then padded d (shortened d text)
  else if letter == 'v' then padded d asValue
  else if letter == 'q' then padded d (quotedBy d text)
  else if letter == 'x' || letter == 'X' then padded d (hexText d (letter == 'X') text)
  else if letter == 'T' then padded d (shortened d "string")
  else
    let shown := if letter == 'w' then asValue else shortened d text
    "%!" ++ String.singleton letter ++ "(string=" ++ padded d shown ++ ")"

def unused (arguments : List String) : String :=
  if arguments.isEmpty then ""
  else "%!(EXTRA " ++ join ", " (arguments.map fun a => "string=" ++ a) ++ ")"

/-- What is said at the end of texts that were left over; nothing if any was chosen by number. -/
def leftOver (arguments : List String) (k : Cursor) : String :=
  if k.reordered then "" else unused (arguments.drop k.next)

def fillFrom (arguments : List String) : Nat → Cursor → List Char → String
  | 0, _, _ => ""
  | _, k, [] => leftOver arguments k
  | fuel + 1, k, c :: rest =>
      if c != '%' then String.singleton c ++ fillFrom arguments fuel k rest
      else
        let r := readingOf arguments.length k rest
        r.remarks ++ match r.rest with
        | [] => "%!(NOVERB)" ++ leftOver arguments r.cursor
        | letter :: more =>
            if letter == '%' then "%" ++ fillFrom arguments fuel r.cursor more
            else if !r.cursor.sound then
              "%!" ++ String.singleton letter ++ "(BADINDEX)" ++ fillFrom arguments fuel r.cursor more
            else match arguments[r.cursor.next]? with
              | none =>
                  "%!" ++ String.singleton letter ++ "(MISSING)"
                    ++ fillFrom arguments fuel r.cursor more
              | some argument =>
                  directed r.directions letter argument
                    ++ fillFrom arguments fuel { r.cursor with next := r.cursor.next + 1 } more

def fill (template : String) (arguments : List String) : String :=
  fillFrom arguments (template.length + 1) {} template.toList

end SqlMapper.Text
