import SqlMapper.Terminal.Escape
import SqlMapper.Text.Search

/-!
The pen of a terminal: the colors and marks that orders in a text turn on and off, and the link
that they open. Where a line is broken the pen is put down and taken up again.
-/
namespace SqlMapper.Terminal

/-- A color: one of the sixteen basic ones, one of a palette, or a mixture. -/
inductive Color where
  | basic (n : Nat)
  | palette (n : Nat)
  | mixed (red green blue : Nat)
  deriving DecidableEq

/-- How letters are drawn. `marks` holds the codes of what is on, `underline` the kind of the line
under them, zero for none. -/
structure Pen where
  marks : List Nat := []
  underline : Nat := 0
  letters : Option Color := none
  ground : Option Color := none
  line : Option Color := none
  deriving DecidableEq

/-- A link, and what is said about it. -/
structure Link where
  remarks : List Char := []
  target : List Char := []
  deriving DecidableEq

/-- A number of an order, if it is written, and whether a colon joins the next one to it. -/
structure Parameter where
  number : Option Nat := none
  joined : Bool := false

namespace Parameter

def value (p : Parameter) : Nat :=
  p.number.getD 0

def addDigit (p : Parameter) (c : Char) : Parameter :=
  { p with number := some (p.value * 10 + (c.toNat - '0'.toNat)) }

end Parameter

/-- The numbers of an order, the last one standing in `current`. -/
def parametersFrom (current : Parameter) : List Char → List Parameter
  | [] => [current]
  | c :: rest =>
      if c.isDigit then parametersFrom (current.addDigit c) rest
      else { current with joined := c == ':' } :: parametersFrom {} rest

/-- The numbers of an order for the pen, if the text is one. -/
def penParameters? (order : List Char) : Option (List Parameter) :=
  match order with
  | '\x1b' :: '[' :: body =>
      if body.getLast? == some 'm' && body.dropLast.all isNumberMark then
        some (if body.dropLast.isEmpty then [] else parametersFrom {} body.dropLast)
      else none
  | _ => none

/-- A color after the number that asks for one, and how many numbers it takes; none if the numbers
cannot be read as a color. -/
def colorOf : List Parameter → Option (Option Color × Nat)
  | s :: p :: rest =>
      let byte (q : Parameter) := q.value % 256
      match p.value, rest with
      | 0, _ => some (none, 2)
      | 1, _ => some (some (.mixed 0 0 0), 2)
      | 5, q :: _ =>
          if s.joined == p.joined && !q.joined then some (some (.palette (byte q)), 3) else none
      | 2, a :: b :: c :: more =>
          let joined := [s, p, a, b].all (·.joined)
          match more with
          | d :: _ =>
              if joined && c.joined then some (some (.mixed (byte b) (byte c) (byte d)), 6)
              else if joined || [s, p, a, b, c].all (!·.joined) then
                some (some (.mixed (byte a) (byte b) (byte c)), 5)
              else none
          | [] =>
              if c.joined then none
              else if joined || [s, p, a, b].all (!·.joined) then
                some (some (.mixed (byte a) (byte b) (byte c)), 5)
              else none
      | _, _ => none
  | _ => none

namespace Pen

def turnOn (pen : Pen) (code : Nat) : Pen :=
  if pen.marks.contains code then pen else { pen with marks := pen.marks ++ [code] }

def turnOff (pen : Pen) (codes : List Nat) : Pen :=
  { pen with marks := pen.marks.filter (!codes.contains ·) }

/-- Follows a number that stands alone. -/
def obey (pen : Pen) (n : Nat) : Pen :=
  if n == 0 then {}
  else if n == 4 then { pen with underline := 1 }
  else if n ≤ 9 then pen.turnOn n
  else if n == 22 then pen.turnOff [1, 2]
  else if n == 23 then pen.turnOff [3]
  else if n == 24 then { pen with underline := 0 }
  else if n == 25 then pen.turnOff [5, 6]
  else if 27 ≤ n && n ≤ 29 then pen.turnOff [n - 20]
  else if 30 ≤ n && n ≤ 37 then { pen with letters := some (.basic (n - 30)) }
  else if n == 39 then { pen with letters := none }
  else if 40 ≤ n && n ≤ 47 then { pen with ground := some (.basic (n - 40)) }
  else if n == 49 then { pen with ground := none }
  else if n == 59 then { pen with line := none }
  else if 90 ≤ n && n ≤ 97 then { pen with letters := some (.basic (n - 82)) }
  else if 100 ≤ n && n ≤ 107 then { pen with ground := some (.basic (n - 92)) }
  else pen

def setColor (pen : Pen) (n : Nat) (color : Option Color) : Pen :=
  if n == 38 then { pen with letters := color }
  else if n == 48 then { pen with ground := color }
  else { pen with line := color }

/-- Follows the numbers of an order from left to right. -/
def obeyFrom : Nat → Pen → List Parameter → Pen
  | 0, pen, _ => pen
  | _, pen, [] => pen
  | fuel + 1, pen, p :: rest =>
      let n := p.value
      if n == 38 || n == 48 || n == 58 then
        match colorOf (p :: rest) with
        | some (color, count) => obeyFrom fuel (pen.setColor n color) (rest.drop (count - 1))
        | none => obeyFrom fuel pen rest
      else if n == 4 && p.joined then
        match rest with
        | q :: more =>
            if q.value ≤ 5 then obeyFrom fuel { pen with underline := q.value } more
            else obeyFrom fuel pen rest
        | [] => obeyFrom fuel (pen.obey n) rest
      else obeyFrom fuel (pen.obey n) rest

/-- The pen after an order with these numbers; an order without numbers puts it down. -/
def after (pen : Pen) (parameters : List Parameter) : Pen :=
  if parameters.isEmpty then {} else obeyFrom parameters.length pen parameters

/-- Whether blanks look like nothing. -/
def blankIsEmpty (pen : Pen) : Bool :=
  !pen.marks.contains 7 && pen.ground.isNone && pen.underline == 0

def colorCodes (low bright deep : Nat) : Color → List String
  | .basic n => [toString (if n < 8 then low + n else bright + n - 8)]
  | .palette n => [toString deep, "5", toString n]
  | .mixed r g b => [toString deep, "2", toString r, toString g, toString b]

def lineCodes : Color → List String
  | .basic n => ["58", "5", toString n]
  | color => colorCodes 0 0 58 color

/-- The order that takes the pen up. -/
def order (pen : Pen) : String :=
  let marks := ([1, 2, 3, 5, 6, 7, 8, 9].filter (pen.marks.contains ·)).map toString
  let underline :=
    if pen.underline == 0 then []
    else if pen.underline == 1 then ["4"]
    else ["4:" ++ toString pen.underline]
  let colors := (pen.letters.map (colorCodes 30 90 38)).getD []
    ++ (pen.ground.map (colorCodes 40 100 48)).getD [] ++ (pen.line.map lineCodes).getD []
  "\x1b[" ++ Text.join ";" (marks ++ underline ++ colors) ++ "m"

/-- The order that puts the pen down. -/
def rest : String :=
  "\x1b[m"

end Pen

namespace Link

/-- The link after an order of the system's with the number eight and three parts. -/
def after (link : Link) (order : List Char) : Link :=
  match order with
  | '\x1b' :: ']' :: body =>
      let body := body.takeWhile fun c => c != '\x07' && c != '\x1b'
      let digits := body.takeWhile Char.isDigit
      let number := digits.foldl (fun n c => n * 10 + (c.toNat - '0'.toNat)) 0
      match Text.splitAt ';' body with
      | [_, remarks, target] => if number == 8 then { remarks, target } else link
      | _ => link
  | _ => link

/-- The order that opens a link; an empty one closes it. -/
def order (link : Link) : String :=
  "\x1b]8;" ++ String.ofList link.remarks ++ ";" ++ String.ofList link.target ++ "\x07"

end Link

end SqlMapper.Terminal
