import SqlMapper.Yaml.Character

/-!
A place in a text: what is left to read, and the line and column that structure is told by.
-/
namespace SqlMapper.Yaml

structure Place where
  rest : List Char
  /-- The number of characters of the whole text. -/
  total : Nat
  /-- The number of characters before the place. -/
  index : Nat := 0
  line : Nat := 0
  column : Nat := 0
  /-- Whether a line was ended since the last character that is not blank. -/
  crossed : Bool := false

namespace Place

def ofText (text : List Char) : Place :=
  { rest := text, total := text.length }

def left (p : Place) : Nat :=
  p.total - p.index

def head? (p : Place) : Option Char :=
  p.rest.head?

def ahead (p : Place) (steps : Nat) : Option Char :=
  p.rest[steps]?

/-- The place after characters of its line. -/
def past (p : Place) (taken : List Char) : Place where
  rest := p.rest.drop taken.length
  total := p.total
  index := p.index + taken.length
  line := p.line
  column := p.column + taken.length
  crossed := p.crossed && taken.all isGap

/-- The place after one character of its line. -/
def next (p : Place) : Place :=
  p.past (p.rest.take 1)

/-- The characters of a class that stand here. -/
def run (p : Place) (belongs : Char → Bool) : List Char :=
  p.rest.takeWhile belongs

def pastRun (p : Place) (belongs : Char → Bool) : Place :=
  p.past (p.run belongs)

def pastLine (p : Place) : Place :=
  p.pastRun fun c => !isBreak c

/-- The place at the start of the next line; a carriage return and a newline are one break. -/
def nextLine (p : Place) : Place :=
  let size := if p.rest.take 2 == ['\r', '\n'] then 2 else 1
  { p with
    rest := p.rest.drop size
    index := p.index + size
    line := p.line + 1
    column := 0
    crossed := true }

def isAtBreak (p : Place) : Bool :=
  p.head?.any isBreak

/-- What the line break at a place is read as: a newline, or one of the two separators as it is. -/
def lineBreak (p : Place) : List Char :=
  match p.head? with
  | some c => if !isBreak c then [] else if c == '\u2028' || c == '\u2029' then [c] else ['\n']
  | none => []

/-- The place after a line break, if there is one. -/
def pastBreak (p : Place) : Place :=
  if p.isAtBreak then p.nextLine else p

/-- Whether three signs at the start of a line mark the bounds of a document. -/
def isAtMarker (p : Place) (sign : Char) : Bool :=
  p.column == 0 && p.rest.take 3 == [sign, sign, sign] && isBoundary (p.ahead 3)

/-- Whether a document begins or ends here. -/
def isAtBounds (p : Place) : Bool :=
  p.isAtMarker '-' || p.isAtMarker '.'

end Place
end SqlMapper.Yaml
