import SqlMapper.Yaml.Place

/-!
Block scalars: the lines below a sign, freed from their indentation. A literal one keeps its line
breaks; a folded one joins lines that are not indented further. Marks after the sign tell the
indentation and what becomes of the last line breaks.
-/
namespace SqlMapper.Yaml

/-- How the last line breaks of a block scalar are kept. -/
inductive Ending where
  | clip | strip | keep
  deriving DecidableEq

structure BlockHeader where
  /-- The indentation relative to the block around it; zero when the lines tell it. -/
  depth : Nat := 0
  ending : Ending := .clip

namespace BlockHeader

def ending? (c : Char) : Option Ending :=
  if c == '-' then some .strip else if c == '+' then some .keep else none

def depth? (c : Char) : Option Nat :=
  if '1' ≤ c && c ≤ '9' then some (c.toNat - '0'.toNat) else none

/-- The header with given marks: at most one of each kind, in either order. -/
def ofMarks? : List Char → Option BlockHeader
  | [] => some {}
  | [a] =>
      match ending? a with
      | some ending => some { ending }
      | none => (depth? a).map fun depth => { depth }
  | [a, b] =>
      match ending? a with
      | some ending => (depth? b).map fun depth => { depth, ending }
      | none => (depth? a).bind fun depth => (ending? b).map fun ending => { depth, ending }
  | _ => none

end BlockHeader

/-- Passes blanks and a comment up to the end of the line. -/
def lineEnd? (p : Place) : Option Place :=
  let q := p.pastRun isGap
  let r := if q.head? == some '#' then q.pastLine else q
  if r.rest.isEmpty || r.isAtBreak then some r else none

/-- What empty lines are read as. -/
structure EmptyLines where
  breaks : List Char := []
  /-- The widest column that blanks reach. -/
  widest : Nat := 0
  /-- The place behind the lines and the indentation of the next one. -/
  after : Place

/-- Passes empty lines and the indentation of the line after them; a depth of zero is not known
yet. Tabs are no indentation. -/
def emptyLinesFrom (depth : Nat) : Nat → List Char → Nat → Place → Option EmptyLines
  | 0, _, _, _ => none
  | fuel + 1, breaks, widest, p =>
      let spaces := p.run (· == ' ')
      let q := p.past (if depth == 0 then spaces else spaces.take (depth - p.column))
      if q.head? == some '\t' && (depth == 0 || q.column < depth) then none
      else if q.isAtBreak then
        emptyLinesFrom depth fuel (breaks ++ q.lineBreak) (max widest q.column) q.nextLine
      else some ⟨breaks, max widest q.column, q⟩

def emptyLines (depth : Nat) (p : Place) : Option EmptyLines :=
  emptyLinesFrom depth (p.left + 1) [] 0 p

/-- What is known after some lines of a block scalar. -/
structure BlockText where
  text : List Char := []
  /-- What the break of the last line is read as. -/
  last : List Char := []
  /-- What the empty lines after it are read as. -/
  empty : List Char
  /-- Whether the last line is indented further. -/
  indented : Bool := false

/-- What stands for the break between the last line and the next one. -/
def BlockText.joint (b : BlockText) (literal indented : Bool) : List Char :=
  if !literal && !b.indented && !indented && b.last == ['\n'] then
    if b.empty.isEmpty then [' '] else []
  else b.last

def blockLines (literal : Bool) (depth : Nat) :
    Nat → BlockText → Place → Option (BlockText × Place)
  | 0, _, _ => none
  | fuel + 1, b, p =>
      if p.column != depth || p.rest.isEmpty then some (b, p)
      else
        let indented := p.head?.any isGap
        let q := p.pastLine
        (emptyLines depth q.pastBreak).bind fun found =>
          blockLines literal depth fuel
            { text := b.text ++ b.joint literal indented ++ b.empty ++ p.run fun c => !isBreak c
              last := q.lineBreak
              empty := found.breaks
              indented } found.after

/-- The text of a block scalar with its last line breaks. -/
def BlockText.ended (b : BlockText) : Ending → List Char
  | .strip => b.text
  | .clip => b.text ++ b.last
  | .keep => b.text ++ b.last ++ b.empty

/-- The block scalar after its sign, and the place behind it. `least` is the least column of its
lines. -/
def blockScalar (literal : Bool) (least : Nat) (p : Place) : Option (List Char × Place) :=
  let marks := p.run fun c => c == '+' || c == '-' || c.isDigit
  (BlockHeader.ofMarks? marks).bind fun header =>
    (lineEnd? (p.past marks)).bind fun top =>
      let given := if header.depth == 0 then 0 else least - 1 + header.depth
      (emptyLines given top.pastBreak).bind fun found =>
        let depth := if given == 0 then max (max found.widest least) 1 else given
        (blockLines literal depth (p.left + 1) { empty := found.breaks } found.after).map
          fun read => (read.1.ended header.ending, read.2)

end SqlMapper.Yaml
