import SqlMapper.Yaml.Place

/-!
Gaps between the words of a scalar. Blanks on one line are kept. Of a gap that ends a line the
blanks are dropped, and the line breaks are folded: one newline stands for a space, and of several
the first is dropped.
-/
namespace SqlMapper.Yaml

structure Gap where
  blanks : List Char := []
  /-- What the first line break is read as, if there is one. -/
  first : Option (List Char) := none
  /-- What the line breaks after it are read as. -/
  more : List Char := []

namespace Gap

def endsLine (g : Gap) : Bool :=
  g.first.isSome

def text (g : Gap) : List Char :=
  match g.first with
  | none => g.blanks
  | some first =>
      if first == ['\n'] then if g.more.isEmpty then [' '] else g.more
      else first ++ g.more

def withBreak (g : Gap) (found : List Char) : Gap :=
  match g.first with
  | none => { first := some found }
  | some _ => { g with more := g.more ++ found }

/-- Reads on in a gap. A tab is no indentation: after a line break it has to stand at the least
column of the scalar or behind it. -/
def readFrom (least : Nat) : Nat → Gap → Place → Option (Gap × Place)
  | 0, _, _ => none
  | fuel + 1, g, p =>
      match p.head? with
      | none => some (g, p)
      | some c =>
          if isBreak c then readFrom least fuel (g.withBreak p.lineBreak) p.nextLine
          else if !isGap c then some (g, p)
          else if !g.endsLine then readFrom least fuel { g with blanks := g.blanks ++ [c] } p.next
          else if c == '\t' && p.column < least then none
          else readFrom least fuel g p.next

/-- The gap at a place, after a part of it that is known. -/
def read (least : Nat) (known : Gap) (p : Place) : Option (Gap × Place) :=
  readFrom least (p.left + 1) known p

end Gap
end SqlMapper.Yaml
