import SqlMapper.Yaml.Gap

/-!
Plain scalars: words without quotes, on any number of lines. A colon before a blank ends one, and
so does a comment after a gap; inside flow collections their marks do too.
-/
namespace SqlMapper.Yaml

/-- Whether a plain scalar begins with a character before another one. -/
def startsPlain (flow : Bool) (c : Char) (next : Option Char) : Bool :=
  if c == '-' then !next.any isGap
  else if c == '?' || c == ':' then !flow && !isBoundary next
  else !isReserved c && !isBreak c

/-- Whether a character before another one ends a plain scalar inside a word. -/
def endsPlain (flow : Bool) (c : Char) (next : Option Char) : Bool :=
  (c == ':' && isBoundary next) ||
    (flow && (isFlowMark c || (c == '?' && isBoundary next && next != some '\t')))

/-- The word of a plain scalar at the start of a text. -/
def plainWord (flow : Bool) : List Char → List Char
  | [] => []
  | c :: rest =>
      if isBoundary (some c) || endsPlain flow c rest.head? then [] else c :: plainWord flow rest

/-- Reads on after a gap: the text, the gap after it, and the place behind that. Outside of flow
collections all lines but the first stand at the least column or behind it. -/
def plainFrom (flow : Bool) (least : Nat) : Nat → Gap → Place → Option (List Char × Gap × Place)
  | 0, _, _ => none
  | fuel + 1, gap, p =>
      let word := if p.isAtBounds || p.head? == some '#' then [] else plainWord flow p.rest
      if word.isEmpty then some ([], gap, p)
      else
        (Gap.read least {} (p.past word)).bind fun found =>
          let text := gap.text ++ word
          if !flow && found.2.column < least then some (text, found)
          else (plainFrom flow least fuel found.1 found.2).map fun more => (text ++ more.1, more.2)

/-- The plain scalar at a place, the gap after it, and the place behind that. -/
def plain (flow : Bool) (least : Nat) (p : Place) : Option (List Char × Gap × Place) :=
  plainFrom flow least (p.left + 1) {} p

end SqlMapper.Yaml
