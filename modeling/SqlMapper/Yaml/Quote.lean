import SqlMapper.Number.Reading
import SqlMapper.Yaml.Gap

/-!
Quoted scalars. Between single quotes only the quote itself is written twice; between double quotes
a backslash begins an escape, and before a line break it joins the lines. No document begins or
ends inside quotes.
-/
namespace SqlMapper.Yaml

def shortEscapes : List (Char × Char) := [
  ('0', '\x00'), ('a', '\x07'), ('b', '\x08'), ('t', '\t'), ('\t', '\t'), ('n', '\n'),
  ('v', '\x0b'), ('f', '\x0c'), ('r', '\r'), ('e', '\x1b'), (' ', ' '), ('"', '"'), ('\'', '\''),
  ('\\', '\\'), ('N', '\u0085'), ('_', '\u00a0'), ('L', '\u2028'), ('P', '\u2029')]

/-- The number of hexadecimal digits that follow an escape. -/
def hexWidth (c : Char) : Option Nat :=
  if c == 'x' then some 2 else if c == 'u' then some 4 else if c == 'U' then some 8 else none

def codeChar (digits : List Char) : Option Char :=
  match Number.unsigned 16 false digits with
  | .ok code => if code.isValidChar then some (Char.ofNat code) else none
  | .error _ => none

/-- The character that an escape after its backslash stands for, and the letters of the escape. -/
def escapeMeaning (text : List Char) : Option (Char × List Char) :=
  text.head?.bind fun c =>
    match shortEscapes.lookup c with
    | some meant => some (meant, [c])
    | none =>
        (hexWidth c).bind fun width =>
          let digits := (text.drop 1).take width
          if digits.length < width then none
          else (codeChar digits).map fun meant => (meant, c :: digits)

def quotedFrom (quote : Char) : Nat → Place → Option (List Char × Place)
  | 0, _ => none
  | fuel + 1, p =>
      let resume := fun (known : Gap) (start : Place) =>
        (Gap.read 0 known start).bind fun found =>
          if found.2.isAtBounds then none
          else (quotedFrom quote fuel found.2).map fun more => (found.1.text ++ more.1, more.2)
      match p.head? with
      | none => none
      | some c =>
          if isGap c || isBreak c then resume {} p
          else if c == '\\' && quote == '"' then
            if p.next.isAtBreak then resume { first := some [] } p.next.nextLine
            else (escapeMeaning p.next.rest).bind fun found =>
              (quotedFrom quote fuel (p.next.past found.2)).map fun more =>
                (found.1 :: more.1, more.2)
          else if c != quote then
            (quotedFrom quote fuel p.next).map fun more => (c :: more.1, more.2)
          else if quote == '\'' && p.ahead 1 == some '\'' then
            (quotedFrom quote fuel p.next.next).map fun more => (c :: more.1, more.2)
          else some ([], p.next)

/-- The text between the quote at a place and its closing one, and the place after it. -/
def quoted (quote : Char) (p : Place) : Option (List Char × Place) :=
  quotedFrom quote (p.left + 1) p.next

end SqlMapper.Yaml
