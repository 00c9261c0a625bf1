import SqlMapper.Number.Reading
import SqlMapper.Text.Utf8
import SqlMapper.Yaml.Block

/-!
Tags, which name the kind of a node, and the lines before a document that give the version and
declare handles for tags.
-/
namespace SqlMapper.Yaml

/-- A tag as it is written: what its handle stands for, and what follows. -/
structure Tag where
  handle : String
  suffix : String
  deriving DecidableEq

def isUriChar (c : Char) : Bool :=
  isWord c || [';', '/', '?', ':', '@', '&', '=', '+', '$', ',', '.', '!', '~', '*', '\'', '(', ')',
    '[', ']'].contains c

/-- The byte that a percent sign and two hexadecimal digits stand for. -/
def escapedByte? : List Char → Option UInt8
  | '%' :: a :: b :: _ => (Number.unsigned 16 false [a, b]).toOption.map Nat.toUInt8
  | _ => none

/-- The number of bytes of a character by the first of them. -/
def byteCount? (first : UInt8) : Option Nat :=
  if first < 0x80 then some 1
  else if 0xc0 ≤ first && first < 0xe0 then some 2
  else if 0xe0 ≤ first && first < 0xf0 then some 3
  else if 0xf0 ≤ first && first < 0xf8 then some 4
  else none

/-- The bytes after the first one of an escaped character. -/
def tailBytes : Nat → Place → Option (List UInt8 × Place)
  | 0, p => some ([], p)
  | count + 1, p =>
      (escapedByte? p.rest).bind fun byte =>
        if Text.isTail byte then
          (tailBytes count (p.past (p.rest.take 3))).map fun more => (byte :: more.1, more.2)
        else none

/-- A character that is written by its bytes. -/
def escapedBytes (p : Place) : Option (List UInt8 × Place) :=
  (escapedByte? p.rest).bind fun first =>
    (byteCount? first).bind fun count =>
      (tailBytes (count - 1) (p.past (p.rest.take 3))).map fun more => (first :: more.1, more.2)

def uriFrom : Nat → Place → Option (List Char × Place)
  | 0, _ => none
  | fuel + 1, p =>
      match p.head? with
      | none => some ([], p)
      | some c =>
          if c == '%' then
            (escapedBytes p).bind fun found =>
              (uriFrom fuel found.2).map fun more =>
                ((Text.decode found.1).toList ++ more.1, more.2)
          else if isUriChar c then (uriFrom fuel p.next).map fun more => (c :: more.1, more.2)
          else some ([], p)

/-- The characters of an identifier at a place, and the place after them. -/
def uri (p : Place) : Option (List Char × Place) :=
  uriFrom (p.left + 1) p

/-- An identifier that is not empty. -/
def uri? (p : Place) : Option (List Char × Place) :=
  (uri p).bind fun found => if found.2.index == p.index then none else some found

/-- An exclamation mark and the word after it, with a second exclamation mark if there is one. -/
def handleAt (p : Place) : List Char :=
  let word := p.next.run isWord
  if (p.next.past word).head? == some '!' then '!' :: word ++ ['!'] else '!' :: word

/-- Whether a text is a handle by its form alone. -/
def isHandle (text : List Char) : Bool :=
  1 < text.length && text.getLast? == some '!'

/-- The tag at an exclamation mark. -/
def tagAt? (p : Place) : Option (Tag × Place) :=
  if p.ahead 1 == some '<' then
    (uri? p.next.next).bind fun found =>
      if found.2.head? == some '>' then some (⟨"", String.ofList found.1⟩, found.2.next)
      else none
  else
    let handle := handleAt p
    let start := p.past handle
    if isHandle handle then
      (uri? start).map fun found => (⟨String.ofList handle, String.ofList found.1⟩, found.2)
    else
      (uri start).map fun found =>
        let suffix := handle.drop 1 ++ found.1
        (if suffix.isEmpty then ⟨"", "!"⟩ else ⟨"!", String.ofList suffix⟩, found.2)

/-- A tag ends before a blank, a line break, or the end. -/
def tag? (p : Place) : Option (Tag × Place) :=
  (tagAt? p).bind fun found => if isBoundary found.2.head? then some found else none

/-- A line before a document. -/
inductive Directive where
  | version (major minor : Nat)
  | handle (name meaning : String)
  deriving DecidableEq

namespace Directive

/-- A number of at most two digits. -/
def number? (p : Place) : Option (Nat × Place) :=
  let digits := p.run Char.isDigit
  if 2 < digits.length then none
  else (Number.unsigned 10 false digits).toOption.map fun value => (value, p.past digits)

def version? (p : Place) : Option (Directive × Place) :=
  (number? (p.pastRun isGap)).bind fun major =>
    if major.2.head? == some '.' then
      (number? major.2.next).map fun minor => (version major.1 minor.1, minor.2)
    else none

def handle? (p : Place) : Option (Directive × Place) :=
  let start := p.pastRun isGap
  let name := handleAt start
  let after := start.past name
  let sound := start.head? == some '!' && (isHandle name || name == ['!'])
  if !sound || !after.head?.any isGap then none
  else
    (uri? (after.pastRun isGap)).bind fun found =>
      if isBoundary found.2.head? then
        some (handle (String.ofList name) (String.ofList found.1), found.2)
      else none

/-- The directive at a percent sign, and the place at the end of its line. -/
def read (p : Place) : Option (Directive × Place) :=
  let name := p.next.run isWord
  let after := p.next.past name
  let found :=
    if !isBoundary after.head? then none
    else if name == "YAML".toList then version? after
    else if name == "TAG".toList then handle? after
    else none
  found.bind fun directive => (lineEnd? directive.2).map fun last => (directive.1, last.pastBreak)

end Directive
end SqlMapper.Yaml
