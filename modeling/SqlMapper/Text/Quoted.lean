import SqlMapper.Text.Printable

/-!
Quoted text, as messages show names and values: double quotes around it, a backslash before a
quote or a backslash, short escapes for the seven named controls, and hexadecimal escapes for
everything else that is not printable.
-/
namespace SqlMapper.Text

/-- `width` lower-case hexadecimal digits of `value`, more if it needs them. -/
def hexDigits (width value : Nat) : List Char :=
  let digits := Nat.toDigits 16 value
  List.replicate (width - digits.length) '0' ++ digits

/-- A character that is neither printed nor a quote, as an escape. -/
def escapedChar (c : Char) : List Char :=
  if c == '\x07' then ['\\', 'a']
  else if c == '\x08' then ['\\', 'b']
  else if c == '\x0c' then ['\\', 'f']
  else if c == '\n' then ['\\', 'n']
  else if c == '\r' then ['\\', 'r']
  else if c == '\t' then ['\\', 't']
  else if c == '\x0b' then ['\\', 'v']
  else if c.toNat < 0x20 || c == '\x7f' then '\\' :: 'x' :: hexDigits 2 c.toNat
  else if c.toNat < 0x10000 then '\\' :: 'u' :: hexDigits 4 c.toNat
  else '\\' :: 'U' :: hexDigits 8 c.toNat

/-- One character of a text between double quotes, where `plain` says what stands for itself. -/
def quotedCharBy (plain : Char → Bool) (c : Char) : List Char :=
  if c == '"' || c == '\\' then ['\\', c]
  else if plain c then [c]
  else escapedChar c

def quotedChar (c : Char) : List Char :=
  quotedCharBy Printable.holds c

/-- The text between double quotes, with escapes. -/
def quoted (text : String) : String :=
  String.ofList ('"' :: text.toList.flatMap quotedChar ++ ['"'])

/-- The text between double quotes, with escapes for all but printable ASCII. -/
def quotedAscii (text : String) : String :=
  let plain c := c.toNat < 0x80 && Printable.holds c
  String.ofList ('"' :: text.toList.flatMap (quotedCharBy plain) ++ ['"'])

/-- Whether a text can stand between grave accents as it is: no grave accent, no control but the
tab, no byte order mark. -/
def isRaw (text : String) : Bool :=
  text.toList.all fun c =>
    (0x20 ≤ c.toNat || c == '\t') && c != '\x60' && c != '\x7f' && c != '\ufeff'

end SqlMapper.Text
