/-!
Blank characters, and cutting them off the ends of a text. SQL text is trimmed of the six ASCII
blanks; the emptiness of a test is judged by the Unicode ones.
-/
namespace SqlMapper.Text

/-- Space, tab, newline, vertical tab, form feed and carriage return. -/
def isBlank (c : Char) : Bool :=
  c == ' ' || ('\t' ≤ c && c ≤ '\r')

/-- The blanks of the Unicode White_Space property. -/
def isUnicodeBlank (c : Char) : Bool :=
  isBlank c || c == '\u0085' || c == '\u00a0' || c == '\u1680' ||
    ('\u2000' ≤ c && c ≤ '\u200a') || c == '\u2028' || c == '\u2029' ||
    c == '\u202f' || c == '\u205f' || c == '\u3000'

/-- Cuts the longest run of `blank` characters off the end. -/
def dropRight (blank : Char → Bool) (text : List Char) : List Char :=
  (text.reverse.dropWhile blank).reverse

/-- Cuts the longest run of `blank` characters off both ends. -/
def strip (blank : Char → Bool) (text : List Char) : List Char :=
  dropRight blank (text.dropWhile blank)

/-- A text without the Unicode blanks around it. -/
def trimmed (text : String) : String :=
  String.ofList (strip isUnicodeBlank text.toList)

end SqlMapper.Text
