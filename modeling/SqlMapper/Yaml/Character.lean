/-!
The classes of characters that the structure of a YAML text rests on.
-/
namespace SqlMapper.Yaml

def isGap (c : Char) : Bool :=
  c == ' ' || c == '\t'

def isBreak (c : Char) : Bool :=
  c == '\n' || c == '\r' || c == '\u0085' || c == '\u2028' || c == '\u2029'

def isQuote (c : Char) : Bool :=
  c == '"' || c == '\''

def isFlowMark (c : Char) : Bool :=
  c == ',' || c == '[' || c == ']' || c == '\x7b' || c == '\x7d'

def isReserved (c : Char) : Bool :=
  isFlowMark c || isQuote c || c == '#' || c == '&' || c == '*' || c == '!' || c == '|' ||
    c == '>' || c == '%' || c == '@' || c == '\x60' || isGap c

/-- Characters of the names of anchors and handles. -/
def isWord (c : Char) : Bool :=
  c.isAlphanum || c == '_' || c == '-'

/-- Whether a word ends before what follows: a blank, a line break, or nothing. -/
def isBoundary : Option Char → Bool
  | none => true
  | some c => isGap c || isBreak c

def isAllowed (c : Char) : Bool :=
  c == '\t' || c == '\n' || c == '\r' || (' ' ≤ c && c ≤ '~') || c == '\u0085' ||
    ('\u00a0' ≤ c && c != '\ufffe' && c != '\uffff')

end SqlMapper.Yaml
