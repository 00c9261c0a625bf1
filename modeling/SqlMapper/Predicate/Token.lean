/-!
Tokens of test expressions. At each place the first rule that applies decides: a number, a word, an
operator, or blanks, which are dropped. Any other character makes the text no test.
-/
namespace SqlMapper.Predicate

inductive Comparator where
  | equal | notEqual | lessEqual | greaterEqual | less | greater
  deriving DecidableEq

def Comparator.symbol : Comparator → String
  | .equal => "=="
  | .notEqual => "!="
  | .lessEqual => "<="
  | .greaterEqual => ">="
  | .less => "<"
  | .greater => ">"

inductive Token where
  | number (digits : String)
  | word (name : String)
  | comparator (op : Comparator)
  | and
  | or
  | not
  | minus
  | open
  | close
  deriving DecidableEq

/-- Tab, newline, form feed, carriage return and space; no other blank is dropped. -/
def isGap (c : Char) : Bool :=
  c == '\t' || c == '\n' || c == '\x0c' || c == '\r' || c == ' '

def isWordStart (c : Char) : Bool :=
  c.isAlpha || c == '_'

def isWordTail (c : Char) : Bool :=
  isWordStart c || c.isDigit

/-- The longest run of characters of a class, and the rest. -/
def run (inClass : Char → Bool) (text : List Char) : List Char × List Char :=
  (text.takeWhile inClass, text.dropWhile inClass)

/-- Digits after a mark that `lead` spells, if there are any. -/
def digitsAfter (lead text : List Char) : List Char × List Char :=
  match run Char.isDigit text with
  | ([], _) => ([], lead ++ text)
  | (digits, rest) => (lead ++ digits, rest)

/-- The fraction of a number: a point and digits. -/
def fraction : List Char → List Char × List Char
  | '.' :: rest => digitsAfter ['.'] rest
  | text => ([], text)

/-- The exponent of a number: its mark, an optional sign and digits. -/
def exponent : List Char → List Char × List Char
  | c :: rest =>
      if c == 'e' || c == 'E' then
        match rest with
        | '-' :: tail => digitsAfter [c, '-'] tail
        | '+' :: tail => digitsAfter [c, '+'] tail
        | _ => digitsAfter [c] rest
      else ([], c :: rest)
  | [] => ([], [])

def number (text : List Char) : List Char × List Char :=
  let (whole, rest) := run Char.isDigit text
  let (part, rest) := fraction rest
  let (power, rest) := exponent rest
  (whole ++ part ++ power, rest)

/-- An operator, the longer ones first. -/
def operator : List Char → Option (Token × List Char)
  | '=' :: '=' :: rest => some (.comparator .equal, rest)
  | '!' :: '=' :: rest => some (.comparator .notEqual, rest)
  | '<' :: '=' :: rest => some (.comparator .lessEqual, rest)
  | '>' :: '=' :: rest => some (.comparator .greaterEqual, rest)
  | '&' :: '&' :: rest => some (.and, rest)
  | '|' :: '|' :: rest => some (.or, rest)
  | '<' :: rest => some (.comparator .less, rest)
  | '>' :: rest => some (.comparator .greater, rest)
  | '!' :: rest => some (.not, rest)
  | '(' :: rest => some (.open, rest)
  | ')' :: rest => some (.close, rest)
  | '-' :: rest => some (.minus, rest)
  | _ => none

/-- The next token, or `none` in its place for blanks, and the rest of the text. -/
def lexeme : List Char → Option (Option Token × List Char)
  | [] => none
  | c :: rest =>
      if c.isDigit then
        let (digits, rest) := number (c :: rest)
        some (some (.number (String.ofList digits)), rest)
      else if isWordStart c then
        let (name, rest) := run isWordTail (c :: rest)
        some (some (.word (String.ofList name)), rest)
      else match operator (c :: rest) with
        | some (token, rest) => some (some token, rest)
        | none => if isGap c then some (none, rest.dropWhile isGap) else none

def scanFrom : Nat → List Char → Option (List Token)
  | 0, _ => none
  | _ + 1, [] => some []
  | fuel + 1, text =>
      match lexeme text with
      | none => none
      | some (token, rest) => (scanFrom fuel rest).map (token.toList ++ ·)

def scan (text : String) : Option (List Token) :=
  scanFrom (text.length + 1) text.toList

end SqlMapper.Predicate
