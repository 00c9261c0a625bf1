import SqlMapper.Number.Reading

/-!
Scalars of YAML documents, and what an unquoted text stands for: nothing, a truth value, an
integer, a floating point number, a date, or itself.
-/
namespace SqlMapper.Yaml

inductive Scalar where
  | null
  | bool (value : Bool)
  | int (value : Int)
  | float (value : Binary64)
  | date
  | text (value : String)
  deriving DecidableEq

namespace Scalar

/-- The words that stand for a value of their own. -/
def words : List (String × Scalar) := [
  ("", null), ("~", null), ("null", null), ("Null", null), ("NULL", null),
  ("true", bool true), ("True", bool true), ("TRUE", bool true),
  ("false", bool false), ("False", bool false), ("FALSE", bool false),
  (".nan", float .notANumber), (".NaN", float .notANumber), (".NAN", float .notANumber),
  (".inf", float (.infinity false)), (".Inf", float (.infinity false)),
  (".INF", float (.infinity false)), ("+.inf", float (.infinity false)),
  ("+.Inf", float (.infinity false)), ("+.INF", float (.infinity false)),
  ("-.inf", float (.infinity true)), ("-.Inf", float (.infinity true)),
  ("-.INF", float (.infinity true))]

/-- An integer whose base is told by its mark: signed within 64 bits, or unsigned within them. -/
def integer? (text : List Char) : Option Int :=
  match Number.readMarkedInteger (String.ofList text) with
  | .ok value => some value.toInt
  | .error _ =>
      match text.head? with
      | some c =>
          if c.isDigit then (Number.marked text text).toOption.map fun value => (value : Int) else none
      | none => none

/-- Digits with an optional fraction, or a fraction alone. -/
def mantissaRest (text : List Char) : Option (List Char) :=
  match text.takeWhile Char.isDigit, text.dropWhile Char.isDigit with
  | [], '.' :: rest =>
      if (rest.takeWhile Char.isDigit).isEmpty then none else some (rest.dropWhile Char.isDigit)
  | [], _ => none
  | _, '.' :: rest => some (rest.dropWhile Char.isDigit)
  | _, rest => some rest

def isDecimal (text : List Char) : Bool :=
  match mantissaRest (Number.signed text).2 with
  | none => false
  | some [] => true
  | some (mark :: rest) =>
      let digits := (Number.signed rest).2
      (mark == 'e' || mark == 'E') && !digits.isEmpty && digits.all Char.isDigit

def float? (text : List Char) : Option Binary64 :=
  if isDecimal text then (Number.float text).toOption else none

def daysOf (year month : Nat) : Nat :=
  if month == 2 then
    if (year % 4 == 0 && year % 100 != 0) || year % 400 == 0 then 29 else 28
  else if month == 4 || month == 6 || month == 9 || month == 11 then 30
  else 31

/-- A number of one or two digits, and the rest. -/
def shortNumber : List Char → Option (Nat × List Char)
  | [] => none
  | a :: rest =>
      let value := fun (c : Char) => c.toNat - '0'.toNat
      if !a.isDigit then none
      else match rest with
        | b :: after =>
            if b.isDigit then some (10 * value a + value b, after) else some (value a, rest)
        | [] => some (value a, [])

/-- Drops a mark that has to stand first. -/
def after (mark : Char) : List Char → Option (List Char)
  | c :: rest => if c == mark then some rest else none
  | [] => none

/-- Reads a day of the calendar: a year of four digits, a month and a day. -/
def dateRest (text : List Char) : Option (List Char) := do
  let year := text.takeWhile Char.isDigit
  let y ← (Number.unsigned 10 false year).toOption
  let (m, rest) ← shortNumber (← after '-' (text.dropWhile Char.isDigit))
  let (d, rest) ← shortNumber (← after '-' rest)
  if year.length == 4 && 1 ≤ m && m ≤ 12 && 1 ≤ d && d ≤ daysOf y m then some rest else none

/-- A fraction of a second is any number of digits. -/
def fractionRest : List Char → List Char
  | mark :: c :: rest =>
      if (mark == '.' || mark == ',') && c.isDigit then rest.dropWhile Char.isDigit
      else mark :: c :: rest
  | other => other

/-- Reads a time of the day with seconds. -/
def clockRest (text : List Char) : Option (List Char) := do
  let (hours, rest) ← shortNumber text
  let (minutes, rest) ← shortNumber (← after ':' rest)
  let (seconds, rest) ← shortNumber (← after ':' rest)
  if hours < 24 && minutes < 60 && seconds < 60 then some (fractionRest rest) else none

/-- Whether a text is the offset of a time zone. -/
def isZone : List Char → Bool
  | ['Z'] => true
  | [sign, a, b, mark, c, d] =>
      (sign == '+' || sign == '-') && mark == ':' && [a, b, c, d].all Char.isDigit &&
        (Number.unsigned 10 false [a, b]).toOption.any (· ≤ 24) &&
        (Number.unsigned 10 false [c, d]).toOption.any (· ≤ 60)
  | _ => false

/-- Whether a text is a day, a day and a time, or those with a time zone. -/
def isDate (text : List Char) : Bool :=
  match dateRest text with
  | none => false
  | some [] => true
  | some (c :: rest) =>
      if c == ' ' then clockRest (rest.dropWhile (· == ' ')) == some []
      else (c == 'T' || c == 't') && (clockRest rest).any isZone

/-- A text that begins with a digit or a sign; underscores between digits do not count. -/
def ofDigits (text : List Char) : Option Scalar :=
  let plain := text.filter (· != '_')
  if isDate text then some .date
  else match integer? plain with
    | some value => some (.int value)
    | none => (float? plain).map .float

def ofPlain (text : String) : Scalar :=
  match words.lookup text with
  | some scalar => scalar
  | none =>
      match text.toList with
      | [] => .null
      | c :: rest =>
          let other :=
            if c == '.' then (Number.float (c :: rest)).toOption.map .float
            else if c.isDigit || c == '+' || c == '-' then ofDigits (c :: rest)
            else none
          other.getD (.text text)

end Scalar
end SqlMapper.Yaml
