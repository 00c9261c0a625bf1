import SqlMapper.Number.Binary64
import SqlMapper.Text.Quoted

/-!
Reading numbers. Integers are signed 64-bit decimals, or take their base from a mark such as `0x`;
floating point numbers are decimal or hexadecimal, or one of the words for infinity and for what is
not a number. A text that does not read gives the cause.
-/
namespace SqlMapper.Number

inductive Fault where
  | form
  | range
  deriving DecidableEq

def Fault.message : Fault → String
  | .form => "invalid syntax"
  | .range => "value out of range"

/-- Which reader refused which text, and why. -/
structure ReadError where
  reader : String
  text : String
  fault : Fault
  deriving DecidableEq

def ReadError.message (e : ReadError) : String :=
  "strconv." ++ e.reader ++ ": parsing " ++ Text.quoted e.text ++ ": " ++ e.fault.message

def digitValue (c : Char) : Option Nat :=
  if '0' ≤ c && c ≤ '9' then some (c.toNat - '0'.toNat)
  else if 'a' ≤ c && c ≤ 'z' then some (c.toNat - 'a'.toNat + 10)
  else if 'A' ≤ c && c ≤ 'Z' then some (c.toNat - 'A'.toNat + 10)
  else none

def signed : List Char → Bool × List Char
  | '+' :: rest => (false, rest)
  | '-' :: rest => (true, rest)
  | text => (false, text)

/-- Reads digits from the left and stops at the first fault: a character that is no digit, or the
digit at which 64 bits no longer suffice. -/
def unsignedFrom (base : Nat) (marks : Bool) : Nat → List Char → Except Fault Nat
  | value, [] => .ok value
  | value, c :: rest =>
      if marks && c == '_' then unsignedFrom base marks value rest
      else match digitValue c with
        | none => .error .form
        | some digit =>
            if base ≤ digit then .error .form
            else
              let next := value * base + digit
              if UInt64.size ≤ next then .error .range else unsignedFrom base marks next rest

def unsigned (base : Nat) (marks : Bool) : List Char → Except Fault Nat
  | [] => .error .form
  | digits => unsignedFrom base marks 0 digits

/-- The last kind of character seen while checking underscores. -/
inductive Seen where
  | start | digit | underscore | other
  deriving DecidableEq

def underscoresFrom (hex : Bool) : Seen → List Char → Bool
  | seen, [] => seen != .underscore
  | seen, c :: rest =>
      if c.isDigit || (hex && (('a' ≤ c && c ≤ 'f') || ('A' ≤ c && c ≤ 'F'))) then
        underscoresFrom hex .digit rest
      else if c == '_' then seen == .digit && underscoresFrom hex .underscore rest
      else seen != .underscore && underscoresFrom hex .other rest

/-- Underscores stand only between digits; a base mark counts as a digit. -/
def underscoresSound (text : List Char) : Bool :=
  match (signed text).2 with
  | '0' :: mark :: rest =>
      if mark == 'x' || mark == 'X' then underscoresFrom true .digit rest
      else if mark == 'b' || mark == 'B' || mark == 'o' || mark == 'O' then
        underscoresFrom false .digit rest
      else underscoresFrom false .start ('0' :: mark :: rest)
  | body => underscoresFrom false .start body

/-- A magnitude whose base is told by its mark: `0x`, `0o`, `0b`, a leading `0`, or ten. -/
def marked (text body : List Char) : Except Fault Nat :=
  let read := match body with
    | '0' :: mark :: digit :: rest =>
        if mark == 'x' || mark == 'X' then unsigned 16 true (digit :: rest)
        else if mark == 'b' || mark == 'B' then unsigned 2 true (digit :: rest)
        else if mark == 'o' || mark == 'O' then unsigned 8 true (digit :: rest)
        else unsigned 8 true (mark :: digit :: rest)
    | '0' :: rest => if rest.isEmpty then .ok 0 else unsigned 8 true rest
    | body => unsigned 10 true body
  read.bind fun value =>
    if text.contains '_' && !underscoresSound text then .error .form else .ok value

/-- Puts the sign on a magnitude, if 64 bits hold the result. -/
def fitted (negative : Bool) (value : Nat) : Except Fault Int64 :=
  if negative then
    if value ≤ Binary64.signWeight then .ok (Int64.ofInt (-(value : Int))) else .error .range
  else if value < Binary64.signWeight then .ok (Int64.ofInt value) else .error .range

def asReadError (reader text : String) {α : Type} : Except Fault α → Except ReadError α
  | .ok value => .ok value
  | .error fault => .error ⟨reader, text, fault⟩

/-- A signed decimal integer of 64 bits. -/
def readInteger (text : String) : Except ReadError Int64 :=
  let (negative, body) := signed text.toList
  asReadError "ParseInt" text ((unsigned 10 false body).bind (fitted negative))

/-- A signed integer of 64 bits whose base is told by its mark. -/
def readMarkedInteger (text : String) : Except ReadError Int64 :=
  let (negative, body) := signed text.toList
  asReadError "ParseInt" text ((marked text.toList body).bind (fitted negative))

/-- The digits of a mantissa as one number, and how many of them stand after the point. -/
structure Mantissa where
  value : Nat := 0
  places : Nat := 0
  digits : Bool := false
  point : Bool := false

def mantissa (base : Nat) : Mantissa → List Char → Mantissa × List Char
  | m, [] => (m, [])
  | m, c :: rest =>
      if c == '_' then mantissa base m rest
      else if c == '.' then
        if m.point then (m, c :: rest) else mantissa base { m with point := true } rest
      else match digitValue c with
        | none => (m, c :: rest)
        | some digit =>
            if base ≤ digit then (m, c :: rest)
            else mantissa base
              { m with
                value := m.value * base + digit
                places := if m.point then m.places + 1 else m.places
                digits := true } rest

def exponentDigits : Nat → List Char → Option Nat
  | value, [] => some value
  | value, c :: rest =>
      if c == '_' then exponentDigits value rest
      else if c.isDigit then
        exponentDigits (if value < 10000 then value * 10 + (c.toNat - '0'.toNat) else value) rest
      else none

/-- The exponent after its mark: an optional sign and digits to the end. -/
def exponent (text : List Char) : Option Int :=
  let (negative, body) := signed text
  match body with
  | [] => none
  | c :: _ =>
      if !c.isDigit then none
      else (exponentDigits 0 body).map fun value => if negative then -(value : Int) else value

/-- `value * base ^ power`, rounded; far outside the range of doubles the power is not computed. -/
def scaled (negative : Bool) (value base : Nat) (power : Int) : Except Fault Binary64 :=
  if value == 0 then .ok (Binary64.ofMagnitude negative 0)
  else
    -- the value lies between base ^ (top - 1) and base ^ top
    let top : Int := (Nat.toDigits base value).length + power
    if 1100 < top then .error .range
    else if top < -1200 then .ok (Binary64.ofMagnitude negative 0)
    else
      let rounded :=
        if 0 ≤ power then Binary64.ofRatio negative (value * Nat.pow base power.toNat) 1
        else Binary64.ofRatio negative value (Nat.pow base (-power).toNat)
      match rounded with
      | some x => .ok x
      | none => .error .range

def decimalFloat (negative : Bool) (body : List Char) : Except Fault Binary64 :=
  let (m, rest) := mantissa 10 {} body
  if !m.digits then .error .form
  else match rest with
    | [] => scaled negative m.value 10 (-(m.places : Int))
    | mark :: tail =>
        if mark == 'e' || mark == 'E' then
          match exponent tail with
          | some power => scaled negative m.value 10 (power - m.places)
          | none => .error .form
        else .error .form

def hexFloat (negative : Bool) (body : List Char) : Except Fault Binary64 :=
  let (m, rest) := mantissa 16 {} body
  if !m.digits then .error .form
  else match rest with
    | [] => .error .form
    | mark :: tail =>
        if mark == 'p' || mark == 'P' then
          match exponent tail with
          | some power => scaled negative m.value 2 (power - 4 * m.places)
          | none => .error .form
        else .error .form

/-- The words for infinity, with a sign, and for what is not a number, without one. -/
def wordFloat (text : List Char) : Option Binary64 :=
  let lower := text.map Char.toLower
  let (negative, body) := signed lower
  if body == "inf".toList || body == "infinity".toList then some (Binary64.infinity negative)
  else if lower == "nan".toList then some Binary64.notANumber
  else none

def float (text : List Char) : Except Fault Binary64 :=
  match wordFloat text with
  | some x => .ok x
  | none =>
      let (negative, body) := signed text
      let read := match body with
        | '0' :: mark :: c :: rest =>
            if mark == 'x' || mark == 'X' then hexFloat negative (c :: rest)
            else decimalFloat negative body
        | _ => decimalFloat negative body
      if text.contains '_' && !underscoresSound text then .error .form else read

/-- A double precision number, the nearest to what the text denotes. -/
def readFloat (text : String) : Except ReadError Binary64 :=
  asReadError "ParseFloat" text (float text.toList)

end SqlMapper.Number
