import SqlMapper.Xml.Tree

/-!
Reading a document as tokens: start and end tags, character data, comments, instructions and
directives. A fault is reported with the line on which reading stopped, one more than the newlines
read so far.
-/
namespace SqlMapper.Xml

inductive Fault where
  | unexpectedEnd
  | elementName
  | endName
  | afterEndName (tag : String)
  | target
  | lonelyHyphen
  | doubleHyphen
  | bracket
  | openSection
  | slash
  | attributeName
  | attributeEquals
  | attributeQuote
  | lessInValue
  | sectionEnd
  | reference (text : String)
  | name (text : String)
  | encoding
  | character (code : Nat)
  deriving DecidableEq

def Fault.message : Fault → String
  | .unexpectedEnd => "unexpected EOF"
  | .elementName => "expected element name after <"
  | .endName => "expected element name after </"
  | .afterEndName tag => "invalid characters between </" ++ tag ++ " and >"
  | .target => "expected target name after <?"
  | .lonelyHyphen => "invalid sequence <!- not part of <!--"
  | .doubleHyphen => "invalid sequence \"--\" not allowed in comments"
  | .bracket => "invalid <![ sequence"
  | .openSection => "unexpected EOF in CDATA section"
  | .slash => "expected /> in element"
  | .attributeName => "expected attribute name in element"
  | .attributeEquals => "attribute name without = in element"
  | .attributeQuote => "unquoted or missing attribute value in element"
  | .lessInValue => "unescaped < inside quoted string"
  | .sectionEnd => "unescaped ]]> not in CDATA section"
  | .reference text => "invalid character entity " ++ text
  | .name text => "invalid XML name: " ++ text
  | .encoding => "invalid UTF-8"
  | .character code =>
      "illegal character code U+" ++ String.ofList ((Text.hexDigits 4 code).map Char.toUpper)

/-- Where reading stopped, given by the bytes not yet read. -/
inductive Stop where
  | fault (fault : Fault) (rest : List UInt8)
  | version (found : List UInt8)

abbrev Bytes := List UInt8

/-- A step of the reader: a value and the bytes after it. -/
abbrev Read (α : Type) := Bytes → Except Stop (α × Bytes)

def byte (c : Char) : UInt8 :=
  c.toNat.toUInt8

def next : Read UInt8
  | [] => .error (.fault .unexpectedEnd [])
  | b :: rest => .ok (b, rest)

def skipSpace (bytes : Bytes) : Bytes :=
  bytes.dropWhile fun b => b == 0x20 || b == 0x0a || b == 0x0d || b == 0x09

def isNameByte (b : UInt8) : Bool :=
  0x80 ≤ b || (byte 'a' ≤ b && b ≤ byte 'z') || (byte 'A' ≤ b && b ≤ byte 'Z') ||
    (byte '0' ≤ b && b ≤ byte '9') || b == byte '_' || b == byte ':' || b == byte '.' ||
    b == byte '-'

/-- The run of name bytes; a run that reaches the end of the document is a fault, an empty run is
not. -/
def nameRun : Read Bytes
  | [] => .error (.fault .unexpectedEnd [])
  | b :: rest =>
      if isNameByte b then do
        let (run, rest) ← nameRun rest
        return (b :: run, rest)
      else .ok ([], b :: rest)

/-- A name in well-formed characters, or `missing` where none starts. -/
def plainName (missing : Fault) : Read (List Char) := fun bytes => do
  let (run, rest) ← nameRun bytes
  if run.isEmpty then throw (.fault missing rest)
  match Text.characters? (Text.pieces run) with
  | some text =>
      if isName text then return (text, rest) else throw (.fault (.name (Text.decode run)) rest)
  | none => throw (.fault (.name (Text.decode run)) rest)

def splitName (missing : Fault) : Read Name := fun bytes => do
  let (text, rest) ← plainName missing bytes
  match Name.ofChars text with
  | some name => return (name, rest)
  | none => throw (.fault missing rest)

inductive TextMode where
  | plain
  | quoted (quote : UInt8)
  | verbatim
  deriving DecidableEq

/-- The five references that need no declaration. -/
def entity? (name : Bytes) : Option Char :=
  if name == "lt".toList.map byte then some '<'
  else if name == "gt".toList.map byte then some '>'
  else if name == "amp".toList.map byte then some '&'
  else if name == "apos".toList.map byte then some '\''
  else if name == "quot".toList.map byte then some '"'
  else none

def isRefDigit (hex : Bool) (b : UInt8) : Bool :=
  (byte '0' ≤ b && b ≤ byte '9') ||
    (hex && ((byte 'a' ≤ b && b ≤ byte 'f') || (byte 'A' ≤ b && b ≤ byte 'F')))

/-- Digits up to another byte, which must be there. -/
def digitRun (hex : Bool) : Read Bytes
  | [] => .error (.fault .unexpectedEnd [])
  | b :: rest =>
      if isRefDigit hex b then do
        let (run, rest) ← digitRun hex rest
        return (b :: run, rest)
      else .ok ([], b :: rest)

def digitsValue (base : Nat) (digits : Bytes) : Nat :=
  digits.foldl
    (fun value b =>
      let digit :=
        if b ≤ byte '9' then b.toNat - 0x30
        else if byte 'a' ≤ b then b.toNat - 0x61 + 10
        else b.toNat - 0x41 + 10
      value * base + digit) 0

/-- The character of a number; surrogates become the replacement character. -/
def numbered? (base : Nat) (digits : Bytes) : Option Char :=
  let code := digitsValue base digits
  if digits.isEmpty || 0x10ffff < code then none
  else if 0xd800 ≤ code && code ≤ 0xdfff then some '\ufffd'
  else some (Char.ofNat code)

/-- Closes a reference: the semicolon must follow and the reference must mean something. -/
def closeReference (spelled : Bytes) (meaning : Option Char) : Read Char
  | [] => .error (.fault .unexpectedEnd [])
  | b :: rest =>
      if b == byte ';' then
        match meaning with
        | some c => .ok (c, rest)
        | none => .error (.fault (.reference (Text.decode (byte '&' :: spelled) ++ ";")) rest)
      else
        .error (.fault (.reference (Text.decode (byte '&' :: spelled) ++ " (no semicolon)"))
          (b :: rest))

def reference : Read Char
  | [] => .error (.fault .unexpectedEnd [])
  | b :: rest =>
      if b == byte '#' then
        match rest with
        | [] => .error (.fault .unexpectedEnd [])
        | c :: tail =>
            if c == byte 'x' then do
              let (digits, rest) ← digitRun true tail
              closeReference (byte '#' :: byte 'x' :: digits) (numbered? 16 digits) rest
            else do
              let (digits, rest) ← digitRun false (c :: tail)
              closeReference (byte '#' :: digits) (numbered? 10 digits) rest
      else do
        let (name, rest) ← nameRun (b :: rest)
        closeReference name (entity? name) rest

/-- Reads character data; `older` and `old` are the last two bytes. Both kinds of line end become
a newline, except where a reference spells them. The result is reversed. -/
def textRun (mode : TextMode) : Nat → UInt8 → UInt8 → Bytes → Read Bytes
  | 0, _, _, done => fun rest => .ok (done, rest)
  | fuel + 1, older, old, done => fun
    | [] =>
        if mode = .verbatim then .error (.fault .openSection []) else .ok (done, [])
    | b :: rest =>
        let bracketed := older == byte ']' && old == byte ']' && b == byte '>'
        if bracketed && mode = .verbatim then .ok (done.drop 2, rest)
        else if bracketed && mode = .plain then .error (.fault .sectionEnd rest)
        else if b == byte '<' && mode ≠ .verbatim then
          if mode = .plain then .ok (done, b :: rest) else .error (.fault .lessInValue rest)
        else if mode = .quoted b then .ok (done, rest)
        else if b == byte '&' && mode ≠ .verbatim then do
          let (c, rest) ← reference rest
          textRun mode fuel 0 0 ((Text.encode c.toString).reverse ++ done) rest
        else
          let done :=
            if b == 0x0d then 0x0a :: done
            else if old == 0x0d && b == 0x0a then done
            else b :: done
          textRun mode fuel old b done rest

/-- The first character that may not stand in a document. -/
def textFault : List Text.Piece → Option Fault
  | [] => none
  | .stray _ :: _ => some .encoding
  | .char c :: rest => if isCharacter c then textFault rest else some (.character c.toNat)

def text (mode : TextMode) : Read String := fun bytes => do
  let (reversed, rest) ← textRun mode (bytes.length + 1) 0 0 [] bytes
  let found := Text.pieces reversed.reverse
  match textFault found with
  | some fault => throw (.fault fault rest)
  | none => return (String.ofList (found.map Text.Piece.shown), rest)

inductive Token where
  | open (name : Name) (attributes : List Attribute)
  | close (name : Name)
  | text (data : String)
  | comment (data : String)
  | instruction (target data : String)
  | directive (data : String)

/-- A comment up to its end; two hyphens inside it are a fault. -/
def commentRun : UInt8 → UInt8 → Bytes → Read Bytes
  | _, _, _, [] => .error (.fault .unexpectedEnd [])
  | older, old, done, b :: rest =>
      if older == byte '-' && old == byte '-' then
        if b == byte '>' then .ok (done.drop 2, rest) else .error (.fault .doubleHyphen rest)
      else commentRun old b (b :: done) rest

def instructionRun : UInt8 → Bytes → Read Bytes
  | _, _, [] => .error (.fault .unexpectedEnd [])
  | old, done, b :: rest =>
      if old == byte '?' && b == byte '>' then .ok (done.drop 1, rest)
      else instructionRun b (b :: done) rest

/-- The bytes after the first place where `needle` stands. -/
def afterFirst (needle : Bytes) : Bytes → Option Bytes
  | [] => none
  | b :: rest =>
      match needle.isPrefixOf? (b :: rest) with
      | some after => some after
      | none => afterFirst needle rest

/-- The quoted value after the first `parameter=` that a quote follows. -/
def pseudoAttribute (parameter : Bytes) : Nat → Bytes → Option Bytes
  | 0, _ => none
  | fuel + 1, bytes =>
      match afterFirst parameter bytes with
      | none | some [] => none
      | some (quote :: rest) =>
          if quote == byte '"' || quote == byte '\'' then
            let value := rest.takeWhile (· != quote)
            if value.length < rest.length then some value else none
          else pseudoAttribute parameter fuel rest

def instruction : Read Token := fun bytes => do
  let (target, rest) ← plainName .target bytes
  let (reversed, rest) ← instructionRun 0 [] (skipSpace rest)
  let data := reversed.reverse
  if target == "xml".toList then
    match pseudoAttribute ("version=".toList.map byte) (data.length + 1) data with
    | some found =>
        if !found.isEmpty && found != "1.0".toList.map byte then throw (.version found)
    | none => pure ()
  return (.instruction (String.ofList target) (Text.decode data), rest)

def skipComment : UInt8 → UInt8 → Bytes → Except Stop Bytes
  | _, _, [] => .error (.fault .unexpectedEnd [])
  | older, old, b :: rest =>
      if older == byte '-' && old == byte '-' && b == byte '>' then .ok rest
      else skipComment old b rest

/-- A directive up to the bracket that closes it. Brackets nest, quoted ones do not count, and a
comment counts as a space. -/
def directiveRun : Nat → Option UInt8 → Nat → Bytes → Read Bytes
  | 0, _, _, done => fun rest => .ok (done, rest)
  | fuel + 1, quote, depth, done => fun
    | [] => .error (.fault .unexpectedEnd [])
    | b :: rest =>
        if quote.isNone && b == byte '>' && depth == 0 then .ok (done, rest)
        else if quote == some b then directiveRun fuel none depth (b :: done) rest
        else if quote.isSome then directiveRun fuel quote depth (b :: done) rest
        else if b == byte '\'' || b == byte '"' then
          directiveRun fuel (some b) depth (b :: done) rest
        else if b == byte '>' then directiveRun fuel none (depth - 1) (b :: done) rest
        else if b == byte '<' then
          match (("!--".toList.map byte).isPrefixOf? rest) with
          | some inner => do
              let rest ← skipComment 0 0 inner
              directiveRun fuel none depth (0x20 :: done) rest
          | none => directiveRun fuel none (depth + 1) (b :: done) rest
        else directiveRun fuel none depth (b :: done) rest

/-- Reads the mark that opens a verbatim section, byte by byte. -/
def opening : Bytes → Bytes → Except Stop Bytes
  | [], rest => .ok rest
  | _ :: _, [] => .error (.fault .unexpectedEnd [])
  | expected :: more, b :: rest =>
      if b == expected then opening more rest else .error (.fault .bracket rest)

/-- What follows `<!`: a comment, a verbatim section or a directive. -/
def declaration : Read Token := fun bytes => do
  let (b, rest) ← next bytes
  if b == byte '-' then
    let (c, rest) ← next rest
    if c != byte '-' then throw (.fault .lonelyHyphen rest)
    let (reversed, rest) ← commentRun 0 0 [] rest
    return (.comment (Text.decode reversed.reverse), rest)
  else if b == byte '[' then
    let rest ← opening ("CDATA[".toList.map byte) rest
    let (data, rest) ← text .verbatim rest
    return (.text data, rest)
  else
    let (reversed, rest) ← directiveRun (rest.length + 1) none 0 [b] rest
    return (.directive (Text.decode reversed.reverse), rest)
def endTag : Read Token := fun bytes => do
  let (name, rest) ← splitName .endName bytes
  let (b, rest) ← next (skipSpace rest)
  if b == byte '>' then return (.close name, rest)
  else throw (.fault (.afterEndName name.tag) rest)

/-- The attributes of a start tag, reversed, and whether the element ends with the tag. -/
def attributes : Nat → List Attribute → Read (List Attribute × Bool)
  | 0, done => fun rest => .ok ((done, false), rest)
  | fuel + 1, done => fun bytes => do
      let start := skipSpace bytes
      let (b, rest) ← next start
      if b == byte '/' then
        let (c, rest) ← next rest
        if c == byte '>' then return ((done, true), rest) else throw (.fault .slash rest)
      else if b == byte '>' then return ((done, false), rest)
      else
        let (name, rest) ← splitName .attributeName start
        let (c, rest) ← next (skipSpace rest)
        if c != byte '=' then throw (.fault .attributeEquals rest)
        let (quote, rest) ← next (skipSpace rest)
        if quote != byte '"' && quote != byte '\'' then throw (.fault .attributeQuote rest)
        let (value, rest) ← text (.quoted quote) rest
        attributes fuel (⟨name, value⟩ :: done) rest

/-- A repeated attribute keeps its first place and takes the last value. -/
def mergeAttributes (done : List Attribute) : List Attribute → List Attribute
  | [] => done
  | a :: rest =>
      if done.any (·.name == a.name) then
        mergeAttributes (done.map fun d => if d.name == a.name then a else d) rest
      else mergeAttributes (done ++ [a]) rest

/-- A start tag, with its end tag if it closes itself. -/
def startTag : Read (List Token) := fun bytes => do
  let (name, rest) ← splitName .elementName bytes
  let ((reversed, closed), rest) ← attributes (rest.length + 1) [] rest
  let first := Token.open name (mergeAttributes [] reversed.reverse)
  return (if closed then [first, .close name] else [first], rest)

def single (read : Except Stop (Token × Bytes)) : Except Stop (List Token × Bytes) :=
  read.map fun found => ([found.1], found.2)

/-- The tokens that the next piece of markup or text gives. -/
def step : Read (List Token) := fun bytes => do
  let (b, rest) ← next bytes
  if b != byte '<' then
    let (data, rest) ← text .plain bytes
    return ([.text data], rest)
  let (c, tail) ← next rest
  if c == byte '/' then single (endTag tail)
  else if c == byte '?' then single (instruction tail)
  else if c == byte '!' then single (declaration tail)
  else startTag rest
/-- All tokens up to the end of the document or the first fault. -/
def tokens : Nat → Bytes → List Token × Option Stop
  | 0, _ => ([], none)
  | _ + 1, [] => ([], none)
  | fuel + 1, bytes =>
      match step bytes with
      | .error stop => ([], some stop)
      | .ok (read, rest) =>
          let (more, stop) := tokens fuel rest
          (read ++ more, stop)

end SqlMapper.Xml
