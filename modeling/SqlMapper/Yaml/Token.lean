import SqlMapper.Yaml.Plain
import SqlMapper.Yaml.Quote
import SqlMapper.Yaml.Tag

/-!
The tokens of a YAML text. Outside of flow collections the indentation opens and closes blocks. A
key is known as one by the colon behind it only: until then it is a candidate, and the token that
announces it is put in front of it afterwards.
-/
namespace SqlMapper.Yaml

inductive Token where
  | directive (directive : Directive)
  | documentStart
  | documentEnd
  | blockSequence
  | blockMapping
  | blockEnd
  | flowSequence
  | flowSequenceEnd
  | flowMapping
  | flowMappingEnd
  | comma
  | dash
  | key
  | value
  | alias (name : String)
  | anchor (name : String)
  | tag (tag : Tag)
  | scalar (text : String) (plain : Bool)
  | streamEnd
  deriving DecidableEq

/-- A place where a key may have begun. -/
structure Candidate where
  /-- The number of tokens before it. -/
  token : Nat
  index : Nat
  line : Nat
  column : Nat
  /-- Whether nothing but a key can stand there. -/
  required : Bool

/-- Whether a colon at a place can still end the key: on its line, and not too far behind. -/
def Candidate.isNear (c : Candidate) (p : Place) : Bool :=
  c.line == p.line && p.index ≤ c.index + 1024

/-- What is known of a text up to a place. -/
structure Scan where
  place : Place
  /-- The tokens so far, the last one first. -/
  tokens : List Token := []
  count : Nat := 0
  /-- The least column of lines that belong to the innermost block. -/
  margin : Nat := 0
  /-- The margins of the blocks around it, the innermost first. -/
  margins : List Nat := []
  candidate : Option Candidate := none
  /-- The candidates outside of each open flow collection, the innermost first. -/
  outer : List (Option Candidate) := []
  /-- Whether a key may begin at the place. -/
  keyAllowed : Bool := true

namespace Scan

def inFlow (s : Scan) : Bool :=
  !s.outer.isEmpty

def push (s : Scan) (token : Token) : Scan :=
  { s with tokens := token :: s.tokens, count := s.count + 1 }

/-- Puts a token in front of those from a number on. -/
def insert (s : Scan) (number : Nat) (token : Token) : Scan :=
  let later := s.count - number
  { s with tokens := s.tokens.take later ++ token :: s.tokens.drop later, count := s.count + 1 }

def allowing (s : Scan) (keyAllowed : Bool) : Scan :=
  { s with keyAllowed }

def upTo (s : Scan) (place : Place) (token : Token) : Scan :=
  { s.push token with place }

/-- Adds a token of one character. -/
def mark (s : Scan) (token : Token) : Scan :=
  s.upTo s.place.next token

/-- Gives the candidate up; a required one has to become a key. -/
def dropCandidate (s : Scan) : Option Scan :=
  match s.candidate with
  | some candidate => if candidate.required then none else some { s with candidate := none }
  | none => some s

/-- Notes the place as one where a key may begin. -/
def saveCandidate (s : Scan) : Option Scan :=
  if s.keyAllowed then
    s.dropCandidate.map fun t =>
      { t with candidate := some {
          token := s.count
          index := s.place.index
          line := s.place.line
          column := s.place.column
          required := !s.inFlow && s.margin == s.place.column + 1 } }
  else some s

/-- The candidate, if a colon at the place ends its key; nothing when a required key has no end. -/
def nearCandidate (s : Scan) : Option (Option Candidate) :=
  match s.candidate with
  | none => some none
  | some candidate =>
      if candidate.isNear s.place then some (some candidate)
      else if candidate.required then none
      else some none

/-- Opens a block at a column behind the margin. -/
def opened (s : Scan) (column number : Nat) (token : Token) : Scan :=
  if s.inFlow || column < s.margin then s
  else { s.insert number token with margin := column + 1, margins := s.margin :: s.margins }

/-- The number of blocks that end before a margin, and the margins that are left. -/
def closing (least margin : Nat) : List Nat → Nat × Nat × List Nat
  | [] => (0, margin, [])
  | outer :: rest =>
      if least < margin then
        let found := closing least outer rest
        (found.1 + 1, found.2)
      else (0, margin, outer :: rest)

/-- Closes the blocks with a margin greater than a given one. -/
def closed (s : Scan) (least : Nat) : Scan :=
  if s.inFlow then s
  else
    let found := closing least s.margin s.margins
    { s with
      tokens := List.replicate found.1 .blockEnd ++ s.tokens
      count := s.count + found.1
      margin := found.2.1
      margins := found.2.2 }

end Scan

/-- Passes blanks and the ends of lines. -/
def pastSpace : Nat → Place → Place
  | 0, p => p
  | fuel + 1, p =>
      if p.isAtBreak then pastSpace fuel p.nextLine
      else if p.head?.any isGap then pastSpace fuel p.next
      else p

/-- The place of a comment on one of the next lines, with nothing but blanks before it. -/
def nextComment? (p : Place) : Option Place :=
  let space := p.run fun c => isGap c || c == '\n' || c == '\r'
  if 0 < space.length && space.length < 512 && p.ahead space.length == some '#' then
    some (pastSpace space.length p)
  else none

/-- Passes a comment, and those on the lines below it. -/
def pastComments : Nat → Place → Place
  | 0, p => p
  | fuel + 1, p =>
      match nextComment? p.pastLine with
      | some q => pastComments fuel q
      | none => p.pastLine

/-- Passes a comment behind a token on the same line. -/
def pastTrailer (p : Place) : Place :=
  let gap := p.run isGap
  if !p.crossed && gap.length < 512 && (p.past gap).head? == some '#' then (p.past gap).pastLine
  else p

namespace Scan

/-- Passes blanks, comments and line breaks. A tab stands for no indentation, so that it may not
stand where a key may. -/
def skipSpace : Nat → Scan → Scan
  | 0, s => s
  | fuel + 1, s =>
      let marked := s.place.column == 0 && s.place.head? == some '\ufeff'
      let start := if marked then s.place.next else s.place
      let p := start.pastRun fun c => c == ' ' || (c == '\t' && (s.inFlow || !s.keyAllowed))
      let q := if p.head? == some '#' then pastComments p.left p else p
      if q.isAtBreak then
        skipSpace fuel { s with place := q.nextLine, keyAllowed := s.keyAllowed || !s.inFlow }
      else { s with place := q }

def document (s : Scan) (token : Token) : Option Scan :=
  (s.closed 0).dropCandidate.map fun t =>
    (t.upTo (t.place.past (t.place.rest.take 3)) token).allowing false

def directive (s : Scan) : Option Scan :=
  (s.closed 0).dropCandidate.bind fun t =>
    (Directive.read t.place).map fun found =>
      (t.upTo found.2 (.directive found.1)).allowing false

def finish (s : Scan) : Option Scan :=
  (s.closed 0).dropCandidate.map fun t => (t.push .streamEnd).allowing false

def openFlow (s : Scan) (token : Token) : Option Scan :=
  s.saveCandidate.map fun t =>
    { t.mark token with candidate := none, outer := t.candidate :: t.outer, keyAllowed := true }

def closeFlow (s : Scan) (token : Token) : Option Scan :=
  s.dropCandidate.map fun t =>
    let closed := match t.outer with
      | candidate :: outer => { t with candidate, outer }
      | [] => t
    (closed.mark token).allowing false

def comma (s : Scan) : Option Scan :=
  s.dropCandidate.map fun t => (t.mark .comma).allowing true

/-- Opens a block at the place, where a key has to be allowed. -/
def openedHere (s : Scan) (token : Token) : Option Scan :=
  if s.inFlow then some s
  else if s.keyAllowed then some (s.opened s.place.column s.count token)
  else none

def dash (s : Scan) : Option Scan :=
  (s.openedHere .blockSequence).bind fun t =>
    t.dropCandidate.map fun u => (u.mark .dash).allowing true

def explicitKey (s : Scan) : Option Scan :=
  (s.openedHere .blockMapping).bind fun t =>
    t.dropCandidate.map fun u => (u.mark .key).allowing !u.inFlow

/-- The colon behind a key. The key of a candidate is announced now. -/
def value (s : Scan) : Option Scan :=
  s.nearCandidate.bind fun
    | some candidate =>
        let announced := s.insert candidate.token .key
        let t := announced.opened candidate.column candidate.token .blockMapping
        some (({ t with candidate := none }.mark .value).allowing false)
    | none =>
        (s.openedHere .blockMapping).map fun t =>
          ({ t with candidate := none }.mark .value).allowing !t.inFlow

/-- The name after the sign of an anchor or alias. -/
def named (s : Scan) (token : String → Token) : Option Scan :=
  s.saveCandidate.bind fun t =>
    let name := t.place.next.run isWord
    let after := t.place.next.past name
    let ends := isBoundary after.head? ||
      after.head?.any fun c => ['?', ':', ',', ']', '\x7d', '%', '@', '\x60'].contains c
    if name.isEmpty || !ends then none
    else some ((t.upTo after (token (String.ofList name))).allowing false)

def tag (s : Scan) : Option Scan :=
  s.saveCandidate.bind fun t =>
    (tag? t.place).map fun found => (t.upTo found.2 (.tag found.1)).allowing false

def block (s : Scan) (literal : Bool) : Option Scan :=
  s.dropCandidate.bind fun t =>
    (blockScalar literal t.margin t.place.next).map fun found =>
      (t.upTo found.2 (.scalar (String.ofList found.1) false)).allowing true

def quotation (s : Scan) (quote : Char) : Option Scan :=
  s.saveCandidate.bind fun t =>
    (quoted quote t.place).map fun found =>
      (t.upTo found.2 (.scalar (String.ofList found.1) false)).allowing false

/-- A plain scalar; a key may begin behind it when it ends a line. -/
def words (s : Scan) : Option Scan :=
  s.saveCandidate.bind fun t =>
    (plain t.inFlow t.margin t.place).map fun found =>
      (t.upTo found.2.2 (.scalar (String.ofList found.1) true)).allowing found.2.1.endsLine

def tokenAt (s : Scan) (c : Char) : Option Scan :=
  let next := s.place.ahead 1
  let parted := s.inFlow || isBoundary next
  if c == '[' then s.openFlow .flowSequence
  else if c == '\x7b' then s.openFlow .flowMapping
  else if c == ']' then s.closeFlow .flowSequenceEnd
  else if c == '\x7d' then s.closeFlow .flowMappingEnd
  else if c == ',' then s.comma
  else if c == '-' && isBoundary next then s.dash
  else if c == '?' && parted then s.explicitKey
  else if c == ':' && parted then s.value
  else if c == '*' then s.named .alias
  else if c == '&' then s.named .anchor
  else if c == '!' then s.tag
  else if (c == '|' || c == '>') && !s.inFlow then s.block (c == '|')
  else if isQuote c then s.quotation c
  else if startsPlain s.inFlow c next then s.words
  else none

/-- Adds the next token and all that it brings about. -/
def step (s : Scan) : Option Scan :=
  let found := s.skipSpace (s.place.left + 1)
  let t := found.closed (found.place.column + 1)
  match t.place.head? with
  | none => t.finish
  | some c =>
      if t.place.column == 0 && c == '%' then t.directive
      else if t.place.isAtMarker '-' then t.document .documentStart
      else if t.place.isAtMarker '.' then t.document .documentEnd
      else
        (t.tokenAt c).map fun u =>
          if u.tokens.head? == some .dash then u else { u with place := pastTrailer u.place }

/-- Scans up to the end or to a fault. -/
def scanFrom : Nat → Scan → Scan
  | 0, s => s
  | fuel + 1, s =>
      match s.step with
      | none => s
      | some next => if next.tokens.head? == some .streamEnd then next else scanFrom fuel next

theorem scanFrom_of_step {s t : Scan} (found : s.step = some t) (fuel : Nat) :
    scanFrom (fuel + 1) s = if t.tokens.head? == some .streamEnd then t else scanFrom fuel t := by
  change (match s.step with
    | none => s
    | some next => if next.tokens.head? == some Token.streamEnd then next else scanFrom fuel next) = _
  rw [found]

/-- The number of tokens in front of the first one that waits to be known as a key. -/
def settled (s : Scan) : Nat :=
  (s.candidate :: s.outer).foldl
    (fun least candidate =>
      match candidate with
      | some c => if c.isNear s.place || c.required then min least c.token else least
      | none => least)
    s.count

end Scan

/-- The tokens of a text as far as they can be looked at. -/
structure Tokens where
  items : List Token
  /-- Whether they are all tokens; then only ends of the text follow. -/
  complete : Bool

/-- The tokens of a text. Each of them is given out once the two after it are known, so that a
fault hides the two tokens before it. -/
def Tokens.ofText (text : List Char) : Tokens :=
  let s := Scan.scanFrom (text.length + 2) { place := .ofText text }
  let items := s.tokens.reverse
  if s.tokens.head? == some .streamEnd then ⟨items, true⟩
  else ⟨items.take (min (s.count - 2) s.settled), false⟩

end SqlMapper.Yaml
