import SqlMapper.Files.Path

/-!
Glob patterns on slash-separated paths. A star matches within a segment, a question mark one
character other than the separator, a class in brackets one of its characters, and braces one of
several alternatives. Two stars that make up a whole segment match any number of directories.
Matching goes from left to right and falls back to the last star, then to the last double star.
-/
namespace SqlMapper.Glob

/-- The rest after the bracket that closes a class. -/
def classRest : List Char → Option (List Char)
  | [] => none
  | c :: rest =>
      if c == '\\' then
        match rest with
        | [] => none
        | _ :: rest => classRest rest
      else if c == ']' then some rest
      else classRest rest

/-- A class after its opening bracket: whether it is negated, and its body, which is not empty. -/
def classOpen : List Char → Option (Bool × List Char)
  | [] => none
  | c :: rest =>
      let (negated, body) := if c == '!' || c == '^' then (true, rest) else (false, c :: rest)
      match body with
      | [] => none
      | first :: _ => if first == ']' then none else some (negated, body)

def validFrom : Nat → Nat → List Char → Bool
  | 0, _, _ => false
  | _ + 1, depth, [] => depth == 0
  | fuel + 1, depth, c :: rest =>
      if c == '\\' then
        match rest with
        | [] => false
        | _ :: rest => validFrom fuel depth rest
      else if c == '[' then
        match (classOpen rest).bind fun found => classRest found.2 with
        | some rest => validFrom fuel depth rest
        | none => false
      else if c == '{' then validFrom fuel (depth + 1) rest
      else if c == '}' then depth != 0 && validFrom fuel (depth - 1) rest
      else validFrom fuel depth rest

/-- Whether a pattern is well formed: escapes, classes and braces are closed. -/
def validChars (pattern : List Char) : Bool :=
  validFrom (pattern.length + 1) 0 pattern

def valid (pattern : String) : Bool :=
  validChars pattern.toList

/-- The outcome of a match; a pattern may turn out to be ill formed on the way. -/
inductive Verdict where
  | yes
  | no
  | bad
  deriving DecidableEq

/-- No match, provided that the rest of the pattern is well formed. -/
def failed (pattern : List Char) : Verdict :=
  if validChars pattern then .no else .bad

/-- The character that an item of a class stands for, and what follows the item. -/
def classItem (item : Char) (rest : List Char) : Char × List Char :=
  if item == '\\' then
    match rest with
    | [] => ('\ufffd', [])
    | escaped :: rest => (escaped, rest)
  else (item, rest)

/-- The ends of a range whose first end was read before, and what follows the range. The last code
point begins no range. -/
def classRange : Option Char → Char → List Char → Option (Char × Char × List Char)
  | some low, '-', next :: after =>
      if next == ']' || low.toNat == 0x10ffff then none
      else some (low, classItem next after)
  | _, _, _ => none

/-- Looks a character up in the body of a class. The second part is what was not read: after a hit
the rest of the class, else what follows its last item. -/
def classSearch (c : Char) : Nat → Option Char → List Char → Bool × List Char
  | 0, _, body => (false, body)
  | _ + 1, _, [] => (false, [])
  | fuel + 1, last, item :: rest =>
      if item == ']' then (false, item :: rest)
      else match classRange last item rest with
        | some (low, high, after) =>
            if low ≤ c && c ≤ high then (true, after) else classSearch c fuel .none after
        | none =>
            let (item, rest) := classItem item rest
            if item == c then (true, rest) else classSearch c fuel (some item) rest

/-- Splits the inside of braces, up to the closing one, at the commas of its own level. -/
def alternatives : Nat → List Char → List Char → Option (List (List Char) × List Char)
  | _, _, [] => none
  | depth, done, '\\' :: rest =>
      match rest with
      | [] => none
      | c :: rest => alternatives depth (c :: '\\' :: done) rest
  | depth, done, c :: rest =>
      if c == '{' then alternatives (depth + 1) (c :: done) rest
      else if c == '}' then
        if depth == 0 then some ([done.reverse], rest)
        else alternatives (depth - 1) (c :: done) rest
      else if c == ',' && depth == 0 then
        (alternatives 0 [] rest).map fun (more, after) => (done.reverse :: more, after)
      else alternatives depth (c :: done) rest

/-- The first verdict that is not a plain no. -/
def firstDecided {α : Type} (judge : α → Verdict) : List α → Verdict
  | [] => .no
  | item :: rest =>
      match judge item with
      | .no => firstDecided judge rest
      | decided => decided

/-- Whether a pattern matches the empty text; a trailing `/**` counts, since it may stand for
nothing. -/
def matchesNothing : Nat → List Char → Verdict
  | 0, _ => .no
  | fuel + 1, pattern =>
      if ["", "*", "**", "/**", "**/", "/**/"].any fun empty => empty.toList == pattern then .yes
      else match pattern with
        | '{' :: inner =>
            match alternatives 0 [] inner with
            | none => .bad
            | some (choices, after) =>
                firstDecided (fun choice => matchesNothing fuel (choice ++ after)) choices
        | _ => failed pattern

/-- A place to fall back to: what of the pattern and of the name was left there. -/
structure Mark where
  pattern : List Char
  name : List Char

structure State where
  pattern : List Char
  name : List Char
  /-- Whether a segment of the pattern starts here. -/
  fresh : Bool
  star : Option Mark
  deep : Option Mark

/-- The name after its next separator. -/
def nextSegment : List Char → Option (List Char)
  | [] => none
  | c :: rest => if c == Path.separator then some rest else nextSegment rest

/-- The state to go on from when the pattern does not fit: one more character for the last star, or
one more directory for the last double star. -/
def State.fallback (s : State) : Option State :=
  let deeper := match s.deep with
    | none => none
    | some mark =>
        match nextSegment mark.name with
        | none => none
        | some name =>
            some { s with
              pattern := mark.pattern, name, fresh := true, deep := some ⟨mark.pattern, name⟩ }
  match s.star with
  | some ⟨pattern, c :: name⟩ =>
      if c == Path.separator then deeper
      else some { s with pattern, name, fresh := false, star := some ⟨pattern, name⟩ }
  | _ => deeper

/-- Puts an alternative in the place of the braces that `old` starts with, also where a fallback
would come past them. -/
def Mark.splice (old new : List Char) (mark : Mark) : Mark :=
  { mark with pattern := mark.pattern.take (mark.pattern.length - old.length) ++ new }

/-- One step of matching: go on, or stop with a verdict. -/
inductive Step where
  | proceed (next : State)
  | stop (verdict : Verdict)
  | choose (states : List State)
  /-- The pattern does not fit; what is unread of it has yet to be checked. -/
  | unfit (unread : List Char)

def literalStep (s : State) (p c : Char) (name rest : List Char) : Step :=
  if p == c then .proceed { s with pattern := rest, name, fresh := p == Path.separator }
  else .unfit s.pattern

def starStep (s : State) (rest : List Char) : Step :=
  let single := fun (after : List Char) =>
    Step.proceed { s with pattern := after, fresh := false, star := some ⟨after, s.name⟩ }
  match rest with
  | '*' :: after =>
      if s.fresh then
        match after with
        | [] => .stop .yes
        | c :: deeper =>
            if c == Path.separator then
              .proceed { s with pattern := deeper, star := none, deep := some ⟨deeper, s.name⟩ }
            else single after
      else single after
  | _ => single rest

def classStep (s : State) (c : Char) (name rest : List Char) : Step :=
  match classOpen rest with
  | none => .stop .bad
  | some (negated, body) =>
      let (found, unread) := classSearch c (body.length + 1) none body
      if found == negated then (if unread.isEmpty then .stop .bad else .unfit unread)
      else match classRest unread with
        | none => .stop .bad
        | some after => .proceed { s with pattern := after, name, fresh := false }

def braceStep (s : State) (inner : List Char) : Step :=
  match alternatives 0 [] inner with
  | none => .stop .bad
  | some (choices, after) =>
      .choose (choices.map fun choice =>
        let pattern := choice ++ after
        let splice := Mark.splice s.pattern pattern
        { s with pattern, fresh := true, star := s.star.map splice, deep := s.deep.map splice })

/-- The step at the first character of the pattern; the name is not empty. -/
def State.step (s : State) : Step :=
  match s.pattern, s.name with
  | [], _ | _, [] => .unfit s.pattern
  | p :: rest, c :: name =>
      if p == '*' then starStep s rest
      else if p == '?' then
        if c == Path.separator then .unfit s.pattern
        else .proceed { s with pattern := rest, name, fresh := false }
      else if p == '[' then classStep s c name rest
      else if p == '{' then braceStep s rest
      else if p == '\\' then
        match rest with
        | [] => .stop .bad
        | escaped :: rest => literalStep s escaped c name rest
      else literalStep s p c name rest

def run : Nat → State → Verdict
  | 0, _ => .no
  | fuel + 1, s =>
      if s.name.isEmpty then matchesNothing (s.pattern.length + 1) s.pattern
      else match s.step with
        | .proceed next => run fuel next
        | .stop verdict => verdict
        | .choose states => firstDecided (run fuel) states
        | .unfit unread =>
            match s.fallback with
            | some next => run fuel next
            | none => failed unread

/-- Enough steps for every fallback. -/
def stepsFor (pattern name : List Char) : Nat :=
  let size := (pattern.length + 2) * (name.length + 2)
  size * size

def verdict (pattern name : List Char) : Verdict :=
  run (stepsFor pattern name) ⟨pattern, name, true, none, none⟩

/-- Whether a path matches a pattern as a whole. -/
def fits (pattern name : String) : Bool :=
  verdict pattern.toList name.toList = .yes

end SqlMapper.Glob

namespace SqlMapper

/-- The pattern for mapper documents when none is given. -/
def defaultPattern : String :=
  "*-mapper.xml"

def effectivePattern (pattern : String) : String :=
  if pattern == "" then defaultPattern else pattern

def selects (directory pattern path : String) : Bool :=
  match Path.relative? directory path with
  | some inside => Glob.fits (effectivePattern pattern) inside
  | none => false

/-- Whether a pattern turns out to be ill formed at a path below a directory. -/
def breaks (directory pattern path : String) : Bool :=
  match Path.relative? directory path with
  | some inside => Glob.verdict (effectivePattern pattern).toList inside.toList = .bad
  | none => false

end SqlMapper
