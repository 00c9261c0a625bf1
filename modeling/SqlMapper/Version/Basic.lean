import SqlMapper.Number.Reading
import SqlMapper.Text.Search

/-!
Versions: numbers separated by points, then perhaps a prerelease and build metadata. Versions are
compared number by number, a shorter one being filled with zeros; a prerelease comes before the
version that it leads to.
-/
namespace SqlMapper

structure Version where
  /-- At least three numbers. -/
  segments : List Int
  /-- How many of them were written. -/
  written : Nat
  prerelease : String
  deriving DecidableEq

namespace Version

inductive ReadError where
  | form (text : String)
  | segment (cause : Number.ReadError)
  deriving DecidableEq

def ReadError.message : ReadError → String
  | .form text => "malformed version: " ++ text
  | .segment cause => "error parsing version: " ++ cause.message

def isTagChar (c : Char) : Bool :=
  c.isAlphanum || c == '-' || c == '~'

/-- The pieces that follow, each a point and at least one character of a class. -/
def pointed (inClass : Char → Bool) : Nat → List Char → List Char × List Char
  | 0, text => ([], text)
  | fuel + 1, '.' :: rest =>
      match rest.takeWhile inClass with
      | [] => ([], '.' :: rest)
      | piece =>
          let (more, after) := pointed inClass fuel (rest.dropWhile inClass)
          ('.' :: piece ++ more, after)
  | _ + 1, text => ([], text)

/-- A run of characters of a class and the pointed pieces after it. -/
def dotted (inClass : Char → Bool) (text : List Char) : List Char × List Char :=
  let (more, after) := pointed inClass text.length (text.dropWhile inClass)
  (text.takeWhile inClass ++ more, after)

/-- A hyphen is the mark of a prerelease if something follows it; a prerelease that starts with a
letter needs no mark, and a hyphen alone is one itself. -/
def prereleasePart : List Char → List Char × List Char
  | '-' :: c :: rest =>
      if isTagChar c then dotted isTagChar (c :: rest) else dotted isTagChar ('-' :: c :: rest)
  | c :: rest =>
      if c.isAlpha || c == '-' || c == '~' then dotted isTagChar (c :: rest) else ([], c :: rest)
  | [] => ([], [])

/-- Metadata after a plus sign; a plus sign with nothing after it is left over. -/
def withoutMetadata : List Char → List Char
  | '+' :: c :: rest => if isTagChar c then (dotted isTagChar (c :: rest)).2 else '+' :: c :: rest
  | text => text

/-- The written parts of a version at the start of a text: its numbers, its prerelease, and what is
left over. -/
def spelled (text : List Char) : Option (List Char × List Char × List Char) :=
  let body := match text with
    | 'v' :: rest => rest
    | _ => text
  match body with
  | [] => none
  | c :: _ =>
      if !c.isDigit then none
      else
        let (numbers, rest) := dotted Char.isDigit body
        let (prerelease, rest) := prereleasePart rest
        some (numbers, prerelease, withoutMetadata rest)

def readSegments : List (List Char) → Except ReadError (List Int)
  | [] => .ok []
  | digits :: rest =>
      match Number.readInteger (String.ofList digits) with
      | .error cause => .error (.segment cause)
      | .ok value => (readSegments rest).map (value.toInt :: ·)

def ofParts (numbers prerelease : List Char) : Except ReadError Version :=
  let pieces := Text.splitAt '.' numbers
  (readSegments pieces).map fun segments =>
    ⟨segments ++ List.replicate (3 - segments.length) 0, pieces.length, String.ofList prerelease⟩

def read (text : String) : Except ReadError Version :=
  match spelled text.toList with
  | some (numbers, prerelease, []) => ofParts numbers prerelease
  | _ => .error (.form text)

/-- An integer and whether the text is one; a number too large counts as the largest. -/
def looseInteger (text : List Char) : Int × Bool :=
  match Number.readInteger (String.ofList text) with
  | .ok value => (value.toInt, true)
  | .error ⟨_, _, .range⟩ =>
      (if text.head? == some '-' then Int64.minValue.toInt else Int64.maxValue.toInt, false)
  | .error _ => (0, false)

/-- Compares one part of two prereleases. Numbers come before words; a missing part comes before a
number and after a word. -/
def comparePart (a b : List Char) : Ordering :=
  if a == b then .eq
  else
    let (m, isNumberA) := looseInteger a
    let (n, isNumberB) := looseInteger b
    if a.isEmpty then (if isNumberB then .lt else .gt)
    else if b.isEmpty then (if isNumberA then .gt else .lt)
    else if isNumberA && !isNumberB then .lt
    else if !isNumberA && isNumberB then .gt
    else if !isNumberA && !isNumberB && String.ofList b < String.ofList a then .gt
    else if n < m then .gt
    else .lt

def compareParts : List (List Char) → List (List Char) → Ordering
  | [], [] => .eq
  | a :: as, [] => (comparePart a []).then (compareParts as [])
  | [], b :: bs => (comparePart [] b).then (compareParts [] bs)
  | a :: as, b :: bs => (comparePart a b).then (compareParts as bs)

def comparePrereleases (a b : String) : Ordering :=
  compareParts (Text.splitAt '.' a.toList) (Text.splitAt '.' b.toList)

/-- Numbers from the left; missing ones count as zero. -/
def compareSegments : List Int → List Int → Ordering
  | [], [] => .eq
  | as, [] => if as.all (· == 0) then .eq else .gt
  | [], bs => if bs.all (· == 0) then .eq else .lt
  | a :: as, b :: bs => (compare a b).then (compareSegments as bs)

def order (v w : Version) : Ordering :=
  if v.segments == w.segments then
    if v.prerelease == "" && w.prerelease == "" then .eq
    else if v.prerelease == "" then .gt
    else if w.prerelease == "" then .lt
    else comparePrereleases v.prerelease w.prerelease
  else compareSegments v.segments w.segments

end Version
end SqlMapper
