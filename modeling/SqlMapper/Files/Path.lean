import SqlMapper.Text.Search

/-!
Slash-separated paths, handled by their spelling alone.
-/
namespace SqlMapper.Path

def separator : Char :=
  '/'

def isRooted (path : String) : Bool :=
  path.toList.head? == some separator

/-- The parts between separators, without the empty ones. -/
def parts (path : String) : List String :=
  ((Text.splitAt separator path.toList).filter fun part => !part.isEmpty).map String.ofList

def ofParts (rooted : Bool) (parts : List String) : String :=
  let body := Text.join "/" parts
  if rooted then "/" ++ body else if parts.isEmpty then "." else body

/-- Takes one part onto the cleaned parts, which are in reverse. -/
def cleanPart (rooted : Bool) (done : List String) (part : String) : List String :=
  if part == "." then done
  else if part == ".." then
    match done with
    | [] => if rooted then [] else [".."]
    | last :: before => if last == ".." then ".." :: done else before
  else part :: done

/-- The shortest spelling: no empty parts, no `.`, and `..` only in front. -/
def clean (path : String) : String :=
  let rooted := isRooted path
  ofParts rooted ((parts path).foldl (cleanPart rooted) []).reverse

/-- A path below a directory; an empty directory adds nothing. -/
def join (directory path : String) : String :=
  if directory == "" then (if path == "" then "" else clean path)
  else if path == "" then clean directory
  else clean (directory ++ "/" ++ path)

def base (path : String) : String :=
  if path == "" then "."
  else match (parts path).getLast? with
    | some part => part
    | none => "/"

/-- Whether a path ends in a separator, which only a directory may. -/
def endsOpen (path : String) : Bool :=
  path.toList.getLast? == some separator

def directory (path : String) : String :=
  let rooted := isRooted path
  clean (ofParts rooted (if endsOpen path then parts path else (parts path).dropLast))

/-- Drops the parts that two lists begin with in common. -/
def dropCommon : List String → List String → List String × List String
  | a :: as, b :: bs => if a == b then dropCommon as bs else (a :: as, b :: bs)
  | as, bs => (as, bs)

/-- The parts of a cleaned path; the current directory has none. -/
def baseParts (cleaned : String) : List String :=
  if cleaned == "." then [] else parts cleaned

/-- The spelling of `target` seen from `directory`, if there is one. -/
def relative? (directory target : String) : Option String :=
  let source := clean directory
  let goal := clean target
  if source == goal then some "."
  else if isRooted source != isRooted goal then none
  else
    let (up, down) := dropCommon (baseParts source) (baseParts goal)
    if up.head? == some ".." then none
    else some (Text.join "/" (up.map (fun _ => "..") ++ down))

end SqlMapper.Path
