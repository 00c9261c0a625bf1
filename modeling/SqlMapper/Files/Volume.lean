import SqlMapper.Files.Path
import SqlMapper.Text.Order

/-!
Volumes: directories and files by path. A volume in memory is lenient: directories come into being
when something is put below them, a directory can be read as a file, and relative and absolute paths
share one root. A disk is strict about all of these, and words its errors differently. A volume may
refuse operations on chosen paths.
-/
namespace SqlMapper

inductive Medium where
  | memory
  | disk
  deriving DecidableEq

/-- What stands at a key; a directory lists the keys that were put into it. -/
structure FileEntry where
  isDirectory : Bool
  contents : List UInt8 := []
  members : List String := []
  deriving DecidableEq

def FileEntry.directory : FileEntry :=
  { isDirectory := true }

/-- The entry with one more member, which makes it a directory. -/
def FileEntry.withMember (entry : FileEntry) (key : String) : FileEntry :=
  let members := if entry.members.contains key then entry.members else entry.members ++ [key]
  { entry with isDirectory := true, members }

def FileEntry.withoutMember (entry : FileEntry) (key : String) : FileEntry :=
  { entry with members := entry.members.filter (· != key) }

/-- Paths on which an operation fails, as they are spelled in the operation. -/
structure Refusals where
  directories : List String := []
  writes : List String := []
  openings : List String := []
  deriving DecidableEq

inductive FileError where
  | refused
  | unknown (operation path : String)
  | noEntry (operation path : String)
  | notDirectory (operation path : String)
  | isDirectory (operation path : String)
  deriving DecidableEq

def FileError.message : FileError → String
  | .refused => "injected failure"
  | .unknown operation path => operation ++ " " ++ path ++ ": file does not exist"
  | .noEntry operation path => operation ++ " " ++ path ++ ": no such file or directory"
  | .notDirectory operation path => operation ++ " " ++ path ++ ": not a directory"
  | .isDirectory operation path => operation ++ " " ++ path ++ ": is a directory"

structure Volume where
  medium : Medium
  /-- The entries by key, the shortest spelling of their path. -/
  entries : List (String × FileEntry) := []
  refusals : Refusals := {}
  deriving DecidableEq

namespace Volume

/-- A volume with its root alone, and on a disk the current directory. -/
def empty (medium : Medium) : Volume :=
  match medium with
  | .memory => { medium, entries := [("/", .directory)] }
  | .disk => { medium, entries := [("/", .directory), (".", .directory)] }

/-- The key of a path by its spelling. In memory the current directory and the one above it are
the root. -/
def keyOf (v : Volume) (path : String) : String :=
  let key := Path.clean path
  if v.medium = .memory && (key == "." || key == "..") then "/" else key

def get? (v : Volume) (key : String) : Option FileEntry :=
  v.entries.lookup key

def isDirectory (v : Volume) (key : String) : Bool :=
  match v.get? key with
  | some entry => entry.isDirectory
  | none => false

/-- Replaces the entry of a key in its place, or adds it at the end. -/
def putEntry (key : String) (entry : FileEntry) :
    List (String × FileEntry) → List (String × FileEntry)
  | [] => [(key, entry)]
  | first :: rest =>
      if first.1 == key then (key, entry) :: rest else first :: putEntry key entry rest

def put (v : Volume) (key : String) (entry : FileEntry) : Volume :=
  { v with entries := putEntry key entry v.entries }

/-- The key of the directory that lists a key. -/
def parentOf (v : Volume) (key : String) : String :=
  v.keyOf (Path.directory key)

/-- Lists a key in its directory. A directory that is not there is made and listed first; a file in
its place becomes a directory and keeps its contents. -/
def listUp : Nat → Volume → String → Volume
  | 0, v, _ => v
  | fuel + 1, v, key =>
      let parent := v.parentOf key
      let v := if (v.get? parent).isSome then v else listUp fuel (v.put parent .directory) parent
      match v.get? parent with
      | some entry => v.put parent (entry.withMember key)
      | none => v

/-- Puts an entry at a key that has none, and lists it. -/
def add (v : Volume) (key : String) (entry : FileEntry) : Volume :=
  listUp ((Path.parts key).length + 2) (v.put key entry) key

/-- Makes a key a directory and keeps what it holds. -/
def putDirectory (v : Volume) (key : String) : Volume :=
  match v.get? key with
  | some entry => v.put key { entry with isDirectory := true }
  | none => v.add key .directory

/-- Puts contents at a key. What is there keeps its kind and its place. -/
def putFile (v : Volume) (key : String) (contents : List UInt8) : Volume :=
  match v.get? key with
  | some entry => v.put key { entry with contents }
  | none => v.add key { isDirectory := false, contents }

/-- Follows the parts of a path from directory to directory. -/
def follow (v : Volume) (operation path : String) :
    List String → List String → Except FileError String
  | done, [] => .ok (Path.ofParts (Path.isRooted path) done.reverse)
  | done, part :: rest =>
      match v.get? (Path.ofParts (Path.isRooted path) done.reverse) with
      | none => .error (.noEntry operation path)
      | some entry =>
          if entry.isDirectory then
            v.follow operation path (Path.cleanPart (Path.isRooted path) done part) rest
          else .error (.notDirectory operation path)

/-- The key of a path. In memory only the spelling counts; on a disk every directory on the way
has to be there. -/
def locate (v : Volume) (operation path : String) : Except FileError String :=
  match v.medium with
  | .memory => .ok (v.keyOf path)
  | .disk =>
      if path == "" then .error (.noEntry operation path)
      else v.follow operation path [] (Path.parts path ++ if Path.endsOpen path then ["."] else [])

/-- The error for a path that leads nowhere; in memory it shows the key. -/
def absent (v : Volume) (operation path : String) : FileError :=
  match v.medium with
  | .memory => .unknown operation (v.keyOf path)
  | .disk => .noEntry operation path

def find (v : Volume) (operation path : String) : Except FileError FileEntry :=
  (v.locate operation path).bind fun key =>
    match v.get? key with
    | some entry => .ok entry
    | none => .error (v.absent operation path)

/-- What is known of a path without opening it. -/
def look (v : Volume) (path : String) : Except FileError FileEntry :=
  v.find (match v.medium with | .memory => "open" | .disk => "stat") path

def read (v : Volume) (path : String) : Except FileError (List UInt8) :=
  if v.refusals.openings.contains path then .error .refused
  else (v.find "open" path).bind fun entry =>
    if v.medium = .disk && entry.isDirectory then .error (.isDirectory "read" path)
    else .ok entry.contents

def write (v : Volume) (path : String) (contents : List UInt8) : Except FileError Volume :=
  if v.refusals.writes.contains path then .error .refused
  else (v.locate "open" path).bind fun key =>
    if v.medium = .disk && v.isDirectory key then .error (.isDirectory "open" path)
    else .ok (v.putFile key contents)

/-- Makes the directories of a path one after the other; `done` is the path so far. -/
def makeEach (v : Volume) (spelled : List String → String) :
    List String → List String → Except FileError Volume
  | _, [] => .ok v
  | done, part :: rest =>
      let path := spelled (done ++ [part])
      let key := Path.clean path
      match v.get? key with
      | some entry =>
          if entry.isDirectory then v.makeEach spelled (done ++ [part]) rest
          else .error (.notDirectory "mkdir" path)
      | none => (v.add key .directory).makeEach spelled (done ++ [part]) rest

/-- Makes a directory with those above it. In memory a file may stand in its place. -/
def makeDirectory (v : Volume) (path : String) : Except FileError Volume :=
  if v.refusals.directories.contains path then .error .refused
  else match v.medium with
    | .memory =>
        let key := v.keyOf path
        if (v.get? key).isSome then .ok v else .ok (v.add key .directory)
    | .disk =>
        if path == "" then .error (.noEntry "mkdir" path)
        else v.makeEach (Path.ofParts (Path.isRooted path)) [] (Path.parts path)

/-- Takes a key out of the volume and of the list of its directory. What is below it stays, but is
no longer met on a walk. -/
def remove (v : Volume) (path : String) : Except FileError Volume :=
  let key := v.keyOf path
  if (v.get? key).isNone then .error (v.absent "remove" path)
  else
    let parent := v.parentOf key
    let v := match v.get? parent with
      | some entry => v.put parent (entry.withoutMember key)
      | none => v
    .ok { v with entries := v.entries.filter fun entry => entry.1 != key }

/-- What a walk meets: files, with their sizes, and paths where it cannot go on. -/
inductive Visit where
  | file (path : String) (size : Nat)
  | failure (cause : FileError)
  deriving DecidableEq

/-- Walks a path and what its directories list, by names in increasing order. The names of the
members are looked up below the path as it is spelled, and may be missing there. -/
def visitsFrom (v : Volume) : Nat → String → List Visit
  | 0, _ => []
  | fuel + 1, path =>
      match v.look path with
      | .error cause => [.failure cause]
      | .ok entry =>
          if !entry.isDirectory then [.file path entry.contents.length]
          else if v.refusals.openings.contains path then [.failure .refused]
          else (Text.sorted (entry.members.map Path.base)).flatMap fun name =>
            v.visitsFrom fuel (Path.join path name)

/-- All that a walk from a path meets. No walk goes deeper than there are entries. -/
def visits (v : Volume) (path : String) : List Visit :=
  v.visitsFrom (v.entries.length + 2) path

def Visit.file? : Visit → Option String
  | .file path _ => some path
  | .failure _ => none

def filesBelow (v : Volume) (path : String) : List String :=
  (v.visits path).filterMap Visit.file?

/-- The sizes of the files of a walk, by path. -/
def sizesBelow (v : Volume) (path : String) : List (String × Nat) :=
  (v.visits path).filterMap fun
    | .file found size => some (found, size)
    | .failure _ => none

/-- The files of a walk with their sizes, in increasing order. -/
def listing (v : Volume) (path : String) : List (String × Nat) :=
  let sizes := v.sizesBelow path
  (Text.sorted (v.filesBelow path)).map fun found => (found, (sizes.lookup found).getD 0)

end Volume
end SqlMapper
