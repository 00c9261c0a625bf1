import SqlMapper.Files.Volume

/-!
Watching a directory tree: it has to be there when the watch is set up, the task is run once, and
again when the changes to selected files have settled.
-/
namespace SqlMapper

/-- How long changes have to settle, in milliseconds. -/
def watchDelay : Nat :=
  500

inductive WatchError where
  | directory (cause : FileError)
  deriving DecidableEq

def WatchError.message : WatchError → String
  | .directory cause => "failed to watch directory: " ++ cause.message

/-- The same error about another spelling of the path. -/
def FileError.respelled (path : String) : FileError → FileError
  | .refused => .refused
  | .unknown operation _ => .unknown operation path
  | .noEntry operation _ => .noEntry operation path
  | .notDirectory operation _ => .notDirectory operation path
  | .isDirectory operation _ => .isDirectory operation path

/-- Sets up a watch; messages show the whole path. -/
def Volume.watch (v : Volume) (path whole : String) : Except WatchError Unit :=
  match v.find "lstat" path with
  | .ok _ => .ok ()
  | .error cause => .error (.directory (cause.respelled whole))

/-- What is said when the first run of the task fails. -/
def firstRunMessage (cause : String) : String :=
  "initial callback failed: " ++ cause

end SqlMapper
