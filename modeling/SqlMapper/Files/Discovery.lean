import SqlMapper.Files.Glob
import SqlMapper.Files.Volume
import SqlMapper.Text.Quoted

/-!
Discovery: the files below a directory that a pattern selects, in increasing order. The walk ends at
the first path where it cannot go on, or file at which the pattern turns out to be ill formed.
-/
namespace SqlMapper

inductive DiscoveryError where
  | badPattern (pattern : String)
  | noDirectory (cause : FileError)
  | notDirectory (path : String)
  | unscanned (cause : FileError)
  | broken
  deriving DecidableEq

def DiscoveryError.message : DiscoveryError → String
  | .badPattern pattern =>
      "invalid mapper pattern " ++ Text.quoted pattern ++ ": syntax error in pattern"
  | .noDirectory cause => "failed to read input directory: " ++ cause.message
  | .notDirectory path => "input " ++ path ++ " is not a directory"
  | .unscanned cause => "failed to scan input directory: " ++ cause.message
  | .broken => "failed to scan input directory: syntax error in pattern"

/-- What ends a scan at a visit. -/
def Volume.Visit.fault? (directory pattern : String) : Visit → Option DiscoveryError
  | .file path _ => if breaks directory pattern path then some .broken else none
  | .failure cause => some (.unscanned cause)

/-- What ends a scan for a pattern, if anything does. -/
def Volume.scanFault? (v : Volume) (directory pattern : String) : Option DiscoveryError :=
  (v.visits directory).findSome? (Visit.fault? directory pattern)

def Volume.selected (v : Volume) (directory pattern : String) : List String :=
  Text.sorted ((v.filesBelow directory).filter (selects directory pattern))

def discover (v : Volume) (directory pattern : String) : Except DiscoveryError (List String) :=
  if !Glob.valid (effectivePattern pattern) then .error (.badPattern (effectivePattern pattern))
  else match v.look directory with
    | .error cause => .error (.noDirectory cause)
    | .ok entry =>
        if !entry.isDirectory then .error (.notDirectory directory)
        else match v.scanFault? directory pattern with
          | some fault => .error fault
          | none => .ok (v.selected directory pattern)

end SqlMapper
