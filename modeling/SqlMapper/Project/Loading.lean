import SqlMapper.Files.Volume
import SqlMapper.Mapper.Document

/-!
Reading mapper documents from a volume.
-/
namespace SqlMapper

inductive LoadError where
  | unreadable (path : String) (cause : FileError)
  | document (error : DocumentError)
  deriving DecidableEq

def LoadError.message : LoadError → String
  | .unreadable path cause => "failed to read mapper " ++ path ++ ": " ++ cause.message
  | .document error => error.message

/-- The mapper of a document, which is named after the last part of its path. -/
def Volume.loadMapper (v : Volume) (path : String) : Logged LoadError Mapper :=
  match v.read path with
  | .error cause => .fail (.unreadable path cause)
  | .ok contents => (Mapper.parse (Path.base path) contents).mapError .document

end SqlMapper
