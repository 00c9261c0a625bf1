import SqlMapper.Code.Compiled
import SqlMapper.Code.Support
import SqlMapper.Files.Discovery
import SqlMapper.Project.Loading

/-!
Generation: every selected document of a directory is compiled, and only when all of them are, and
their namespaces are distinct, the files are written: two for each document and the support files.
-/
namespace SqlMapper

structure GenerationRequest where
  input : String
  output : String
  pattern : String
  /-- Whether the caller has given up already. -/
  canceled : Bool := false

inductive GenerationError where
  | discovery (error : DiscoveryError)
  | load (error : LoadError)
  | document (error : DocumentError)
  | canceled
  | directory (cause : FileError)
  | file (path : String) (cause : FileError)
  deriving DecidableEq

def canceledMessage : String :=
  "context canceled"

def GenerationError.message : GenerationError → String
  | .discovery error => "failed to discover mapper documents: " ++ error.message
  | .load error => error.message
  | .document error => error.message
  | .canceled => canceledMessage
  | .directory cause => "failed to create output directory: " ++ cause.message
  | .file path cause => "failed to write " ++ path ++ ": " ++ cause.message

structure Generated where
  /-- The compiled documents in the order of their paths. -/
  outputs : List Code.Compiled
  /-- The paths of the written files in order. -/
  files : List String

def compileDocument (v : Volume) (path : String) : Logged GenerationError Code.Compiled :=
  ((v.loadMapper path).mapError .load).bind fun m => (Code.compile m).mapError .document

/-- The work on one document: it is not begun when the caller has given up. -/
def documentJob (v : Volume) (canceled : Bool) (path : String) :
    Logged GenerationError Code.Compiled :=
  if canceled then .fail .canceled else compileDocument v path

/-- Looks for a namespace that an earlier document declares; `seen` has those with documents. -/
def clashAmong (seen : List (String × String)) : List Code.Compiled → Option DocumentError
  | [] => none
  | c :: rest =>
      match seen.lookup c.space with
      | some other => some ⟨c.document, "mapper", c.space, .spaceTaken other⟩
      | none => clashAmong ((c.space, c.document) :: seen) rest

def checkSpaces (outputs : List Code.Compiled) : Except GenerationError Unit :=
  match clashAmong [] outputs with
  | some error => .error (.document error)
  | none => .ok ()

/-- Everything that is compiled for a request. Nothing is written for it. -/
def compileAll (v : Volume) (request : GenerationRequest) :
    Logged GenerationError (List Code.Compiled) := do
  let paths ← Logged.ofExcept
    ((discover v request.input request.pattern).mapError GenerationError.discovery)
  Logged.write .debug "Discovered mapper documents"
    [("dir", .text request.input), ("pattern", .text (effectivePattern request.pattern)),
      ("count", .number paths.length)]
  let outputs ← Logged.mapList (documentJob v request.canceled) paths
  Logged.ofExcept (checkSpaces outputs)
  .pure outputs

def outputFiles (c : Code.Compiled) : List (String × String) :=
  [(c.headerName, c.headerText), (c.sourceName, c.sourceText)]

/-- All files of a generation with their paths, in the order in which they are written. -/
def generatedFiles (output : String) (outputs : List Code.Compiled) : List (String × String) :=
  (outputs.flatMap outputFiles ++ Code.Support.files).map fun file =>
    (Path.join output file.1, file.2)

/-- Writes files one after the other, up to the first that fails. -/
def Volume.writeEach (v : Volume) : List (String × String) → Except GenerationError Unit × Volume
  | [] => (.ok (), v)
  | (path, text) :: rest =>
      match v.write path (Text.encode text) with
      | .error cause => (.error (.file path cause), v)
      | .ok next => next.writeEach rest

/-- Writes files into a directory, which is made first. -/
def Volume.writeInto (v : Volume) (directory : String) (files : List (String × String)) :
    Except GenerationError Unit × Volume :=
  match v.makeDirectory directory with
  | .error cause => (.error (.directory cause), v)
  | .ok next => next.writeEach files

def writeSupport (v : Volume) (directory : String) : Except GenerationError Unit × Volume :=
  v.writeInto directory (generatedFiles directory [])

def finishedEntry (outputs : List Code.Compiled) (files : List (String × String)) : Log.Entry :=
  ⟨.info, "Generation finished",
    [("documents", .number outputs.length), ("files", .number files.length)]⟩

def generate (v : Volume) (request : GenerationRequest) :
    Logged GenerationError Generated × Volume :=
  let compiled := compileAll v request
  match compiled.outcome with
  | .error error => (⟨compiled.log, .error error⟩, v)
  | .ok outputs =>
      let files := generatedFiles request.output outputs
      match v.writeInto request.output files with
      | (.error error, next) => (⟨compiled.log, .error error⟩, next)
      | (.ok (), next) =>
          (⟨compiled.log ++ [finishedEntry outputs files], .ok ⟨outputs, files.map (·.1)⟩⟩, next)

end SqlMapper
