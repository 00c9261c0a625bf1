import SqlMapper.Files.Volume
import SqlMapper.Log.Entry
import SqlMapper.Schema.Scaffold
import SqlMapper.Text.Quoted
import SqlMapper.Xml.Writer

/-!
Writing the documents of a database: its description, then one mapper document for each table. Two
tables whose names normalize alike cannot both be written.
-/
namespace SqlMapper

inductive ScaffoldError where
  | directory (cause : FileError)
  | file (path : String) (cause : FileError)
  | clash (first second target : String)
  deriving DecidableEq

def ScaffoldError.message : ScaffoldError → String
  | .directory cause => "failed to create output directory: " ++ cause.message
  | .file path cause => "failed to write " ++ path ++ ": " ++ cause.message
  | .clash first second target =>
      "tables " ++ Text.quoted first ++ " and " ++ Text.quoted second ++ " both normalize to " ++
        target

/-- Writes the document of each table; `seen` has the tables by file so far. -/
def scaffoldTables (directory : String) (seen : List (String × String)) (v : Volume) :
    List Schema.Table → Logged ScaffoldError (List String) × Volume
  | [] => (.pure [], v)
  | t :: rest =>
      let file := Schema.mapperFile t.name
      match seen.lookup file with
      | some other => (.fail (.clash other t.name file), v)
      | none =>
          let path := Path.join directory file
          match v.write path (Text.encode (Xml.renderAll (Schema.mapperDocument t))) with
          | .error cause => (.fail (.file path cause), v)
          | .ok next =>
              let done := scaffoldTables directory ((file, t.name) :: seen) next rest
              ((Logged.write .debug "Scaffolded document" [("path", .text path)]).bind fun () =>
                done.1.bind fun paths => .pure (path :: paths), done.2)

/-- Writes all documents of a database into a directory and gives their paths. -/
def scaffold (v : Volume) (directory : String) (d : Schema.Database) :
    Logged ScaffoldError (List String) × Volume :=
  match v.makeDirectory directory with
  | .error cause => (.fail (.directory cause), v)
  | .ok made =>
      let path := Path.join directory Schema.databaseFile
      match made.write path (Text.encode (Xml.renderAll (Schema.databaseDocument d))) with
      | .error cause => (.fail (.file path cause), made)
      | .ok next =>
          let done := scaffoldTables directory [] next d.tables
          ((Logged.write .debug "Scaffolded document" [("path", .text path)]).bind fun () =>
            done.1.bind fun paths => .pure (path :: paths), done.2)

/-- Why documents could not be made from a source of databases, whose own errors are `ε`. -/
inductive InitError (ε : Type) where
  | noSource
  | source (cause : ε)
  | scaffold (cause : ScaffoldError)

def InitError.message {ε : Type} (describe : ε → String) : InitError ε → String
  | .noSource => "introspector not initialized"
  | .source cause => "failed to introspect database: " ++ describe cause
  | .scaffold cause => "failed to scaffold mappers: " ++ cause.message

def initProject {ε : Type} (v : Volume) (directory : String)
    (source : Option (Except ε Schema.Database)) : Logged (InitError ε) (List String) × Volume :=
  match source with
  | none => (.fail .noSource, v)
  | some (.error cause) => (.fail (.source cause), v)
  | some (.ok d) =>
      let done := scaffold v directory d
      (done.1.mapError .scaffold, done.2)

end SqlMapper
