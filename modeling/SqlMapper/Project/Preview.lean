import SqlMapper.Code.Compiled
import SqlMapper.Project.Generation
import SqlMapper.Sql.Rendering
import SqlMapper.Text.Order

/-!
A preview of one statement: the SQL it runs for a record with given values. A document that cannot
be compiled has no previews.
-/
namespace SqlMapper

inductive PreviewError where
  | canceled
  | load (error : LoadError)
  | document (error : DocumentError)
  | value (error : Record.SetError)
  | rendering (error : Sql.RenderError)
  deriving DecidableEq

def PreviewError.message : PreviewError → String
  | .canceled => canceledMessage
  | .load error => error.message
  | .document error => error.message
  | .value error => "invalid value: " ++ error.message
  | .rendering error => error.message

structure Preview where
  mapper : Mapper
  statement : Statement
  evaluated : Sql.Evaluated

/-- One value for each property, in increasing order; the last value given counts. -/
def settledValues (values : List (String × String)) : List (String × String) :=
  (Text.sortedDistinct (values.map (·.1))).map fun property =>
    (property, (values.reverse.lookup property).getD "")

/-- Evaluates a statement for a record with the given values. -/
def previewStatement (m : Mapper) (id : String) (values : List (String × String)) :
    Except PreviewError Preview :=
  match m.statement? id with
  | none => .error (.document (m.error "statement" id .noStatement))
  | some statement =>
      ((m.parameterShape statement).mapError .document).bind fun shape =>
        (((Record.ofShape shape).setAll shape (settledValues values)).mapError .value).bind
          fun record => ((Sql.evaluate m statement record).mapError .rendering).map
            fun evaluated => ⟨m, statement, evaluated⟩

def preview (v : Volume) (canceled : Bool) (document statement : String)
    (values : List (String × String)) : Logged PreviewError Preview := do
  if canceled then .fail .canceled
  let m ← (v.loadMapper document).mapError PreviewError.load
  let _ ← (Code.compile m).mapError PreviewError.document
  Logged.ofExcept (previewStatement m statement values)

end SqlMapper
