import SqlMapper.Mapper.Store
import SqlMapper.Predicate.Evaluation
import SqlMapper.Sql.Prepared
import SqlMapper.Sql.Trim

/-!
The SQL text of a statement for a record: conditionals are decided, fragments put in, trims done.
A statement is evaluated by rendering it and preparing the result.
-/
namespace SqlMapper.Sql

inductive RenderError where
  | document (error : DocumentError)
  | notATest (statement test : String) (cause : Predicate.ParseError)
  | failedTest (statement test : String) (cause : Predicate.EvalError)
  | strangePlaceholder (statement name : String)
  deriving DecidableEq

def RenderError.message : RenderError → String
  | .document error => error.message
  | .notATest statement test cause =>
      statement ++ ": test " ++ Text.quoted test ++ " cannot be evaluated: " ++ cause.message
  | .failedTest statement test cause =>
      statement ++ ": test " ++ Text.quoted test ++ ": " ++ cause.message
  | .strangePlaceholder statement name => statement ++ ": " ++ Sql.strangePlaceholder name

/-- How messages name a statement. -/
def title (statement : Statement) : String :=
  statement.kind.name ++ " " ++ statement.id

def testHolds (statement : Statement) (record : Record) (test : String) :
    Except RenderError Bool :=
  match Predicate.parse test with
  | .error cause => .error (.notATest (title statement) test cause)
  | .ok e => (e.eval record.get?).mapError (.failedTest (title statement) test)

mutual

def renderBody (m : Mapper) (statement : Statement) (record : Record) :
    List Node → Except RenderError String
  | [] => .ok ""
  | node :: rest =>
      (renderNode m statement record node).bind fun first =>
        (renderBody m statement record rest).map (first ++ ·)

def renderNode (m : Mapper) (statement : Statement) (record : Record) :
    Node → Except RenderError String
  | .text value => .ok value
  | .fragment reference => (m.fragmentText statement reference).mapError .document
  | .conditional test body =>
      (testHolds statement record test).bind fun holds =>
        if holds then renderBody m statement record body else .ok ""
  | .trim rule body => (renderBody m statement record body).map (trim rule)

end

def render (m : Mapper) (statement : Statement) (record : Record) : Except RenderError String :=
  ((m.parameterShape statement).mapError .document).bind fun _ =>
    renderBody m statement record statement.body

structure Evaluated where
  sql : String
  prepared : String
  bindings : List Binding

def evaluate (m : Mapper) (statement : Statement) (record : Record) :
    Except RenderError Evaluated :=
  ((m.parameterShape statement).mapError .document).bind fun shape =>
    (render m statement record).bind fun sql =>
      match prepare shape record sql with
      | .ok (prepared, bindings) => .ok ⟨sql, prepared, bindings⟩
      | .error name => .error (.strangePlaceholder (title statement) name)

end SqlMapper.Sql
