import SqlMapper.Code.BindPass
import SqlMapper.Code.Buffer
import SqlMapper.Code.Slots

/-!
The C function of a statement: it builds the text, prepares and executes it, and for a select reads
the first row. Whatever happens it leaves through one place that frees what was allocated.
-/
namespace SqlMapper.Code

open C

def call (function : String) (arguments : List Expr) : Stmt :=
  .expression (.call function arguments)

/-- Leaves the function if a condition holds. -/
def doneIf (condition : Expr) : Stmt :=
  when condition [done]

def isNot (left : Expr) (value : Nat) : Expr :=
  .binary .notEqual left (.number value)

def clear (array : String) : Stmt :=
  call "memset" [.name array, .number 0, .sizeOf array]

def element (array : String) (i : Nat) : Expr :=
  .index (.name array) (.number i)

def signature (statement : Statement) (shape : ResultMap) (row : Option ResultMap) : Signature :=
  let out := match row with
    | some row => [(row.type, "out")]
    | none => []
  ⟨"int", statement.id, [("MYSQL*", "conn"), (shape.type, "n")] ++ out⟩

def declarations (slots : Nat) (row : Option ResultMap) : List Stmt :=
  let forRow := match row with
    | some row =>
        let columns := max 1 row.fields.length
        [.declareArray "MYSQL_BIND" "bind_out" columns,
          .declareArray "unsigned long" "out_length" columns,
          .declareArray "yb_mysql_bool" "out_is_null" columns,
          .declare "int" "fetch_status" none]
    | none => []
  [.declare "int" "ret" (some (.name "YB_FAIL")),
    .declare "MYSQL_STMT*" "stmt" (some null),
    .declare "yb_string_t" "cmd" (some (.call "yb_string_new" [])),
    .declare "yb_string_t" "prepare_sql" (some (.call "yb_string_new" [])),
    .declareArray "MYSQL_BIND" "bind" slots,
    .declare "int" "bind_num" (some (.number 0)),
    .declare "int64_t" "pre" (some (.number 0))] ++ forRow

def preparation (row : Option ResultMap) : List Stmt :=
  let isNull := fun name => Expr.binary .equal (.name name) null
  let forRow := match row with
    | some _ =>
        [clear "bind_out", clear "out_length", clear "out_is_null", doneIf (isNull "out")]
    | none => []
  [clear "bind"] ++ forRow ++
    [doneIf (.binary .or (.binary .or (isNull "n") (isNull "cmd")) (isNull "prepare_sql"))]

def execution : List Stmt :=
  let stmt := Expr.name "stmt"
  let prepared := Expr.name "prepare_sql"
  let count := Expr.name "bind_num"
  [.assign stmt (.call "mysql_stmt_init" [.name "conn"]),
    doneIf (.binary .equal stmt null),
    doneIf (isNot (.call "mysql_stmt_prepare" [stmt, .call "yb_string_data" [prepared],
      .cast "unsigned long" (.call "yb_string_length" [prepared])]) 0),
    doneIf (.binary .notEqual (.call "mysql_stmt_param_count" [stmt])
      (.cast "unsigned long" count)),
    doneIf (.binary .and (.binary .greater count (.number 0))
      (isNot (.call "mysql_stmt_bind_param" [stmt, .name "bind"]) 0)),
    doneIf (isNot (.call "mysql_stmt_execute" [stmt]) 0)]

def numbered {α : Type} (items : List α) : List (Nat × α) :=
  (List.range items.length).zip items

/-- Where a column of the row goes: numbers straight into the record, texts nowhere yet, since
their length is not known. -/
def bindColumn (i : Nat) (f : Field) : List Stmt :=
  let column := fun member => Expr.member (element "bind_out" i) member
  let target := match f.kind with
    | .integer | .floatingPoint =>
        [.assign (column "buffer_type") (.name (bufferType f.kind)),
          .assign (column "buffer") (.address (memberOf "out" f.property))]
    | .text =>
        [.assign (column "buffer_type") (.name (bufferType f.kind)),
          .assign (column "buffer") null,
          .assign (column "buffer_length") (.number 0)]
    | .unknown => []
  target ++
    [.assign (column "length") (.address (element "out_length" i)),
      .assign (column "is_null") (.address (element "out_is_null" i))]

/-- Reads a text column now that its length is known. -/
def fetchText (i : Nat) (f : Field) : Stmt :=
  let buffer := "out_buf_" ++ toString i
  let column := fun member => Expr.member (element "bind_out" i) member
  let length := element "out_length" i
  when (.not (element "out_is_null" i))
    [.declare "char*" buffer
        (some (.cast "char*" (.call "malloc" [.binary .add length (.number 1)]))),
      doneIf (.binary .equal (.name buffer) null),
      .assign (column "buffer") (.name buffer),
      .assign (column "buffer_length") (.binary .add length (.number 1)),
      when (isNot (.call "mysql_stmt_fetch_column"
          [.name "stmt", .address (element "bind_out" i), .number i, .number 0]) 0)
        [call "free" [.name buffer], done],
      .assign (memberOf "out" f.property)
        (.call "yb_string_from" [.name buffer, .cast "int64_t" length]),
      call "free" [.name buffer],
      .assign (column "buffer") null,
      .assign (column "buffer_length") (.number 0)]

/-- Stores a fetched column; what is null in the row becomes the missing value. -/
def storeColumn (i : Nat) (f : Field) : List Stmt :=
  let value := memberOf "out" f.property
  match f.kind with
  | .integer | .floatingPoint =>
      [when (element "out_is_null" i) [.assign value (.name f.kind.nullMacro)]]
  | .text =>
      [freeText "out" f.property [.assign value (.name f.kind.nullMacro)], fetchText i f]
  | .unknown => []

def fetching (row : ResultMap) : List Stmt :=
  let columns := numbered row.fields
  let status := Expr.name "fetch_status"
  let bound :=
    if row.fields.isEmpty then []
    else [doneIf (isNot (.call "mysql_stmt_bind_result" [.name "stmt", .name "bind_out"]) 0)]
  [doneIf (isNot (.call "mysql_stmt_field_count" [.name "stmt"]) row.fields.length)]
    ++ columns.flatMap (fun column => bindColumn column.1 column.2)
    ++ bound
    ++ [.assign status (.call "mysql_stmt_fetch" [.name "stmt"]),
      doneIf (.binary .and (isNot status 0)
        (.binary .notEqual status (.name "MYSQL_DATA_TRUNCATED")))]
    ++ columns.flatMap (fun column => storeColumn column.1 column.2)

def cleanUp : List Stmt :=
  [.assign (.name "ret") (.name "YB_OK"),
    .blank,
    .label "done",
    when (.binary .notEqual (.name "stmt") null) [call "mysql_stmt_close" [.name "stmt"]],
    call "yb_string_free" [.name "prepare_sql"],
    call "yb_string_free" [.name "cmd"],
    .give (some (.name "ret"))]

def functionBody (shape : ResultMap) (row : Option ResultMap) (slots : Nat)
    (program : List BufferOp) : List Stmt :=
  let rows := match row with
    | some row => fetching row
    | none => []
  declarations slots row ++ [.blank] ++ preparation row ++ [.blank]
    ++ bufferStmts program ++ [.blank]
    ++ bindPass shape slots ++ [.blank]
    ++ execution ++ rows ++ cleanUp

/-- What a statement is compiled from, once all its references are resolved. -/
structure Resolved where
  shape : ResultMap
  row : Option ResultMap
  slots : Nat

/-- Refuses fields that have no buffer type. -/
def checkKinds (m : Mapper) (statement : Statement) : List Field → Except DocumentError Unit
  | [] => .ok ()
  | f :: rest =>
      if f.kind = .unknown then .error (m.statementError statement (.fieldType f.declared))
      else checkKinds m statement rest

def resolveRow (m : Mapper) (statement : Statement) : Except DocumentError (Option ResultMap) :=
  if statement.kind = .select then
    (m.rowShape statement).bind fun row =>
      (checkKinds m statement row.fields).map fun _ => some row
  else .ok none

/-- Resolves the shapes of a statement and counts its placeholders; there is room for at least one. -/
def resolve (m : Mapper) (statement : Statement) : Except DocumentError Resolved :=
  if !isIdentifier statement.id then .error (m.statementError statement .idForm)
  else
    (m.parameterShape statement).bind fun shape =>
      (resolveRow m statement).bind fun row =>
        (placeholderSlots m statement shape).map fun count => ⟨shape, row, max 1 count⟩

/-- The signature and the body of a statement's function. Every field of the shape may be bound, so
each needs a buffer type. -/
def statementFunction (m : Mapper) (statement : Statement) :
    Logged DocumentError (Signature × List Stmt) :=
  (Logged.ofExcept (resolve m statement)).bind fun r =>
    (buildBody m statement r.shape .command 0 statement.body).bind fun (program, _) =>
      (Logged.ofExcept (checkKinds m statement r.shape.fields)).bind fun _ =>
        .pure (signature statement r.shape r.row, functionBody r.shape r.row r.slots program)

end SqlMapper.Code
