import SqlMapper.Code.RecordType
import SqlMapper.Text.Search

/-!
The pass over the finished text in C: each placeholder is copied to the prepared text as a question
mark, and the next slot of the bind array is filled from the field that it names.
-/
namespace SqlMapper.Code

open C

def command : Expr :=
  .name "cmd"

def commandLength : Expr :=
  .call "yb_string_length" [command]

def done : Stmt :=
  .goto "done"

/-- A member of the slot that is filled next. -/
def slot (field : String) : Expr :=
  .member (.index (.name "bind") (.name "bind_num")) field

/-- The type under which fields of a kind are bound. -/
def bufferType : FieldKind → String
  | .integer => "MYSQL_TYPE_LONGLONG"
  | .floatingPoint => "MYSQL_TYPE_DOUBLE"
  | .text | .unknown => "MYSQL_TYPE_STRING"

/-- Fills the slot from a field, or with nothing if the value is missing. -/
def bindField (f : Field) : Stmt :=
  let value := memberOf "n" f.property
  let filled :=
    if f.kind = .text then
      [.assign (slot "buffer") (.cast "void*" (.call "yb_string_data" [value])),
        .assign (slot "buffer_length")
          (.cast "unsigned long" (.call "yb_string_length" [value]))]
    else [.assign (slot "buffer") (.address value)]
  .branch (.binary .equal value (.name f.kind.nullMacro))
    [.assign (slot "buffer_type") (.name "MYSQL_TYPE_NULL")]
    (.final (.assign (slot "buffer_type") (.name (bufferType f.kind)) :: filled))

/-- Whether the name of the placeholder is that of a field. -/
def nameIs (f : Field) : Expr :=
  let size := Text.byteCount f.property
  .binary .and (.binary .equal (.name "name_len") (.number size))
    (.binary .equal (.call "memcmp" [.name "name", .text f.property, .number size]) (.number 0))

def bindRest : List Field → Else
  | [] => .final [done]
  | f :: rest => .branch (nameIs f) [bindField f] (bindRest rest)

/-- The choice of the field; a shape without fields has none to choose from. -/
def bindChoice : List Field → Stmt
  | [] => done
  | f :: rest => .branch (nameIs f) [bindField f] (bindRest rest)

/-- The loop over the text and the copy of what follows the last placeholder. -/
def bindPass (shape : ResultMap) (slots : Nat) : List Stmt :=
  let i := Expr.name "i"
  let stop := Expr.name "end"
  let data := Expr.name "data"
  let pre := Expr.name "pre"
  let prepared := Expr.name "prepare_sql"
  let byteAt := fun position => Expr.index data position
  let one := Expr.number 1
  let two := Expr.number 2
  let body : List Stmt :=
    [.declare "const char*" "data" (some (.call "yb_string_data" [command])),
      when (.binary .or (.binary .notEqual (byteAt i) (.character '#'))
        (.binary .notEqual (byteAt (.binary .add i one)) (.character '{'))) [.next],
      .declare "int64_t" "end" (some (.binary .add i two)),
      .loop (.binary .and (.binary .less stop commandLength)
        (.binary .notEqual (byteAt stop) (.character '}'))) [.expression (.increment stop)],
      when (.binary .greaterEqual stop commandLength) [.leave],
      .expression (.call "yb_string_append_data"
        [prepared, .binary .add data pre, .binary .subtract i pre]),
      .expression (.call "yb_string_append_c_str" [prepared, .text "?"]),
      .declare "const char*" "name" (some (.binary .add (.binary .add data i) two)),
      .declare "int64_t" "name_len" (some (.binary .subtract (.binary .subtract stop i) two)),
      when (.binary .greaterEqual (.name "bind_num") (.number slots)) [done],
      bindChoice shape.fields,
      .expression (.increment (.name "bind_num")),
      .assign pre (.binary .add stop one),
      .assign i stop]
  [.count "int64_t" "i" (.number 0) (.binary .less (.binary .add i one) commandLength) body,
    .expression (.call "yb_string_append_data"
      [prepared, .binary .add (.call "yb_string_data" [command]) pre,
        .binary .subtract commandLength pre])]

end SqlMapper.Code
