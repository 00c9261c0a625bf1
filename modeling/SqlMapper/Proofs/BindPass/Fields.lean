import SqlMapper.Proofs.BindPass.Machine
import SqlMapper.Proofs.Encoding
import SqlMapper.Proofs.Records
import SqlMapper.Sql.Prepared

/-!
Choosing the field of a placeholder and filling a slot from it. The chain of comparisons finds the
first field of that name, and the slot gets the type under which the value is bound, and the value
unless it is missing.
-/

namespace SqlMapper.Code

open C (Expr Stmt)
open Sql (Binding)

/-- The slot of a bound value: numbers are passed by their address in the record, texts by their
bytes and length, and of a missing value only its type. -/
def slotOf (b : Binding) : Slot :=
  match b.value with
  | .text (some content) =>
      ⟨some b.mysqlType, some (.bytes (.member b.field.property) (Text.encode content)),
        some (Text.byteCount content)⟩
  | _ => ⟨some b.mysqlType, if b.isNull then none else some (.address b.field.property), none⟩

variable {machine : Machine}

section Name

variable {place : Place} {name more : List UInt8}

theorem comparison_eq_zero (first second : List UInt8) :
    Datum.comparison first second = 0 ↔ first = second := by
  unfold Datum.comparison
  by_cases same : first = second
  · simp [same]
  · by_cases less : first < second
    · simp [same, less]
    · simp [same, less]

theorem holds_sameBytes (f : Field)
    (pointer : machine.locals "name" = some (.bytes place (name ++ more)))
    (size : name.length = Text.byteCount f.property) :
    machine.holds (.binary .equal
      (.call "memcmp" [.name "name", .text f.property, .number (Text.byteCount f.property)])
      (.number 0)) = some (decide (name = Text.encode f.property)) := by
  have other : (Text.encode f.property).length = Text.byteCount f.property :=
    Text.length_encode f.property
  have inside : Text.byteCount f.property ≤ (name ++ more).length ∧
      Text.byteCount f.property ≤ (Text.encode f.property ++ [0]).length := by
    rw [List.length_append, List.length_append]
    omega
  have compared : Datum.applied "memcmp" [.bytes place (name ++ more),
      .bytes .constant (Text.encode f.property ++ [0]), .int (Text.byteCount f.property)] =
      some (.int (Datum.comparison name (Text.encode f.property))) := by
    refine (if_pos inside).trans ?_
    rw [List.take_left' size, List.take_left' other]
  refine (Machine.holds_equal
    (Machine.eval_call "memcmp" (Machine.evalAll_cons (Machine.eval_held pointer (by decide))
      (Machine.evalAll_cons (Machine.eval_text _)
        (Machine.evalAll_cons (Machine.eval_number _) rfl))) compared)
    (Machine.eval_number 0)).trans ?_
  rw [Option.some_inj, Bool.eq_iff_iff, beq_iff_eq, decide_eq_true_eq]
  exact comparison_eq_zero name (Text.encode f.property)

/-- The comparison of lengths and bytes decides whether the names are the same. -/
theorem holds_nameIs (f : Field)
    (pointer : machine.locals "name" = some (.bytes place (name ++ more)))
    (length : machine.locals "name_len" = some (.int name.length)) :
    machine.holds (nameIs f) = some (decide (name = Text.encode f.property)) := by
  have sizes := Machine.holds_equal (Machine.eval_held length (by decide))
    (Machine.eval_number (Text.byteCount f.property))
  have both := Machine.holds_and sizes fun same =>
    holds_sameBytes f pointer (Int.ofNat_inj.mp (beq_iff_eq.mp same))
  refine both.trans ?_
  rw [Option.some_inj, Bool.eq_iff_iff, Bool.and_eq_true, beq_iff_eq, decide_eq_true_eq]
  constructor
  · exact fun parts => parts.2
  · intro same
    refine ⟨?_, same⟩
    rw [same, Text.length_encode]

/-- The chain leaves the function, or fills the slot from the first field of the name. -/
theorem run_bindRest (fields : List Field) (property : String)
    (pointer : machine.locals "name" = some (.bytes place (Text.encode property ++ more)))
    (length : machine.locals "name_len" = some (.int (Text.encode property).length)) :
    runElse (bindRest fields) machine =
      match fields.find? fun f => f.property == property with
      | none => some (machine, .jump "done")
      | some f => runBlock [bindField f] machine := by
  induction fields with
  | nil => rfl
  | cons f rest ih =>
      rw [bindRest, runElse, holds_nameIs f pointer length, Option.bind_some]
      by_cases same : f.property = property
      · have bytes : Text.encode property = Text.encode f.property := by rw [same]
        rw [List.find?_cons_of_pos (by simpa using same), if_pos (decide_eq_true bytes)]
      · have bytes : ¬ Text.encode property = Text.encode f.property :=
          fun equal => same (Text.encode_injective equal).symm
        rw [List.find?_cons_of_neg (by simpa using same), if_neg (by simpa using bytes), ih]

theorem run_bindChoice (fields : List Field) (property : String)
    (pointer : machine.locals "name" = some (.bytes place (Text.encode property ++ more)))
    (length : machine.locals "name_len" = some (.int (Text.encode property).length)) :
    runStmt (bindChoice fields) machine =
      match fields.find? fun f => f.property == property with
      | none => some (machine, .jump "done")
      | some f => runBlock [bindField f] machine := by
  cases fields with
  | nil => rfl
  | cons f rest => exact run_bindRest (f :: rest) property pointer length

end Name

section Slot

/-- Assigning to a member of the next slot. -/
theorem run_slot {index : Nat} {held filled : Slot} {field : String} {x : Expr} {datum : Datum}
    (count : machine.locals "bind_num" = some (.int index))
    (present : machine.slots[index]? = some held) (evaluated : machine.eval x = some datum)
    (put : held.put field datum = some filled) :
    runStmt (.assign (slot field) x) machine = some (machine.fill index filled, .on) := by
  refine runStmt_assign evaluated ?_
  have position : machine.eval (.name "bind_num") = _ := Machine.eval_held count (by decide)
  rw [slot, Machine.assign, position]
  show (machine.slots[index]?.bind fun slot => slot.put field datum).map _ = _
  rw [present, Option.bind_some, put, Option.map_some]

theorem eval_memberOf {f : Field} {value : Value}
    (held : machine.record.get? f.property = some value) :
    machine.eval (memberOf "n" f.property) = some (.ofValue (.member f.property) value) := by
  show machine.member "n" f.property = _
  rw [Machine.member, if_pos rfl, held, Option.map_some]

/-- The comparison with the macro of the kind decides whether a value is missing. -/
theorem holds_isNull {f : Field} {value : Value}
    (held : machine.record.get? f.property = some value) (kind : value.kind = f.kind) :
    machine.holds (.binary .equal (memberOf "n" f.property) (.name f.kind.nullMacro)) =
      some value.isNull := by
  have member := eval_memberOf held
  rw [← kind]
  cases value with
  | int value =>
      refine Machine.holds_operate .equal (by decide) member rfl ?_
      show some (Datum.ofBool (value.toInt == Value.nullInt.toInt)) = _
      rw [Option.some_inj]
      congr 1
      rw [Value.isNull, Bool.eq_iff_iff, beq_iff_eq, beq_iff_eq, Int64.toInt_inj]
  | float value => exact Machine.holds_operate .equal (by decide) member rfl rfl
  | text value =>
      cases value with
      | none => exact Machine.holds_operate .equal (by decide) member rfl rfl
      | some content => exact Machine.holds_operate .equal (by decide) member rfl rfl

theorem slotOf_of_isNull (b : Binding) (missing : b.isNull = true) :
    slotOf b = ⟨some "MYSQL_TYPE_NULL", none, none⟩ := by
  have type : b.mysqlType = "MYSQL_TYPE_NULL" := if_pos missing
  unfold slotOf
  split
  · next content given =>
      rw [Binding.isNull, given] at missing
      cases missing
  · rw [type, if_pos missing]

theorem mysqlType_of_present (b : Binding) (present : b.isNull = false) :
    b.mysqlType = bufferType b.field.kind := by
  rw [Binding.mysqlType, present]
  cases b.field.kind <;> rfl

section Filling

variable {f : Field} {value : Value} {index : Nat}

theorem run_type (count : machine.locals "bind_num" = some (.int index))
    (cleared : machine.slots[index]? = some .cleared) (type : String)
    (known : type ∈ Machine.enumerators) (rest : List Stmt) :
    runBlock (.assign (slot "buffer_type") (.name type) :: rest) machine =
      runBlock rest (machine.fill index ⟨some type, none, none⟩) := by
  have evaluated : machine.eval (.name type) = some (.enumerator type) := by
    have free : Predicate.constant? type = none := by
      revert known
      revert type
      decide
    rw [Machine.eval_name, Machine.named, free]
    exact if_pos known
  exact runBlock_on (run_slot count cleared evaluated rfl)

theorem slots_fill_self {s held : Slot} (present : machine.slots[index]? = some held) :
    (machine.fill index s).slots[index]? = some s := by
  have inside : index < machine.slots.length := (List.getElem?_eq_some_iff.mp present).1
  rw [Machine.slots_fill, List.getElem?_set_self inside]

/-- Numbers are bound by their address. -/
theorem run_address (held : machine.record.get? f.property = some value)
    (count : machine.locals "bind_num" = some (.int index)) {type : Option String}
    (present : machine.slots[index]? = some ⟨type, none, none⟩) :
    runBlock [.assign (slot "buffer") (.address (memberOf "n" f.property))] machine =
      some (machine.fill index ⟨type, some (.address f.property), none⟩, .on) := by
  have evaluated : machine.eval (.address (memberOf "n" f.property)) =
      some (.address f.property) := by
    show (machine.member "n" f.property).map _ = _
    rw [Machine.member, if_pos rfl, held]
    rfl
  exact runBlock_on (run_slot count present evaluated rfl)

/-- Texts are bound by their bytes and their length. -/
theorem run_content {content : String}
    (held : machine.record.get? f.property = some (.text (some content)))
    (count : machine.locals "bind_num" = some (.int index)) {type : Option String}
    (present : machine.slots[index]? = some ⟨type, none, none⟩) :
    runBlock
      [.assign (slot "buffer") (.cast "void*" (.call "yb_string_data" [memberOf "n" f.property])),
        .assign (slot "buffer_length")
          (.cast "unsigned long" (.call "yb_string_length" [memberOf "n" f.property]))] machine =
      some (machine.fill index ⟨type, some (.bytes (.member f.property) (Text.encode content)),
        some (Text.byteCount content)⟩, .on) := by
  have data : machine.eval (.cast "void*" (.call "yb_string_data" [memberOf "n" f.property])) =
      some (.bytes (.member f.property) (Text.encode content)) :=
    Machine.eval_call "yb_string_data" (Machine.evalAll_cons (eval_memberOf held) rfl) rfl
  have length (filled : Machine) (same : filled.record = machine.record) :
      filled.eval (.cast "unsigned long" (.call "yb_string_length" [memberOf "n" f.property])) =
        some (.int (Text.encode content).length) :=
    Machine.eval_call "yb_string_length"
      (Machine.evalAll_cons (eval_memberOf (by rw [same, held])) rfl) rfl
  rw [runBlock_on (run_slot count present data rfl),
    runBlock_on (run_slot (by simpa using count) (slots_fill_self present) (length _ rfl) rfl),
    Machine.fill_fill, Text.length_encode]
  rfl

/-- Filling a cleared slot from a field makes it the slot of the bound value. -/
theorem run_bindField (held : machine.record.get? f.property = some value)
    (kind : value.kind = f.kind) (count : machine.locals "bind_num" = some (.int index))
    (cleared : machine.slots[index]? = some .cleared) :
    runBlock [bindField f] machine =
      some (machine.fill index (slotOf ⟨index, f, value⟩), .on) := by
  refine (runBlock_on ?_).trans rfl
  rw [bindField, runStmt_branch (holds_isNull held kind)]
  cases missing : value.isNull with
  | true =>
      rw [if_pos rfl, run_type count cleared _ (by decide), slotOf_of_isNull ⟨index, f, value⟩ missing]
      rfl
  | false =>
      have type := mysqlType_of_present ⟨index, f, value⟩ missing
      have filled : (machine.fill index ⟨some (bufferType f.kind), none, none⟩).slots[index]? = _ :=
        slots_fill_self cleared
      rw [if_neg (by decide), runElse, run_type count cleared _ (by cases f.kind <;> decide)]
      -- Numbers are bound by their address, a text by its content.
      cases value with
      | int number =>
          have number : ¬ f.kind = .text := by simp [← kind, Value.kind]
          rw [if_neg number, run_address (by simpa using held) (by simpa using count) filled,
            Machine.fill_fill, slotOf, type, Binding.isNull, missing]
          rfl
      | float number =>
          have number : ¬ f.kind = .text := by simp [← kind, Value.kind]
          rw [if_neg number, run_address (by simpa using held) (by simpa using count) filled,
            Machine.fill_fill, slotOf, type, Binding.isNull, missing]
          rfl
      | text content =>
          cases content with
          | none => cases missing
          | some content =>
              have text : f.kind = .text := kind.symm
              rw [if_pos text, run_content (by simpa using held) (by simpa using count) filled,
                Machine.fill_fill, slotOf, type]

end Filling

end Slot

end SqlMapper.Code
