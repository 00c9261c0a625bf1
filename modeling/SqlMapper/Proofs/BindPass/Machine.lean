import Mathlib.Data.PFun
import SqlMapper.Code.BindPass
import SqlMapper.Predicate.Evaluation
import SqlMapper.Proofs.Literal
import SqlMapper.Sql.Record
import SqlMapper.Text.Utf8

/-!
A machine for the C of the bind pass. A pointer is known by the bytes that it still reaches, so
reading, comparing or copying beyond the end of a block has no result; nor has a loop that never
ends, or a write outside the bind array. Integers count bytes and slots and do not overflow. A byte
is read as its number: whether `char` has a sign does not matter, since bytes are only compared with
ASCII characters.
-/

namespace SqlMapper.Code

open C (BinaryOp Expr Stmt)

/-- What a text belongs to, or what a pointer points into. -/
inductive Place where
  | variable (name : String)
  | member (property : String)
  | constant

inductive Datum where
  | int (value : Int)
  | double (value : Binary64)
  /-- A text, absent behind the null handle. -/
  | text (place : Place) (content : Option (List UInt8))
  | bytes (place : Place) (reach : List UInt8)
  /-- The address of a member of the record. -/
  | address (property : String)
  | enumerator (name : String)

namespace Datum

def ofValue (place : Place) : Value → Datum
  | .int value => .int value.toInt
  | .float value => .double value
  | .text value => .text place (value.map Text.encode)

def truth : Datum → Option Bool
  | .int value => some (value ≠ 0)
  | _ => none

def ofBool (holds : Bool) : Datum :=
  .int (if holds then 1 else 0)

-- Handles of two texts are told apart by where they point, which is of no use here.
def same : Datum → Datum → Option Bool
  | .int a, .int b => some (a == b)
  | .double a, .double b => some (a.equal b)
  | .text _ content, .text _ none | .text _ none, .text _ content => some content.isNone
  | _, _ => none

/-- Adding to a pointer moves it inside its block, at most to the end. -/
def add : Datum → Datum → Option Datum
  | .int a, .int b => some (.int (a + b))
  | .bytes place reach, .int distance =>
      if 0 ≤ distance ∧ distance ≤ reach.length then some (.bytes place (reach.drop distance.toNat))
      else none
  | _, _ => none

/-- Operators whose operands are both evaluated. -/
def operate : BinaryOp → Datum → Datum → Option Datum
  | .add, a, b => add a b
  | .subtract, .int a, .int b => some (.int (a - b))
  | .less, .int a, .int b => some (ofBool (a < b))
  | .greater, .int a, .int b => some (ofBool (b < a))
  | .greaterEqual, .int a, .int b => some (ofBool (b ≤ a))
  | .equal, a, b => (same a b).map ofBool
  | .notEqual, a, b => (same a b).map fun holds => ofBool !holds
  | _, _, _ => none

def element : Datum → Datum → Option Datum
  | .bytes _ reach, .int (.ofNat position) => reach[position]?.map fun byte => .int byte.toNat
  | _, _ => none

/-- The sign of the first difference of two blocks. -/
def comparison (first second : List UInt8) : Int :=
  if first = second then 0 else if first < second then -1 else 1

/-- Functions that only read. -/
def applied : String → List Datum → Option Datum
  | "yb_string_data", [.text place (some content)] => some (.bytes place content)
  | "yb_string_length", [.text _ (some content)] => some (.int content.length)
  | "memcmp", [.bytes _ first, .bytes _ second, .int (.ofNat size)] =>
      if size ≤ first.length ∧ size ≤ second.length then
        some (.int (comparison (first.take size) (second.take size)))
      else none
  | _, _ => none

end Datum

/-- An element of the bind array; what is not set is cleared. -/
structure Slot where
  type : Option String
  buffer : Option Datum
  length : Option Int

namespace Slot

def cleared : Slot :=
  ⟨none, none, none⟩

def put (slot : Slot) : String → Datum → Option Slot
  | "buffer_type", .enumerator type => some { slot with type := some type }
  | "buffer", .bytes place reach => some { slot with buffer := some (.bytes place reach) }
  | "buffer", .address property => some { slot with buffer := some (.address property) }
  | "buffer_length", .int length => some { slot with length := some length }
  | _, _ => none

end Slot

/-- The record is what `n` points to and the slots are the array `bind`. -/
structure Machine where
  record : Record
  locals : String → Option Datum
  slots : List Slot

namespace Machine

def set (machine : Machine) (name : String) (datum : Datum) : Machine :=
  { machine with
    locals := fun other => if other = name then some datum else machine.locals other }

def enumerators : List String :=
  ["MYSQL_TYPE_NULL", "MYSQL_TYPE_LONGLONG", "MYSQL_TYPE_DOUBLE", "MYSQL_TYPE_STRING"]

/-- Macros are replaced before anything is run. -/
def named (machine : Machine) (name : String) : Option Datum :=
  match Predicate.constant? name with
  | some value => some (.ofValue .constant value)
  | none => if name ∈ enumerators then some (.enumerator name) else machine.locals name

def member (machine : Machine) (pointer property : String) : Option Datum :=
  if pointer = "n" then
    (machine.record.get? property).map (Datum.ofValue (.member property))
  else none

mutual

def eval (machine : Machine) : Expr → Option Datum
  | .name identifier => machine.named identifier
  | .number value => some (.int value)
  | .character c => some (.int c.toNat)
  | .text value =>
      (C.literalValue (Expr.text value).render).map fun content =>
        .bytes .constant (Text.encode content ++ [0])
  | .call function arguments => (machine.evalAll arguments).bind (Datum.applied function)
  | .pointerMember (.name pointer) property => machine.member pointer property
  | .address (.pointerMember (.name pointer) property) =>
      (machine.member pointer property).map fun _ => .address property
  | .index array position =>
      (machine.eval array).bind fun array => (machine.eval position).bind array.element
  | .cast _ operand => machine.eval operand
  | .binary .and left right =>
      ((machine.eval left).bind Datum.truth).bind fun holds =>
        if holds then ((machine.eval right).bind Datum.truth).map Datum.ofBool
        else some (.ofBool false)
  | .binary .or left right =>
      ((machine.eval left).bind Datum.truth).bind fun holds =>
        if holds then some (.ofBool true)
        else ((machine.eval right).bind Datum.truth).map Datum.ofBool
  | .binary op left right =>
      (machine.eval left).bind fun left => (machine.eval right).bind (Datum.operate op left)
  | _ => none

def evalAll (machine : Machine) : List Expr → Option (List Datum)
  | [] => some []
  | first :: rest =>
      (machine.eval first).bind fun first => (machine.evalAll rest).map (first :: ·)

end

def holds (machine : Machine) (condition : Expr) : Option Bool :=
  (machine.eval condition).bind Datum.truth

def fill (machine : Machine) (index : Nat) (slot : Slot) : Machine :=
  { machine with slots := machine.slots.set index slot }

def assign (machine : Machine) : Expr → Datum → Option Machine
  | .name name, datum => (machine.locals name).map fun _ => machine.set name datum
  | .member (.index (.name "bind") position) field, datum =>
      match machine.eval position with
      | some (.int (.ofNat index)) =>
          (machine.slots[index]?.bind fun slot => slot.put field datum).map (machine.fill index)
      | _ => none
  | _, _ => none

/-- Functions that add to a text: bytes of a given number, or those before the first NUL. -/
def append (machine : Machine) : String → List Datum → Option Machine
  | "yb_string_append_data",
      [.text (.variable name) (some content), .bytes _ reach, .int (.ofNat count)] =>
      if count ≤ reach.length then
        some (machine.set name (.text (.variable name) (some (content ++ reach.take count))))
      else none
  | "yb_string_append_c_str", [.text (.variable name) (some content), .bytes _ reach] =>
      if 0 ∈ reach then
        some (machine.set name
          (.text (.variable name) (some (content ++ reach.takeWhile (· != 0)))))
      else none
  | _, _ => none

/-- An expression that is a statement. -/
def perform (machine : Machine) : Expr → Option Machine
  | .increment (.name name) =>
      match machine.locals name with
      | some (.int value) => some (machine.set name (.int (value + 1)))
      | _ => none
  | .call function arguments => (machine.evalAll arguments).bind (machine.append function)
  | _ => none

end Machine

/-- Where control goes after a statement. -/
inductive Flow where
  | on
  | next
  | leave
  | jump (label : String)
  deriving DecidableEq

/-- A step in the form that partial functions are iterated in, with its result on the left. -/
def swapped {σ ρ : Type} (step : σ → Option (σ ⊕ ρ)) : σ →. ρ ⊕ σ :=
  fun state => ↑((step state).map Sum.swap)

open Classical in
/-- Repeats a step until it gives a result. A step that is repeated for ever gives none. -/
noncomputable def iterate {σ ρ : Type} (step : σ → Option (σ ⊕ ρ)) (state : σ) : Option ρ :=
  ((swapped step).fix state).toOption

/-- What follows the body of a loop: what is done before the next test, or the end of the loop. -/
def ending (advance : Machine → Option Machine) :
    Machine × Flow → Option (Machine ⊕ (Machine × Flow))
  | (after, .on) | (after, .next) => (advance after).map .inl
  | (after, .leave) => some (.inr (after, .on))
  | (after, .jump label) => some (.inr (after, .jump label))

/-- One turn of a loop. -/
def turn (test : Machine → Option Bool) (body : Machine → Option (Machine × Flow))
    (advance : Machine → Option Machine) (machine : Machine) :
    Option (Machine ⊕ (Machine × Flow)) :=
  (test machine).bind fun
    | false => some (.inr (machine, .on))
    | true => (body machine).bind (ending advance)

mutual

noncomputable def runStmt : Stmt → Machine → Option (Machine × Flow)
  | .expression e, machine => (machine.perform e).map (·, .on)
  | .declare _ name (some value), machine =>
      (machine.eval value).map fun datum => (machine.set name datum, .on)
  | .assign target value, machine =>
      (machine.eval value).bind fun datum => (machine.assign target datum).map (·, .on)
  | .goto label, machine => some (machine, .jump label)
  | .next, machine => some (machine, .next)
  | .leave, machine => some (machine, .leave)
  | .loop condition body, machine =>
      iterate (turn (·.holds condition) (runBlock body) some) machine
  | .count _ counter start condition body, machine =>
      (machine.eval start).bind fun first =>
        iterate (turn (·.holds condition) (runBlock body)
          (·.perform (.increment (.name counter)))) (machine.set counter first)
  | .branch condition body otherwise, machine =>
      (machine.holds condition).bind fun holds =>
        if holds then runBlock body machine else runElse otherwise machine
  | _, _ => none

noncomputable def runElse : C.Else → Machine → Option (Machine × Flow)
  | .none, machine => some (machine, .on)
  | .branch condition body otherwise, machine =>
      (machine.holds condition).bind fun holds =>
        if holds then runBlock body machine else runElse otherwise machine
  | .final body, machine => runBlock body machine

/-- Runs statements in order, as long as control does not leave them. -/
noncomputable def runBlock : List Stmt → Machine → Option (Machine × Flow)
  | [], machine => some (machine, .on)
  | first :: rest, machine =>
      (runStmt first machine).bind fun
        | (after, .on) => runBlock rest after
        | (after, flow) => some (after, flow)

end

namespace Machine

variable {machine : Machine} {x y z : Expr} {name : String}

@[simp]
theorem record_set (datum : Datum) : (machine.set name datum).record = machine.record :=
  rfl

@[simp]
theorem slots_set (datum : Datum) : (machine.set name datum).slots = machine.slots :=
  rfl

@[simp]
theorem locals_set (datum : Datum) (other : String) :
    (machine.set name datum).locals other =
      if other = name then some datum else machine.locals other :=
  rfl

theorem held_set (name : String) (written : Datum) {other : String} {datum : Datum}
    (held : machine.locals other = some datum) (apart : other ≠ name) :
    (machine.set name written).locals other = some datum := by
  rw [locals_set, if_neg apart, held]

theorem set_eq_self {datum : Datum} (held : machine.locals name = some datum) :
    machine.set name datum = machine := by
  have unchanged : (machine.set name datum).locals = machine.locals := by
    funext other
    by_cases same : other = name
    · simp [same, held]
    · simp [same]
  exact congrArg (fun locals => ({ machine with locals := locals } : Machine)) unchanged

theorem set_set (first second : Datum) :
    (machine.set name first).set name second = machine.set name second := by
  simp only [set, mk.injEq, true_and, and_true]
  funext other
  by_cases same : other = name
  · simp [same]
  · simp [same]

@[simp]
theorem locals_fill (index : Nat) (slot : Slot) :
    (machine.fill index slot).locals = machine.locals :=
  rfl

@[simp]
theorem record_fill (index : Nat) (slot : Slot) :
    (machine.fill index slot).record = machine.record :=
  rfl

@[simp]
theorem slots_fill (index : Nat) (slot : Slot) :
    (machine.fill index slot).slots = machine.slots.set index slot :=
  rfl

theorem fill_fill (index : Nat) (first second : Slot) :
    (machine.fill index first).fill index second = machine.fill index second := by
  rw [fill, fill, fill, List.set_set]

/-- A name that no macro replaces and that is no enumerator. -/
def Free (name : String) : Prop :=
  Predicate.constant? name = none ∧ name ∉ enumerators

instance (name : String) : Decidable (Free name) :=
  inferInstanceAs (Decidable (_ ∧ _))

theorem eval_name : machine.eval (.name name) = machine.named name :=
  rfl

theorem eval_number (value : Nat) : machine.eval (.number value) = some (.int value) :=
  rfl

theorem eval_and : machine.eval (.binary .and x y) = (machine.holds x).bind fun first =>
    if first then (machine.holds y).map Datum.ofBool else some (.ofBool false) :=
  rfl

theorem eval_or : machine.eval (.binary .or x y) = (machine.holds x).bind fun first =>
    if first then some (.ofBool true) else (machine.holds y).map Datum.ofBool :=
  rfl

theorem eval_held {datum : Datum} (held : machine.locals name = some datum)
    (free : Free name) : machine.eval (.name name) = some datum := by
  rw [eval_name, named, free.1]
  exact (if_neg free.2).trans held

theorem eval_operate (op : BinaryOp) (strict : op ≠ .and ∧ op ≠ .or) {a b : Datum}
    (left : machine.eval x = some a) (right : machine.eval y = some b) :
    machine.eval (.binary op x y) = Datum.operate op a b := by
  rw [eval, left, Option.bind_some, right, Option.bind_some]
  · exact strict.1
  · exact strict.2

theorem eval_add {a b : Int} (left : machine.eval x = some (.int a))
    (right : machine.eval y = some (.int b)) :
    machine.eval (.binary .add x y) = some (.int (a + b)) :=
  eval_operate .add (by decide) left right

theorem eval_subtract {a b : Int} (left : machine.eval x = some (.int a))
    (right : machine.eval y = some (.int b)) :
    machine.eval (.binary .subtract x y) = some (.int (a - b)) :=
  eval_operate .subtract (by decide) left right

theorem holds_operate (op : BinaryOp) (strict : op ≠ .and ∧ op ≠ .or) {a b : Datum} {truth : Bool}
    (left : machine.eval x = some a) (right : machine.eval y = some b)
    (result : Datum.operate op a b = some (.ofBool truth)) :
    machine.holds (.binary op x y) = some truth := by
  rw [holds, eval_operate op strict left right, result]
  cases truth <;> rfl

section Integers

variable {a b : Int}

theorem holds_less (left : machine.eval x = some (.int a)) (right : machine.eval y = some (.int b)) :
    machine.holds (.binary .less x y) = some (decide (a < b)) :=
  holds_operate .less (by decide) left right rfl

theorem holds_greaterEqual (left : machine.eval x = some (.int a))
    (right : machine.eval y = some (.int b)) :
    machine.holds (.binary .greaterEqual x y) = some (decide (b ≤ a)) :=
  holds_operate .greaterEqual (by decide) left right rfl

theorem holds_equal (left : machine.eval x = some (.int a)) (right : machine.eval y = some (.int b)) :
    machine.holds (.binary .equal x y) = some (a == b) :=
  holds_operate .equal (by decide) left right rfl

theorem holds_notEqual (left : machine.eval x = some (.int a))
    (right : machine.eval y = some (.int b)) :
    machine.holds (.binary .notEqual x y) = some (a != b) :=
  holds_operate .notEqual (by decide) left right rfl

end Integers

theorem holds_and {first second : Bool} (left : machine.holds x = some first)
    (right : first = true → machine.holds y = some second) :
    machine.holds (.binary .and x y) = some (first && second) := by
  rw [holds, eval_and, left, Option.bind_some]
  cases first with
  | false => rfl
  | true =>
      rw [if_pos rfl, right rfl]
      cases second <;> rfl

theorem holds_or {first second : Bool} (left : machine.holds x = some first)
    (right : machine.holds y = some second) :
    machine.holds (.binary .or x y) = some (first || second) := by
  rw [holds, eval_or, left, Option.bind_some]
  cases first with
  | true => rfl
  | false =>
      rw [if_neg (by decide), right]
      cases second <;> rfl

theorem eval_move {place : Place} {first second : List UInt8} {distance : Int}
    (left : machine.eval x = some (.bytes place (first ++ second)))
    (right : machine.eval y = some (.int distance)) (here : distance = first.length) :
    machine.eval (.binary .add x y) = some (.bytes place second) := by
  subst here
  have inside : (0 : Int) ≤ first.length ∧ (first.length : Int) ≤ (first ++ second).length := by
    rw [List.length_append]
    omega
  rw [eval_operate .add (by decide) left right]
  show (if 0 ≤ (first.length : Int) ∧ _ then some (Datum.bytes place _) else none) = _
  rw [if_pos inside, Int.toNat_natCast, List.drop_left]

theorem eval_index {place : Place} {first second : List UInt8} {byte : UInt8} {position : Int}
    (array : machine.eval x = some (.bytes place (first ++ byte :: second)))
    (index : machine.eval y = some (.int position)) (here : position = first.length) :
    machine.eval (.index x y) = some (.int byte.toNat) := by
  subst here
  show ((machine.eval x).bind fun array => (machine.eval y).bind array.element) = _
  rw [array, Option.bind_some, index, Option.bind_some]
  show (first ++ byte :: second)[first.length]?.map _ = _
  rw [List.getElem?_append_right (Nat.le_refl _), Nat.sub_self]
  rfl

theorem eval_call (function : String) {result : Datum} {arguments : List Expr} {data : List Datum}
    (evaluated : machine.evalAll arguments = some data)
    (applied : Datum.applied function data = some result) :
    machine.eval (.call function arguments) = some result := by
  show (machine.evalAll arguments).bind (Datum.applied function) = _
  rw [evaluated, Option.bind_some, applied]

theorem evalAll_cons {datum : Datum} {rest : List Expr} {data : List Datum}
    (first : machine.eval x = some datum) (others : machine.evalAll rest = some data) :
    machine.evalAll (x :: rest) = some (datum :: data) := by
  show ((machine.eval x).bind fun first => (machine.evalAll rest).map (first :: ·)) = _
  rw [first, Option.bind_some, others, Option.map_some]

theorem eval_text (value : String) :
    machine.eval (.text value) = some (.bytes .constant (Text.encode value ++ [0])) := by
  show (C.literalValue (C.literal value)).map _ = _
  rw [C.literalValue_literal, Option.map_some]

theorem perform_append {target : String} {content first second : List UInt8} {place : Place}
    {count : Int} (text : machine.eval x = some (.text (.variable target) (some content)))
    (source : machine.eval y = some (.bytes place (first ++ second)))
    (number : machine.eval z = some (.int count)) (here : count = first.length) :
    machine.perform (.call "yb_string_append_data" [x, y, z]) =
      some (machine.set target (.text (.variable target) (some (content ++ first)))) := by
  subst here
  have inside : first.length ≤ (first ++ second).length := by simp
  rw [perform, evalAll_cons text (evalAll_cons source (evalAll_cons number rfl)), Option.bind_some]
  show (if first.length ≤ (first ++ second).length then _ else none) = _
  rw [if_pos inside, List.take_left]

theorem perform_append_text {target : String} {content : List UInt8} (value : String)
    (text : machine.eval x = some (.text (.variable target) (some content)))
    (clean : ∀ b ∈ Text.encode value, b ≠ 0) :
    machine.perform (.call "yb_string_append_c_str" [x, .text value]) =
      some (machine.set target (.text (.variable target) (some (content ++ Text.encode value)))) := by
  have ended : (0 : UInt8) ∈ Text.encode value ++ [0] := by simp
  have whole : (Text.encode value ++ [0]).takeWhile (· != 0) = Text.encode value := by
    rw [List.takeWhile_append_of_pos (by simpa using clean)]
    simp
  rw [perform, evalAll_cons text (evalAll_cons (eval_text value) rfl), Option.bind_some]
  show (if 0 ∈ Text.encode value ++ [0] then _ else none) = _
  rw [if_pos ended, whole]

theorem perform_increment {value : Int} (held : machine.locals name = some (.int value)) :
    machine.perform (.increment (.name name)) = some (machine.set name (.int (value + 1))) := by
  rw [perform, held]

end Machine

section Control

variable {machine after : Machine} {rest : List Stmt}

theorem iterate_next {σ ρ : Type} {step : σ → Option (σ ⊕ ρ)} {state next : σ}
    (stepped : step state = some (.inl next)) : iterate step state = iterate step next := by
  have turned : .inr next ∈ swapped step state := by simp [swapped, stepped]
  unfold iterate
  congr 1
  exact PFun.fix_fwd_eq turned

theorem iterate_end {σ ρ : Type} {step : σ → Option (σ ⊕ ρ)} {state : σ} {result : ρ}
    (stepped : step state = some (.inr result)) : iterate step state = some result := by
  have turned : .inl result ∈ swapped step state := by simp [swapped, stepped]
  simpa only [iterate, Part.toOption_eq_some_iff] using PFun.fix_stop turned

theorem runBlock_on {s : Stmt} (ran : runStmt s machine = some (after, .on)) :
    runBlock (s :: rest) machine = runBlock rest after := by
  show (runStmt s machine).bind _ = _
  rw [ran]
  rfl

theorem runBlock_off {s : Stmt} {flow : Flow} (ran : runStmt s machine = some (after, flow))
    (off : flow ≠ .on) : runBlock (s :: rest) machine = some (after, flow) := by
  show (runStmt s machine).bind _ = _
  rw [ran]
  cases flow with
  | on => exact absurd rfl off
  | next | leave | jump label => rfl

theorem runStmt_declare {type name : String} {value : Expr} {datum : Datum}
    (evaluated : machine.eval value = some datum) :
    runStmt (.declare type name (some value)) machine = some (machine.set name datum, .on) := by
  show (machine.eval value).map _ = _
  rw [evaluated, Option.map_some]

theorem runStmt_expression {e : Expr} (performed : machine.perform e = some after) :
    runStmt (.expression e) machine = some (after, .on) := by
  show (machine.perform e).map _ = _
  rw [performed, Option.map_some]

theorem runStmt_assign {target value : Expr} {datum : Datum}
    (evaluated : machine.eval value = some datum)
    (assigned : machine.assign target datum = some after) :
    runStmt (.assign target value) machine = some (after, .on) := by
  show ((machine.eval value).bind fun datum => (machine.assign target datum).map _) = _
  rw [evaluated, Option.bind_some, assigned, Option.map_some]

theorem runStmt_assign_name {name : String} {old datum : Datum} {value : Expr}
    (declared : machine.locals name = some old) (evaluated : machine.eval value = some datum) :
    runStmt (.assign (.name name) value) machine = some (machine.set name datum, .on) := by
  refine runStmt_assign evaluated ?_
  rw [Machine.assign, declared, Option.map_some]

theorem runStmt_branch {condition : Expr} {body : List Stmt} {otherwise : C.Else} {truth : Bool}
    (decided : machine.holds condition = some truth) :
    runStmt (.branch condition body otherwise) machine =
      if truth then runBlock body machine else runElse otherwise machine := by
  show (machine.holds condition).bind _ = _
  rw [decided, Option.bind_some]

end Control

end SqlMapper.Code
