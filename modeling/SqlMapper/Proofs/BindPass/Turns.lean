import SqlMapper.Proofs.BindPass.Fields

/-!
What one turn of the loop of the bind pass does. The state of the loop cuts the command in three:
what is copied already, what is read but not copied, and what is still to be read. A turn reads one
byte, leaves the loop, or reads one placeholder and fills the next slot from its field.
-/

namespace SqlMapper.Code

open C (Expr Stmt)
open Text (byte)

section Parts

def passTest : Expr :=
  .binary .less (.binary .add (.name "i") (.number 1)) commandLength

def notOpening : Expr :=
  .binary .or (.binary .notEqual (.index (.name "data") (.name "i")) (.character '#'))
    (.binary .notEqual (.index (.name "data") (.binary .add (.name "i") (.number 1)))
      (.character '{'))

def notClosing : Expr :=
  .binary .and (.binary .less (.name "end") commandLength)
    (.binary .notEqual (.index (.name "data") (.name "end")) (.character '}'))

/-- Looking for the end of a placeholder. -/
def seeking : Stmt :=
  .loop notClosing [.expression (.increment (.name "end"))]

/-- Copying what stands before a placeholder, and a question mark in its place. -/
def marking : List Stmt :=
  [.expression (.call "yb_string_append_data" [.name "prepare_sql",
      .binary .add (.name "data") (.name "pre"), .binary .subtract (.name "i") (.name "pre")]),
    .expression (.call "yb_string_append_c_str" [.name "prepare_sql", .text "?"])]

/-- Finding the name of a placeholder. -/
def naming : List Stmt :=
  [.declare "const char*" "name"
      (some (.binary .add (.binary .add (.name "data") (.name "i")) (.number 2))),
    .declare "int64_t" "name_len"
      (some (.binary .subtract (.binary .subtract (.name "end") (.name "i")) (.number 2)))]

/-- Going behind a placeholder. -/
def advancing : List Stmt :=
  [.expression (.increment (.name "bind_num")),
    .assign (.name "pre") (.binary .add (.name "end") (.number 1)),
    .assign (.name "i") (.name "end")]

/-- Filling a slot, if there is one. -/
def filling (shape : ResultMap) (slots : Nat) : List Stmt :=
  when (.binary .greaterEqual (.name "bind_num") (.number slots)) [done] ::
    bindChoice shape.fields :: advancing

def passBody (shape : ResultMap) (slots : Nat) : List Stmt :=
  .declare "const char*" "data" (some (.call "yb_string_data" [command])) ::
    when notOpening [.next] ::
    .declare "int64_t" "end" (some (.binary .add (.name "i") (.number 2))) ::
    seeking ::
    when (.binary .greaterEqual (.name "end") commandLength) [.leave] ::
    (marking ++ (naming ++ filling shape slots))

/-- Copying what follows the last placeholder. -/
def passTail : Stmt :=
  .expression (.call "yb_string_append_data" [.name "prepare_sql",
    .binary .add (.call "yb_string_data" [command]) (.name "pre"),
    .binary .subtract commandLength (.name "pre")])

theorem bindPass_eq (shape : ResultMap) (slots : Nat) :
    bindPass shape slots =
      [.count "int64_t" "i" (.number 0) passTest (passBody shape slots), passTail] :=
  rfl

end Parts

/-- The state of the loop: the command is what is copied, what is read but not copied, and the
rest. -/
structure At (machine : Machine) (before pending rest out : List UInt8) (count : Nat) : Prop where
  command : machine.locals "cmd" =
    some (.text (.variable "cmd") (some (before ++ (pending ++ rest))))
  prepared : machine.locals "prepare_sql" = some (.text (.variable "prepare_sql") (some out))
  pre : machine.locals "pre" = some (.int before.length)
  i : machine.locals "i" = some (.int (before.length + pending.length))
  count : machine.locals "bind_num" = some (.int count)

section Scanning

variable {machine : Machine} {before pending rest out : List UInt8} {count : Nat}

/-- The variables of the body are not part of the state of the loop. -/
theorem At.set (inv : At machine before pending rest out count) (name : String) (datum : Datum)
    (own : name ∈ ["data", "end", "name", "name_len"]) :
    At (machine.set name datum) before pending rest out count := by
  have other (outer : String) (listed : outer ∈ ["cmd", "prepare_sql", "pre", "i", "bind_num"]) :
      (machine.set name datum).locals outer = machine.locals outer := by
    rw [Machine.locals_set, if_neg]
    rintro rfl
    revert own
    revert listed
    simp only [List.mem_cons, List.not_mem_nil, or_false]
    rintro (rfl | rfl | rfl | rfl | rfl) <;> decide
  constructor
  · rw [other "cmd" (by decide), inv.command]
  · rw [other "prepare_sql" (by decide), inv.prepared]
  · rw [other "pre" (by decide), inv.pre]
  · rw [other "i" (by decide), inv.i]
  · rw [other "bind_num" (by decide), inv.count]

theorem At.write (inv : At machine before pending rest out count) (written : List UInt8) :
    At (machine.set "prepare_sql" (.text (.variable "prepare_sql") (some written))) before pending
      rest written count := by
  constructor
  · simp [inv.command]
  · simp
  · simp [inv.pre]
  · simp [inv.i]
  · simp [inv.count]

theorem eval_commandLength {place : Place} {content : List UInt8}
    (held : machine.locals "cmd" = some (.text place (some content))) :
    machine.eval commandLength = some (.int content.length) := by
  have text : machine.eval command = some (.text place (some content)) := by
    exact Machine.eval_held held (by decide)
  exact Machine.eval_call _ (Machine.evalAll_cons text rfl) rfl

theorem eval_commandData {place : Place} {content : List UInt8}
    (held : machine.locals "cmd" = some (.text place (some content))) :
    machine.eval (.call "yb_string_data" [command]) = some (.bytes place content) := by
  have text : machine.eval command = some (.text place (some content)) := by
    exact Machine.eval_held held (by decide)
  exact Machine.eval_call _ (Machine.evalAll_cons text rfl) rfl

theorem holds_passTest (inv : At machine before pending rest out count) :
    machine.holds passTest = some (decide (1 < rest.length)) := by
  have position : machine.eval (.binary .add (.name "i") (.number 1)) =
      some (.int (before.length + pending.length + 1)) :=
    Machine.eval_add (Machine.eval_held inv.i (by decide)) (Machine.eval_number 1)
  refine (Machine.holds_less position (eval_commandLength inv.command)).trans ?_
  rw [Option.some_inj, decide_eq_decide, List.length_append, List.length_append]
  omega

/-- A byte compared with an ASCII character. -/
theorem holds_differs {x : Expr} {b : UInt8} (read : machine.eval x = some (.int b.toNat)) (c : Char)
    (ascii : c.toNat < 128) :
    machine.holds (.binary .notEqual x (.character c)) = some (b != byte c) := by
  have compared : machine.holds (.binary .notEqual x (.character c)) =
      some ((b.toNat : Int) != (c.toNat : Int)) := Machine.holds_notEqual read rfl
  rw [compared, Option.some_inj, Bool.eq_iff_iff, bne_iff_ne, bne_iff_ne, not_iff_not,
    ← UInt8.toNat_inj, byte, UInt8.toNat_ofNat']
  omega

theorem holds_notOpening {a b : UInt8} (inv : At machine before pending (a :: b :: rest) out count)
    (data : machine.locals "data" =
      some (.bytes (.variable "cmd") (before ++ (pending ++ a :: b :: rest)))) :
    machine.holds notOpening = some (a != byte '#' || b != byte '{') := by
  have pointer : machine.eval (.name "data") = _ := Machine.eval_held data (by decide)
  have position : machine.eval (.name "i") = _ := Machine.eval_held inv.i (by decide)
  have next : machine.eval (.binary .add (.name "i") (.number 1)) = _ :=
    Machine.eval_add position (Machine.eval_number 1)
  have first : machine.eval (.index (.name "data") (.name "i")) = some (.int a.toNat) := by
    rw [← List.append_assoc] at pointer
    exact Machine.eval_index pointer position (by simp)
  have second : machine.eval (.index (.name "data") (.binary .add (.name "i") (.number 1))) =
      some (.int b.toNat) := by
    rw [← List.append_assoc, List.append_cons] at pointer
    refine Machine.eval_index pointer next ?_
    simp only [List.length_append, List.length_singleton]
    omega
  exact Machine.holds_or (holds_differs first '#' (by decide)) (holds_differs second '{' (by decide))

theorem holds_notClosing (place : Place) (first tail : List UInt8)
    (command : machine.locals "cmd" = some (.text place (some (first ++ tail))))
    (data : machine.locals "data" = some (.bytes place (first ++ tail)))
    (stop : machine.locals "end" = some (.int first.length)) :
    machine.holds notClosing = some (tail.head?.any (· != byte '}')) := by
  have position : machine.eval (.name "end") = _ := Machine.eval_held stop (by decide)
  have inside := Machine.holds_less position (eval_commandLength command)
  cases tail with
  | nil =>
      rw [List.append_nil, decide_eq_false (Int.lt_irrefl _)] at inside
      exact Machine.holds_and inside (nofun : false = true → machine.holds _ = some false)
  | cons b tail =>
      have pointer : machine.eval (.name "data") = _ := Machine.eval_held data (by decide)
      have here := Machine.eval_index pointer position rfl
      have shorter : (first.length : Int) < (first ++ b :: tail).length := by
        rw [List.length_append, List.length_cons]
        omega
      rw [decide_eq_true shorter] at inside
      exact Machine.holds_and inside fun _ => holds_differs here '}' (by decide)

/-- The search stops at the first closing brace, or at the end of the command. -/
theorem run_seeking (place : Place) (first name tail : List UInt8) (machine : Machine)
    (command : machine.locals "cmd" = some (.text place (some (first ++ (name ++ tail)))))
    (data : machine.locals "data" = some (.bytes place (first ++ (name ++ tail))))
    (stop : machine.locals "end" = some (.int first.length))
    (inside : byte '}' ∉ name) (ended : ∀ b ∈ tail.head?, b = byte '}') :
    runStmt seeking machine =
      some (machine.set "end" (.int (first.length + name.length)), .on) := by
  have tested := holds_notClosing place first (name ++ tail) command data stop
  rw [seeking, runStmt]
  induction name generalizing first machine with
  | nil =>
      have finished : tail.head?.any (· != byte '}') = false := by
        cases tail with
        | nil => rfl
        | cons b tail => simp [ended b rfl]
      rw [List.nil_append, finished] at tested
      rw [iterate_end (by rw [turn, tested]; rfl), Machine.set_eq_self (by simpa using stop)]
  | cons b name ih =>
      have going : ((b :: name ++ tail).head?.any (· != byte '}')) = true := by
        rw [List.cons_append, List.head?_cons, Option.any_some, bne_iff_ne]
        rintro rfl
        exact inside List.mem_cons_self
      rw [going] at tested
      have step : runBlock [.expression (.increment (.name "end"))] machine =
          some (machine.set "end" (.int (first.length + 1)), .on) := by
        rw [runBlock_on (runStmt_expression (Machine.perform_increment stop))]
        rfl
      rw [iterate_next (by rw [turn, tested, Option.bind_some, step]; rfl)]
      -- The same command, cut one byte later.
      have moved : first ++ (b :: name ++ tail) = (first ++ [b]) ++ (name ++ tail) := by simp
      rw [moved] at command data
      rw [ih (first ++ [b]) (machine.set "end" (.int (first.length + 1))) command data (by simp)
        (fun later => inside (List.mem_cons_of_mem b later))
        (holds_notClosing place _ _ command data (by simp)), Machine.set_set]
      simp only [List.length_append, List.length_cons, List.length_nil]
      congr 4
      omega

theorem run_when_false {condition : Expr} {body : List Stmt}
    (fails : machine.holds condition = some false) :
    runStmt (when condition body) machine = some (machine, .on) := by
  rw [when, runStmt_branch fails]
  rfl

theorem run_when_true {condition : Expr} {s : Stmt} {flow : Flow}
    (holds : machine.holds condition = some true) (ran : runStmt s machine = some (machine, flow))
    (off : flow ≠ .on) : runStmt (when condition [s]) machine = some (machine, flow) := by
  rw [when, runStmt_branch holds, if_pos rfl, runBlock_off ran off]

section Placeholder

variable (shape : ResultMap) (slots : Nat)

theorem run_plain {a b : UInt8} (inv : At machine before pending (a :: b :: rest) out count)
    (plain : ¬ (a = byte '#' ∧ b = byte '{')) :
    ∃ datum, runBlock (passBody shape slots) machine = some (machine.set "data" datum, .next) := by
  refine ⟨.bytes (.variable "cmd") (before ++ (pending ++ a :: b :: rest)), ?_⟩
  have tested := holds_notOpening (inv.set "data"
    (.bytes (.variable "cmd") (before ++ (pending ++ a :: b :: rest))) (by decide)) (by simp)
  have holds : (a != byte '#' || b != byte '{') = true := by
    rw [Bool.or_eq_true, bne_iff_ne, bne_iff_ne]
    exact Classical.not_and_iff_not_or_not.mp plain
  rw [holds] at tested
  rw [passBody, runBlock_on (runStmt_declare (eval_commandData inv.command)),
    runBlock_off (run_when_true tested rfl (by decide)) (by decide)]

/-- After an opening brace the body looks for the end of the placeholder. -/
theorem run_opened (name tail : List UInt8)
    (inv : At machine before pending (byte '#' :: byte '{' :: (name ++ tail)) out count)
    (inside : byte '}' ∉ name) (ended : ∀ b ∈ tail.head?, b = byte '}') :
    runBlock (passBody shape slots) machine =
      runBlock (when (.binary .greaterEqual (.name "end") commandLength) [.leave] ::
          (marking ++ (naming ++ filling shape slots)))
        ((machine.set "data" (.bytes (.variable "cmd")
            (before ++ (pending ++ byte '#' :: byte '{' :: (name ++ tail))))).set "end"
          (.int (before.length + pending.length + 2 + name.length))) := by
  have withData := inv.set "data" (.bytes (.variable "cmd")
    (before ++ (pending ++ byte '#' :: byte '{' :: (name ++ tail)))) (by decide)
  have tested := holds_notOpening withData (by simp)
  simp only [bne_self_eq_false, Bool.or_self] at tested
  have start := Machine.eval_add (Machine.eval_held withData.i (by decide))
    (Machine.eval_number 2)
  rw [passBody, runBlock_on (runStmt_declare (eval_commandData inv.command)),
    runBlock_on (run_when_false tested), runBlock_on (runStmt_declare start)]
  have cut : before ++ (pending ++ byte '#' :: byte '{' :: (name ++ tail)) =
      (before ++ pending ++ [byte '#', byte '{']) ++ (name ++ tail) := by simp
  rw [runBlock_on (run_seeking (.variable "cmd") (before ++ pending ++ [byte '#', byte '{']) name tail
    _ ?_ ?_ ?_ inside ended), Machine.set_set]
  · simp only [List.length_append, List.length_cons, List.length_nil]
    congr 3
  · simp [inv.command]
  · simp
  · simp
    omega

theorem holds_unclosed {content : List UInt8} {place : Place} {stop : Int}
    (command : machine.locals "cmd" = some (.text place (some content)))
    (held : machine.locals "end" = some (.int stop)) :
    machine.holds (.binary .greaterEqual (.name "end") commandLength) =
      some (decide (content.length ≤ stop)) :=
  Machine.holds_greaterEqual (Machine.eval_held held (by decide)) (eval_commandLength command)

theorem run_unclosed {name : List UInt8}
    (inv : At machine before pending (byte '#' :: byte '{' :: name) out count)
    (inside : byte '}' ∉ name) :
    ∃ after, runBlock (passBody shape slots) machine = some (after, .leave) ∧
      At after before pending (byte '#' :: byte '{' :: name) out count ∧
      after.slots = machine.slots := by
  have opened := run_opened shape slots name [] (by simpa using inv) inside (by simp)
  refine ⟨_, opened.trans (runBlock_off (run_when_true ?_ rfl (by decide)) (by decide)),
    (inv.set "data" _ (by decide)).set "end" _ (by decide), rfl⟩
  rw [holds_unclosed (by simpa using inv.command) (by simp; rfl)]
  simp only [List.length_append, List.length_cons, Option.some_inj, decide_eq_true_eq]
  omega

/-- The state once the name of a placeholder is found. -/
structure Named (machine : Machine) (before pending name more out : List UInt8) (count : Nat) :
    Prop where
  state : At machine before pending (byte '#' :: byte '{' :: (name ++ byte '}' :: more)) out count
  stop : machine.locals "end" =
    some (.int (before.length + pending.length + 2 + name.length))
  pointer : machine.locals "name" = some (.bytes (.variable "cmd") (name ++ byte '}' :: more))
  length : machine.locals "name_len" = some (.int name.length)

theorem run_marking {rest : List UInt8} (inv : At machine before pending rest out count)
    (data : machine.locals "data" =
      some (.bytes (.variable "cmd") (before ++ (pending ++ rest)))) (stmts : List Stmt) :
    runBlock (marking ++ stmts) machine =
      runBlock stmts (machine.set "prepare_sql"
        (.text (.variable "prepare_sql") (some (out ++ pending ++ [byte '?'])))) := by
  have mark : Text.encode "?" = [byte '?'] := by
    rw [Text.encode_eq]
    exact congrArg (· ++ []) (Text.utf8EncodeChar_ascii '?' (by decide))
  have copied := Machine.perform_append (Machine.eval_held inv.prepared (by decide))
    (Machine.eval_move (Machine.eval_held data (by decide))
      (Machine.eval_held inv.pre (by decide)) rfl)
    (Machine.eval_subtract (Machine.eval_held inv.i (by decide))
      (Machine.eval_held inv.pre (by decide))) (by omega)
  have marked := Machine.perform_append_text "?"
    (Machine.eval_held (inv.write (out ++ pending)).prepared (by decide))
    (by rw [mark, List.forall_mem_singleton]; decide)
  rw [mark, Machine.set_set] at marked
  exact (runBlock_on (runStmt_expression copied)).trans (runBlock_on (runStmt_expression marked))

theorem run_naming {name more : List UInt8}
    (inv : At machine before pending (byte '#' :: byte '{' :: (name ++ byte '}' :: more)) out count)
    (data : machine.locals "data" = some (.bytes (.variable "cmd")
      (before ++ (pending ++ byte '#' :: byte '{' :: (name ++ byte '}' :: more)))))
    (stop : machine.locals "end" =
      some (.int (before.length + pending.length + 2 + name.length))) (stmts : List Stmt) :
    ∃ after, runBlock (naming ++ stmts) machine = runBlock stmts after ∧
      Named after before pending name more out count ∧
      after.record = machine.record ∧ after.slots = machine.slots := by
  have opening : machine.eval (.binary .add (.name "data") (.name "i")) =
      some (.bytes (.variable "cmd") ([byte '#', byte '{'] ++ (name ++ byte '}' :: more))) := by
    rw [← List.append_assoc] at data
    exact Machine.eval_move (Machine.eval_held data (by decide))
      (Machine.eval_held inv.i (by decide)) (by simp)
  have pointer := Machine.eval_move opening (Machine.eval_number 2) rfl
  have named := inv.set "name" (.bytes (.variable "cmd") (name ++ byte '}' :: more)) (by decide)
  have later : (machine.set "name"
      (.bytes (.variable "cmd") (name ++ byte '}' :: more))).locals "end" = _ := stop
  have length := Machine.eval_subtract
    (Machine.eval_subtract (Machine.eval_held later (by decide))
      (Machine.eval_held named.i (by decide)))
    (Machine.eval_number 2)
  refine ⟨_, (runBlock_on (runStmt_declare pointer)).trans (runBlock_on (runStmt_declare length)),
    ⟨named.set "name_len" _ (by decide), by simpa using stop, by simp, ?_⟩, rfl, rfl⟩
  simp only [Machine.locals_set, if_true, Option.some_inj]
  congr 1
  omega

theorem run_named {name more : List UInt8}
    (inv : At machine before pending (byte '#' :: byte '{' :: (name ++ byte '}' :: more)) out count)
    (inside : byte '}' ∉ name) :
    ∃ after, runBlock (passBody shape slots) machine = runBlock (filling shape slots) after ∧
      Named after before pending name more (out ++ pending ++ [byte '?']) count ∧
      after.record = machine.record ∧ after.slots = machine.slots := by
  have state := (inv.set "data" (.bytes (.variable "cmd")
    (before ++ (pending ++ byte '#' :: byte '{' :: (name ++ byte '}' :: more)))) (by decide)).set
    "end" (.int (before.length + pending.length + 2 + name.length)) (by decide)
  have closed := holds_unclosed state.command (by simp; rfl)
  rw [run_opened shape slots name _ inv inside (by simp), runBlock_on (run_when_false ?_)]
  · rw [run_marking state (by simp)]
    exact run_naming (state.write _) (by simp) (by simp) _
  · rw [closed]
    simp only [List.length_append, List.length_cons, Option.some_inj, decide_eq_false_iff_not]
    omega

theorem holds_full (held : machine.locals "bind_num" = some (.int count)) :
    machine.holds (.binary .greaterEqual (.name "bind_num") (.number slots)) =
      some (decide (slots ≤ count)) := by
  rw [Machine.holds_greaterEqual (Machine.eval_held held (by decide)) (Machine.eval_number slots)]
  rw [Option.some_inj, decide_eq_decide, Int.ofNat_le]

theorem run_full {name more : List UInt8} (named : Named machine before pending name more out count)
    (full : slots ≤ count) :
    runBlock (filling shape slots) machine = some (machine, .jump "done") := by
  have guard := holds_full slots named.state.count
  rw [decide_eq_true full] at guard
  exact runBlock_off (run_when_true guard rfl (by decide)) (by decide)

theorem Named.fill {name more : List UInt8}
    (named : Named machine before pending name more out count) (index : Nat) (s : Slot) :
    Named (machine.fill index s) before pending name more out count :=
  ⟨⟨named.state.command, named.state.prepared, named.state.pre, named.state.i, named.state.count⟩,
    named.stop, named.pointer, named.length⟩

theorem run_advancing {name more : List UInt8}
    (named : Named machine before pending name more out count) :
    ∃ after next, runBlock advancing machine = some (after, .on) ∧
      after.perform (.increment (.name "i")) = some next ∧
      At next (before ++ (pending ++ byte '#' :: byte '{' :: (name ++ [byte '}']))) [] more out
        (count + 1) ∧
      next.record = machine.record ∧ next.slots = machine.slots := by
  have counted := Machine.perform_increment named.state.count
  have stop := Machine.held_set "bind_num" (.int (count + 1)) named.stop (by decide)
  have moved := runStmt_assign_name (Machine.held_set "bind_num" _ named.state.pre (by decide))
    (Machine.eval_add (Machine.eval_held stop (by decide)) (Machine.eval_number 1))
  have i := Machine.held_set "bind_num" (.int (count + 1)) named.state.i (by decide)
  have set (datum : Datum) := runStmt_assign_name (Machine.held_set "pre" datum i (by decide))
    (Machine.eval_held (Machine.held_set "pre" datum stop (by decide)) (by decide))
  refine ⟨_, _, (runBlock_on (runStmt_expression counted)).trans
    ((runBlock_on moved).trans ((runBlock_on (set _)).trans rfl)),
    Machine.perform_increment (by rw [Machine.locals_set, if_pos rfl]), ?_, rfl, rfl⟩
  constructor
  · simp [named.state.command]
  · simp [named.state.prepared]
  · simp
    omega
  · simp
    omega
  · simp

section Choice

variable {property : String} {more : List UInt8}
  (named : Named machine before pending (Text.encode property) more out count) (room : count < slots)

include named room

theorem run_strange (strange : shape.field? property = none) :
    runBlock (filling shape slots) machine = some (machine, .jump "done") := by
  have guard := holds_full slots named.state.count
  rw [decide_eq_false (by omega)] at guard
  have chosen := run_bindChoice shape.fields property named.pointer named.length
  rw [← ResultMap.field?, strange] at chosen
  exact (runBlock_on (run_when_false guard)).trans (runBlock_off chosen (by decide))

theorem run_field {f : Field} {value : Value} (found : shape.field? property = some f)
    (held : machine.record.get? f.property = some value) (kind : value.kind = f.kind)
    (cleared : machine.slots[count]? = some .cleared) :
    ∃ after next, runBlock (filling shape slots) machine = some (after, .on) ∧
      after.perform (.increment (.name "i")) = some next ∧
      At next (before ++ (pending ++ byte '#' :: byte '{' :: (Text.encode property ++ [byte '}'])))
        [] more out (count + 1) ∧
      next.record = machine.record ∧
      next.slots = machine.slots.set count (slotOf ⟨count, f, value⟩) := by
  have guard := holds_full slots named.state.count
  rw [decide_eq_false (by omega)] at guard
  have chosen := run_bindChoice shape.fields property named.pointer named.length
  rw [← ResultMap.field?, found] at chosen
  replace chosen := chosen.trans (run_bindField held kind named.state.count cleared)
  obtain ⟨after, next, ran, incremented, state, record, filled⟩ :=
    run_advancing (named.fill count (slotOf ⟨count, f, value⟩))
  exact ⟨after, next,
    (runBlock_on (run_when_false guard)).trans ((runBlock_on chosen).trans ran), incremented, state,
    record, filled⟩

end Choice

/-- One turn of the loop of the bind pass. -/
noncomputable def passTurn : Machine → Option (Machine ⊕ (Machine × Flow)) :=
  turn (·.holds passTest) (runBlock (passBody shape slots)) (·.perform (.increment (.name "i")))

theorem turn_end (inv : At machine before pending rest out count) (short : ¬ 1 < rest.length) :
    passTurn shape slots machine = some (.inr (machine, .on)) := by
  rw [passTurn, turn, holds_passTest inv, decide_eq_false short]
  rfl

theorem turn_of_run (inv : At machine before pending rest out count) (long : 1 < rest.length)
    {after : Machine} {flow : Flow}
    (ran : runBlock (passBody shape slots) machine = some (after, flow)) :
    passTurn shape slots machine =
      ending (·.perform (.increment (.name "i"))) (after, flow) := by
  rw [passTurn, turn, holds_passTest inv, decide_eq_true long, Option.bind_some]
  simp only [ran, Option.bind_some]

theorem turn_plain {a b : UInt8} (inv : At machine before pending (a :: b :: rest) out count)
    (plain : ¬ (a = byte '#' ∧ b = byte '{')) :
    ∃ next, passTurn shape slots machine = some (.inl next) ∧
      At next before (pending ++ [a]) (b :: rest) out count ∧
      next.record = machine.record ∧ next.slots = machine.slots := by
  obtain ⟨datum, ran⟩ := run_plain shape slots inv plain
  have i := Machine.held_set "data" datum inv.i (by decide)
  refine ⟨_, (turn_of_run shape slots inv (by simp) ran).trans
    (congrArg (Option.map Sum.inl) (Machine.perform_increment i)), ?_, rfl, rfl⟩
  constructor
  · simp [inv.command]
  · simp [inv.prepared]
  · simp [inv.pre]
  · simp
    omega
  · simp [inv.count]

theorem turn_unclosed {name : List UInt8}
    (inv : At machine before pending (byte '#' :: byte '{' :: name) out count)
    (inside : byte '}' ∉ name) :
    ∃ after, passTurn shape slots machine = some (.inr (after, .on)) ∧
      At after before pending (byte '#' :: byte '{' :: name) out count ∧
      after.slots = machine.slots := by
  obtain ⟨after, ran, state, kept⟩ := run_unclosed shape slots inv inside
  exact ⟨after, turn_of_run shape slots inv (by simp) ran, state, kept⟩

section Closed

variable {property : String} {more : List UInt8}
  (inv : At machine before pending
    (byte '#' :: byte '{' :: (Text.encode property ++ byte '}' :: more)) out count)
  (inside : byte '}' ∉ Text.encode property)

include inv inside

theorem turn_rejected (rejected : slots ≤ count ∨ shape.field? property = none) :
    ∃ after, passTurn shape slots machine = some (.inr (after, .jump "done")) := by
  obtain ⟨after, ran, named, _⟩ := run_named shape slots inv inside
  have jumped : runBlock (filling shape slots) after = some (after, .jump "done") := by
    by_cases full : slots ≤ count
    · exact run_full shape slots named full
    · exact run_strange shape slots named (by omega) (rejected.resolve_left full)
  exact ⟨after, turn_of_run shape slots inv (by simp) (ran.trans jumped)⟩

theorem turn_bound (room : count < slots) {f : Field} {value : Value}
    (found : shape.field? property = some f)
    (held : machine.record.get? f.property = some value) (kind : value.kind = f.kind)
    (cleared : machine.slots[count]? = some .cleared) :
    ∃ next, passTurn shape slots machine = some (.inl next) ∧
      At next (before ++ (pending ++ byte '#' :: byte '{' :: (Text.encode property ++ [byte '}'])))
        [] more (out ++ pending ++ [byte '?']) (count + 1) ∧
      next.record = machine.record ∧
      next.slots = machine.slots.set count (slotOf ⟨count, f, value⟩) := by
  obtain ⟨middle, ran, named, record, slots⟩ := run_named shape slots inv inside
  rw [← record] at held
  rw [← slots] at cleared
  obtain ⟨after, next, filled, incremented, state, kept, written⟩ :=
    run_field shape _ named room found held kind cleared
  refine ⟨next, (turn_of_run shape _ inv (by simp) (ran.trans filled)).trans
    (congrArg (Option.map Sum.inl) incremented), state, ?_, ?_⟩
  · rw [kept, record]
  · rw [written, slots]

end Closed

end Placeholder

end Scanning

end SqlMapper.Code
