import SqlMapper.Proofs.BindPass.Turns
import SqlMapper.Proofs.Buffer.Correctness
import SqlMapper.Proofs.Preparation

/-!
The bind pass agrees with the preparation of a text. Run on the bytes of a command, the emitted loop
ends; it leaves the function exactly if the preparation fails or binds more values than there are
slots, and otherwise writes the bytes of the prepared text, counts the bindings, and has filled the
slots from them in order.
-/

namespace SqlMapper.Code

open C (Expr Stmt)
open Sql (Binding Prepared prepareScan prepareScan_plain prepareScan_unclosed prepareScan_closed prepare
  boundValue)
open Text (byte encodeChars)

/-- How a run ends: control leaves it, or it goes on with what is written to the prepared text, the
number of bindings and the slots. -/
def Ends (slots : Nat) (out : List UInt8) (filled : List Slot)
    (result : Option (Machine × Flow)) : Except String Prepared → Prop
  | .error _ => ∃ after, result = some (after, .jump "done")
  | .ok done =>
      if filled.length + done.bindings.length ≤ slots then
        ∃ after, result = some (after, .on) ∧
          after.locals "prepare_sql" =
            some (.text (.variable "prepare_sql") (some (out ++ encodeChars done.text))) ∧
          after.locals "bind_num" = some (.int (filled.length + done.bindings.length : Nat)) ∧
          after.slots = filled ++ done.bindings.map slotOf ++
            List.replicate (slots - (filled.length + done.bindings.length)) .cleared
      else ∃ after, result = some (after, .jump "done")

section Ends

variable {slots : Nat} {out : List UInt8} {filled : List Slot} {result : Option (Machine × Flow)}
  {scanned : Except String Prepared}

theorem ends_text (c : Char) (ends : Ends slots (out ++ encodeChars [c]) filled result scanned) :
    Ends slots out filled result
      (scanned.map fun more => ⟨c :: more.text, more.bindings⟩) := by
  cases scanned with
  | error name => exact ends
  | ok more =>
      simpa [Ends, Except.map, List.append_assoc] using ends

theorem ends_binding (b : Binding)
    (ends : Ends slots (out ++ [byte '?']) (filled ++ [slotOf b]) result scanned) :
    Ends slots out filled result
      (scanned.map fun more => ⟨'?' :: more.text, b :: more.bindings⟩) := by
  cases scanned with
  | error name => exact ends
  | ok more =>
      have lengths : (filled ++ [slotOf b]).length + more.bindings.length =
          filled.length + (b :: more.bindings).length := by
        rw [List.length_append, List.length_singleton, List.length_cons]
        omega
      have mark : Text.encodeChars ('?' :: more.text) = byte '?' :: encodeChars more.text := by
        rw [Text.encodeChars_cons, Text.utf8EncodeChar_ascii '?' (by decide), List.singleton_append]
      rw [Ends, lengths] at ends
      rw [Except.map, Ends, mark, List.map_cons]
      simpa only [List.append_assoc, List.singleton_append, List.cons_append, List.nil_append]
        using ends

theorem ends_rejected (b : Binding) (full : slots ≤ filled.length)
    (left : ∃ after, result = some (after, .jump "done")) :
    Ends slots out filled result
      (scanned.map fun more => ⟨'?' :: more.text, b :: more.bindings⟩) := by
  cases scanned with
  | error name => exact left
  | ok more =>
      have excess : ¬ filled.length + (b :: more.bindings).length ≤ slots := by
        rw [List.length_cons]
        omega
      simpa only [Except.map, Ends, if_neg excess] using left

end Ends

section Running

variable (shape : ResultMap) (slots : Nat)

/-- The rest of the pass, from the head of the loop. -/
noncomputable def passFrom (machine : Machine) : Option (Machine × Flow) :=
  (iterate (passTurn shape slots) machine).bind fun
    | (after, .on) => runBlock [passTail] after
    | (after, flow) => some (after, flow)

theorem run_bindPass (machine : Machine) :
    runBlock (bindPass shape slots) machine =
      passFrom shape slots (machine.set "i" (.int 0)) := by
  rw [bindPass_eq, runBlock, runStmt, Machine.eval_number]
  rfl

variable {shape slots} {machine next after : Machine} {before pending rest out : List UInt8}
  {count : Nat}

theorem passFrom_next (stepped : passTurn shape slots machine = some (.inl next)) :
    passFrom shape slots machine = passFrom shape slots next := by
  rw [passFrom, iterate_next stepped]
  rfl

theorem passFrom_jump {label : String}
    (stepped : passTurn shape slots machine = some (.inr (after, .jump label))) :
    passFrom shape slots machine = some (after, .jump label) := by
  rw [passFrom, iterate_end stepped]
  rfl

/-- When the loop is over, what is not yet copied is copied. -/
theorem passFrom_end (stepped : passTurn shape slots machine = some (.inr (after, .on)))
    (inv : At after before pending rest out count) :
    passFrom shape slots machine = some (after.set "prepare_sql"
      (.text (.variable "prepare_sql") (some (out ++ (pending ++ rest)))), .on) := by
  have pre : after.eval (.name "pre") = _ := Machine.eval_held inv.pre (by decide)
  have source := Machine.eval_move (eval_commandData inv.command) pre rfl
  have length := Machine.eval_subtract (eval_commandLength inv.command) pre
  rw [← List.append_nil (pending ++ rest)] at source
  have copied := Machine.perform_append (Machine.eval_held inv.prepared (by decide)) source length
    (by simp only [List.length_append]; omega)
  rw [passFrom, iterate_end stepped]
  exact (runBlock_on (runStmt_expression copied)).trans rfl

/-- Bytes without a hash sign are read one by one. -/
theorem passFrom_skip (bytes tail : List UInt8) (plain : byte '#' ∉ bytes) (more : tail ≠ [])
    (inv : At machine before pending (bytes ++ tail) out count) :
    ∃ next, passFrom shape slots machine = passFrom shape slots next ∧
      At next before (pending ++ bytes) tail out count ∧
      next.record = machine.record ∧ next.slots = machine.slots := by
  induction bytes generalizing machine pending with
  | nil => exact ⟨machine, rfl, by simpa using inv, rfl, rfl⟩
  | cons a bytes ih =>
      obtain ⟨b, others, rest⟩ : ∃ b others, bytes ++ tail = b :: others :=
        List.exists_cons_of_ne_nil (by simp [more])
      rw [List.cons_append, rest] at inv
      obtain ⟨middle, stepped, state, record, kept⟩ := turn_plain shape slots inv (by
        rintro ⟨rfl, _⟩
        exact plain List.mem_cons_self)
      rw [← rest] at state
      obtain ⟨next, same, reached, sameRecord, sameSlots⟩ :=
        ih (fun later => plain (List.mem_cons_of_mem a later)) state
      refine ⟨next, (passFrom_next stepped).trans same, by simpa using reached, ?_, ?_⟩
      · rw [sameRecord, record]
      · rw [sameSlots, kept]

section Scan

variable {filled : List Slot}
  (kept : machine.slots = filled ++ List.replicate (slots - filled.length) .cleared)

include kept

theorem ends_of_end (room : filled.length ≤ slots)
    (stepped : passTurn shape slots machine = some (.inr (after, .on)))
    (same : after.slots = machine.slots) (inv : At after before pending rest out filled.length)
    {total : List UInt8} {text : List Char}
    (written : out ++ (pending ++ rest) = total ++ encodeChars text) :
    Ends slots total filled (passFrom shape slots machine) (.ok ⟨text, []⟩) := by
  refine (if_pos (by simpa using room)).mpr ⟨_, passFrom_end stepped inv, ?_, inv.count, ?_⟩
  · rw [Machine.locals_set, if_pos rfl, written]
  · simpa [same] using kept

/-- A character that opens no placeholder is kept. -/
theorem ends_plain (room : filled.length ≤ slots) (c : Char) (text : List Char) (plain : ¬ (c = '#' ∧ text.head? = some '{'))
    (inv : At machine before pending (encodeChars (c :: text)) out filled.length)
    (scanned : Except String Prepared) (empty : text = [] → scanned = .ok ⟨[], []⟩)
    (later : ∀ next read, At next before read (encodeChars text) out filled.length →
      next.record = machine.record → next.slots = machine.slots →
      Ends slots (out ++ read) filled (passFrom shape slots next) scanned) :
    Ends slots (out ++ pending) filled (passFrom shape slots machine)
      (scanned.map fun more => ⟨c :: more.text, more.bindings⟩) := by
  -- All bytes of the character but the last are followed by one that opens nothing.
  obtain ⟨first, last, bytes⟩ : ∃ first last, String.utf8EncodeChar c = first ++ [last] := by
    rcases List.eq_nil_or_concat (String.utf8EncodeChar c) with none | ⟨first, last, some⟩
    · exact absurd none String.utf8EncodeChar_ne_nil
    · exact ⟨first, last, by simpa using some⟩
  have clean : byte '#' ∉ first := by
    intro member
    have hash : c = '#' := Text.mem_utf8EncodeChar_ascii (by decide)
      (by rw [bytes]; exact List.mem_append_left _ member)
    subst hash
    rw [Text.utf8EncodeChar_ascii '#' (by decide)] at bytes
    have short : first.length + 1 = 1 := by simpa using (congrArg List.length bytes).symm
    rw [List.length_eq_zero_iff.mp (Nat.succ.inj short)] at member
    cases member
  have spelled : encodeChars (c :: text) = first ++ last :: encodeChars text := by
    rw [Text.encodeChars_cons, bytes, List.append_assoc, List.singleton_append]
  rw [spelled] at inv
  obtain ⟨middle, same, state, record, slotsKept⟩ :=
    passFrom_skip first (last :: encodeChars text) clean (by simp) inv
  rw [same]
  cases text with
  | nil =>
      rw [empty rfl]
      refine ends_of_end (slotsKept.trans kept) room (turn_end shape slots state (by simp)) rfl state ?_
      simp [bytes]
  | cons d text =>
      obtain ⟨b, others, encoded⟩ := List.exists_cons_of_ne_nil (Text.encodeChars_ne_nil d text)
      rw [encoded] at state
      have unopened : ¬ (last = byte '#' ∧ b = byte '{') := by
        rintro ⟨rfl, rfl⟩
        have hash : c = '#' := Text.mem_utf8EncodeChar_ascii (by decide) (by rw [bytes]; simp)
        have brace : d = '{' :=
          Text.head?_encodeChars_ascii (by decide) text (by rw [encoded]; rfl)
        exact plain ⟨hash, congrArg some brace⟩
      obtain ⟨next, stepped, reached, nextRecord, nextSlots⟩ :=
        turn_plain shape slots state unopened
      rw [passFrom_next stepped]
      rw [← encoded] at reached
      have ends := later next _ reached (nextRecord.trans record) (nextSlots.trans slotsKept)
      apply ends_text
      simpa [bytes, List.append_assoc] using ends

theorem ends_unclosed (room : filled.length ≤ slots) (name : List Char) (inside : '}' ∉ name)
    (inv : At machine before pending (encodeChars ('#' :: '{' :: name)) out filled.length) :
    Ends slots (out ++ pending) filled (passFrom shape slots machine)
      (.ok ⟨'#' :: '{' :: name, []⟩) := by
  have spelled : encodeChars ('#' :: '{' :: name) = byte '#' :: byte '{' :: encodeChars name := by
    simp [Text.utf8EncodeChar_ascii]
  rw [spelled] at inv
  obtain ⟨after, stepped, state, same⟩ := turn_unclosed shape slots inv
    fun member => inside (Text.mem_encodeChars_ascii (by decide) name member)
  refine ends_of_end kept room stepped same state ?_
  rw [spelled, List.append_assoc]

/-- A placeholder leaves the function, or fills the next slot and becomes a question mark. -/
theorem ends_closed {record : Record} (fits : record.Fits shape) (holds : machine.record = record)
    (name text : List Char) (inside : '}' ∉ name)
    (inv : At machine before pending (encodeChars ('#' :: '{' :: (name ++ '}' :: text))) out
      filled.length)
    (scanned : Except String Prepared)
    (later : ∀ next before out more, more.length = filled.length + 1 →
      At next before [] (encodeChars text) out more.length → next.record = record →
      next.slots = more ++ List.replicate (slots - more.length) .cleared → more.length ≤ slots →
      Ends slots out more (passFrom shape slots next) scanned) :
    Ends slots (out ++ pending) filled (passFrom shape slots machine)
      (match shape.field? (String.ofList name) with
      | none => .error (String.ofList name)
      | some f => scanned.map fun more =>
          ⟨'?' :: more.text, ⟨filled.length, f, boundValue record f⟩ :: more.bindings⟩) := by
  have spelled : encodeChars ('#' :: '{' :: (name ++ '}' :: text)) =
      byte '#' :: byte '{' :: (Text.encode (String.ofList name) ++ byte '}' :: encodeChars text) := by
    simp [Text.utf8EncodeChar_ascii, Text.encodeChars_append]
  rw [spelled] at inv
  have unclosed : byte '}' ∉ Text.encode (String.ofList name) := by
    rw [Text.encode_ofList]
    exact fun member => inside (Text.mem_encodeChars_ascii (by decide) name member)
  cases found : shape.field? (String.ofList name) with
  | none =>
      obtain ⟨after, stepped⟩ := turn_rejected shape slots inv unclosed (.inr found)
      exact ⟨after, passFrom_jump stepped⟩
  | some f =>
      by_cases full : slots ≤ filled.length
      · obtain ⟨after, stepped⟩ := turn_rejected shape slots inv unclosed (.inl full)
        exact ends_rejected _ full ⟨after, passFrom_jump stepped⟩
      · obtain ⟨value, held, kind⟩ := fits f (List.mem_of_find?_eq_some found)
        have bound : boundValue record f = value := by rw [boundValue, held, Option.getD_some]
        obtain ⟨remaining, left⟩ : ∃ remaining, slots - filled.length = remaining + 1 :=
          ⟨slots - filled.length - 1, by omega⟩
        rw [left, List.replicate_succ] at kept
        obtain ⟨next, stepped, state, nextRecord, nextSlots⟩ := turn_bound shape slots inv unclosed
          (by omega) found (by rw [holds, held]) kind (by rw [kept]; simp)
        rw [passFrom_next stepped]
        simp only [bound]
        apply ends_binding
        refine later next (before ++ (pending ++ byte '#' :: byte '{' ::
          (Text.encode (String.ofList name) ++ [byte '}']))) _ _ (by simp) ?_
          (nextRecord.trans holds) ?_ ?_
        · simpa [List.append_assoc] using state
        · rw [nextSlots, kept]
          have less : slots - (filled ++ [slotOf ⟨filled.length, f, value⟩]).length = remaining := by
            rw [List.length_append, List.length_singleton]
            omega
          rw [less]
          simp
        · rw [List.length_append, List.length_singleton]
          omega

end Scan

end Running

-- By induction on the length of the rest: a turn reads at least one character of it.
/-- The run from any state of the loop is described by the scan of the rest of the command. -/
theorem ends_of_at {shape : ResultMap} {slots : Nat} {record : Record} (fits : record.Fits shape)
    (text : List Char) (filled : List Slot) {machine : Machine} {before pending out : List UInt8}
    (inv : At machine before pending (encodeChars text) out filled.length)
    (holds : machine.record = record)
    (kept : machine.slots = filled ++ List.replicate (slots - filled.length) .cleared)
    (room : filled.length ≤ slots) :
    Ends slots (out ++ pending) filled (passFrom shape slots machine)
      (prepareScan shape record filled.length none text) := by
  cases text with
  | nil =>
      rw [prepareScan]
      exact ends_of_end kept room (turn_end shape slots inv (by simp)) rfl inv (by simp)
  | cons c rest =>
      by_cases opening : c = '#' ∧ rest.head? = some '{'
      · obtain ⟨rfl, brace⟩ := opening
        obtain ⟨inner, rfl⟩ := List.head?_eq_some_iff.mp brace
        rw [prepareScan]
        by_cases closed : '}' ∈ inner
        · obtain ⟨name, after, rfl, inside⟩ := List.eq_append_cons_of_mem closed
          rw [prepareScan_closed shape record _ [] name after inside]
          refine ends_closed kept fits holds name after inside inv _ ?_
          intro next before out more longer state record kept room
          rw [← longer]
          simpa using ends_of_at fits after more state record kept room
        · rw [prepareScan_unclosed shape record _ [] inner closed]
          exact ends_unclosed kept room inner closed inv
      · rw [prepareScan_plain shape record _ c rest opening]
        refine ends_plain kept room c rest opening inv _ ?_ ?_
        · rintro rfl
          rw [prepareScan]
        · intro next read state record same
          exact ends_of_at fits rest filled state (record.trans holds) (same.trans kept) room
termination_by text.length

/-- The machine as the declarations of a function leave it, with a command. -/
def Machine.start (record : Record) (command : String) (slots : Nat) : Machine where
  record := record
  locals := fun name =>
    [("cmd", Datum.text (.variable "cmd") (some (Text.encode command))),
      ("prepare_sql", .text (.variable "prepare_sql") (some [])),
      ("bind_num", .int 0), ("pre", .int 0)].lookup name
  slots := List.replicate slots .cleared

theorem at_start (record : Record) (command : String) (slots : Nat) :
    At ((Machine.start record command slots).set "i" (.int 0)) [] []
      (encodeChars command.toList) [] 0 := by
  constructor
  · rw [Machine.locals_set, if_neg (by decide), ← Text.encode_eq]
    rfl
  · rfl
  · rfl
  · rfl
  · rfl

section Pass

variable {shape : ResultMap} {record : Record} (fits : record.Fits shape) (command : String)
  (slots : Nat)

include fits

theorem ends_bindPass :
    Ends slots [] [] (runBlock (bindPass shape slots) (.start record command slots))
      (prepareScan shape record 0 none command.toList) := by
  rw [run_bindPass]
  exact ends_of_at fits command.toList [] (at_start record command slots) rfl rfl (Nat.zero_le slots)

/-- A text whose bindings have room is prepared by the pass. -/
theorem run_bindPass_of_prepared {prepared : String} {bindings : List Binding}
    (success : prepare shape record command = .ok (prepared, bindings))
    (room : bindings.length ≤ slots) :
    ∃ after, runBlock (bindPass shape slots) (.start record command slots) = some (after, .on) ∧
      after.locals "prepare_sql" =
        some (.text (.variable "prepare_sql") (some (Text.encode prepared))) ∧
      after.locals "bind_num" = some (.int bindings.length) ∧
      after.slots = bindings.map slotOf ++ List.replicate (slots - bindings.length) .cleared := by
  have ends := ends_bindPass fits command slots
  rw [prepare, Outcome.map_eq_ok_iff] at success
  obtain ⟨done, scanned, same⟩ := success
  cases same
  rw [scanned, Ends, List.length_nil, Nat.zero_add, if_pos room] at ends
  simpa only [List.nil_append, Text.encode_ofList] using ends

/-- The pass leaves the function on every other text, and only on those. -/
theorem run_bindPass_leaves_iff :
    (∃ after, runBlock (bindPass shape slots) (.start record command slots) =
        some (after, .jump "done")) ↔
      (∃ name, prepare shape record command = .error name) ∨
        ∃ prepared bindings, prepare shape record command = .ok (prepared, bindings) ∧
          slots < bindings.length := by
  have ends := ends_bindPass fits command slots
  cases scanned : prepareScan shape record 0 none command.toList with
  | error name =>
      rw [scanned] at ends
      have failed : prepare shape record command = .error name := by
        rw [prepare, scanned]
        rfl
      exact iff_of_true ends (.inl ⟨name, failed⟩)
  | ok done =>
      have success : prepare shape record command =
          .ok (String.ofList done.text, done.bindings) := by
        rw [prepare, scanned]
        rfl
      by_cases room : done.bindings.length ≤ slots
      · obtain ⟨after, ran, _⟩ := run_bindPass_of_prepared fits command slots success room
        rw [ran, success]
        constructor
        · rintro ⟨other, same⟩
          cases same
        · rintro (⟨name, same⟩ | ⟨prepared, bindings, same, excess⟩)
          · cases same
          · cases same
            omega
      · rw [scanned, Ends, List.length_nil, Nat.zero_add, if_neg room] at ends
        exact iff_of_true ends (.inr ⟨_, _, success, by omega⟩)

end Pass

theorem bindPass_infix_lines (signature : C.Signature) (shape : ResultMap) (row : Option ResultMap)
    (slots : Nat) (program : List BufferOp) :
    C.blockLines 1 (bindPass shape slots) <:+:
      C.Item.lines (.function signature (functionBody shape row slots program)) := by
  unfold functionBody C.Item.lines
  simp only [blockLines_append]
  simp only [List.append_assoc, List.cons_append]
  refine List.IsInfix.trans ?_ (List.suffix_cons _ _).isInfix
  iterate 6 refine List.IsInfix.trans ?_ (List.suffix_append _ _).isInfix
  exact (List.prefix_append _ _).isInfix

/-- The function of every statement of an accepted mapper holds a bind pass with a slot for every
placeholder. From cleared variables the pass leaves the function exactly if the text cannot be
prepared or binds more values than there are slots; otherwise it has written the prepared text,
counted the bindings, and filled the slots from their fields in order. -/
theorem bindPass_prepares (m : Mapper) (compiled : Compiled)
    (accepted : (compile m).outcome = .ok compiled) (statement : Statement)
    (member : statement ∈ m.statements.values) :
    ∃ shape row count program slots,
      m.parameterShape statement = .ok shape ∧
      placeholderSlots m statement shape = .ok count ∧ slots = max 1 count ∧
      C.Item.function (signature statement shape row) (functionBody shape row slots program)
        ∈ compiled.source ∧
      C.blockLines 1 (bindPass shape slots) <:+:
        C.Item.lines (.function (signature statement shape row)
          (functionBody shape row slots program)) ∧
      ∀ (record : Record) (command : String), record.Fits shape →
        ((∃ after, runBlock (bindPass shape slots) (.start record command slots) =
            some (after, .jump "done")) ↔
          (∃ name, prepare shape record command = .error name) ∨
            ∃ prepared bindings, prepare shape record command = .ok (prepared, bindings) ∧
              slots < bindings.length) ∧
        ∀ (prepared : String) (bindings : List Binding),
          prepare shape record command = .ok (prepared, bindings) → bindings.length ≤ slots →
          ∃ after, runBlock (bindPass shape slots) (.start record command slots) =
              some (after, .on) ∧
            after.locals "prepare_sql" =
              some (.text (.variable "prepare_sql") (some (Text.encode prepared))) ∧
            after.locals "bind_num" = some (.int bindings.length) ∧
            after.slots = bindings.map slotOf ++
              List.replicate (slots - bindings.length) .cleared := by
  obtain ⟨resolved, program, _, isResolved, _, listed⟩ :=
    function_of_compile m compiled accepted statement member
  obtain ⟨shapeFound, count, counted, slots⟩ := resolve_eq_ok m statement resolved isResolved
  refine ⟨resolved.shape, resolved.row, count, program, resolved.slots, shapeFound, counted, slots,
    listed, bindPass_infix_lines .., ?_⟩
  intro record command fits
  exact ⟨run_bindPass_leaves_iff fits command resolved.slots,
    fun prepared bindings success room => run_bindPass_of_prepared fits command _ success room⟩

/-- One placeholder, after which another is opened but not closed. -/
def dangling : String :=
  "\u00e9 = '#' + #\x7bid\x7d #\x7b"

theorem dangling_bindPass :
    Record.Fits ⟨[("id", .int 7)]⟩ identified ∧
      (∃ compiled, (compile (deleting [.text "#\x7bid\x7d"])).outcome = .ok compiled) ∧
      (∃ after, runBlock (bindPass identified 1) (.start ⟨[("id", .int 7)]⟩ dangling 1) =
          some (after, .on) ∧
        after.locals "prepare_sql" = some (.text (.variable "prepare_sql")
          (some (Text.encode "\u00e9 = '#' + ? #\x7b"))) ∧
        after.locals "bind_num" = some (.int 1) ∧
        after.slots = [⟨some "MYSQL_TYPE_LONGLONG", some (.address "id"), none⟩]) ∧
      ∃ after, runBlock (bindPass identified 1)
        (.start ⟨[("id", .int 7)]⟩ "#\x7bid\x7d#\x7bid\x7d" 1) = some (after, .jump "done") := by
  have fits : Record.Fits ⟨[("id", .int 7)]⟩ identified := by
    intro f member
    rw [List.mem_singleton.mp member]
    exact ⟨.int 7, rfl, rfl⟩
  obtain ⟨compiled, accepted⟩ : Accepted (deleting [.text "#\x7bid\x7d"]) := by decide +kernel
  obtain ⟨shape, row, count, program, slots, found, counted, same, _, _, agrees⟩ :=
    bindPass_prepares (deleting [.text "#\x7bid\x7d"]) compiled accepted
      (deletion [.text "#\x7bid\x7d"]) (List.mem_singleton.mpr rfl)
  have sameShape : identified = shape := Except.ok.inj found
  subst sameShape
  have one : placeholderSlots (deleting [.text "#\x7bid\x7d"]) (deletion [.text "#\x7bid\x7d"])
      identified = .ok 1 := by rfl
  rw [one] at counted
  cases counted
  subst same
  refine ⟨fits, ⟨compiled, accepted⟩, ?_, ?_⟩
  · exact (agrees _ dangling fits).2 _ [⟨0, .make "id" "id" "int64_t", .int 7⟩] (by rfl) (by decide)
  · exact (agrees _ _ fits).1.mpr (.inr ⟨_, _, rfl, by decide⟩)

end SqlMapper.Code
