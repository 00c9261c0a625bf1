import SqlMapper.Proofs.Brackets.Scan

/-!
Writing C line by line. A writer has an indent: a block is opened by a line and closed by one at the
indent outside of it, a line that closes one block and opens the next lowers the indent, which is
raised again behind it, and a label stands one level to the left. No line can be written at a
negative indent.

The steps that write a file write the lines of its items. Where the texts of the steps open and close
what the steps say, the indent is the number of open braces between any two of them.
-/

namespace SqlMapper.C

/-- What a writer is asked for. -/
inductive Step where
  | blank
  | line (text : String)
  | opening (text : String)
  | closing (text : String)
  | raise
  | label (name : String)

structure Writer where
  written : List String
  indent : Int

namespace Writer

def empty : Writer :=
  ⟨[], 0⟩

/-- A line that is not blank is indented, which takes an indent that is not negative. -/
def line (w : Writer) (text : String) : Option Writer :=
  if w.indent < 0 then none
  else some { w with written := w.written ++ [indented w.indent.toNat text] }

def raised (w : Writer) : Writer :=
  { w with indent := w.indent + 1 }

/-- The indent is lowered, but not below zero. -/
def closed (w : Writer) : Writer :=
  { w with indent := if 0 < w.indent then w.indent - 1 else w.indent }

def take (w : Writer) : Step → Option Writer
  | .blank => some { w with written := w.written ++ [""] }
  | .line text => w.line text
  | .opening text => (w.line text).map raised
  | .closing text => w.closed.line text
  | .raise => some w.raised
  | .label name => (Writer.line { w with indent := w.indent - 1 } (name ++ ":")).map raised

def run (w : Writer) : List Step → Option Writer
  | [] => some w
  | step :: rest => (w.take step).bind fun next => next.run rest

theorem run_append (w : Writer) (first rest : List Step) :
    w.run (first ++ rest) = (w.run first).bind fun next => next.run rest := by
  induction first generalizing w with
  | nil => rfl
  | cons step first ih =>
      rw [List.cons_append, run, run, Option.bind_assoc]
      congr
      funext next
      exact ih next

section Levels

variable (written : List String) (n : Nat)

theorem line_natCast (text : String) :
    Writer.line ⟨written, n⟩ text = some ⟨written ++ [indented n text], n⟩ := by
  have room : ¬ (n : Int) < 0 := by omega
  rw [line, if_neg room]
  rfl

theorem take_line (text : String) :
    Writer.take ⟨written, n⟩ (.line text) = some ⟨written ++ [indented n text], n⟩ :=
  line_natCast written n text

theorem take_opening (text : String) : Writer.take ⟨written, n⟩ (.opening text) =
    some ⟨written ++ [indented n text], (n + 1 : Nat)⟩ := by
  rw [take, line_natCast]
  rfl

theorem take_closing (text : String) : Writer.take ⟨written, (n + 1 : Nat)⟩ (.closing text) =
    some ⟨written ++ [indented n text], n⟩ := by
  have lowered : Writer.closed ⟨written, (n + 1 : Nat)⟩ = ⟨written, n⟩ := by
    simp only [closed]
    rw [if_pos (by omega)]
    congr
    omega
  rw [take, lowered, line_natCast]

theorem take_raise : Writer.take ⟨written, n⟩ .raise = some ⟨written, (n + 1 : Nat)⟩ :=
  rfl

theorem take_label (name : String) : Writer.take ⟨written, (n + 1 : Nat)⟩ (.label name) =
    some ⟨written ++ [indented n (name ++ ":")], (n + 1 : Nat)⟩ := by
  have left : (n + 1 : Nat) - (1 : Int) = n := by omega
  simp only [take, left]
  rw [line_natCast]
  rfl

end Levels

end Writer

open Writer

section Scripts

mutual

def Stmt.script : Stmt → List Step
  | .blank => [.blank]
  | .expression e => [.line (e.render ++ ";")]
  | .declare type name none => [.line (type ++ " " ++ name ++ ";")]
  | .declare type name (some value) =>
      [.line (type ++ " " ++ name ++ " = " ++ value.render ++ ";")]
  | .declareArray type name size =>
      [.line (type ++ " " ++ name ++ "[" ++ toString size ++ "];")]
  | .assign target value => [.line (target.render ++ " = " ++ value.render ++ ";")]
  | .give none => [.line "return;"]
  | .give (some value) => [.line ("return " ++ value.render ++ ";")]
  | .goto label => [.line ("goto " ++ label ++ ";")]
  | .next => [.line "continue;"]
  | .leave => [.line "break;"]
  | .label name => [.label name]
  | .block body => .opening "\x7b" :: blockScript body ++ [.closing "\x7d"]
  | .loop condition body =>
      .opening ("while (" ++ condition.render ++ ") \x7b") ::
        blockScript body ++ [.closing "\x7d"]
  | .count type counter start condition body =>
      .opening ("for (" ++ type ++ " " ++ counter ++ " = " ++ start.render ++ "; " ++
        condition.render ++ "; ++" ++ counter ++ ") \x7b") ::
        blockScript body ++ [.closing "\x7d"]
  | .branch condition body otherwise =>
      .opening ("if (" ++ condition.render ++ ") \x7b") ::
        blockScript body ++ otherwise.script

def Else.script : Else → List Step
  | .none => [.closing "\x7d"]
  | .branch condition body otherwise =>
      .closing ("\x7d else if (" ++ condition.render ++ ") \x7b") :: .raise ::
        blockScript body ++ otherwise.script
  | .final body =>
      .closing "\x7d else \x7b" :: .raise :: blockScript body ++ [.closing "\x7d"]

def blockScript : List Stmt → List Step
  | [] => []
  | first :: rest => first.script ++ blockScript rest

end

def Item.script : Item → List Step
  | .blank => [.blank]
  | .directive text => [.line ("#" ++ text)]
  | .struct tag members =>
      .opening ("struct " ++ tag ++ " \x7b") ::
        members.map (fun p => .line (p.1 ++ " " ++ p.2 ++ ";")) ++ [.closing "\x7d;"]
  | .pointerType tag name => [.line ("typedef struct " ++ tag ++ "* " ++ name ++ ";")]
  | .prototype signature => [.line (signature.render ++ ";")]
  | .function signature body =>
      .opening (signature.render ++ " \x7b") :: blockScript body ++ [.closing "\x7d"]

def fileScript (items : List Item) : List Step :=
  items.flatMap Item.script

/-- A block is opened, written one level deeper, and closed. -/
theorem run_block {inner : List Step} {lines : List String} {written : List String} {n : Nat}
    (text ends : String)
    (within : Writer.run ⟨written ++ [indented n text], (n + 1 : Nat)⟩ inner =
      some ⟨written ++ [indented n text] ++ lines, (n + 1 : Nat)⟩) :
    Writer.run ⟨written, n⟩ (.opening text :: inner ++ [.closing ends]) =
      some ⟨written ++ (indented n text :: lines ++ [indented n ends]), n⟩ := by
  rw [List.cons_append, run, take_opening, Option.bind_some, run_append, within, Option.bind_some,
    run, take_closing]
  simp [run]

-- The induction is on the statements as they are nested. What follows a branch is written from the
-- indent of its body, one level deeper than the branch itself.
mutual

theorem run_script (s : Stmt) (written : List String) (n : Nat) :
    Writer.run ⟨written, (n + 1 : Nat)⟩ s.script =
      some ⟨written ++ s.lines (n + 1), (n + 1 : Nat)⟩ := by
  cases s with
  | blank => rfl
  | expression | declareArray | assign | goto | next | leave =>
      exact congrArg (Option.bind · _) (take_line ..)
  | declare type name value =>
      cases value <;> exact congrArg (Option.bind · _) (take_line ..)
  | give value =>
      cases value <;> exact congrArg (Option.bind · _) (take_line ..)
  | label => exact congrArg (Option.bind · _) (take_label ..)
  | block body =>
      rw [Stmt.script, Stmt.lines]
      exact run_block _ _ (run_blockScript body _ _)
  | loop condition body =>
      rw [Stmt.script, Stmt.lines]
      exact run_block _ _ (run_blockScript body _ _)
  | count type counter start condition body =>
      rw [Stmt.script, Stmt.lines]
      exact run_block _ _ (run_blockScript body _ _)
  | branch condition body otherwise =>
      rw [Stmt.script, Stmt.lines, List.cons_append, run, take_opening, Option.bind_some, run_append,
        run_blockScript, Option.bind_some, run_elseScript]
      simp

theorem run_elseScript (e : Else) (written : List String) (n : Nat) :
    Writer.run ⟨written, (n + 1 + 1 : Nat)⟩ e.script =
      some ⟨written ++ e.lines (n + 1), (n + 1 : Nat)⟩ := by
  cases e with
  | none => exact congrArg (Option.bind · _) (take_closing ..)
  | branch condition body otherwise =>
      rw [Else.script, Else.lines, List.cons_append, List.cons_append, run, take_closing,
        Option.bind_some, run, take_raise, Option.bind_some, run_append, run_blockScript,
        Option.bind_some, run_elseScript]
      simp
  | final body =>
      rw [Else.script, Else.lines, List.cons_append, List.cons_append, run, take_closing,
        Option.bind_some, run, take_raise, Option.bind_some, run_append, run_blockScript,
        Option.bind_some, run, take_closing]
      simp [run]

theorem run_blockScript (body : List Stmt) (written : List String) (n : Nat) :
    Writer.run ⟨written, (n + 1 : Nat)⟩ (blockScript body) =
      some ⟨written ++ blockLines (n + 1) body, (n + 1 : Nat)⟩ := by
  cases body with
  | nil =>
      rw [blockScript, blockLines, List.append_nil]
      rfl
  | cons first rest =>
      rw [blockScript, blockLines, run_append, run_script, Option.bind_some, run_blockScript,
        List.append_assoc]

end

theorem indented_zero (text : String) : indented 0 text = text :=
  String.empty_append

theorem run_members (members : List (String × String)) (written : List String) :
    Writer.run ⟨written, (1 : Nat)⟩ (members.map fun p => .line (p.1 ++ " " ++ p.2 ++ ";")) =
      some ⟨written ++ members.map (fun p => indented 1 (p.1 ++ " " ++ p.2 ++ ";")), (1 : Nat)⟩ := by
  induction members generalizing written with
  | nil => simp [run]
  | cons p rest ih =>
      rw [List.map_cons, run, take_line, Option.bind_some, ih, List.map_cons, List.append_assoc]
      rfl

/-- At the outermost level an item is written as it is printed. -/
theorem run_item (item : Item) (written : List String) :
    Writer.run ⟨written, (0 : Nat)⟩ item.script = some ⟨written ++ item.lines, (0 : Nat)⟩ := by
  cases item with
  | blank => rfl
  | directive | pointerType | prototype =>
      rw [Item.script, Item.lines, run, take_line, indented_zero]
      rfl
  | struct tag members =>
      have inner := run_block ("struct " ++ tag ++ " \x7b") "\x7d;"
        (run_members members (written ++ _))
      rwa [indented_zero, indented_zero] at inner
  | function signature body =>
      have inner := run_block (signature.render ++ " \x7b") "\x7d"
        (run_blockScript body (written ++ _) 0)
      rwa [indented_zero, indented_zero] at inner

theorem run_fileScript (items : List Item) (written : List String) :
    Writer.run ⟨written, (0 : Nat)⟩ (fileScript items) =
      some ⟨written ++ items.flatMap Item.lines, (0 : Nat)⟩ := by
  induction items generalizing written with
  | nil => simp [fileScript, run]
  | cons item rest ih =>
      rw [fileScript, List.flatMap_cons, run_append, run_item, Option.bind_some, ← fileScript, ih,
        List.flatMap_cons, List.append_assoc]

end Scripts

section Stages

/-- The indent of a writer, and the braces that are open in what it has written. -/
structure Stage where
  indent : Nat
  opened : Nat

/-- What one step does if its text opens and closes what it says. -/
inductive Moves : Stage → Step → Stage → Prop
  | blank {n : Nat} : Moves ⟨n, n⟩ .blank ⟨n, n⟩
  | line {n : Nat} {text : String} (paired : Paired text) : Moves ⟨n, n⟩ (.line text) ⟨n, n⟩
  | opening {n : Nat} {text : String} (opens : Turns text [] ['{']) :
      Moves ⟨n, n⟩ (.opening text) ⟨n + 1, n + 1⟩
  | closing {n : Nat} {text : String} (closes : Turns text ['{'] []) :
      Moves ⟨n + 1, n + 1⟩ (.closing text) ⟨n, n⟩
  | turning {n : Nat} {text : String} (turns : Turns text ['{'] ['{']) :
      Moves ⟨n + 1, n + 1⟩ (.closing text) ⟨n, n + 1⟩
  | raise {n : Nat} : Moves ⟨n, n + 1⟩ .raise ⟨n + 1, n + 1⟩
  | label {n : Nat} {name : String} (paired : Paired (name ++ ":")) :
      Moves ⟨n + 1, n + 1⟩ (.label name) ⟨n + 1, n + 1⟩

inductive Safe : Stage → List Step → Stage → Prop
  | done (a : Stage) : Safe a [] a
  | step {a b c : Stage} {step : Step} {rest : List Step} (moves : Moves a step b)
      (later : Safe b rest c) : Safe a (step :: rest) c

theorem Safe.append {a b c : Stage} {first rest : List Step} (here : Safe a first b)
    (later : Safe b rest c) : Safe a (first ++ rest) c := by
  induction here with
  | done => exact later
  | step moves _ ih => exact .step moves (ih later)

theorem Safe.split {a c : Stage} {first rest : List Step} (safe : Safe a (first ++ rest) c) :
    ∃ b, Safe a first b ∧ Safe b rest c := by
  induction first generalizing a with
  | nil => exact ⟨a, .done a, safe⟩
  | cons step first ih =>
      cases safe with
      | step moves later =>
          obtain ⟨b, here, there⟩ := ih later
          exact ⟨b, .step moves here, there⟩

/-- Only where the indent is to be raised is it behind the braces. -/
theorem Safe.level {a c : Stage} {rest : List Step} (safe : Safe a rest c)
    (ends : c.indent = c.opened) (next : rest.head? ≠ some .raise) : a.indent = a.opened := by
  cases safe with
  | done => exact ends
  | step moves =>
      cases moves with
      | raise => exact absurd rfl next
      | blank | line | opening | closing | turning | label => rfl

def fileText (lines : List String) : String :=
  String.join (lines.map (· ++ "\n"))

theorem fileText_append (lines : List String) (line : String) :
    fileText (lines ++ [line]) = fileText lines ++ (line ++ "\n") := by
  simp [fileText, String.join_append]

theorem paired_indented {text : String} {before after : List Char} (turns : Turns text before after)
    (n : Nat) : Turns (indented n text) before after := by
  have blanks : Paired (Text.replicate (4 * n) ' ') := by
    apply paired_of_inert
    intro c member
    simp only [Text.replicate, String.toList_ofList, List.mem_replicate] at member
    rw [member.2]
    decide
  exact turns_append (blanks.turns before) turns

/-- A writer stands at a stage. -/
structure At (w : Writer) (a : Stage) : Prop where
  indent : w.indent = a.indent
  scanned : Turns (fileText w.written) [] (List.replicate a.opened '{')

theorem at_empty : At .empty ⟨0, 0⟩ where
  indent := rfl
  scanned := by decide

theorem scanned_line {written : List String} {text : String} {before after : List Char}
    (scanned : Turns (fileText written) [] before) (turns : Turns text before after) :
    Turns (fileText (written ++ [text])) [] after := by
  have ended : Paired "\n" := by decide
  rw [fileText_append]
  exact turns_append scanned (turns_append turns (ended.turns after))

theorem at_take {w : Writer} {a b : Stage} {step : Step} (holds : At w a) (moves : Moves a step b) :
    ∃ next, w.take step = some next ∧ At next b := by
  obtain ⟨written, indent⟩ := w
  obtain ⟨level, scanned⟩ := holds
  cases level
  cases moves with
  | blank =>
      have bare : Paired "" := by decide
      exact ⟨_, rfl, rfl, scanned_line scanned (bare.turns _)⟩
  | line paired =>
      exact ⟨_, take_line .., rfl, scanned_line scanned (paired_indented (paired.turns _) _)⟩
  | opening opens =>
      exact ⟨_, take_opening .., rfl, scanned_line scanned (paired_indented (opens.within _) _)⟩
  | closing closes =>
      exact ⟨_, take_closing .., rfl, scanned_line scanned (paired_indented (closes.within _) _)⟩
  | turning turns =>
      exact ⟨_, take_closing .., rfl, scanned_line scanned (paired_indented (turns.within _) _)⟩
  | raise => exact ⟨_, take_raise .., rfl, scanned⟩
  | label paired =>
      exact ⟨_, take_label .., rfl, scanned_line scanned (paired_indented (paired.turns _) _)⟩

theorem at_run {w : Writer} {a b : Stage} {script : List Step} (holds : At w a)
    (safe : Safe a script b) : ∃ last, w.run script = some last ∧ At last b := by
  induction safe generalizing w with
  | done => exact ⟨w, rfl, holds⟩
  | step moves _ ih =>
      obtain ⟨next, taken, there⟩ := at_take holds moves
      obtain ⟨last, ran, ends⟩ := ih there
      exact ⟨last, by rw [run, taken]; exact ran, ends⟩

end Stages

end SqlMapper.C
