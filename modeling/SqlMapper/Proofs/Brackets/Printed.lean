import SqlMapper.Proofs.Brackets.Writer

/-!
Printed C is bracketed. An expression is printed with its brackets paired if the names, types and
conditions in it are spelled that way, and then the steps that write a statement or an item open and
close what they say.
-/

namespace SqlMapper.C

/-- A text between one that opens brackets and one that closes them. -/
theorem Paired.between {first text last : String} {before inner after : List Char}
    (paired : Paired text) (opens : Turns first before inner) (closes : Turns last inner after) :
    Turns (first ++ text ++ last) before after :=
  turns_append (turns_append opens (paired.turns inner)) closes

section Expressions

theorem paired_enclosed {text : String} (needed : Bool) (paired : Paired text) :
    Paired (enclosed needed text) := by
  have opens : Turns "(" [] ['('] := by decide
  rw [enclosed]
  split
  · exact paired.between opens (by decide)
  · exact paired

theorem paired_character {c : Char} (plain : IsPlain '\x27' c) :
    Paired ("'" ++ c.toString ++ "'") := by
  have inner : ∀ d ∈ [c], IsPlain '\x27' d := by simp [plain]
  have spelled : ("'" ++ c.toString ++ "'").toList = '\x27' :: [c] ++ ['\x27'] := by
    simp [Char.toString]
  rw [Paired, Turns, spelled]
  exact paired_quoted (by decide) inner

mutual

/-- The brackets in each part of an expression are paired. -/
@[simp]
def Expr.isTame : Expr → Bool
  | .name identifier => decide (Paired identifier)
  | .number _ => true
  | .character c => decide (IsPlain '\x27' c)
  | .text _ => true
  | .condition spelling => decide (Paired spelling)
  | .call function arguments => decide (Paired function) && argumentsTame arguments
  | .sizeOf what => decide (Paired what)
  | .member object field => object.isTame && decide (Paired field)
  | .pointerMember pointer field => pointer.isTame && decide (Paired field)
  | .index array position => array.isTame && position.isTame
  | .address object => object.isTame
  | .not operand => operand.isTame
  | .increment target => target.isTame
  | .cast type operand => decide (Paired type) && operand.isTame
  | .binary _ left right => left.isTame && right.isTame

@[simp]
def argumentsTame : List Expr → Bool
  | [] => true
  | first :: rest => first.isTame && argumentsTame rest

end

mutual

theorem paired_render (e : Expr) (tame : e.isTame = true) : Paired e.render := by
  cases e with
  | name identifier => exact of_decide_eq_true tame
  | number value => exact paired_toString value
  | character c => exact paired_character (of_decide_eq_true tame)
  | text value => exact paired_literal value
  | condition spelling => exact of_decide_eq_true tame
  | call function arguments =>
      simp only [Expr.isTame, Bool.and_eq_true, decide_eq_true_eq] at tame
      have opens : Turns "(" [] ['('] := by decide
      exact (paired_arguments arguments tame.2).between (turns_append tame.1 opens) (by decide)
  | sizeOf what =>
      have opens : Turns "sizeof(" [] ['('] := by decide
      exact Paired.between (of_decide_eq_true tame) opens (by decide)
  | member object field =>
      simp only [Expr.isTame, Bool.and_eq_true, decide_eq_true_eq] at tame
      have point : Paired "." := by decide
      exact ((paired_enclosed _ (paired_render object tame.1)).append point).append tame.2
  | pointerMember pointer field =>
      simp only [Expr.isTame, Bool.and_eq_true, decide_eq_true_eq] at tame
      have arrow : Paired "->" := by decide
      exact ((paired_enclosed _ (paired_render pointer tame.1)).append arrow).append tame.2
  | index array position =>
      simp only [Expr.isTame, Bool.and_eq_true] at tame
      have opens : Turns "[" [] ['['] := by decide
      have left := paired_enclosed (array.strength < 7) (paired_render array tame.1)
      exact (paired_render position tame.2).between (turns_append left opens) (by decide)
  | address object =>
      have sign : Paired "&" := by decide
      exact sign.append (paired_enclosed _ (paired_render object tame))
  | not operand =>
      have sign : Paired "!" := by decide
      exact sign.append (paired_enclosed _ (paired_render operand tame))
  | increment target =>
      have sign : Paired "++" := by decide
      exact sign.append (paired_enclosed _ (paired_render target tame))
  | cast type operand =>
      simp only [Expr.isTame, Bool.and_eq_true, decide_eq_true_eq] at tame
      have opens : Turns "(" [] ['('] := by decide
      have left : Paired ("(" ++ type ++ ")") := tame.1.between opens (by decide)
      exact left.append (paired_enclosed _ (paired_render operand tame.2))
  | binary op left right =>
      simp only [Expr.isTame, Bool.and_eq_true] at tame
      have blank : Paired " " := by decide
      have symbol : Paired op.symbol := by cases op <;> decide
      have first := paired_enclosed (left.strength < op.strength) (paired_render left tame.1)
      have second := paired_enclosed (right.strength ≤ op.strength) (paired_render right tame.2)
      exact (((first.append blank).append symbol).append blank).append second

theorem paired_arguments (arguments : List Expr) (tame : argumentsTame arguments = true) :
    Paired (renderArguments arguments) := by
  cases arguments with
  | nil => exact (by decide : Paired "")
  | cons first rest =>
      simp only [argumentsTame, Bool.and_eq_true] at tame
      have here := paired_render first tame.1
      cases rest with
      | nil => exact here
      | cons second others =>
          have comma : Paired ", " := by decide
          exact (here.append comma).append (paired_arguments (second :: others) tame.2)

end

end Expressions

section Statements

mutual

/-- The brackets in each part of a statement are paired. -/
@[simp]
def Stmt.isTame : Stmt → Bool
  | .blank | .next | .leave => true
  | .expression e => e.isTame
  | .declare type name none => decide (Paired type) && decide (Paired name)
  | .declare type name (some value) =>
      decide (Paired type) && decide (Paired name) && value.isTame
  | .declareArray type name _ => decide (Paired type) && decide (Paired name)
  | .assign target value => target.isTame && value.isTame
  | .give none => true
  | .give (some value) => value.isTame
  | .goto label => decide (Paired label)
  | .label name => decide (Paired name)
  | .block body => blockTame body
  | .loop condition body => condition.isTame && blockTame body
  | .count type counter start condition body =>
      decide (Paired type) && decide (Paired counter) && start.isTame && condition.isTame &&
        blockTame body
  | .branch condition body otherwise => condition.isTame && blockTame body && otherwise.isTame

@[simp]
def Else.isTame : Else → Bool
  | .none => true
  | .branch condition body otherwise => condition.isTame && blockTame body && otherwise.isTame
  | .final body => blockTame body

@[simp]
def blockTame : List Stmt → Bool
  | [] => true
  | first :: rest => first.isTame && blockTame rest

end

theorem blockTame_append (first rest : List Stmt) :
    blockTame (first ++ rest) = (blockTame first && blockTame rest) := by
  induction first with
  | nil => rfl
  | cons s first ih => rw [List.cons_append, blockTame, blockTame, ih, Bool.and_assoc]

theorem blockTame_iff (body : List Stmt) : blockTame body = true ↔ ∀ s ∈ body, s.isTame = true := by
  induction body with
  | nil => simp [blockTame]
  | cons s rest ih => simp [blockTame, ih]

theorem blockTame_flatMap {α : Type} {items : List α} {block : α → List Stmt}
    (tame : ∀ item ∈ items, blockTame (block item) = true) :
    blockTame (items.flatMap block) = true := by
  induction items with
  | nil => rfl
  | cons item rest ih =>
      obtain ⟨here, later⟩ := List.forall_mem_cons.mp tame
      rw [List.flatMap_cons, blockTame_append, here, ih later]
      rfl

/-- One line that leaves the level as it is. -/
theorem safe_line {text : String} (paired : Paired text) (n : Nat) :
    Safe ⟨n, n⟩ [.line text] ⟨n, n⟩ :=
  .step (.line paired) (.done _)

/-- A line that opens a block, the block, and a line that closes it. -/
theorem safe_block {text ends : String} {inner : List Step} {n : Nat}
    (opens : Turns text [] ['{']) (within : Safe ⟨n + 1, n + 1⟩ inner ⟨n + 1, n + 1⟩)
    (closes : Turns ends ['{'] []) :
    Safe ⟨n, n⟩ (.opening text :: inner ++ [.closing ends]) ⟨n, n⟩ :=
  .step (.opening opens) (within.append (.step (.closing closes) (.done _)))

-- As in the run of a writer, what follows a branch starts inside of the block that it closes.
mutual

theorem safe_script (s : Stmt) (tame : s.isTame = true) (n : Nat) :
    Safe ⟨n + 1, n + 1⟩ s.script ⟨n + 1, n + 1⟩ := by
  have ends : Paired ";" := by decide
  cases s with
  | blank => exact .step .blank (.done _)
  | expression e => exact safe_line ((paired_render e tame).append ends) _
  | declare type name value =>
      have blank : Paired " " := by decide
      cases value with
      | none =>
          simp only [Stmt.isTame, Bool.and_eq_true, decide_eq_true_eq] at tame
          exact safe_line (((tame.1.append blank).append tame.2).append ends) _
      | some value =>
          simp only [Stmt.isTame, Bool.and_eq_true, decide_eq_true_eq] at tame
          have sign : Paired " = " := by decide
          have declared := ((tame.1.1.append blank).append tame.1.2).append sign
          exact safe_line ((declared.append (paired_render value tame.2)).append ends) _
  | declareArray type name size =>
      simp only [Stmt.isTame, Bool.and_eq_true, decide_eq_true_eq] at tame
      have blank : Paired " " := by decide
      have opens : Turns "[" [] ['['] := by decide
      have declared := turns_append ((tame.1.append blank).append tame.2) opens
      exact safe_line ((paired_toString size).between declared (by decide)) _
  | assign target value =>
      simp only [Stmt.isTame, Bool.and_eq_true] at tame
      have sign : Paired " = " := by decide
      have left := (paired_render target tame.1).append sign
      exact safe_line ((left.append (paired_render value tame.2)).append ends) _
  | give value =>
      cases value with
      | none => exact safe_line (by decide) _
      | some value =>
          have word : Paired "return " := by decide
          exact safe_line ((word.append (paired_render value tame)).append ends) _
  | goto label =>
      have word : Paired "goto " := by decide
      exact safe_line ((word.append (of_decide_eq_true tame)).append ends) _
  | next => exact safe_line (by decide) _
  | leave => exact safe_line (by decide) _
  | label name =>
      have colon : Paired ":" := by decide
      exact .step (.label (Paired.append (of_decide_eq_true tame) colon)) (.done _)
  | block body => exact safe_block (by decide) (safe_blockScript body tame _) (by decide)
  | loop condition body =>
      simp only [Stmt.isTame, Bool.and_eq_true] at tame
      have opens : Turns "while (" [] ['('] := by decide
      have line := (paired_render condition tame.1).between opens
        (by decide : Turns ") \x7b" ['('] ['{'])
      exact safe_block line (safe_blockScript body tame.2 _) (by decide)
  | count type counter start condition body =>
      simp only [Stmt.isTame, Bool.and_eq_true, decide_eq_true_eq] at tame
      obtain ⟨⟨⟨⟨paired, counted⟩, begins⟩, goes⟩, within⟩ := tame
      have opens : Turns "for (" [] ['('] := by decide
      have blank : Paired " " := by decide
      have sign : Paired " = " := by decide
      have semicolon : Paired "; " := by decide
      have again : Paired "; ++" := by decide
      have counter := ((opens.append paired).append blank).append counted
      have first := (counter.append sign).append (paired_render start begins)
      have header := ((first.append semicolon).append (paired_render condition goes)).append again
      exact safe_block (counted.between header (by decide : Turns ") \x7b" ['('] ['{']))
        (safe_blockScript body within _) (by decide)
  | branch condition body otherwise =>
      simp only [Stmt.isTame, Bool.and_eq_true] at tame
      have opens : Turns "if (" [] ['('] := by decide
      have line := (paired_render condition tame.1.1).between opens
        (by decide : Turns ") \x7b" ['('] ['{'])
      exact .step (.opening line) ((safe_blockScript body tame.1.2 _).append
        (safe_elseScript otherwise tame.2 _))

theorem safe_elseScript (e : Else) (tame : e.isTame = true) (n : Nat) :
    Safe ⟨n + 1 + 1, n + 1 + 1⟩ e.script ⟨n + 1, n + 1⟩ := by
  cases e with
  | none => exact .step (.closing (by decide)) (.done _)
  | branch condition body otherwise =>
      simp only [Else.isTame, Bool.and_eq_true] at tame
      have opens : Turns "\x7d else if (" ['{'] ['('] := by decide
      have line := (paired_render condition tame.1.1).between opens
        (by decide : Turns ") \x7b" ['('] ['{'])
      exact .step (.turning line) (.step .raise ((safe_blockScript body tame.1.2 _).append
        (safe_elseScript otherwise tame.2 _)))
  | final body =>
      exact .step (.turning (by decide)) (.step .raise ((safe_blockScript body tame _).append
        (.step (.closing (by decide)) (.done _))))

theorem safe_blockScript (body : List Stmt) (tame : blockTame body = true) (n : Nat) :
    Safe ⟨n + 1, n + 1⟩ (blockScript body) ⟨n + 1, n + 1⟩ := by
  cases body with
  | nil => exact .done _
  | cons first rest =>
      simp only [blockTame, Bool.and_eq_true] at tame
      exact (safe_script first tame.1 n).append (safe_blockScript rest tame.2 n)

end

end Statements

section Items

/-- The brackets in each part of a signature are paired. -/
def Signature.isTame (s : Signature) : Bool :=
  decide (Paired s.result) && decide (Paired s.name) &&
    s.parameters.all fun p => decide (Paired p.1) && decide (Paired p.2)

/-- The brackets in each part of an item are paired. -/
@[simp]
def Item.isTame : Item → Bool
  | .blank => true
  | .directive text => decide (Paired text)
  | .struct tag members =>
      decide (Paired tag) && members.all fun p => decide (Paired p.1) && decide (Paired p.2)
  | .pointerType tag name => decide (Paired tag) && decide (Paired name)
  | .prototype signature => signature.isTame
  | .function signature body => signature.isTame && blockTame body

theorem tame_directive {text : String} (paired : Paired text) :
    (Item.directive text).isTame = true :=
  decide_eq_true paired

theorem paired_join {separator : String} (separates : Paired separator) {items : List String}
    (each : ∀ item ∈ items, Paired item) : Paired (Text.join separator items) := by
  induction items with
  | nil => exact (by decide : Paired "")
  | cons first rest ih =>
      obtain ⟨here, later⟩ := List.forall_mem_cons.mp each
      cases rest with
      | nil => exact here
      | cons second others => exact (here.append separates).append (ih later)

theorem paired_signature {s : Signature} (tame : s.isTame = true) : Paired s.render := by
  simp only [Signature.isTame, Bool.and_eq_true, decide_eq_true_eq, List.all_eq_true] at tame
  obtain ⟨⟨result, name⟩, parameters⟩ := tame
  have blank : Paired " " := by decide
  have opens : Turns "(" [] ['('] := by decide
  have inner : Paired (if s.parameters.isEmpty then "void"
      else Text.join ", " (s.parameters.map fun p => p.1 ++ " " ++ p.2)) := by
    split
    · decide
    · apply paired_join (by decide)
      intro item listed
      obtain ⟨p, member, rfl⟩ := List.mem_map.mp listed
      exact ((parameters p member).1.append blank).append (parameters p member).2
  have declared := turns_append ((result.append blank).append name) opens
  exact inner.between declared (by decide)

theorem safe_members {members : List (String × String)}
    (tame : ∀ p ∈ members, Paired p.1 ∧ Paired p.2) (n : Nat) :
    Safe ⟨n, n⟩ (members.map fun p => .line (p.1 ++ " " ++ p.2 ++ ";")) ⟨n, n⟩ := by
  have blank : Paired " " := by decide
  have ends : Paired ";" := by decide
  induction members with
  | nil => exact .done _
  | cons p rest ih =>
      obtain ⟨here, later⟩ := List.forall_mem_cons.mp tame
      exact .step (.line (((here.1.append blank).append here.2).append ends)) (ih later)

theorem safe_item {item : Item} (tame : item.isTame = true) :
    Safe ⟨0, 0⟩ item.script ⟨0, 0⟩ := by
  cases item with
  | blank => exact .step .blank (.done _)
  | directive text =>
      have mark : Paired "#" := by decide
      exact safe_line (mark.append (of_decide_eq_true tame)) _
  | struct tag members =>
      simp only [Item.isTame, Bool.and_eq_true, decide_eq_true_eq, List.all_eq_true] at tame
      have word : Paired "struct " := by decide
      have line : Turns ("struct " ++ tag ++ " \x7b") [] ['{'] :=
        turns_append (word.append tame.1) (by decide)
      exact safe_block line (safe_members tame.2 1) (by decide)
  | pointerType tag name =>
      simp only [Item.isTame, Bool.and_eq_true, decide_eq_true_eq] at tame
      have word : Paired "typedef struct " := by decide
      have star : Paired "* " := by decide
      have ends : Paired ";" := by decide
      exact safe_line ((((word.append tame.1).append star).append tame.2).append ends) _
  | prototype signature =>
      have ends : Paired ";" := by decide
      exact safe_line ((paired_signature tame).append ends) _
  | function signature body =>
      simp only [Item.isTame, Bool.and_eq_true] at tame
      have line : Turns (signature.render ++ " \x7b") [] ['{'] :=
        turns_append (paired_signature tame.1) (by decide)
      exact safe_block line (safe_blockScript body tame.2 0) (by decide)

theorem safe_fileScript {items : List Item} (tame : ∀ item ∈ items, item.isTame = true) :
    Safe ⟨0, 0⟩ (fileScript items) ⟨0, 0⟩ := by
  induction items with
  | nil => exact .done _
  | cons item rest ih =>
      obtain ⟨here, later⟩ := List.forall_mem_cons.mp tame
      exact (safe_item here).append (ih later)

/-- A file that is well bracketed, also while it is written: `opened` is said of the state before
each line, and in the end. -/
structure Bracketed (items : List Item) : Prop where
  /-- Outside of literals, every bracket is closed by its partner in nesting order. -/
  closed : scan ⟨.code, []⟩ (renderFile items).toList = some ⟨.code, []⟩
  /-- The writer writes the file, at no point with a negative indent. -/
  written : Writer.empty.run (fileScript items) = some ⟨items.flatMap Item.lines, 0⟩
  /-- What is open is as many braces as the indent says, unless it is about to be raised. -/
  opened : ∀ first rest, fileScript items = first ++ rest →
    ∃ w, Writer.empty.run first = some w ∧ 0 ≤ w.indent ∧
      (rest.head? ≠ some .raise → scan ⟨.code, []⟩ (fileText w.written).toList =
        some ⟨.code, List.replicate w.indent.toNat '{'⟩)
  /-- Between two items the writer is at the outermost level. -/
  outermost : ∀ before after, items = before ++ after →
    ∃ w, Writer.empty.run (fileScript before) = some w ∧ w.indent = 0

theorem bracketed_of_tame {items : List Item} (tame : ∀ item ∈ items, item.isTame = true) :
    Bracketed items where
  closed := by
    obtain ⟨w, ran, ends⟩ := at_run at_empty (safe_fileScript tame)
    have written : Writer.empty.run (fileScript items) = _ := run_fileScript items []
    rw [written] at ran
    cases ran
    exact ends.scanned
  written := run_fileScript items []
  opened := by
    intro first rest split
    have safe := safe_fileScript tame
    rw [split] at safe
    obtain ⟨⟨indent, opened⟩, here, later⟩ := safe.split
    obtain ⟨w, ran, ends⟩ := at_run at_empty here
    have level : w.indent = indent := ends.indent
    refine ⟨w, ran, by omega, ?_⟩
    intro next
    have same : indent = opened := later.level rfl next
    have count : w.indent.toNat = opened := by omega
    rw [count]
    exact ends.scanned
  outermost := by
    rintro before after rfl
    exact ⟨_, run_fileScript before [], rfl⟩

end Items

end SqlMapper.C
