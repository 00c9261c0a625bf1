import SqlMapper.Predicate.Evaluation

/-!
C conditions: the tokens, the grammar and the meaning of the part of C that conditions use. From
weak to strong the grammar has `||`, `&&`, equality, order, the unary `!` and `-`, and `->`; binary
operators group to the left. A machine with one stack reads a list of tokens in one pass, and
whatever the grammar derives from the tokens is what the machine reads, so there is never more than
one reading.
-/

namespace SqlMapper.Condition

open Predicate (Comparator EvalError Environment nameValue numberValue signedValue truthValue)

inductive Operator where
  | or
  | and
  | compare (op : Comparator)
  deriving DecidableEq

/-- Binding strength; unary operators have 6 and what stands behind an operand has 7. -/
def Operator.strength : Operator → Nat
  | .or => 1
  | .and => 2
  | .compare .equal | .compare .notEqual => 3
  | .compare _ => 4

inductive Token where
  | identifier (name : String)
  | number (digits : String)
  | binary (op : Operator)
  | not
  | minus
  | arrow
  | open
  | close
  deriving DecidableEq

inductive Tree where
  | name (identifier : String)
  | number (digits : String)
  | member (pointer : Tree) (field : String)
  | not (operand : Tree)
  | minus (operand : Tree)
  | binary (op : Operator) (left right : Tree)
  deriving DecidableEq

/-- The expressions of C, by the strength at which they can stand. -/
inductive Reads : Nat → List Token → Tree → Prop
  | name {identifier} : Reads 7 [.identifier identifier] (.name identifier)
  | number {digits} : Reads 7 [.number digits] (.number digits)
  | group {tokens tree} (inner : Reads 1 tokens tree) : Reads 7 (.open :: tokens ++ [.close]) tree
  | member {tokens pointer field} (inner : Reads 7 tokens pointer) :
      Reads 7 (tokens ++ [.arrow, .identifier field]) (.member pointer field)
  | not {tokens tree} (operand : Reads 6 tokens tree) : Reads 6 (.not :: tokens) (.not tree)
  | minus {tokens tree} (operand : Reads 6 tokens tree) : Reads 6 (.minus :: tokens) (.minus tree)
  | binary {op tokens more left right} (first : Reads op.strength tokens left)
      (second : Reads (op.strength + 1) more right) :
      Reads op.strength (tokens ++ .binary op :: more) (.binary op left right)
  | weaken {strength tokens tree} (stronger : Reads (strength + 1) tokens tree) :
      Reads strength tokens tree

theorem reads_of_le {strength weaker : Nat} {tokens : List Token} {tree : Tree}
    (reads : Reads strength tokens tree) (le : weaker ≤ strength) : Reads weaker tokens tree := by
  induction le with
  | refl => exact reads
  | step _ ih => exact ih reads.weaken

section Meaning

/-- Two operands joined; the right one is only looked at where the left one does not decide. -/
def Operator.join (op : Operator) (left right : Except EvalError Value) :
    Except EvalError Value :=
  match op with
  | .or => left.bind fun a =>
      if a.truth then .ok (truthValue true) else right.map fun b => truthValue b.truth
  | .and => left.bind fun a =>
      if a.truth then right.map fun b => truthValue b.truth else .ok (truthValue false)
  | .compare op => left.bind fun a => right.bind fun b => (op.apply a b).map truthValue

/-- The value of a condition; a member of the record has the value that its name has. -/
def Tree.eval (env : Environment) : Tree → Except EvalError Value
  | .name identifier => nameValue env identifier
  | .number digits => numberValue digits
  | .member (.name "n") field => nameValue env field
  | .member _ field => .error (.unknownIdentifier field)
  | .not operand => (operand.eval env).map fun value => truthValue !value.truth
  | .minus operand => (operand.eval env).bind (signedValue true)
  | .binary op left right => op.join (left.eval env) (right.eval env)

end Meaning

section Machine

/-- What waits for its last operand. -/
inductive Frame where
  | open
  | not
  | minus
  | binary (op : Operator) (left : Tree)

def Frame.strength : Frame → Nat
  | .open => 0
  | .not | .minus => 6
  | .binary op _ => op.strength

def Frame.close : Frame → Tree → Tree
  | .open, operand => operand
  | .not, operand => .not operand
  | .minus, operand => .minus operand
  | .binary op left, operand => .binary op left operand

/-- Closes the frames that bind at least as strongly as what comes next. -/
def collapse (strength : Nat) : List Frame → Tree → List Frame × Tree
  | [], tree => ([], tree)
  | frame :: rest, tree =>
      if strength ≤ frame.strength then collapse strength rest (frame.close tree)
      else (frame :: rest, tree)

/-- What the machine has in hand: nothing, an operand, or an operand with an arrow behind it. -/
inductive Hand where
  | empty
  | operand (tree : Tree)
  | pointer (tree : Tree)

def step : List Frame → Hand → Token → Option (List Frame × Hand)
  | stack, .empty, .identifier identifier => some (stack, .operand (.name identifier))
  | stack, .empty, .number digits => some (stack, .operand (.number digits))
  | stack, .empty, .not => some (.not :: stack, .empty)
  | stack, .empty, .minus => some (.minus :: stack, .empty)
  | stack, .empty, .open => some (.open :: stack, .empty)
  | stack, .operand tree, .arrow => some (stack, .pointer tree)
  | stack, .pointer tree, .identifier field => some (stack, .operand (.member tree field))
  | stack, .operand tree, .binary op =>
      let (left, joined) := collapse op.strength stack tree
      some (.binary op joined :: left, .empty)
  | stack, .operand tree, .close =>
      match collapse 1 stack tree with
      | (.open :: left, inner) => some (left, .operand inner)
      | _ => none
  | _, _, _ => none

def run : List Frame → Hand → List Token → Option (List Frame × Hand)
  | stack, hand, [] => some (stack, hand)
  | stack, hand, token :: rest =>
      (step stack hand token).bind fun (stack, hand) => run stack hand rest

def read (tokens : List Token) : Option Tree :=
  match run [] .empty tokens with
  | some (stack, .operand tree) =>
      match collapse 1 stack tree with
      | ([], whole) => some whole
      | _ => none
  | _ => none

theorem run_append (stack : List Frame) (hand : Hand) (first rest : List Token) :
    run stack hand (first ++ rest) =
      (run stack hand first).bind fun (stack, hand) => run stack hand rest := by
  induction first generalizing stack hand with
  | nil => simp [run]
  | cons token more ih =>
      rw [List.cons_append, run, run, Option.bind_assoc]
      congr 1
      funext ⟨stack, hand⟩
      exact ih stack hand

theorem collapse_cons_of_le {strength : Nat} (frame : Frame) (stack : List Frame) (tree : Tree)
    (le : strength ≤ frame.strength) :
    collapse strength (frame :: stack) tree = collapse strength stack (frame.close tree) := by
  rw [collapse, if_pos le]

/-- Nothing on a stack binds as strongly as what is going to be read. -/
def Below (strength : Nat) (stack : List Frame) : Prop :=
  ∀ frame ∈ stack.head?, frame.strength < strength

theorem collapse_of_below {strength : Nat} {stack : List Frame} (tree : Tree)
    (below : Below strength stack) : collapse strength stack tree = (stack, tree) := by
  cases stack with
  | nil => rfl
  | cons frame rest =>
      have less := below frame rfl
      rw [collapse, if_neg (Nat.not_le.mpr less)]

theorem below_of_le {strength stronger : Nat} {stack : List Frame}
    (below : Below strength stack) (le : strength ≤ stronger) : Below stronger stack := by
  intro frame member
  exact Nat.lt_of_lt_of_le (below frame member) le

theorem strength_le_four (op : Operator) : op.strength ≤ 4 := by
  cases op with
  | compare op => cases op <;> decide
  | _ => simp [Operator.strength]

/-- Every frame is weaker than what stands behind an operand. -/
theorem below_seven (stack : List Frame) : Below 7 stack := by
  intro frame _
  cases frame with
  | binary op left => exact Nat.lt_of_le_of_lt (strength_le_four op) (by decide)
  | _ => simp [Frame.strength]

/-- Reading an expression puts its tree on whatever the stack was, up to frames that everything
which may follow the expression closes. -/
theorem run_of_reads {strength : Nat} {tokens : List Token} {tree : Tree}
    (reads : Reads strength tokens tree) (stack : List Frame)
    (below : strength < 6 → Below strength stack) :
    ∃ left top, run stack .empty tokens = some (left, .operand top) ∧
      ∀ weaker ≤ strength, collapse weaker left top = collapse weaker stack tree := by
  induction reads generalizing stack with
  | name => exact ⟨stack, _, rfl, fun _ _ => rfl⟩
  | number => exact ⟨stack, _, rfl, fun _ _ => rfl⟩
  | @group tokens tree inner ih =>
      obtain ⟨left, top, ran, same⟩ := ih (.open :: stack) (fun _ => by
        intro frame member
        cases member
        exact Nat.zero_lt_one)
      refine ⟨stack, tree, ?_, fun _ _ => rfl⟩
      -- The parenthesis stops whatever closes the frames above it.
      have closed : collapse 1 left top = (.open :: stack, tree) := by
        rw [same 1 (Nat.le_refl 1), collapse]
        rfl
      have inside := run_append (.open :: stack) .empty tokens [.close]
      rw [ran] at inside
      simpa [run, step, closed] using inside
  | @member tokens pointer field inner ih =>
      obtain ⟨left, top, ran, same⟩ := ih stack (fun less => absurd less (by decide))
      -- No frame is as strong as an arrow, so the operand before it is complete.
      have exactly := same 7 (Nat.le_refl 7)
      rw [collapse_of_below _ (below_seven left), collapse_of_below _ (below_seven stack)]
        at exactly
      cases exactly
      refine ⟨stack, .member pointer field, ?_, fun _ _ => rfl⟩
      rw [run_append, ran]
      rfl
  | not operand ih =>
      obtain ⟨left, top, ran, same⟩ := ih (.not :: stack) (fun less => absurd less (by decide))
      refine ⟨left, top, ran, fun weaker le => ?_⟩
      rw [same weaker le, collapse_cons_of_le .not stack _ le]
      rfl
  | minus operand ih =>
      obtain ⟨left, top, ran, same⟩ := ih (.minus :: stack) (fun less => absurd less (by decide))
      refine ⟨left, top, ran, fun weaker le => ?_⟩
      rw [same weaker le, collapse_cons_of_le .minus stack _ le]
      rfl
  | @binary op tokens more left right first second ihFirst ihSecond =>
      have low : op.strength < 6 := by
        have := strength_le_four op
        omega
      obtain ⟨stackLeft, topLeft, ranLeft, sameLeft⟩ := ihFirst stack below
      -- The operator closes what the left operand left open, and nothing that was there before.
      have closed : collapse op.strength stackLeft topLeft = (stack, left) := by
        rw [sameLeft _ (Nat.le_refl _), collapse_of_below _ (below low)]
      obtain ⟨stackRight, topRight, ranRight, sameRight⟩ :=
        ihSecond (.binary op left :: stack) (fun _ => by
          intro frame member
          cases member
          exact Nat.lt_succ_self _)
      refine ⟨stackRight, topRight, ?_, fun weaker le => ?_⟩
      · rw [run_append, ranLeft, Option.bind_some]
        simp only [run, step, closed, Option.bind_some]
        exact ranRight
      · rw [sameRight weaker (Nat.le_succ_of_le le),
          collapse_cons_of_le (.binary op left) stack _ le]
        rfl
  | @weaken strength _ _ _ ih =>
      obtain ⟨left, top, ran, same⟩ := ih stack (fun less =>
        below_of_le (below (Nat.lt_of_succ_lt less)) (Nat.le_succ strength))
      exact ⟨left, top, ran, fun weaker le => same weaker (Nat.le_succ_of_le le)⟩

/-- The machine reads whatever the grammar derives. -/
theorem read_of_reads {tokens : List Token} {tree : Tree} (reads : Reads 1 tokens tree) :
    read tokens = some tree := by
  obtain ⟨left, top, ran, same⟩ := run_of_reads reads [] (fun _ => by
    intro frame member
    cases member)
  rw [read, ran]
  simp only [same 1 (Nat.le_refl 1), collapse]

theorem reads_unique {tokens : List Token} {tree other : Tree} (reads : Reads 1 tokens tree)
    (again : Reads 1 tokens other) : other = tree := by
  have same := (read_of_reads again).symm.trans (read_of_reads reads)
  exact Option.some.inj same

end Machine

end SqlMapper.Condition
