import Mathlib.Data.List.Basic
import SqlMapper.Yaml.Token

/-!
Moving on in a YAML text. A place that counts its characters gives every reader enough fuel, so what
is read depends on the characters that are left only: a gap ends with the first character that is
neither blank nor a line break, and the blanks of the next line are its indentation.
-/

namespace SqlMapper.Yaml

def isSolid (c : Char) : Bool :=
  !isGap c && !isBreak c

/-- A text at whose start no gap goes on. -/
def StartsSolid (text : List Char) : Prop :=
  ∀ c, text.head? = some c → isSolid c = true

theorem isBoundary_of_isSolid {c : Char} (solid : isSolid c = true) : isBoundary (some c) = false := by
  simpa [isSolid, isBoundary] using solid

namespace Place

variable {p : Place} {c : Char} {taken more rest : List Char}

/-- The index counts the characters that were passed. -/
def Counts (p : Place) : Prop :=
  p.total = p.index + p.rest.length

theorem Counts.left (counts : p.Counts) : p.left = p.rest.length := by
  rw [Place.left, counts, Nat.add_sub_cancel_left]

theorem counts_ofText (text : List Char) : (ofText text).Counts := by
  simp [Counts, ofText]

theorem rest_past (here : p.rest = taken ++ rest) : (p.past taken).rest = rest := by
  rw [past, here, List.drop_left]

theorem Counts.past (counts : p.Counts) (here : p.rest = taken ++ rest) :
    (p.past taken).Counts := by
  have total : p.total = p.index + (taken ++ rest).length := here ▸ counts
  rw [Counts, rest_past here, Place.past, total, List.length_append, Nat.add_assoc]

theorem past_nil (p : Place) : p.past [] = p := by
  simp [past]

theorem past_past (p : Place) (taken more : List Char) :
    (p.past taken).past more = p.past (taken ++ more) := by
  simp [past, Nat.add_assoc, Bool.and_assoc]

theorem next_of_rest (here : p.rest = c :: rest) : p.next = p.past [c] := by
  rw [next, here, List.take_succ_cons, List.take_zero]

theorem head?_of_rest (here : p.rest = c :: rest) : p.head? = some c := by
  rw [head?, here, List.head?_cons]

theorem ahead_one (here : p.rest = c :: rest) : p.ahead 1 = rest.head? := by
  rw [ahead, here, List.getElem?_cons_succ, List.head?_eq_getElem?]

/-- Only the start of a line can be a mark. -/
theorem isAtMarker_of_column (behind : 0 < p.column) (sign : Char) : p.isAtMarker sign = false := by
  simp [isAtMarker, Nat.ne_of_gt behind]

theorem isAtBounds_of_column (behind : 0 < p.column) : p.isAtBounds = false := by
  rw [isAtBounds, isAtMarker_of_column behind, isAtMarker_of_column behind, Bool.or_false]

theorem isAtMarker_of_head {sign : Char} (here : p.rest = c :: rest) (apart : c ≠ sign) :
    p.isAtMarker sign = false := by
  simp [isAtMarker, here, apart]

theorem run_of_rest {belongs : Char → Bool} (here : p.rest = taken ++ rest)
    (all : ∀ c ∈ taken, belongs c = true) (ends : ∀ c, rest.head? = some c → belongs c = false) :
    p.run belongs = taken := by
  rw [run, here, List.takeWhile_append_of_pos all]
  cases rest with
  | nil => rw [List.takeWhile_nil, List.append_nil]
  | cons c rest => rw [List.takeWhile_cons_of_neg (by simp [ends c rfl]), List.append_nil]

def newline : List Char :=
  ['\n']

theorem isAtBreak_of_newline (here : p.rest = newline ++ rest) : p.isAtBreak = true := by
  rw [isAtBreak, head?_of_rest here]
  rfl

theorem isAtBreak_of_solid (here : p.rest = rest) (solid : StartsSolid rest) :
    p.isAtBreak = false := by
  rw [isAtBreak, head?, here]
  cases rest with
  | nil => rfl
  | cons c rest =>
      have free := solid c rfl
      simp only [isSolid, Bool.and_eq_true, Bool.not_eq_true'] at free
      exact free.2

theorem rest_nextLine (here : p.rest = newline ++ rest) : p.nextLine.rest = rest := by
  simp [nextLine, here, newline]

theorem Counts.nextLine (counts : p.Counts) (here : p.rest = newline ++ rest) :
    p.nextLine.Counts := by
  have total : p.total = p.index + (newline ++ rest).length := here ▸ counts
  rw [Counts, rest_nextLine here]
  simp only [Place.nextLine, here, newline, total, List.cons_append, List.nil_append,
    List.length_cons, List.take_succ_cons]
  simp
  omega

@[simp]
theorem column_nextLine (p : Place) : p.nextLine.column = 0 :=
  rfl

@[simp]
theorem crossed_nextLine (p : Place) : p.nextLine.crossed = true :=
  rfl

@[simp]
theorem column_past (p : Place) (taken : List Char) :
    (p.past taken).column = p.column + taken.length :=
  rfl

/-- The place behind the end of a line and the indentation of the next one. -/
def turned (p : Place) (width : Nat) : Place :=
  p.nextLine.past (List.replicate width ' ')

theorem rest_turned {width : Nat} (here : p.rest = newline ++ (List.replicate width ' ' ++ rest)) :
    (p.turned width).rest = rest :=
  rest_past (rest_nextLine here)

theorem Counts.turned {width : Nat} (counts : p.Counts)
    (here : p.rest = newline ++ (List.replicate width ' ' ++ rest)) : (p.turned width).Counts :=
  (counts.nextLine here).past (rest_nextLine here)

theorem column_turned (p : Place) (width : Nat) : (p.turned width).column = width := by
  simp [Place.turned]

theorem crossed_turned (p : Place) (width : Nat) : (p.turned width).crossed = true := by
  simp [Place.turned, past, isGap]

end Place

namespace Gap

variable {least fuel : Nat} {g : Gap} {p : Place} {blanks rest : List Char}

/-- A gap ends before what is solid. -/
theorem readFrom_solid (solid : StartsSolid p.rest) : readFrom least (fuel + 1) g p = some (g, p) := by
  rw [readFrom, Place.head?]
  cases here : p.rest with
  | nil => rfl
  | cons c rest =>
      have free := solid c (by rw [here, List.head?_cons])
      simp only [isSolid, Bool.and_eq_true, Bool.not_eq_true'] at free
      simp [free.1, free.2]

/-- Blanks of one line are kept. -/
theorem readFrom_blanks (all : ∀ c ∈ blanks, isGap c = true) (inLine : g.endsLine = false)
    (here : p.rest = blanks ++ rest) (solid : StartsSolid rest) (enough : blanks.length < fuel) :
    readFrom least fuel g p = some ({ g with blanks := g.blanks ++ blanks }, p.past blanks) := by
  induction blanks generalizing g p fuel with
  | nil =>
      obtain ⟨fuel, rfl⟩ := Nat.exists_eq_succ_of_ne_zero (Nat.ne_of_gt enough)
      have ends : StartsSolid p.rest := here ▸ solid
      rw [readFrom_solid ends, Place.past_nil, List.append_nil]
  | cons c blanks ih =>
      obtain ⟨fuel, rfl⟩ := Nat.exists_eq_succ_of_ne_zero (Nat.ne_of_gt (Nat.zero_lt_of_lt enough))
      have gap := all c List.mem_cons_self
      have unbroken : isBreak c = false := by
        simp only [isGap, Bool.or_eq_true, beq_iff_eq] at gap
        rcases gap with rfl | rfl <;> rfl
      have onward : p.rest = [c] ++ (blanks ++ rest) := here
      rw [readFrom, Place.head?_of_rest here]
      simp only [unbroken, gap, inLine, Bool.not_true, Bool.not_false, Bool.false_eq_true,
        ↓reduceIte]
      have later : ∀ d ∈ blanks, isGap d = true :=
        fun d member => all d (List.mem_cons_of_mem c member)
      have same : ({ g with blanks := g.blanks ++ [c] } : Gap).endsLine = false := inLine
      rw [Place.next_of_rest here,
        ih later same (Place.rest_past onward) (Nat.lt_of_succ_lt_succ enough), Place.past_past]
      simp

/-- The indentation of a line is dropped. -/
theorem readFrom_indentation {width : Nat} (behind : g.endsLine = true)
    (here : p.rest = List.replicate width ' ' ++ rest) (solid : StartsSolid rest)
    (enough : width < fuel) :
    readFrom least fuel g p = some (g, p.past (List.replicate width ' ')) := by
  induction width generalizing p fuel with
  | zero =>
      obtain ⟨fuel, rfl⟩ := Nat.exists_eq_succ_of_ne_zero (Nat.ne_of_gt enough)
      have ends : StartsSolid p.rest := here ▸ solid
      rw [readFrom_solid ends, List.replicate_zero, Place.past_nil]
  | succ width ih =>
      obtain ⟨fuel, rfl⟩ := Nat.exists_eq_succ_of_ne_zero (Nat.ne_of_gt (Nat.zero_lt_of_lt enough))
      rw [List.replicate_succ, List.cons_append] at here
      have onward : p.rest = [' '] ++ (List.replicate width ' ' ++ rest) := here
      have blank : isBreak ' ' = false ∧ isGap ' ' = true := ⟨rfl, rfl⟩
      rw [readFrom, Place.head?_of_rest here]
      simp only [blank.1, blank.2, behind, Bool.not_true, Bool.false_eq_true, ↓reduceIte]
      have tab : (' ' == '\t') = false := rfl
      simp only [tab, Bool.false_and, Bool.false_eq_true, ↓reduceIte]
      rw [Place.next_of_rest here, ih (Place.rest_past onward) (Nat.lt_of_succ_lt_succ enough),
        Place.past_past, List.singleton_append, ← List.replicate_succ]

/-- The gap from the end of a line to the text of the next one. -/
def turn : Gap where
  first := some Place.newline

/-- The gap at the end of a line. -/
theorem read_turn {width : Nat} (counts : p.Counts)
    (here : p.rest = Place.newline ++ (List.replicate width ' ' ++ rest)) (solid : StartsSolid rest) :
    read least {} p = some (turn, p.turned width) := by
  have enough : width < p.left := by
    rw [counts.left, here, List.length_append, List.length_append, List.length_replicate]
    have one : Place.newline.length = 1 := rfl
    omega
  have ends : isBreak '\n' = true := rfl
  rw [read, readFrom, Place.head?_of_rest here]
  simp only [ends, ↓reduceIte]
  have known : ({} : Gap).withBreak p.lineBreak = turn := by
    rw [Place.lineBreak, Place.head?_of_rest here]
    rfl
  rw [known, readFrom_indentation rfl (Place.rest_nextLine here) solid enough]
  rfl

/-- Blanks between words. -/
theorem read_blanks (counts : p.Counts) (all : ∀ c ∈ blanks, isGap c = true)
    (here : p.rest = blanks ++ rest) (solid : StartsSolid rest) :
    read least {} p = some ({ blanks }, p.past blanks) := by
  have enough : blanks.length < p.left + 1 := by
    rw [counts.left, here, List.length_append]
    omega
  rw [read, readFrom_blanks all rfl here solid enough]
  rfl

end Gap

end SqlMapper.Yaml
