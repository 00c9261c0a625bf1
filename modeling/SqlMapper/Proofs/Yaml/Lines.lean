import SqlMapper.Proofs.Yaml.Scalars

/-!
Scanning the lines of a mapping. Each begins with a key behind its indentation, which tells the block
that it belongs to: blocks that are indented further end before it, and a new one begins with it where
it is the first of its block.
-/

namespace SqlMapper.Yaml

def StartsEntry (text : List Char) : Prop :=
  ∀ c, text.head? = some c → isSolid c = true ∧ c ≠ '#' ∧ c ≠ '\ufeff'

namespace Scan

variable {s t : Scan} {width : Nat} {rest : List Char}

/-- The next token of a scan begins at a column with a text, and a key may stand there. -/
def Arrives (s : Scan) (width : Nat) (rest : List Char) : Prop :=
  ∃ q : Place, q.Counts ∧ q.rest = rest ∧ q.column = width ∧
    s.skipSpace (s.place.left + 1) = { s with place := q, keyAllowed := true }

/-- Blanks before a token are skipped. -/
theorem skipSpace_blanks (fuel : Nat) (here : s.place.rest = List.replicate width ' ' ++ rest)
    (starts : StartsEntry rest) :
    s.skipSpace (fuel + 1) = { s with place := s.place.past (List.replicate width ' ') } := by
  have unmarked : s.place.head? ≠ some '\ufeff' := by
    rw [Place.head?, here]
    cases width with
    | zero => exact fun marked => (starts _ marked).2.2 rfl
    | succ width => simp [List.replicate_succ]
  have run : (s.place.run fun c => c == ' ' || (c == '\t' && (s.inFlow || !s.keyAllowed))) =
      List.replicate width ' ' := by
    apply Place.run_of_rest here
    · intro c member
      simp [List.eq_of_mem_replicate member]
    · intro c first
      have solid := (starts c first).1
      simp only [isSolid, isGap, Bool.and_eq_true, Bool.not_eq_true', Bool.or_eq_false_iff] at solid
      simp [solid.1.1, solid.1.2]
  have inside : (s.place.past (List.replicate width ' ')).rest = rest := Place.rest_past here
  have uncommented : (s.place.past (List.replicate width ' ')).head? ≠ some '#' := by
    rw [Place.head?, inside]
    exact fun comment => (starts _ comment).2.1 rfl
  have unbroken : (s.place.past (List.replicate width ' ')).isAtBreak = false :=
    Place.isAtBreak_of_solid inside fun c first => (starts c first).1
  rw [skipSpace]
  simp [unmarked, Place.pastRun, run, uncommented, unbroken]

/-- At the end of a line the indentation of the next one is skipped. -/
theorem skipSpace_turn (fuel : Nat) (block : s.outer = [])
    (here : s.place.rest = Place.newline ++ (List.replicate width ' ' ++ rest))
    (starts : StartsEntry rest) :
    s.skipSpace (fuel + 2) = { s with place := s.place.turned width, keyAllowed := true } := by
  have first : s.place.head? = some '\n' := Place.head?_of_rest here
  have run : (s.place.run fun c => c == ' ' || (c == '\t' && (s.inFlow || !s.keyAllowed))) = [] := by
    rw [Place.run, here]
    rfl
  have broken : s.place.isAtBreak = true := Place.isAtBreak_of_newline here
  have free : s.inFlow = false := by simp [inFlow, block]
  have unmarked : (s.place.column == 0 && s.place.head? == some '\ufeff') = false := by
    rw [first]
    exact Bool.and_false _
  have uncommented : (s.place.head? == some '#') = false := by
    rw [first]
    rfl
  rw [skipSpace]
  simp only [unmarked, Bool.false_eq_true, ↓reduceIte, Place.pastRun, run, Place.past_nil,
    uncommented, broken]
  simp only [free, Bool.not_false, Bool.or_true]
  rw [skipSpace_blanks fuel (Place.rest_nextLine here) starts]
  rfl

theorem arrives_turn (block : s.outer = []) (counts : s.place.Counts)
    (here : s.place.rest = Place.newline ++ (List.replicate width ' ' ++ rest))
    (starts : StartsEntry rest) : s.Arrives width rest := by
  obtain ⟨fuel, enough⟩ : ∃ fuel, s.place.left = fuel + 1 := by
    rw [counts.left, here]
    exact ⟨_, rfl⟩
  refine ⟨s.place.turned width, counts.turned here, Place.rest_turned here,
    Place.column_turned s.place width, ?_⟩
  rw [enough, skipSpace_turn fuel block here starts]

theorem arrives_here (counts : s.place.Counts) (here : s.place.rest = rest)
    (column : s.place.column = width) (allowed : s.keyAllowed = true) (starts : StartsEntry rest) :
    s.Arrives width rest := by
  refine ⟨s.place, counts, here, column, ?_⟩
  have blanks : s.place.rest = List.replicate 0 ' ' ++ rest := here
  rw [skipSpace_blanks _ blanks starts, List.replicate_zero, Place.past_nil, ← allowed]

theorem closed_of_closing {least n margin : Nat} {margins : List Nat} (block : s.outer = [])
    (closing : Scan.closing least s.margin s.margins = (n, margin, margins)) :
    s.closed least = { s with
      tokens := List.replicate n .blockEnd ++ s.tokens, count := s.count + n, margin, margins } := by
  have free : s.inFlow = false := by simp [inFlow, block]
  simp only [closed, free, closing, Bool.false_eq_true, ↓reduceIte]

theorem closing_nothing {least margin : Nat} (left : margin ≤ least) (margins : List Nat) :
    closing least margin margins = (0, margin, margins) := by
  cases margins with
  | nil => rfl
  | cons outer rest => rw [closing, if_neg (Nat.not_lt.mpr left)]

/-- What can be at a place where neither a directive nor the bounds of a document are. -/
def Ordinary (p : Place) (c : Char) : Prop :=
  p.head? = some c ∧ (p.column = 0 → c ≠ '%' ∧ c ≠ '-' ∧ c ≠ '.')

theorem Ordinary.isAtMarker {p : Place} {c : Char} (ordinary : Ordinary p c) {sign : Char}
    (known : sign = '-' ∨ sign = '.') : p.isAtMarker sign = false := by
  obtain ⟨head, apart⟩ := ordinary
  obtain ⟨rest, here⟩ := List.head?_eq_some_iff.mp head
  by_cases start : p.column = 0
  · have differs : c ≠ sign := by
      rcases known with rfl | rfl
      · exact (apart start).2.1
      · exact (apart start).2.2
    simp [Place.isAtMarker, here, differs]
  · exact Place.isAtMarker_of_column (Nat.pos_of_ne_zero start) sign

/-- The next token, where it is none that ends a document or begins an item of a sequence. -/
theorem step_of_tokenAt {found t u : Scan} {c : Char}
    (skipped : s.skipSpace (s.place.left + 1) = found)
    (closed : found.closed (found.place.column + 1) = t) (ordinary : Ordinary t.place c)
    (token : t.tokenAt c = some u) (noDash : u.tokens.head? ≠ some .dash)
    (noTrailer : pastTrailer u.place = u.place) : s.step = some u := by
  have noDirective : (t.place.column == 0 && c == '%') = false := by
    rw [Bool.and_eq_false_iff, beq_eq_false_iff_ne, beq_eq_false_iff_ne]
    exact Classical.or_iff_not_imp_left.mpr fun start => (ordinary.2 (not_not.mp start)).1
  simp only [step, skipped, closed, ordinary.1, noDirective, ordinary.isAtMarker (.inl rfl),
    ordinary.isAtMarker (.inr rfl), token]
  simp [noDash, noTrailer]

/-- What can begin a plain scalar begins nothing else. -/
theorem tokenAt_words {c : Char} (block : s.outer = [])
    (starts : startsPlain false c (s.place.ahead 1) = true)
    (noItem : c = '-' → isBoundary (s.place.ahead 1) = false) : s.tokenAt c = s.words := by
  have free : s.inFlow = false := by simp [inFlow, block]
  have apart : ∀ d, isReserved d = true → (c == d) = false := by
    intro d reserved
    rw [beq_eq_false_iff_ne]
    rintro rfl
    have others : c ≠ '-' ∧ c ≠ '?' ∧ c ≠ ':' := by
      refine ⟨?_, ?_, ?_⟩ <;> rintro rfl <;> exact absurd reserved (by decide)
    simp [startsPlain, others.1, others.2.1, others.2.2, reserved] at starts
  have item : (c == '-' && isBoundary (s.place.ahead 1)) = false := by
    simpa using noItem
  have mark : ∀ d, d = '?' ∨ d = ':' → (c == d && isBoundary (s.place.ahead 1)) = false := by
    intro d known
    rw [Bool.and_eq_false_iff, beq_eq_false_iff_ne]
    by_cases same : c = d
    · subst same
      rcases known with rfl | rfl <;> simp [startsPlain] at starts <;> exact .inr starts
    · exact .inl same
  have quotes : isQuote c = false := by
    rw [isQuote, apart '"' (by decide), apart '\'' (by decide), Bool.or_self]
  simp only [tokenAt, free, Bool.false_or, item, mark '?' (.inl rfl), mark ':' (.inr rfl), quotes,
    starts, apart '[' (by decide), apart ']' (by decide), apart '\x7b' (by decide),
    apart '\x7d' (by decide), apart ',' (by decide), apart '*' (by decide), apart '&' (by decide),
    apart '!' (by decide), apart '|' (by decide), apart '>' (by decide), Bool.or_self,
    Bool.false_and, Bool.false_eq_true, ↓reduceIte]

/-- A scan between the tokens of block mappings. -/
structure Between (s : Scan) (tokens : List Token) (margin : Nat) (margins : List Nat) : Prop where
  tokens : s.tokens = tokens
  margin : s.margin = margin
  margins : s.margins = margins
  outer : s.outer = []
  candidate : s.candidate = none

/-- No comment stands behind a token where something else begins after blanks. -/
theorem pastTrailer_of_blanks {p : Place} (here : p.rest = List.replicate width ' ' ++ rest)
    (starts : ∀ c, rest.head? = some c → isGap c = false ∧ c ≠ '#') : pastTrailer p = p := by
  have run : p.run isGap = List.replicate width ' ' := by
    apply Place.run_of_rest here
    · intro c member
      rw [List.eq_of_mem_replicate member]
      rfl
    · exact fun c first => (starts c first).1
  have apart : (p.past (List.replicate width ' ')).head? ≠ some '#' := by
    rw [Place.head?, Place.rest_past here]
    exact fun comment => (starts _ comment).2 rfl
  simp [pastTrailer, run, apart]

theorem pastTrailer_of_head {p : Place} {c : Char} (here : p.rest = c :: rest)
    (gap : isGap c = false) (apart : c ≠ '#') : pastTrailer p = p := by
  have blanks : p.rest = List.replicate 0 ' ' ++ c :: rest := here
  apply pastTrailer_of_blanks blanks
  rintro d first
  cases first
  exact ⟨gap, apart⟩

/-- From one scan another is reached in at most a number of steps. -/
def Reaches (steps : Nat) (s t : Scan) : Prop :=
  ∀ fuel, ∃ left, fuel ≤ left ∧ scanFrom (fuel + steps) s = scanFrom left t

theorem Reaches.step {tokens : List Token} {first : Token} (next : s.step = some t)
    (between : t.tokens = first :: tokens) (goesOn : first ≠ .streamEnd) : Reaches 1 s t := by
  intro fuel
  refine ⟨fuel, Nat.le_refl fuel, ?_⟩
  rw [scanFrom_of_step next]
  simp [between, goesOn]

theorem Reaches.trans {u : Scan} {some more : Nat} (first : Reaches some s t)
    (second : Reaches more t u) : Reaches (some + more) s u := by
  intro fuel
  obtain ⟨left, enough, same⟩ := first (fuel + more)
  obtain ⟨last, remaining, arrived⟩ := second (left - more)
  refine ⟨last, by omega, ?_⟩
  rw [Nat.add_comm some more, ← Nat.add_assoc, same, ← arrived, Nat.sub_add_cancel (by omega)]

section Keys

variable {key after : List Char} {q : Place} {n margin : Nat} {margins : List Nat}

/-- The scan behind a key, which is a candidate until its colon. -/
def behindKey (s : Scan) (q : Place) (key : List Char) (n margin : Nat) (margins : List Nat) : Scan :=
  { s with
    place := q.past key
    tokens := .scalar (String.ofList key) true :: (List.replicate n .blockEnd ++ s.tokens)
    count := s.count + n + 1
    margin
    margins
    candidate := some {
      token := s.count + n
      index := q.index
      line := q.line
      column := q.column
      required := margin == q.column + 1 }
    keyAllowed := false }

theorem step_key (isKey : IsKey key) (block : s.outer = []) (bare : s.candidate = none)
    (skipped : s.skipSpace (s.place.left + 1) = { s with place := q, keyAllowed := true })
    (counts : q.Counts) (here : q.rest = key ++ ':' :: after) (ends : isBoundary after.head? = true)
    (closing : Scan.closing (q.column + 1) s.margin s.margins = (n, margin, margins)) :
    s.step = some (s.behindKey q key n margin margins) := by
  obtain ⟨c, others, spelled, alpha⟩ := isKey.first
  have first : q.rest = c :: (others ++ ':' :: after) := by rw [here, spelled, List.cons_append]
  have apart : ∀ d, d.isAlpha = false → c ≠ d := fun d => apart_of_class alpha
  have free : s.inFlow = false := by simp [inFlow, block]
  have read := plain_key isKey margin counts here ends
  apply step_of_tokenAt (c := c) skipped (closed_of_closing block closing)
  · exact ⟨Place.head?_of_rest first, fun _ =>
      ⟨apart '%' (by decide), apart '-' (by decide), apart '.' (by decide)⟩⟩
  · rw [tokenAt_words]
    · have flow : (!s.outer.isEmpty) = false := free
      simp only [words, saveCandidate, ↓reduceIte, dropCandidate, bare, Option.map_some,
        Option.bind_some, inFlow, flow, Bool.not_false, Bool.true_and, read]
      simp [upTo, push, allowing, behindKey, Gap.endsLine]
    · exact block
    · exact startsPlain_of_isAlpha alpha _
    · exact fun dash => absurd dash (apart _ (by decide))
  · simp [behindKey]
  · exact pastTrailer_of_head (Place.rest_past here) rfl (by decide)

theorem closed_nothing {least : Nat} (block : s.outer = []) (left : s.margin ≤ least) :
    s.closed least = s := by
  rw [closed_of_closing block (closing_nothing left s.margins)]
  simp

/-- The tokens in front of a key, where its block may begin with it. -/
def opening (column margin : Nat) : List Token :=
  if column < margin then [] else [.blockMapping]

/-- The tokens of a key are put in front of it when its colon is found. -/
theorem value_behindKey (isKey : IsKey key) (block : s.outer = []) (inner : margin ≤ q.column + 1) :
    ∃ w, (s.behindKey q key n margin margins).value = some w ∧
      Between w (.value :: .scalar (String.ofList key) true :: .key ::
          (opening q.column margin ++ (List.replicate n .blockEnd ++ s.tokens)))
        (q.column + 1) (if q.column < margin then margins else margin :: margins) ∧
      w.keyAllowed = false ∧ w.place = (q.past key).next := by
  have near : (s.behindKey q key n margin margins).nearCandidate =
      some (s.behindKey q key n margin margins).candidate := by
    simp [nearCandidate, behindKey, Candidate.isNear, Place.past, isKey.short]
  have one : s.count + n + 1 - (s.count + n) = 1 := by omega
  have two : s.count + n + 1 + 1 - (s.count + n) = 2 := by omega
  rw [value, near]
  by_cases outside : q.column < margin
  · have same : margin = q.column + 1 := by omega
    refine ⟨_, rfl, ⟨?_, ?_, ?_, ?_, ?_⟩, rfl, ?_⟩ <;>
      simp [behindKey, opened, insert, allowing, mark, upTo, push, inFlow, opening, block, same, one]
  · refine ⟨_, rfl, ⟨?_, ?_, ?_, ?_, ?_⟩, rfl, ?_⟩ <;>
      simp [behindKey, opened, insert, allowing, mark, upTo, push, inFlow, opening, block, outside,
        one, two]

/-- The colon behind a key announces it. -/
theorem step_colon (isKey : IsKey key) (block : s.outer = [])
    (here : q.rest = key ++ ':' :: after) (ends : isBoundary after.head? = true)
    (inner : margin ≤ q.column + 1)
    (noTrailer : pastTrailer (q.past (key ++ [':'])) = q.past (key ++ [':'])) :
    ∃ w, (s.behindKey q key n margin margins).step = some w ∧
      Between w (.value :: .scalar (String.ofList key) true :: .key ::
          (opening q.column margin ++ (List.replicate n .blockEnd ++ s.tokens)))
        (q.column + 1) (if q.column < margin then margins else margin :: margins) ∧
      w.keyAllowed = false ∧ w.place = q.past (key ++ [':']) := by
  obtain ⟨w, value, between, allowed, place⟩ :=
    @value_behindKey s key q n margin margins isKey block inner
  have colon : (q.past key).rest = ':' :: after := Place.rest_past here
  have starts : StartsEntry (':' :: after) := by
    rintro c first
    cases first
    exact ⟨rfl, by decide, by decide⟩
  have behind : (q.past key).next = q.past (key ++ [':']) := by
    rw [Place.next_of_rest colon, Place.past_past]
  have blanks : (s.behindKey q key n margin margins).place.rest =
      List.replicate 0 ' ' ++ ':' :: after := colon
  have skipped := skipSpace_blanks (s.behindKey q key n margin margins).place.left blanks starts
  rw [List.replicate_zero, Place.past_nil] at skipped
  have closed : (s.behindKey q key n margin margins).closed
      ((s.behindKey q key n margin margins).place.column + 1) = s.behindKey q key n margin margins :=
    closed_nothing block (by simp [behindKey]; omega)
  refine ⟨w, ?_, between, allowed, place.trans behind⟩
  apply step_of_tokenAt (c := ':') skipped closed
  · exact ⟨Place.head?_of_rest colon, fun _ => by decide⟩
  · rw [← value]
    have next : (s.behindKey q key n margin margins).place.ahead 1 = after.head? :=
      Place.ahead_one colon
    simp [tokenAt, next, ends]
  · simp [between.tokens]
  · rw [place, behind, noTrailer]

/-- A key and its colon are read, and what is above the key in other blocks ends before it. -/
theorem reaches_colon {tokens : List Token} {outer : Nat} {outers : List Nat} (isKey : IsKey key)
    (between : s.Between tokens outer outers) (arrives : s.Arrives width (key ++ ':' :: after))
    (ends : isBoundary after.head? = true)
    (closing : Scan.closing (width + 1) outer outers = (n, margin, margins))
    (inner : margin ≤ width + 1) {blanks : Nat} (spaced : after = List.replicate blanks ' ' ++ rest)
    (starts : ∀ c, rest.head? = some c → isGap c = false ∧ c ≠ '#') :
    ∃ w, Reaches 2 s w ∧
      Between w (.value :: .scalar (String.ofList key) true :: .key ::
          (opening width margin ++ (List.replicate n .blockEnd ++ tokens)))
        (width + 1) (if width < margin then margins else margin :: margins) ∧
      w.keyAllowed = false ∧ w.place.Counts ∧ w.place.rest = after ∧
      w.place.column = width + key.length + 1 := by
  obtain ⟨q, counts, here, rfl, skipped⟩ := arrives
  rw [← between.margin, ← between.margins] at closing
  rw [← between.tokens]
  have read : q.rest = (key ++ [':']) ++ after := by rw [here]; simp
  have behind : (q.past (key ++ [':'])).rest = after := Place.rest_past read
  have noTrailer := pastTrailer_of_blanks (behind.trans spaced) starts
  have keyed := step_key isKey between.outer between.candidate skipped counts here ends closing
  obtain ⟨w, coloned, between', allowed, place⟩ :=
    @step_colon s key after q n margin margins isKey between.outer here ends inner noTrailer
  refine ⟨w, ?_, between', allowed, ?_, ?_, ?_⟩
  · exact (Reaches.step keyed rfl (by simp)).trans (Reaches.step coloned between'.tokens (by simp))
  · rw [place]
    exact counts.past read
  · rw [place, behind]
  · rw [place]
    simp [Nat.add_assoc]

end Keys

section Scalars

variable {tokens : List Token} {margins : List Nat} {text rest : List Char} {next : Nat}

/-- What follows a scalar: the end of its line and the next one with its indentation. -/
def onward (next : Nat) (rest : List Char) : List Char :=
  Place.newline ++ (List.replicate next ' ' ++ rest)

/-- A scan behind the colon of a key, with the value in front of it. -/
structure Faces (s : Scan) (width : Nat) (written : List Char) : Prop where
  allowed : s.keyAllowed = false
  counts : s.place.Counts
  column : width < s.place.column
  here : s.place.rest = ' ' :: written

/-- The scan with the value at its place. -/
def faced (s : Scan) : Scan :=
  { s with place := s.place.past [' '] }

section Facing

variable {written : List Char} {c : Char}

theorem Faces.rest_faced (faces : s.Faces width written) : s.faced.place.rest = written :=
  Place.rest_past faces.here

theorem Faces.counts_faced (faces : s.Faces width written) : s.faced.place.Counts :=
  faces.counts.past faces.here

theorem Faces.column_faced (faces : s.Faces width written) : width + 1 < s.faced.place.column :=
  Nat.succ_lt_succ faces.column

/-- The token of the value is the next one. -/
theorem Faces.reaches (faces : s.Faces width (c :: written)) (between : s.Between tokens (width + 1) margins)
    (starts : StartsEntry (c :: written)) {text : String} {plain : Bool} {p : Place} {allowed : Bool}
    (token : s.faced.tokenAt c =
      some ((s.faced.upTo p (.scalar text plain)).allowing allowed))
    (noTrailer : pastTrailer p = p) :
    Reaches 1 s ((s.faced.upTo p (.scalar text plain)).allowing allowed) := by
  have column := faces.column_faced
  have spaced : s.place.rest = List.replicate 1 ' ' ++ c :: written := faces.here
  have skipped : s.skipSpace (s.place.left + 1) = s.faced :=
    skipSpace_blanks s.place.left spaced starts
  have closed : s.faced.closed (s.faced.place.column + 1) = s.faced :=
    closed_nothing between.outer (by
      rw [show s.faced.margin = width + 1 from between.margin]
      omega)
  have ordinary : Ordinary s.faced.place c :=
    ⟨Place.head?_of_rest faces.rest_faced, fun start => by omega⟩
  exact Reaches.step (step_of_tokenAt skipped closed ordinary token (by simp [allowing, upTo, push])
    noTrailer) rfl (by simp)

theorem Between.faced (between : s.Between tokens (width + 1) margins) (p : Place) (token : Token)
    (allowed : Bool) :
    ((s.faced.upTo p token).allowing allowed).Between (token :: tokens) (width + 1) margins :=
  ⟨congrArg (token :: ·) between.tokens, between.margin, between.margins, between.outer,
    between.candidate⟩

theorem Faces.saveCandidate (faces : s.Faces width written) : s.faced.saveCandidate = some s.faced := by
  simp [Scan.saveCandidate, Scan.faced, faces.allowed]

end Facing

section Quoted

variable {quote : Char} {spelling : Char → List Char}

theorem startsEntry_quote (marks : isQuote quote = true) (written : List Char) :
    StartsEntry (quote :: written) := by
  rintro c first
  cases first
  simp only [isQuote, Bool.or_eq_true, beq_iff_eq] at marks
  rcases marks with rfl | rfl <;> decide

theorem tokenAt_quote (marks : isQuote quote = true) (s : Scan) : s.tokenAt quote = s.quotation quote := by
  simp only [isQuote, Bool.or_eq_true, beq_iff_eq] at marks
  rcases marks with rfl | rfl <;> simp [tokenAt, isQuote]

/-- The text is read from behind its first quote up to the last one. -/
theorem Faces.quoted (marks : isQuote quote = true)
    (faces : s.Faces width (quote :: (text.flatMap spelling ++ quote :: onward next rest)))
    (each : ∀ c ∈ text, Legible quote spelling c) :
    Yaml.quoted quote s.faced.place =
      some (text, s.faced.place.past ([quote] ++ (text.flatMap spelling ++ [quote]))) := by
  have start : s.faced.place.rest = [quote] ++ (text.flatMap spelling ++ quote :: onward next rest) :=
    faces.rest_faced
  have short : text.length < s.faced.place.left + 1 := by
    have spelt := length_le_spelled each
    rw [faces.counts_faced.left, start, List.length_append, List.length_append]
    omega
  rw [Yaml.quoted, Place.next_of_rest faces.rest_faced, ← Place.past_past]
  exact quotedFrom_text marks (by simp [onward, Place.newline]) (faces.counts_faced.past start)
    (Nat.succ_pos _) each (Place.rest_past start) short

/-- Between quotes a text is read as a scalar. -/
theorem reaches_quoted (marks : isQuote quote = true)
    (between : s.Between tokens (width + 1) margins)
    (faces : s.Faces width (quote :: (text.flatMap spelling ++ quote :: onward next rest)))
    (each : ∀ c ∈ text, Legible quote spelling c) (starts : StartsEntry rest) :
    ∃ u, Reaches 1 s u ∧ u.Between (.scalar (String.ofList text) false :: tokens) (width + 1) margins ∧
      u.Arrives next rest := by
  have spelled : s.faced.place.rest = ([quote] ++ (text.flatMap spelling ++ [quote])) ++
      onward next rest := by
    rw [faces.rest_faced]
    simp
  have after := Place.rest_past spelled
  have token : s.faced.tokenAt quote = some ((s.faced.upTo
      (s.faced.place.past ([quote] ++ (text.flatMap spelling ++ [quote])))
      (.scalar (String.ofList text) false)).allowing false) := by
    rw [tokenAt_quote marks, quotation, faces.saveCandidate]
    simp only [Option.bind_some, faces.quoted marks each, Option.map_some]
  have noTrailer : pastTrailer (s.faced.place.past ([quote] ++ (text.flatMap spelling ++ [quote]))) =
      s.faced.place.past ([quote] ++ (text.flatMap spelling ++ [quote])) :=
    pastTrailer_of_head after rfl (by decide)
  exact ⟨_, faces.reaches between (startsEntry_quote marks _) token noTrailer, between.faced _ _ _,
    arrives_turn between.outer (faces.counts_faced.past spelled) after starts⟩

end Quoted

/-- A text that begins with what can begin a plain scalar at the end of a line. -/
def BeginsPlain (text : List Char) : Prop :=
  ∃ c others, text = c :: others ∧ startsPlain false c (others ++ Place.newline).head? = true ∧
    (c = '-' → isBoundary (others ++ Place.newline).head? = false) ∧ c ≠ '\ufeff'

/-- The text is read up to the indentation of the next line. -/
theorem Faces.plain (faces : s.Faces width (text ++ onward next rest)) (plainly : Plainly none text)
    (filled : text ≠ []) (left : next ≤ width) (solid : StartsSolid rest) :
    Yaml.plain false (width + 1) s.faced.place =
      some (text, Gap.turn, (s.faced.place.past text).turned next) := by
  have column := faces.column_faced
  have short : text.length < s.faced.place.left + 1 := by
    rw [faces.counts_faced.left, faces.rest_faced, List.length_append]
    omega
  exact plainFrom_line faces.counts_faced faces.rest_faced solid (Nat.lt_succ_of_le left)
    (Nat.le_of_lt column) plainly filled short

/-- A plain text is read as a scalar. -/
theorem reaches_plain (between : s.Between tokens (width + 1) margins)
    (faces : s.Faces width (text ++ onward next rest)) (plainly : Plainly none text)
    (begins : BeginsPlain text) (left : next ≤ width) (starts : StartsEntry rest) :
    ∃ u, Reaches 1 s u ∧ u.Between (.scalar (String.ofList text) true :: tokens) (width + 1) margins ∧
      u.Arrives next rest := by
  obtain ⟨c, others, rfl, startsPlain, noItem, unmarked⟩ := begins
  have solid : StartsSolid rest := fun d first => (starts d first).1
  have read := faces.plain plainly (List.cons_ne_nil c others) left solid
  have start : s.faced.place.rest = (c :: others) ++ onward next rest := faces.rest_faced
  have after := Place.rest_past start
  have second : s.faced.place.ahead 1 = (others ++ Place.newline).head? := by
    rw [Place.ahead_one faces.rest_faced]
    cases others <;> rfl
  rw [← second] at startsPlain noItem
  have opens : StartsEntry ((c :: others) ++ onward next rest) := by
    rintro d first
    cases first
    obtain ⟨gap, comment⟩ := plainly.first c rfl
    have unbroken := plainly.line c List.mem_cons_self
    exact ⟨by simp [isSolid, gap, unbroken], comment, unmarked⟩
  -- Outside of brackets a plain text runs up to the line that is not indented enough.
  have token : s.faced.tokenAt c = some ((s.faced.upTo
      ((s.faced.place.past (c :: others)).turned next)
      (.scalar (String.ofList (c :: others)) true)).allowing true) := by
    have block : s.faced.outer = [] := between.outer
    have margin : s.faced.margin = width + 1 := between.margin
    have free : s.faced.inFlow = false := by
      rw [inFlow, block]
      rfl
    rw [tokenAt_words block startsPlain noItem, words, faces.saveCandidate]
    simp only [Option.bind_some, free, margin, read, Option.map_some]
    rfl
  have noTrailer : pastTrailer ((s.faced.place.past (c :: others)).turned next) =
      (s.faced.place.past (c :: others)).turned next := by
    simp [pastTrailer, Place.crossed_turned]
  refine ⟨_, faces.reaches between opens token noTrailer, between.faced _ _ _, ?_⟩
  exact arrives_here ((faces.counts_faced.past start).turned after) (Place.rest_turned after)
    (Place.column_turned _ next) rfl starts

end Scalars

end Scan

end SqlMapper.Yaml
