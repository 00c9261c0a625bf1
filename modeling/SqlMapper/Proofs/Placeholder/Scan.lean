import SqlMapper.Mapper.Placeholder
import SqlMapper.Sql.Prepared

/-!
Placeholders read from left to right, one character at a time. The reader agrees with the search
that collects names and with the pass that prepares a text, and it splits at a seam between two
texts unless a hash meets a brace there.
-/

namespace SqlMapper.Placeholder

open Sql

/-- The names in a text and whether all are closed. Inside a placeholder the characters of its name
are kept in reverse. -/
def scan : Option (List Char) → List Char → List String × Bool
  | none, [] => ([], true)
  | some _, [] => ([], false)
  | none, '#' :: '{' :: rest => scan (some []) rest
  | none, _ :: rest => scan none rest
  | some name, c :: rest =>
      if c = '}' then (String.ofList name.reverse :: (scan none rest).1, (scan none rest).2)
      else scan (some (c :: name)) rest

def names (text : List Char) : List String :=
  (scan none text).1

def closed (text : List Char) : Bool :=
  (scan none text).2

/-- No placeholder starts at a hash that no brace follows. -/
theorem scan_none_cons (c : Char) (rest : List Char)
    (apart : c = '#' → rest.head? ≠ some '{') :
    scan none (c :: rest) = scan none rest := by
  rw [scan.eq_def]
  split
  · next same => cases same
  · next same => cases same
  · next inner same =>
      cases same
      simp at apart
  · next same => cases same; rfl
  · next inside _ => cases inside

section Search

theorem scan_of_cut (text : List Char) :
    match Text.cut ['#', '{'] text with
    | none => scan none text = ([], true)
    | some (_, inner) => scan none text = scan (some []) inner ∧ inner.length < text.length := by
  induction text with
  | nil => simp [Text.cut, scan]
  | cons c rest ih =>
      rw [Text.cut]
      by_cases opened : c = '#' ∧ rest.head? = some '{'
      · obtain ⟨rfl, second⟩ := opened
        obtain ⟨inner, rfl⟩ := List.head?_eq_some_iff.mp second
        have opens : ['#', '{'].isPrefixOf? ('#' :: '{' :: inner) = some inner := rfl
        rw [opens]
        simp only [scan, true_and, List.length_cons]
        omega
      · have apart : c = '#' → rest.head? ≠ some '{' := fun hash brace => opened ⟨hash, brace⟩
        have unopened : ['#', '{'].isPrefixOf? (c :: rest) = none := by
          have hashed : ['#', '{'].isPrefixOf? (c :: rest) =
              if '#' == c then ['{'].isPrefixOf? rest else none := rfl
          rw [hashed]
          by_cases hash : c = '#'
          · cases rest with
            | nil =>
                have ended : ['{'].isPrefixOf? [] = none := rfl
                simp [ended]
            | cons d more =>
                have braced : ['{'].isPrefixOf? (d :: more) =
                    if '{' == d then some more else none := rfl
                have brace : ¬ '{' = d := by
                  intro same
                  exact apart hash (by rw [← same]; rfl)
                simp [braced, brace]
          · simp [Ne.symm hash]
        rw [unopened, scan_none_cons c rest apart]
        cases found : Text.cut ['#', '{'] rest with
        | none => simpa [found] using ih
        | some parts =>
            rw [found] at ih
            exact ⟨ih.1, by simp only [List.length_cons]; have := ih.2; omega⟩

theorem scan_of_upTo (inner name : List Char) :
    match Text.upTo '}' inner with
    | (_, none) => scan (some name) inner = ([], false)
    | (more, some rest) =>
        scan (some name) inner =
            (String.ofList (name.reverse ++ more) :: (scan none rest).1, (scan none rest).2) ∧
          rest.length < inner.length := by
  induction inner generalizing name with
  | nil => simp [Text.upTo, scan]
  | cons c inner ih =>
      by_cases stop : c = '}'
      · simp [Text.upTo, scan, stop]
      · have next := ih (c :: name)
        simp only [Text.upTo, beq_iff_eq, stop, ↓reduceIte, scan]
        cases found : Text.upTo '}' inner with
        | mk more after =>
            rw [found] at next
            cases after with
            | none => simpa using next
            | some rest =>
                refine ⟨by simpa using next.1, ?_⟩
                have := next.2
                simp only [List.length_cons]
                omega

theorem placeholdersIn_eq_scan (fuel : Nat) (text : List Char) (enough : text.length < fuel) :
    placeholdersIn fuel text = scan none text := by
  induction fuel generalizing text with
  | zero => omega
  | succ fuel ih =>
      have start := scan_of_cut text
      rw [placeholdersIn]
      cases opened : Text.cut ['#', '{'] text with
      | none => rw [opened] at start; exact start.symm
      | some parts =>
          obtain ⟨before, inner⟩ := parts
          rw [opened] at start
          have stop := scan_of_upTo inner []
          simp only
          cases ended : Text.upTo '}' inner with
          | mk name after =>
              rw [ended] at stop
              cases after with
              | none => rw [start.1, stop]
              | some rest =>
                  have shorter : rest.length < fuel := by have := start.2; have := stop.2; omega
                  simp only [start.1, stop.1, ih rest shorter, List.reverse_nil, List.nil_append]

/-- The search and the reader find the same names. -/
theorem placeholders_eq (text : String) :
    placeholders text = (names text.toList, closed text.toList) :=
  placeholdersIn_eq_scan (text.length + 1) text.toList (Nat.lt_succ_self _)

end Search

section Seams

theorem apart_of_cons {c : Char} {rest : List Char} {unbraced : Prop}
    (apart : (c :: rest).getLast? = some '#' → unbraced) (last : rest.getLast? = some '#') :
    unbraced := by
  apply apart
  simp [List.getLast?_cons, last]

/-- A closed text and what follows it are read apart, unless a hash meets a brace. -/
theorem scan_append (state : Option (List Char)) (first second : List Char)
    (ended : (scan state first).2 = true)
    (apart : first.getLast? = some '#' → second.head? ≠ some '{') :
    scan state (first ++ second) =
      ((scan state first).1 ++ (scan none second).1, (scan none second).2) := by
  fun_induction scan state first with
  | case1 => simp
  | case2 => simp at ended
  | case3 rest ih =>
      simpa [scan] using ih ended (apart_of_cons (apart_of_cons apart))
  | case4 c rest other ih =>
      -- A placeholder opens here only if the hash is the last of `first`.
      have unopened : c = '#' → (rest ++ second).head? ≠ some '{' := by
        intro hash
        cases rest with
        | nil => simpa using apart (by simp [hash])
        | cons d rest =>
            intro brace
            have brace : d = '{' := by simpa using brace
            exact other rest hash (by rw [brace])
      rw [List.cons_append, scan_none_cons c _ unopened]
      exact ih ended (apart_of_cons apart)
  | case5 name rest ih => simp [scan, ih ended (apart_of_cons apart)]
  | case6 name c rest inside ih => simpa [scan, inside] using ih ended (apart_of_cons apart)

theorem names_append (first second : List Char) (ended : closed first = true)
    (apart : first.getLast? = some '#' → second.head? ≠ some '{') :
    names (first ++ second) = names first ++ names second := by
  simp only [names, scan_append none first second ended apart]

theorem closed_append (first second : List Char) (ended : closed first = true)
    (apart : first.getLast? = some '#' → second.head? ≠ some '{') :
    closed (first ++ second) = closed second := by
  simp only [closed, scan_append none first second ended apart]

end Seams

section Preparation

variable (shape : ResultMap) (record : Record)

/-- A text whose names are all fields is prepared. -/
theorem prepareScan_of_fields (position : Nat) (state : Option (List Char)) (text : List Char)
    (known : ∀ name ∈ (scan state text).1, (shape.field? name).isSome) :
    ∃ done, prepareScan shape record position state text = .ok done := by
  fun_induction prepareScan shape record position state text with
  | case1 => exact ⟨_, rfl⟩
  | case2 => exact ⟨_, rfl⟩
  | case3 position rest ih => exact ih (by simpa [scan] using known)
  | case4 position c rest other ih =>
      have unopened : c = '#' → rest.head? ≠ some '{' := by
        intro hash brace
        obtain ⟨tail, rfl⟩ := List.head?_eq_some_iff.mp brace
        exact other tail hash rfl
      rw [scan_none_cons c rest unopened] at known
      obtain ⟨done, success⟩ := ih known
      exact ⟨_, by rw [success]; rfl⟩
  | case5 position name c rest stop property missing =>
      have stop : c = '}' := by simpa using stop
      have member : property ∈ (scan (some name) (c :: rest)).1 := by simp [scan, stop, property]
      have found := known property member
      simp [missing] at found
  | case6 position name c rest stop property f found ih =>
      have stop : c = '}' := by simpa using stop
      obtain ⟨done, success⟩ := ih fun other member => known other (by simp [scan, stop, member])
      exact ⟨_, by rw [success]; rfl⟩
  | case7 position name c rest stop ih =>
      have inside : ¬ c = '}' := by simpa using stop
      exact ih (by simpa [scan, inside] using known)

theorem bindings_of_prepareScan (position : Nat) (state : Option (List Char)) (text : List Char)
    (done : Prepared) (success : prepareScan shape record position state text = .ok done) :
    (∀ name ∈ (scan state text).1, (shape.field? name).isSome) ∧
      done.bindings.map (fun binding => binding.field.property) = (scan state text).1 := by
  fun_induction prepareScan shape record position state text generalizing done with
  | case1 => cases success; simp [scan]
  | case2 => cases success; simp [scan]
  | case3 position rest ih => simpa [scan] using ih done success
  | case4 position c rest other ih =>
      have unopened : c = '#' → rest.head? ≠ some '{' := by
        intro hash brace
        obtain ⟨tail, rfl⟩ := List.head?_eq_some_iff.mp brace
        exact other tail hash rfl
      rw [scan_none_cons c rest unopened]
      cases inner : prepareScan shape record position none rest with
      | error name => rw [inner] at success; cases success
      | ok more =>
          rw [inner] at success
          cases success
          exact ih more inner
  | case5 position name c rest stop property missing => cases success
  | case6 position name c rest stop property f found ih =>
      have stop : c = '}' := by simpa using stop
      cases inner : prepareScan shape record (position + 1) none rest with
      | error name => rw [inner] at success; cases success
      | ok more =>
          rw [inner] at success
          cases success
          obtain ⟨known, listed⟩ := ih more inner
          have named : f.property = property := by
            have holds := List.find?_some found
            simpa using holds
          have spelled : String.ofList name.reverse = property := rfl
          refine ⟨?_, by simp [scan, stop, listed, named, property]⟩
          intro other member
          simp only [scan, stop, ↓reduceIte, List.mem_cons] at member
          rcases member with same | later
          · rw [same, spelled, found]
            rfl
          · exact known other later
  | case7 position name c rest stop ih =>
      have inside : ¬ c = '}' := by simpa using stop
      simpa [scan, inside] using ih done success

/-- Preparation fails on no text but one with a name that is no field, and binds each name once. -/
theorem prepare_eq_ok_iff (sql : String) (properties : List String) :
    (∃ prepared bindings, prepare shape record sql = .ok (prepared, bindings) ∧
        bindings.map (fun binding => binding.field.property) = properties) ↔
      (∀ name ∈ names sql.toList, (shape.field? name).isSome) ∧ names sql.toList = properties := by
  constructor
  · rintro ⟨prepared, bindings, success, listed⟩
    rw [prepare] at success
    cases inner : prepareScan shape record 0 none sql.toList with
    | error name => rw [inner] at success; cases success
    | ok done =>
        rw [inner] at success
        cases success
        obtain ⟨known, order⟩ := bindings_of_prepareScan shape record 0 none _ done inner
        exact ⟨known, order.symm.trans listed⟩
  · rintro ⟨known, listed⟩
    obtain ⟨done, success⟩ := prepareScan_of_fields shape record 0 none _ known
    obtain ⟨_, order⟩ := bindings_of_prepareScan shape record 0 none _ done success
    exact ⟨String.ofList done.text, done.bindings, by rw [prepare, success]; rfl,
      order.trans listed⟩

end Preparation

end SqlMapper.Placeholder
