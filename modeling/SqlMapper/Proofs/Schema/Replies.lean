import Mathlib.Data.List.TakeWhile
import SqlMapper.Proofs.Outcome
import SqlMapper.Proofs.Schema.Tolerance
import SqlMapper.Schema.Introspection

/-!
What is read from a reply. Rows are read only from a reply that is complete: it ends without an error,
also behind its rows, and every row that is needed has the right number of columns with null only
where it may be. Whatever else is read fails with a fault of the reply.
-/

namespace SqlMapper.Schema

namespace Reply

/-- A row with one cell for each column, which is null if the row has none there. -/
def padded (r : Reply) (row : List (Option String)) : List (Option String) :=
  (List.range r.columns.length).map fun index => (row[index]?).getD none

/-- All rows that a reply sends. Without columns there are none. -/
def sent (r : Reply) : List (List (Option String)) :=
  if r.columns.isEmpty then [] else r.rows.map r.padded

/-- A reply that can be read to its end. -/
structure Complete (r : Reply) : Prop where
  untroubled : r.trouble = none
  whole : r.columns ≠ [] → [] ∉ r.rows

variable {r : Reply}

theorem any_isEmpty_iff (rows : List (List (Option String))) :
    rows.any (·.isEmpty) = true ↔ [] ∈ rows := by
  simp

theorem ending_eq_none_iff : r.ending = none ↔ r.Complete := by
  unfold ending
  split
  · next broken =>
      simp only [Bool.and_eq_true, Bool.not_eq_true', List.isEmpty_eq_false_iff,
        any_isEmpty_iff] at broken
      constructor
      · intro same
        cases same
      · intro complete
        exact absurd broken.2 (complete.whole broken.1)
  · next sound =>
      simp only [Bool.and_eq_true, Bool.not_eq_true', List.isEmpty_eq_false_iff,
        any_isEmpty_iff, not_and] at sound
      rw [Option.map_eq_none_iff]
      exact ⟨fun untroubled => ⟨untroubled, sound⟩, Complete.untroubled⟩

theorem cells_eq (r : Reply) : r.cells = r.padded := by
  funext row
  apply List.ext_getElem
  · simp only [cells, padded, List.length_append, List.length_take, List.length_replicate,
      List.length_map, List.length_range]
    omega
  · intro index inside also
    have wide : index < r.columns.length := by simpa [padded] using also
    have lists : index < (row.take r.columns.length).length ↔ index < row.length := by
      rw [List.length_take, Nat.lt_min, and_iff_right wide]
    simp only [cells, padded, List.getElem_append, lists, List.getElem_take, List.getElem_replicate,
      List.getElem_map, List.getElem_range]
    split
    · next there => rw [List.getElem?_eq_getElem there, Option.getD_some]
    · next gone => rw [List.getElem?_eq_none (Nat.not_lt.mp gone), Option.getD_none]

theorem length_of_mem_sent {row : List (Option String)} (member : row ∈ r.sent) :
    row.length = r.columns.length := by
  unfold sent at member
  split at member
  · cases member
  · obtain ⟨_, _, rfl⟩ := List.mem_map.mp member
    rw [padded, List.length_map, List.length_range]

/-- What can be read is a part of what is sent. -/
theorem mem_sent_of_readable {row : List (Option String)} (member : row ∈ r.readable) :
    row ∈ r.sent := by
  unfold readable at member
  unfold sent
  rw [cells_eq] at member
  split
  · next empty =>
      rw [if_pos empty] at member
      exact member
  · next wide =>
      rw [if_neg wide] at member
      exact List.map_subset _ (List.takeWhile_sublist _).subset member

/-- Of a complete reply every row can be read. -/
theorem Complete.readable_eq (complete : r.Complete) : r.readable = r.sent := by
  unfold readable sent
  rw [cells_eq]
  split
  · rfl
  · next wide =>
      have filled : ∀ row ∈ r.rows, (!row.isEmpty) = true := by
        intro row member
        rw [List.isEmpty_eq_false_iff.mpr, Bool.not_false]
        rintro rfl
        exact complete.whole (by simpa using wide) member
      rw [List.takeWhile_eq_self_iff.mpr filled]

end Reply

structure Fits (columns : List String) (wanted : Nat) (nullable : List Nat)
    (row : List (Option String)) : Prop where
  width : columns.length = wanted
  filled : ∀ index, row[index]? = some none → index ∈ nullable

section Scanning

variable {columns : List String} {wanted : Nat} {nullable : List Nat}
  {row cells : List (Option String)} {error : ReplyError}

/-- Some cell that must hold text is null. -/
def Lacks (columns : List String) (nullable : List Nat) (start : Nat)
    (row : List (Option String)) (error : ReplyError) : Prop :=
  ∃ index, row[index]? = some none ∧ start + index ∉ nullable ∧
    error = .missingText (start + index) ((columns[start + index]?).getD "")

-- The cells of a row are numbered from the place where its first cell stands.
theorem missingText_spec (columns : List String) (nullable : List Nat) (start : Nat)
    (row : List (Option String)) :
    match missingText columns nullable start row with
    | none => ∀ index, row[index]? = some none → start + index ∈ nullable
    | some error => Lacks columns nullable start row error := by
  induction row generalizing start with
  | nil =>
      intro index null
      cases null
  | cons cell rest ih =>
      have shifted (index : Nat) : start + 1 + index = start + (index + 1) := by omega
      by_cases free : cell = none → start ∈ nullable
      · have same : missingText columns nullable start (cell :: rest) =
            missingText columns nullable (start + 1) rest := by
          cases cell with
          | some text => rw [missingText]
          | none => rw [missingText, if_pos (List.contains_iff_mem.mpr (free rfl))]
        -- The first cell lacks nothing, so what is lacking stands one place later.
        have onward := ih (start + 1)
        rw [same]
        cases found : missingText columns nullable (start + 1) rest with
        | none =>
            rw [found] at onward
            intro index null
            cases index with
            | zero => exact free (Option.some.inj null)
            | succ index => exact shifted index ▸ onward index null
        | some error =>
            rw [found] at onward
            obtain ⟨index, null, needed, cause⟩ := onward
            rw [shifted] at needed cause
            exact ⟨index + 1, null, needed, cause⟩
      · rw [Classical.not_imp] at free
        obtain ⟨rfl, needed⟩ := free
        rw [missingText, if_neg (by simpa using needed)]
        exact ⟨0, rfl, needed, rfl⟩

theorem scanRow_eq_ok_iff : scanRow columns wanted nullable row = .ok cells ↔
    Fits columns wanted nullable row ∧ cells = row := by
  have spec := missingText_spec columns nullable 0 row
  unfold scanRow
  by_cases wide : columns.length = wanted
  · rw [if_neg (not_not.mpr wide)]
    cases found : missingText columns nullable 0 row with
    | none =>
        simp only [found, Nat.zero_add] at spec
        constructor
        · intro same
          cases same
          exact ⟨⟨wide, spec⟩, rfl⟩
        · rintro ⟨_, rfl⟩
          rfl
    | some error =>
        simp only [found, Lacks, Nat.zero_add] at spec
        obtain ⟨index, null, needed, _⟩ := spec
        constructor
        · intro same
          cases same
        · rintro ⟨fits, _⟩
          exact absurd (fits.filled index null) needed
  · rw [if_pos wide]
    constructor
    · intro same
      cases same
    · rintro ⟨fits, _⟩
      exact absurd fits.width wide

end Scanning

/-- What can be wrong with a reply. -/
inductive Fault (r : Reply) (wanted : Nat) (nullable : List Nat) : ReplyError → Prop where
  | refused {refusal : Refusal} (sent : r.trouble = some refusal) :
      Fault r wanted nullable (.refused refusal)
  | broken (wide : r.columns ≠ []) (gap : [] ∈ r.rows) : Fault r wanted nullable .broken
  | noRows (none : r.sent = []) : Fault r wanted nullable .noRows
  | width (differs : r.columns.length ≠ wanted) :
      Fault r wanted nullable (.width r.columns.length wanted)
  | missingText {row : List (Option String)} {index : Nat} (member : row ∈ r.sent)
      (null : row[index]? = some none) (needed : index ∉ nullable) :
      Fault r wanted nullable (.missingText index ((r.columns[index]?).getD ""))

section Faults

variable {r : Reply} {wanted : Nat} {nullable : List Nat} {row : List (Option String)}
  {error : ReplyError}

theorem fault_of_ending (failed : r.ending = some error) : Fault r wanted nullable error := by
  unfold Reply.ending at failed
  split at failed
  · next broken =>
      cases failed
      simp only [Bool.and_eq_true, Bool.not_eq_true', List.isEmpty_eq_false_iff,
        Reply.any_isEmpty_iff] at broken
      exact .broken broken.1 broken.2
  · obtain ⟨refusal, sent, rfl⟩ := Option.map_eq_some_iff.mp failed
    exact .refused sent

theorem fault_of_scanRow (member : row ∈ r.sent)
    (failed : scanRow r.columns wanted nullable row = .error error) :
    Fault r wanted nullable error := by
  have spec := missingText_spec r.columns nullable 0 row
  unfold scanRow at failed
  split at failed
  · next differs =>
      cases failed
      exact .width differs
  · split at failed
    · next found =>
        cases failed
        simp only [found, Lacks, Nat.zero_add] at spec
        obtain ⟨index, null, needed, rfl⟩ := spec
        exact .missingText member null needed
    · cases failed

end Faults

theorem atStage_eq_ok_iff {α : Type} {table : Option String} {stage : Stage}
    {outcome : Except ReplyError α} {value : α} :
    atStage table stage outcome = .ok value ↔ outcome = .ok value := by
  cases outcome <;> simp [atStage]

theorem atStage_eq_error_iff {α : Type} {table : Option String} {stage : Stage}
    {outcome : Except ReplyError α} {error : InquiryError} :
    atStage table stage outcome = .error error ↔
      ∃ cause, outcome = .error cause ∧ error = ⟨table, stage, cause⟩ := by
  cases outcome <;> simp [atStage, eq_comm]

section Listing

variable {α : Type} {r : Reply} {wanted : Nat} {nullable : List Nat} {table : Option String}
  {query scan iterate : Stage} {make : List (Option String) → α}
  {rows : List (List (Option String))} {results : List α} {error : InquiryError}

/-- Reads a row that can be scanned, and makes something of it. -/
def reading (r : Reply) (wanted : Nat) (nullable : List Nat) (make : List (Option String) → α)
    (row : List (Option String)) : Except ReplyError α :=
  (scanRow r.columns wanted nullable row).map make

theorem scanRows_eq_ok_iff :
    scanRows table scan (reading r wanted nullable make) rows = .ok results ↔
      (∀ row ∈ rows, Fits r.columns wanted nullable row) ∧ results = rows.map make := by
  induction rows generalizing results with
  | nil => simp [scanRows, eq_comm]
  | cons row rest ih =>
      simp only [scanRows, Outcome.bind_eq_ok_iff, Outcome.map_eq_ok_iff, atStage_eq_ok_iff, ih,
        reading, scanRow_eq_ok_iff, List.forall_mem_cons, List.map_cons]
      constructor
      · rintro ⟨first, ⟨_, ⟨fits, rfl⟩, rfl⟩, more, ⟨others, rfl⟩, rfl⟩
        exact ⟨⟨fits, others⟩, rfl⟩
      · rintro ⟨⟨fits, others⟩, rfl⟩
        exact ⟨make row, ⟨row, ⟨fits, rfl⟩, rfl⟩, rest.map make, ⟨others, rfl⟩, rfl⟩

theorem scanRows_error (sent : ∀ row ∈ rows, row ∈ r.sent)
    (failed : scanRows table scan (reading r wanted nullable make) rows = .error error) :
    error.table = table ∧ error.stage = scan ∧ Fault r wanted nullable error.cause := by
  induction rows with
  | nil => cases failed
  | cons row rest ih =>
      rw [List.forall_mem_cons] at sent
      simp only [scanRows, Outcome.bind_eq_error_iff, Outcome.map_eq_error_iff,
        atStage_eq_error_iff, reading] at failed
      rcases failed with ⟨cause, unread, rfl⟩ | ⟨_, _, later⟩
      · exact ⟨rfl, rfl, fault_of_scanRow sent.1 unread⟩
      · exact ih sent.2 later

/-- Rows are read exactly if the reply is complete and all that it sends can be scanned. Then all of
them are. -/
theorem readRows_eq_ok_iff :
    readRows r table query scan iterate (reading r wanted nullable make) = .ok results ↔
      r.Complete ∧ (∀ row ∈ r.sent, Fits r.columns wanted nullable row) ∧
        results = r.sent.map make := by
  unfold readRows
  split
  · next refusal sent _ =>
      constructor
      · intro same
        cases same
      · rintro ⟨complete, _⟩
        rw [complete.untroubled] at sent
        cases sent
  · rw [Outcome.bind_eq_ok_iff]
    constructor
    · rintro ⟨done, scanned, ended⟩
      split at ended
      · cases ended
      · next quiet =>
          have complete := Reply.ending_eq_none_iff.mp quiet
          cases ended
          rw [complete.readable_eq, scanRows_eq_ok_iff] at scanned
          exact ⟨complete, scanned⟩
    · rintro ⟨complete, scanned⟩
      refine ⟨results, ?_, ?_⟩
      · rw [complete.readable_eq, scanRows_eq_ok_iff]
        exact scanned
      · rw [Reply.ending_eq_none_iff.mpr complete]

theorem readRows_error
    (failed : readRows r table query scan iterate (reading r wanted nullable make) = .error error) :
    error.table = table ∧ error.stage ∈ [query, scan, iterate] ∧
      Fault r wanted nullable error.cause := by
  unfold readRows at failed
  split at failed
  · next refusal sent _ =>
      cases failed
      exact ⟨rfl, by simp, .refused sent⟩
  · rw [Outcome.bind_eq_error_iff] at failed
    rcases failed with unscanned | ⟨done, _, ended⟩
    · obtain ⟨about, scanning, fault⟩ :=
        scanRows_error (fun _ => Reply.mem_sent_of_readable) unscanned
      exact ⟨about, by simp [scanning], fault⟩
    · split at ended
      · next late =>
          cases ended
          exact ⟨rfl, by simp, fault_of_ending late⟩
      · cases ended

end Listing

section Single

variable {r : Reply} {wanted : Nat} {row : List (Option String)} {error : ReplyError}

/-- The first row is read exactly if the reply is complete, there is a row, and it can be scanned. -/
theorem single_eq_ok_iff : r.single wanted = .ok row ↔
    r.Complete ∧ r.sent.head? = some row ∧ Fits r.columns wanted [] row := by
  unfold Reply.single
  split
  · next refusal sent _ =>
      constructor
      · intro same
        cases same
      · rintro ⟨complete, _⟩
        rw [complete.untroubled] at sent
        cases sent
  · cases last : r.ending with
    | some late =>
        have incomplete : ¬ r.Complete := by
          rw [← Reply.ending_eq_none_iff, last]
          simp
        cases r.readable with
        | nil => simp [incomplete]
        | cons first others => simp [Outcome.bind_eq_ok_iff, incomplete]
    | none =>
        have complete := Reply.ending_eq_none_iff.mp last
        rw [complete.readable_eq]
        cases r.sent with
        | nil => simp
        | cons first others =>
            simp only [Outcome.bind_eq_ok_iff, scanRow_eq_ok_iff, complete, List.head?_cons,
              Option.some.injEq, Except.ok.injEq, true_and]
            constructor
            · rintro ⟨_, ⟨fits, rfl⟩, rfl⟩
              exact ⟨rfl, fits⟩
            · rintro ⟨rfl, fits⟩
              exact ⟨_, ⟨fits, rfl⟩, rfl⟩

theorem fault_of_single (failed : r.single wanted = .error error) : Fault r wanted [] error := by
  unfold Reply.single at failed
  split at failed
  · next refusal sent _ =>
      cases failed
      exact .refused sent
  · cases readable : r.readable with
    | nil =>
        cases last : r.ending with
        | some late =>
            simp only [readable, last] at failed
            cases failed
            exact fault_of_ending last
        | none =>
            simp only [readable, last] at failed
            cases failed
            have complete := Reply.ending_eq_none_iff.mp last
            exact .noRows (complete.readable_eq.symm.trans readable)
    | cons first others =>
        have sent : first ∈ r.sent := by
          apply Reply.mem_sent_of_readable
          rw [readable]
          exact List.mem_cons_self
        simp only [readable, Outcome.bind_eq_error_iff] at failed
        rcases failed with unscanned | ⟨cells, _, ended⟩
        · exact fault_of_scanRow sent unscanned
        · cases last : r.ending with
          | some late =>
              rw [last] at ended
              cases ended
              exact fault_of_ending last
          | none =>
              rw [last] at ended
              cases ended

end Single

section Rows

/-- A row of `SHOW FULL COLUMNS` shows a column. -/
inductive ShowsColumn : List (Option String) → Column → Prop where
  | intro (name type null key extra privileges comment : String) (collation default : Option String) :
      ShowsColumn
        [some name, some type, collation, some null, some key, default, some extra, some privileges,
          some comment]
        ⟨name, type, kindOfType type, decide (null = "YES"), default, comment, decide (key = "PRI")⟩

/-- The first row of a reply shows the statement that creates an object. -/
def ShowsCreation (r : Reply) (object create : String) : Prop :=
  ∃ name ddl, r.sent.head? = some [some name, some ddl] ∧ Tolerates object ddl create

/-- The names in the rows of a reply that have one cell. -/
def namesIn (r : Reply) : List String :=
  r.sent.filterMap fun
    | [some name] => some name
    | _ => none

theorem namesIn_eq {r : Reply} {names : List String}
    (rows : r.sent = names.map fun name => [some name]) : namesIn r = names := by
  rw [namesIn, rows, List.filterMap_map]
  exact List.filterMap_some

variable {columns : List String} {wanted : Nat} {nullable : List Nat} {row : List (Option String)}

theorem Fits.length (fits : Fits columns wanted nullable row) (whole : row.length = columns.length) :
    row.length = wanted :=
  whole.trans fits.width

theorem Fits.text (fits : Fits columns wanted nullable row) (index : Nat) {cell : Option String}
    (there : row[index]? = some cell) (needed : index ∉ nullable) : ∃ text, cell = some text := by
  cases cell with
  | none => exact absurd (fits.filled index there) needed
  | some text => exact ⟨text, rfl⟩

theorem shows_name (fits : Fits columns 1 [] row) (whole : row.length = columns.length) :
    row = [some (textAt row 0)] := by
  match row, fits.length whole with
  | [cell], _ =>
      obtain ⟨name, rfl⟩ := fits.text 0 rfl List.not_mem_nil
      rfl

theorem shows_statement (fits : Fits columns 2 [] row) (whole : row.length = columns.length) :
    ∃ name, row = [some name, some (textAt row 1)] := by
  match row, fits.length whole with
  | [first, second], _ =>
      obtain ⟨name, rfl⟩ := fits.text 0 rfl List.not_mem_nil
      obtain ⟨ddl, rfl⟩ := fits.text 1 rfl List.not_mem_nil
      exact ⟨name, rfl⟩

theorem shows_column (fits : Fits columns 9 [2, 5] row) (whole : row.length = columns.length) :
    ShowsColumn row (columnIn row) := by
  match row, fits.length whole with
  | [name, type, collation, null, key, default, extra, privileges, comment], _ =>
      obtain ⟨name, rfl⟩ := fits.text 0 rfl (by decide)
      obtain ⟨type, rfl⟩ := fits.text 1 rfl (by decide)
      obtain ⟨null, rfl⟩ := fits.text 3 rfl (by decide)
      obtain ⟨key, rfl⟩ := fits.text 4 rfl (by decide)
      obtain ⟨extra, rfl⟩ := fits.text 6 rfl (by decide)
      obtain ⟨privileges, rfl⟩ := fits.text 7 rfl (by decide)
      obtain ⟨comment, rfl⟩ := fits.text 8 rfl (by decide)
      exact .intro name type null key extra privileges comment collation default

end Rows

end SqlMapper.Schema
