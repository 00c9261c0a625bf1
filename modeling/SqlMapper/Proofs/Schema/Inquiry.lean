import Mathlib.Data.List.Forall2
import SqlMapper.Proofs.Quoting
import SqlMapper.Proofs.Schema.Replies

/-!
An inquiry is all or nothing. It follows one plan: the database, its tables, and for each table its
columns and its definition. Every step asks one query and needs something of the reply; the first step
whose reply does not have it is the last one, and the inquiry fails with a fault of that reply. If all
replies have what is needed, the description has a table for each row of the names, with a column for
each row that shows one, in the order of the rows, and each cell of a row is where it belongs.
-/

namespace SqlMapper.Schema

inductive Step where
  | database
  | tables
  | columns (table : String)
  | definition (table : String)
  deriving DecidableEq

/-- A name between backticks, with every backtick in it doubled. -/
def ticked (name : String) : String :=
  String.ofList (Sql.enclosed '\x60' name.toList)

theorem quotedName_eq (name : String) : Sql.quotedName name = ticked name := by
  rw [Sql.quotedName, Sql.quotedNameChars_eq, ticked]

namespace Step

/-- The query that belongs to a step. -/
def query (database : String) : Step → String
  | .database => "SHOW CREATE DATABASE " ++ ticked database
  | .tables => "SHOW TABLES FROM " ++ ticked database
  | .columns table => "SHOW FULL COLUMNS FROM " ++ ticked table ++ " FROM " ++ ticked database
  | .definition table => "SHOW CREATE TABLE " ++ ticked database ++ "." ++ ticked table

/-- The query that an inquiry asks at a step. -/
def asks (database : String) : Step → String
  | .database => databaseQuery database
  | .tables => tablesQuery database
  | .columns table => columnsQuery database table
  | .definition table => tableQuery database table

theorem asks_eq (database : String) (step : Step) : step.asks database = step.query database := by
  unfold asks query databaseQuery tablesQuery columnsQuery tableQuery
  cases step <;> simp only [quotedName_eq]

def table? : Step → Option String
  | .database | .tables => none
  | .columns table | .definition table => some table

/-- What may be going on when a step fails. -/
def stages : Step → List Stage
  | .database => [.databaseDdl]
  | .tables => [.queryTables, .scanTable, .iterateTables]
  | .columns _ => [.queryColumns, .scanColumn, .iterateColumns]
  | .definition _ => [.tableDdl]

/-- How a failure at a step is introduced. -/
def place (step : Step) (stage : Stage) : String :=
  match step.table? with
  | none => stage.message ++ ": "
  | some table => "table " ++ table ++ ": " ++ stage.message ++ ": "

def width : Step → Nat
  | .database | .definition _ => 2
  | .tables => 1
  | .columns _ => 9

def nullable : Step → List Nat
  | .columns _ => [2, 5]
  | _ => []

/-- Whether one row is needed, or every row that there is. -/
def isSingle : Step → Bool
  | .database | .definition _ => true
  | _ => false

/-- The rows that are needed. -/
def needed (step : Step) (r : Reply) : List (List (Option String)) :=
  if step.isSingle then r.sent.take 1 else r.sent

structure Answered (step : Step) (r : Reply) : Prop where
  complete : r.Complete
  found : step.isSingle = true → r.sent ≠ []
  fits : ∀ row ∈ step.needed r, Fits r.columns step.width step.nullable row

/-- An error that tells a fault of the reply to a step. -/
structure Blames (step : Step) (r : Reply) (error : InquiryError) : Prop where
  table : error.table = step.table?
  stage : error.stage ∈ step.stages
  fault : Fault r step.width step.nullable error.cause

theorem Blames.message_eq {step : Step} {r : Reply} {error : InquiryError}
    (blames : step.Blames r error) :
    error.message =
      "database introspection failed: " ++ step.place error.stage ++ error.cause.message := by
  unfold InquiryError.message InquiryError.place place
  rw [blames.table]
  cases step.table? <;> simp only [String.empty_append, String.append_assoc]

end Step

/-- The steps about each of some tables. -/
def tableSteps (tables : List String) : List Step :=
  tables.flatMap fun table => [.columns table, .definition table]

/-- The replies to the queries of some steps, if they are asked one after the other. -/
def talk (answers : Answers) (database : String) : List String → List Step → List (Step × Reply)
  | _, [] => []
  | asked, step :: rest =>
      (step, answers asked (step.query database)) ::
        talk answers database (asked ++ [step.query database]) rest

/-- A table is as the replies to its two queries show it. -/
structure Shown (answers : Answers) (database : String) (asked : List String) (t : Table) : Prop where
  columns : List.Forall₂ ShowsColumn
    (answers asked ((Step.columns t.name).query database)).sent t.columns
  definition : ShowsCreation
    (answers (asked ++ [(Step.columns t.name).query database])
      ((Step.definition t.name).query database)) "TABLE" t.create

/-- Tables are as the replies show them, if the queries are asked table by table. -/
inductive Shows (answers : Answers) (database : String) : List String → List Table → Prop where
  | nil {asked : List String} : Shows answers database asked []
  | cons {asked : List String} {t : Table} {rest : List Table}
      (first : Shown answers database asked t)
      (later : Shows answers database
        (asked ++ (tableSteps [t.name]).map (Step.query database)) rest) :
      Shows answers database asked (t :: rest)

section Course

variable {α β : Type} (answers : Answers) (database : String)

theorem talk_append (asked : List String) (first second : List Step) :
    talk answers database asked (first ++ second) =
      talk answers database asked first ++
        talk answers database (asked ++ first.map (Step.query database)) second := by
  induction first generalizing asked with
  | nil => simp [talk]
  | cons step rest ih => simp [talk, ih]

theorem queries_talk (asked : List String) (steps : List Step) :
    (talk answers database asked steps).map (fun turn => turn.1.query database) =
      steps.map (Step.query database) := by
  induction steps generalizing asked with
  | nil => rfl
  | cons step rest ih => simp [talk, ih]

/-- How an inquiry takes its course along some steps: it completes all of them with a result, or it
breaks off at the first one that is not answered. -/
inductive Course (asked : List String) (steps : List Step) (meets : α → Prop) (done : Inquiry α) :
    Prop where
  | completes (value : α) (meeting : meets value) (made : done.outcome = .ok value)
      (queries : done.queries = steps.map (Step.query database))
      (answered : ∀ turn ∈ talk answers database asked steps, turn.1.Answered turn.2)
  | breaks (before : List (Step × Reply)) (turn : Step × Reply) (after : List (Step × Reply))
      (error : InquiryError) (split : talk answers database asked steps = before ++ turn :: after)
      (answered : ∀ earlier ∈ before, earlier.1.Answered earlier.2)
      (unanswered : ¬ turn.1.Answered turn.2)
      (failed : done.outcome = .error error)
      (queries : done.queries = (before ++ [turn]).map fun each => each.1.query database)
      (blamed : turn.1.Blames turn.2 error)

theorem run_bind (first : Interview α) (next : α → Interview β) (asked : List String) :
    (first.bind next).run answers asked =
      match (first.run answers asked).outcome with
      | .ok value =>
          let second := (next value).run answers (asked ++ (first.run answers asked).queries)
          ⟨(first.run answers asked).queries ++ second.queries,
            (first.run answers asked).log ++ second.log, second.outcome⟩
      | .error error =>
          ⟨(first.run answers asked).queries, (first.run answers asked).log, .error error⟩ := by
  induction first generalizing asked with
  | finish outcome =>
      cases outcome <;> simp [Interview.bind, Interview.run]
  | note entry rest ih =>
      simp only [Interview.bind, Interview.run, ih]
      split <;> simp
  | ask query rest ih =>
      simp only [Interview.bind, Interview.run, ih]
      split <;> simp

variable {answers database} {asked : List String} {steps more : List Step} {meets : α → Prop}
  {goal : β → Prop}

theorem Course.pure {value : α} (meeting : meets value) :
    Course answers database asked [] meets ((Interview.pure value).run answers asked) :=
  .completes value meeting rfl rfl (fun _ member => absurd member List.not_mem_nil)

theorem Course.noting (message : String) (details : List (String × Log.Detail)) {value : α}
    (meeting : meets value) :
    Course answers database asked [] meets
      ((Interview.noting message details value).run answers asked) :=
  .completes value meeting rfl rfl (fun _ member => absurd member List.not_mem_nil)

/-- One step takes its course if its outcome agrees with the needs of the step. -/
theorem Course.askFor {step : Step} {outcome : Reply → Except InquiryError α}
    (succeeds : ∀ value, outcome (answers asked (step.query database)) = .ok value →
      step.Answered (answers asked (step.query database)) ∧ meets value)
    (fails : ∀ error, outcome (answers asked (step.query database)) = .error error →
      ¬ step.Answered (answers asked (step.query database)) ∧
        step.Blames (answers asked (step.query database)) error) :
    Course answers database asked [step] meets
      ((Interview.askFor (step.query database) outcome).run answers asked) := by
  cases reached : outcome (answers asked (step.query database)) with
  | ok value =>
      obtain ⟨answered, meeting⟩ := succeeds value reached
      refine .completes value meeting reached rfl ?_
      intro turn member
      rw [talk, talk, List.mem_singleton] at member
      rw [member]
      exact answered
  | error error =>
      obtain ⟨unanswered, blamed⟩ := fails error reached
      exact .breaks [] _ [] error rfl (fun _ member => absurd member List.not_mem_nil) unanswered
        reached rfl blamed

/-- A course goes on where the first part of it is completed, and ends where that breaks off. -/
theorem Course.bind {first : Interview α} {next : α → Interview β}
    (begun : Course answers database asked steps meets (first.run answers asked))
    (onward : ∀ value, meets value →
      Course answers database (asked ++ steps.map (Step.query database)) more goal
        ((next value).run answers (asked ++ steps.map (Step.query database)))) :
    Course answers database asked (steps ++ more) goal ((first.bind next).run answers asked) := by
  rw [run_bind]
  cases begun with
  | completes value meeting made queries answered =>
      rw [made, queries]
      cases onward value meeting with
      | completes result reached finished later rest =>
          refine .completes result reached finished ?_ ?_
          · simp only [later, List.map_append]
          · rw [talk_append, List.forall_mem_append]
            exact ⟨answered, rest⟩
      | breaks before turn after error split sooner unanswered failed later blamed =>
          refine .breaks (talk answers database asked steps ++ before) turn after error ?_ ?_
            unanswered failed ?_ blamed
          · rw [talk_append, split, List.append_assoc]
          · rw [List.forall_mem_append]
            exact ⟨answered, sooner⟩
          · simp only [later, List.append_assoc, List.map_append, queries_talk]
  | breaks before turn after error split sooner unanswered failed queries blamed =>
      rw [failed]
      refine .breaks before turn
        (after ++ talk answers database (asked ++ steps.map (Step.query database)) more) error ?_
        sooner unanswered rfl queries blamed
      rw [talk_append, split, List.append_assoc, List.cons_append]

end Course

section Steps

variable (answers : Answers) (database : String) (asked : List String)

/-- A step that lists rows. -/
theorem course_listing {α : Type} (step : Step) (several : step.isSingle = false)
    {query scan iterate : Stage} (stages : step.stages = [query, scan, iterate])
    {make : List (Option String) → α} (shows : List (Option String) → α → Prop)
    (shown : ∀ {columns row}, Fits columns step.width step.nullable row →
      row.length = columns.length → shows row (make row)) :
    Course answers database asked [step]
      (List.Forall₂ shows (answers asked (step.query database)).sent)
      ((Interview.askFor (step.asks database) fun r =>
        readRows r step.table? query scan iterate
          (reading r step.width step.nullable make)).run answers asked) := by
  rw [step.asks_eq]
  apply Course.askFor
  · intro results read
    obtain ⟨complete, fits, rfl⟩ := readRows_eq_ok_iff.mp read
    refine ⟨⟨complete, ?_, ?_⟩, ?_⟩
    · intro single
      rw [several] at single
      cases single
    · simpa [Step.needed, several] using fits
    · rw [List.forall₂_map_right_iff, List.forall₂_same]
      exact fun row member => shown (fits row member) (Reply.length_of_mem_sent member)
  · intro error failed
    obtain ⟨table, stage, fault⟩ := readRows_error failed
    refine ⟨?_, table, stages ▸ stage, fault⟩
    intro answered
    have fits := answered.fits
    simp only [Step.needed, several, Bool.false_eq_true, if_false] at fits
    rw [readRows_eq_ok_iff.mpr ⟨answered.complete, fits, rfl⟩] at failed
    cases failed

/-- A step that shows a statement. -/
theorem course_showing (step : Step) (single : step.isSingle = true) (width : step.width = 2)
    (nullable : step.nullable = []) {stage : Stage} (stages : step.stages = [stage])
    (object : String) :
    Course answers database asked [step]
      (ShowsCreation (answers asked (step.query database)) object)
      ((Interview.askFor (step.asks database) fun r =>
        (atStage step.table? stage (ddlOf r)).map (guarded object)).run answers asked) := by
  rw [step.asks_eq]
  apply Course.askFor
  · intro ddl shown
    simp only [Outcome.map_eq_ok_iff, atStage_eq_ok_iff, ddlOf, single_eq_ok_iff] at shown
    obtain ⟨_, ⟨row, ⟨complete, here, fits⟩, rfl⟩, rfl⟩ := shown
    obtain ⟨rest, split⟩ := List.head?_eq_some_iff.mp here
    refine ⟨⟨complete, ?_, ?_⟩, ?_⟩
    · intro _
      simp [split]
    · simpa [Step.needed, single, split, width, nullable] using fits
    · have member : row ∈ (answers asked (step.query database)).sent := List.mem_of_mem_head? here
      obtain ⟨name, cells⟩ := shows_statement fits (Reply.length_of_mem_sent member)
      exact ⟨name, textAt row 1, here.trans (congrArg some cells), tolerates_guarded object _⟩
  · intro error failed
    simp only [Outcome.map_eq_error_iff, atStage_eq_error_iff, ddlOf] at failed
    obtain ⟨cause, unread, rfl⟩ := failed
    refine ⟨?_, rfl, ?_, ?_⟩
    · intro answered
      obtain ⟨row, rest, split⟩ := List.exists_cons_of_ne_nil (answered.found single)
      have fits : Fits (answers asked (step.query database)).columns 2 [] row := by
        have each := answered.fits
        simpa [Step.needed, single, split, width, nullable] using each
      rw [single_eq_ok_iff.mpr ⟨answered.complete, by rw [split]; rfl, fits⟩] at unread
      cases unread
    · rw [stages]
      exact List.mem_singleton_self stage
    · rw [width, nullable]
      exact fault_of_single unread

variable {answers database asked}

theorem course_askTable (table : String) :
    Course answers database asked (tableSteps [table])
      (fun t => t.name = table ∧ Shown answers database asked t)
      ((askTable database table).run answers asked) := by
  apply Course.bind (course_listing answers database asked (.columns table) rfl rfl ShowsColumn
    shows_column)
  intro columns shown
  apply Course.bind (course_showing answers database _ (.definition table) rfl rfl rfl rfl "TABLE")
  intro create defined
  apply Course.noting
  exact ⟨rfl, shown, defined⟩

theorem course_askEach (names : List String) :
    Course answers database asked (tableSteps names)
      (fun tables => tables.map (·.name) = names ∧ Shows answers database asked tables)
      ((askEach database names).run answers asked) := by
  induction names generalizing asked with
  | nil => exact Course.pure ⟨rfl, .nil⟩
  | cons name rest ih =>
      have split : tableSteps (name :: rest) = tableSteps [name] ++ (tableSteps rest ++ []) := by
        simp [tableSteps]
      rw [split]
      apply Course.bind (course_askTable name)
      rintro first ⟨rfl, shown⟩
      apply Course.bind ih
      rintro others ⟨rfl, later⟩
      exact Course.pure ⟨rfl, .cons shown later⟩

end Steps

section Whole

variable (answers : Answers) (database : String)

/-- The names that are listed when the tables are asked for. -/
def listed : List String :=
  namesIn (answers [Step.database.query database] (Step.tables.query database))

def plan : List Step :=
  .database :: .tables :: tableSteps (listed answers database)

/-- A description that is as the replies show it: a table for each row that lists one, with a column
for each row that shows one. -/
structure Describes (d : Database) : Prop where
  name : d.name = database
  create : ShowsCreation (answers [] (Step.database.query database)) "DATABASE" d.create
  rows : (answers [Step.database.query database] (Step.tables.query database)).sent =
    d.tables.map fun t => [some t.name]
  shown : Shows answers database [Step.database.query database, Step.tables.query database] d.tables

theorem course_inquire :
    Course answers database [] (plan answers database) (Describes answers database)
      (inquire answers database) := by
  have split : plan answers database =
      [.database] ++ ([.tables] ++ (tableSteps (listed answers database) ++ [])) := by
    simp [plan]
  rw [split]
  apply Course.bind (course_showing answers database [] .database rfl rfl rfl rfl "DATABASE")
  intro create defined
  apply Course.bind (course_listing answers database _ .tables rfl rfl
    (fun row name => row = [some name]) shows_name)
  intro names shown
  have rows : (answers [Step.database.query database] (Step.tables.query database)).sent =
      names.map fun name => [some name] := by
    rw [← List.forall₂_eq_eq_eq, List.forall₂_map_right_iff]
    exact shown
  have same : listed answers database = names := namesIn_eq rows
  rw [same]
  apply Course.bind (course_askEach names)
  rintro tables ⟨rfl, later⟩
  apply Course.noting
  refine ⟨rfl, defined, ?_, later⟩
  rw [rows, List.map_map]
  rfl

/-- Every inquiry asks the queries of its plan in their order, up to the first one that is not
answered. It succeeds exactly if all of them are answered; then the description holds every table that
was listed and every column that was shown, in order. Otherwise it fails with an error that tells what
was wrong with the last reply. -/
theorem inquire_all_or_nothing :
    (inquire answers database).queries <+: (plan answers database).map (Step.query database) ∧
      ((∃ d, (inquire answers database).outcome = .ok d) ↔
        ∀ turn ∈ talk answers database [] (plan answers database), turn.1.Answered turn.2) ∧
      (∀ d, (inquire answers database).outcome = .ok d →
        (inquire answers database).queries = (plan answers database).map (Step.query database) ∧
          Describes answers database d) ∧
      ∀ error, (inquire answers database).outcome = .error error →
        ∃ before turn after,
          talk answers database [] (plan answers database) = before ++ turn :: after ∧
          (∀ earlier ∈ before, earlier.1.Answered earlier.2) ∧ ¬ turn.1.Answered turn.2 ∧
          (inquire answers database).queries =
            (before ++ [turn]).map (fun each => each.1.query database) ∧
          turn.1.Blames turn.2 error ∧
          error.message = "database introspection failed: " ++ turn.1.place error.stage ++
            error.cause.message := by
  cases course_inquire answers database with
  | completes d described made queries answered =>
      rw [made, queries]
      refine ⟨List.prefix_rfl, ?_, ?_, ?_⟩
      · exact ⟨fun _ => answered, fun _ => ⟨d, rfl⟩⟩
      · intro other same
        cases same
        exact ⟨rfl, described⟩
      · intro error failed
        cases failed
  | breaks before turn after error split sooner unanswered failed queries blamed =>
      rw [failed, queries]
      -- The queries are those of the turns up to the one that broke off.
      refine ⟨?_, ?_, ?_, ?_⟩
      · rw [← queries_talk, split]
        exact ⟨after.map fun each => each.1.query database, by simp⟩
      · constructor
        · rintro ⟨d, made⟩
          cases made
        · intro answered
          refine absurd (answered turn ?_) unanswered
          rw [split]
          exact List.mem_append_right before List.mem_cons_self
      · intro d made
        cases made
      · intro other same
        cases same
        exact ⟨before, turn, after, split, sooner, unanswered, rfl, blamed, blamed.message_eq⟩

end Whole

section Shop

/-- The headings of the rows that show columns. -/
def columnHeadings : List String :=
  ["Field", "Type", "Collation", "Null", "Key", "Default", "Extra", "Privileges", "Comment"]

/-- A server with two tables. -/
def shop : Server where
  dial := none
  login := none
  replies :=
    [("SHOW CREATE DATABASE `shop`",
        ⟨["Database", "Create Database"], [[some "shop", some "CREATE DATABASE `shop`"]], none, false⟩),
      ("SHOW TABLES FROM `shop`", ⟨["Tables_in_shop"], [[some "user"], [some "or`der"]], none, false⟩),
      ("SHOW FULL COLUMNS FROM `user` FROM `shop`",
        ⟨columnHeadings,
          [[some "id", some "bigint(20)", none, some "NO", some "PRI", none, some "auto_increment",
              some "select", some ""],
            [some "name", some "varchar(64)", some "utf8mb4_bin", some "YES", some "", some "anon",
              some "", some "select", some "display name"]], none, false⟩),
      ("SHOW CREATE TABLE `shop`.`user`",
        ⟨["Table", "Create Table"], [[some "user", some "CREATE TABLE `user` (`id` bigint(20))"]],
          none, false⟩),
      ("SHOW FULL COLUMNS FROM `or``der` FROM `shop`", ⟨columnHeadings, [], none, false⟩),
      ("SHOW CREATE TABLE `shop`.`or``der`",
        ⟨["Table", "Create Table"], [[some "or`der", some "CREATE TABLE `or``der` ()"]], none, false⟩)]

def shopDatabase : Database where
  name := "shop"
  create := "CREATE DATABASE IF NOT EXISTS `shop`"
  tables :=
    [⟨"user",
        [⟨"id", "bigint(20)", .integer, false, none, "", true⟩,
          ⟨"name", "varchar(64)", .text, true, some "anon", "display name", false⟩],
        "CREATE TABLE IF NOT EXISTS `user` (`id` bigint(20))"⟩,
      ⟨"or`der", [], "CREATE TABLE IF NOT EXISTS `or``der` ()"⟩]

/-- The connection to the shop breaks behind the first names of its tables. -/
def interrupted : Answers :=
  fun _ query =>
    if query = "SHOW TABLES FROM `shop`" then
      ⟨["Tables_in_shop"], [[some "user"]], some ⟨2013, "HY000", "lost connection"⟩, true⟩
    else shop.reply query

def interruption : InquiryError :=
  ⟨none, .iterateTables, .refused ⟨2013, "HY000", "lost connection"⟩⟩

theorem shop_described :
    (inquire shop.answers "shop").outcome = .ok shopDatabase ∧
      (inquire shop.answers "shop").queries =
        ["SHOW CREATE DATABASE `shop`", "SHOW TABLES FROM `shop`",
          "SHOW FULL COLUMNS FROM `user` FROM `shop`", "SHOW CREATE TABLE `shop`.`user`",
          "SHOW FULL COLUMNS FROM `or``der` FROM `shop`", "SHOW CREATE TABLE `shop`.`or``der`"] ∧
      Describes shop.answers "shop" shopDatabase ∧
      (inquire interrupted "shop").outcome = .error interruption ∧
      (inquire interrupted "shop").queries =
        ["SHOW CREATE DATABASE `shop`", "SHOW TABLES FROM `shop`"] ∧
      ¬ ∀ turn ∈ talk interrupted "shop" [] (plan interrupted "shop"), turn.1.Answered turn.2 := by
  have made : (inquire shop.answers "shop").outcome = .ok shopDatabase := by
    decide +kernel
  have failed : (inquire interrupted "shop").outcome = .error interruption := by
    decide +kernel
  refine ⟨made, by decide +kernel, ?_, failed, by decide +kernel, ?_⟩
  · exact ((inquire_all_or_nothing shop.answers "shop").2.2.1 _ made).2
  · intro answered
    obtain ⟨d, same⟩ := (inquire_all_or_nothing interrupted "shop").2.1.mpr answered
    rw [failed] at same
    cases same

end Shop

end SqlMapper.Schema
