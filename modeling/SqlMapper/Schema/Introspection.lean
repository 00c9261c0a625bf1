import SqlMapper.Log.Entry
import SqlMapper.Schema.Database
import SqlMapper.Schema.Server
import SqlMapper.Sql.Identifier

/-!
Reading the description of a database: one query for the database, one for the names of the tables,
and two for each table. The first failure ends the inquiry, and nothing is returned then.
-/
namespace SqlMapper.Schema

/-- What was being read when the inquiry failed. -/
inductive Stage where
  | databaseDdl | queryTables | scanTable | iterateTables
  | queryColumns | scanColumn | iterateColumns | tableDdl
  deriving DecidableEq

def Stage.message : Stage → String
  | .databaseDdl => "failed to read database DDL"
  | .queryTables => "failed to query tables"
  | .scanTable => "failed to scan table"
  | .iterateTables => "failed to iterate tables"
  | .queryColumns => "failed to query columns"
  | .scanColumn => "failed to scan column"
  | .iterateColumns => "failed to iterate columns"
  | .tableDdl => "failed to read table DDL"

structure InquiryError where
  table : Option String
  stage : Stage
  cause : ReplyError
  deriving DecidableEq

/-- Where the inquiry stood, before the cause of its failure is told. -/
def InquiryError.place (e : InquiryError) : String :=
  let table := match e.table with
    | some name => "table " ++ name ++ ": "
    | none => ""
  table ++ e.stage.message ++ ": "

def InquiryError.message (e : InquiryError) : String :=
  "database introspection failed: " ++ e.place ++ e.cause.message

inductive ConnectionError where
  | noAddress (network : String)
  | unknownNetwork (network : String)
  | dial (cause : String)
  | login (refusal : Refusal)
  | canceled
  deriving DecidableEq

def ConnectionError.cause : ConnectionError → String
  | .noAddress network => "default addr for network '" ++ network ++ "' unknown"
  | .unknownNetwork network => "dial " ++ network ++ ": unknown network " ++ network
  | .dial cause => cause
  | .login refusal => refusal.message
  | .canceled => "context canceled"

def ConnectionError.message (e : ConnectionError) : String :=
  "failed to connect to database: " ++ e.cause

/-- Reaches the server on the way that the data source name gives, and logs in. -/
def connect (c : Connection) (s : Server) (canceled : Bool) : Logged ConnectionError Unit :=
  (Logged.write .debug "Connecting to MySQL"
    [("host", .text c.host), ("port", .number c.port), ("database", .text c.database)]).bind fun _ =>
    let route := Route.ofSourceName c.sourceName
    if route.network != "tcp" && route.address == "" then .fail (.noAddress route.network)
    else if canceled then .fail .canceled
    else if route.network != "tcp" then .fail (.unknownNetwork route.network)
    else match s.dial, s.login with
      | some cause, _ => .fail (.dial cause)
      | none, some refusal => .fail (.login refusal)
      | none, none => .pure ()

/-- What an inquiry leaves behind: the queries it asked, the log, and the outcome. -/
structure Inquiry (α : Type) where
  queries : List String
  log : List Log.Entry
  outcome : Except InquiryError α

/-- The course of an inquiry: what is asked or noted next, and how it goes on from the reply. -/
inductive Interview (α : Type) where
  | finish (outcome : Except InquiryError α)
  | note (entry : Log.Entry) (next : Interview α)
  | ask (query : String) (next : Reply → Interview α)

namespace Interview

variable {α β : Type}

def pure (value : α) : Interview α :=
  .finish (.ok value)

/-- Goes on with the result; a failure ends the course. -/
def bind (first : Interview α) (next : α → Interview β) : Interview β :=
  match first with
  | .finish (.ok value) => next value
  | .finish (.error error) => .finish (.error error)
  | .note entry rest => .note entry (rest.bind next)
  | .ask query rest => .ask query fun r => (rest r).bind next

def askFor (query : String) (outcome : Reply → Except InquiryError α) : Interview α :=
  .ask query fun r => .finish (outcome r)

def noting (message : String) (details : List (String × Log.Detail)) (value : α) : Interview α :=
  .note ⟨.debug, message, details⟩ (.pure value)

/-- Asks after the queries that were asked before. -/
def run (answers : Answers) : List String → Interview α → Inquiry α
  | _, .finish outcome => ⟨[], [], outcome⟩
  | asked, .note entry next =>
      let rest := run answers asked next
      { rest with log := entry :: rest.log }
  | asked, .ask query next =>
      let rest := run answers (asked ++ [query]) (next (answers asked query))
      { rest with queries := query :: rest.queries }

end Interview

def atStage {α : Type} (table : Option String) (stage : Stage) :
    Except ReplyError α → Except InquiryError α
  | .ok value => .ok value
  | .error cause => .error ⟨table, stage, cause⟩

def textAt (row : List (Option String)) (index : Nat) : String :=
  ((row[index]?).getD none).getD ""

/-- The second column of the first row, which holds the statement that creates an object. -/
def ddlOf (r : Reply) : Except ReplyError String :=
  (r.single 2).map fun row => textAt row 1

def databaseQuery (database : String) : String :=
  "SHOW CREATE DATABASE " ++ Sql.quotedName database

def tablesQuery (database : String) : String :=
  "SHOW TABLES FROM " ++ Sql.quotedName database

def columnsQuery (database table : String) : String :=
  "SHOW FULL COLUMNS FROM " ++ Sql.quotedName table ++ " FROM " ++ Sql.quotedName database

def tableQuery (database table : String) : String :=
  "SHOW CREATE TABLE " ++ Sql.quotedName database ++ "." ++ Sql.quotedName table

/-- Reads rows up to the first that does not read. -/
def scanRows {α : Type} (table : Option String) (scan : Stage)
    (read : List (Option String) → Except ReplyError α) :
    List (List (Option String)) → Except InquiryError (List α)
  | [] => .ok []
  | row :: rest =>
      (atStage table scan (read row)).bind fun first =>
        (scanRows table scan read rest).map (first :: ·)

/-- Reads every row of a reply; an error that follows the rows counts as well. -/
def readRows {α : Type} (r : Reply) (table : Option String) (query scan iterate : Stage)
    (read : List (Option String) → Except ReplyError α) : Except InquiryError (List α) :=
  match r.trouble, r.late with
  | some refusal, false => .error ⟨table, query, .refused refusal⟩
  | _, _ =>
      (scanRows table scan read r.readable).bind fun done =>
        match r.ending with
        | some error => .error ⟨table, iterate, error⟩
        | none => .ok done

def tableName (r : Reply) (row : List (Option String)) : Except ReplyError String :=
  (scanRow r.columns 1 [] row).map fun cells => textAt cells 0

/-- The column that a row of `SHOW FULL COLUMNS` describes. -/
def columnIn (cells : List (Option String)) : Column where
  name := textAt cells 0
  type := textAt cells 1
  kind := kindOfType (textAt cells 1)
  nullable := textAt cells 3 == "YES"
  primaryKey := textAt cells 4 == "PRI"
  default := (cells[5]?).getD none
  comment := textAt cells 8

/-- Reads a row of `SHOW FULL COLUMNS`; the collation and the default may be null. -/
def columnOf (r : Reply) (row : List (Option String)) : Except ReplyError Column :=
  (scanRow r.columns 9 [2, 5] row).map columnIn

def askDatabase (database : String) : Interview String :=
  .askFor (databaseQuery database) fun r =>
    (atStage none .databaseDdl (ddlOf r)).map (guarded "DATABASE")

def askTables (database : String) : Interview (List String) :=
  .askFor (tablesQuery database) fun r =>
    readRows r none .queryTables .scanTable .iterateTables (tableName r)

def askColumns (database table : String) : Interview (List Column) :=
  .askFor (columnsQuery database table) fun r =>
    readRows r (some table) .queryColumns .scanColumn .iterateColumns (columnOf r)

def askDefinition (database table : String) : Interview String :=
  .askFor (tableQuery database table) fun r =>
    (atStage (some table) .tableDdl (ddlOf r)).map (guarded "TABLE")

def askTable (database table : String) : Interview Table :=
  (askColumns database table).bind fun columns =>
    (askDefinition database table).bind fun ddl =>
      .noting "Table introspected" [("table", .text table), ("columns", .number columns.length)]
        ⟨table, columns, ddl⟩

def askEach (database : String) : List String → Interview (List Table)
  | [] => .pure []
  | table :: rest =>
      (askTable database table).bind fun first =>
        (askEach database rest).bind fun more => .pure (first :: more)

def describing (database : String) : Interview Database :=
  (askDatabase database).bind fun create =>
    (askTables database).bind fun names =>
      (askEach database names).bind fun tables =>
        .noting "Database introspected"
          [("database", .text database), ("tables", .number tables.length)]
          ⟨database, create, tables⟩

/-- The description of a whole database, asked of whatever answers. -/
def inquire (answers : Answers) (database : String) : Inquiry Database :=
  (describing database).run answers []

def introspect (s : Server) (database : String) : Inquiry Database :=
  inquire s.answers database

end SqlMapper.Schema
