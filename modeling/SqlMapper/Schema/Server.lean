import SqlMapper.Text.Quoted
import SqlMapper.Text.Search
import SqlMapper.Text.Utf8

/-!
A database server as seen from the outside: it can be dialled, it may refuse the login, and it
answers queries with rows of texts, with an error, or with rows and then an error.
-/
namespace SqlMapper.Schema

structure Refusal where
  code : Int
  state : String
  text : String
  deriving DecidableEq

/-- The bytes of a state, of which there are five. -/
def Refusal.stateSize : Nat :=
  5

/-- The error as it is shown. It is sent with a code of two bytes and with its state and its text
in one run of bytes; a state of zero bytes is no state. -/
def Refusal.message (r : Refusal) : String :=
  let sent := Text.encode (r.state ++ r.text)
  let state := sent.take stateSize
  let shown := if state.all (· == 0) then "" else " (" ++ Text.decode state ++ ")"
  "Error " ++ toString (r.code.emod 65536) ++ shown ++ ": " ++ Text.decode (sent.drop stateSize)

inductive ReplyError where
  | refused (refusal : Refusal)
  | broken
  | noRows
  | missingText (index : Nat) (column : String)
  | width (columns wanted : Nat)
  deriving DecidableEq

def ReplyError.message : ReplyError → String
  | .refused refusal => refusal.message
  | .broken => "invalid connection"
  | .noRows => "sql: no rows in result set"
  | .missingText index column =>
      "sql: Scan error on column index " ++ toString index ++ ", name " ++ Text.quoted column ++
        ": converting NULL to string is unsupported"
  | .width columns wanted =>
      "sql: expected " ++ toString columns ++ " destination arguments in Scan, not " ++
        toString wanted

/-- Rows under named columns; `trouble` comes instead of them, or after them. -/
structure Reply where
  columns : List String
  rows : List (List (Option String))
  trouble : Option Refusal
  late : Bool

/-- A row as it is read: one cell for each column, where a cell that is not there is null. -/
def Reply.cells (r : Reply) (row : List (Option String)) : List (Option String) :=
  row.take r.columns.length ++ List.replicate (r.columns.length - row.length) none

/-- The rows that can be read; a row without cells breaks the connection. -/
def Reply.readable (r : Reply) : List (List (Option String)) :=
  if r.columns.isEmpty then [] else (r.rows.takeWhile (!·.isEmpty)).map r.cells

/-- The error that follows the readable rows. -/
def Reply.ending (r : Reply) : Option ReplyError :=
  if !r.columns.isEmpty && r.rows.any (·.isEmpty) then some .broken
  else r.trouble.map .refused

structure Server where
  /-- Why the server cannot be reached. -/
  dial : Option String
  /-- Why the login is refused. -/
  login : Option Refusal
  replies : List (String × Reply)

/-- The answer to a query the server does not know. -/
def Server.unknownQuery : Reply :=
  ⟨[], [], some ⟨1146, "42S02", "unscripted query"⟩, false⟩

def Server.reply (s : Server) (query : String) : Reply :=
  (s.replies.lookup query).getD Server.unknownQuery

/-- How queries are answered. The reply to a query may depend on those that were asked before. -/
abbrev Answers :=
  List String → String → Reply

/-- A server answers a query alike whenever it is asked. -/
def Server.answers (s : Server) : Answers :=
  fun _ query => s.reply query

/-- The first column among those that must hold text and does not. -/
def missingText (columns : List String) (nullable : List Nat) :
    Nat → List (Option String) → Option ReplyError
  | _, [] => none
  | index, some _ :: rest => missingText columns nullable (index + 1) rest
  | index, none :: rest =>
      if nullable.contains index then missingText columns nullable (index + 1) rest
      else some (.missingText index ((columns[index]?).getD ""))

/-- Reads a row of `wanted` columns, of which some may be null. -/
def scanRow (columns : List String) (wanted : Nat) (nullable : List Nat)
    (row : List (Option String)) : Except ReplyError (List (Option String)) :=
  if columns.length ≠ wanted then .error (.width columns.length wanted)
  else match missingText columns nullable 0 row with
    | some error => .error error
    | none => .ok row

def Reply.single (r : Reply) (wanted : Nat) : Except ReplyError (List (Option String)) :=
  match r.trouble, r.late with
  | some refusal, false => .error (.refused refusal)
  | _, _ =>
      match r.readable, r.ending with
      | [], some error => .error error
      | [], none => .error .noRows
      | row :: _, ending =>
          (scanRow r.columns wanted [] row).bind fun cells =>
            match ending with
            | some error => .error error
            | none => .ok cells

structure Connection where
  host : String
  port : Int
  user : String
  password : String
  database : String

/-- Host and port, with brackets around a host that has colons of its own. -/
def Connection.address (c : Connection) : String :=
  let host :=
    if c.host.toList.contains ':' then "[" ++ c.host ++ "]" else c.host
  host ++ ":" ++ toString c.port

def isPathByte (b : UInt8) : Bool :=
  let c := Char.ofNat b.toNat
  b < 0x80 && (c.isAlphanum || "-_.~$&+=:@".toList.contains c)

def pathByte (b : UInt8) : List Char :=
  if isPathByte b then [Char.ofNat b.toNat]
  else '%' :: (Text.hexDigits 2 b.toNat).map Char.toUpper

def Connection.sourceName (c : Connection) : String :=
  let login :=
    if c.user == "" then ""
    else c.user ++ (if c.password == "" then "" else ":" ++ c.password) ++ "@"
  login ++ "tcp(" ++ c.address ++ ")/" ++
    String.ofList ((Text.encode c.database).flatMap pathByte)

/-- The way to a server that a data source name gives: a kind of network, and an address on it. -/
structure Route where
  network : String
  address : String
  deriving DecidableEq

/-- What stands after the last occurrence of a character, or everything. -/
def afterLast (mark : Char) (text : List Char) : List Char :=
  (text.reverse.takeWhile (· != mark)).reverse

/-- What stands before the last occurrence of a character. -/
def beforeLast (mark : Char) (text : List Char) : List Char :=
  ((text.reverse.dropWhile (· != mark)).drop 1).reverse

/-- Reads the way from a data source name: between the last at sign and the last slash stands the
network, with the address in parentheses. No network is the usual one. -/
def Route.ofSourceName (name : String) : Route :=
  let text := afterLast '@' (beforeLast '/' name.toList)
  let network := String.ofList (text.takeWhile (· != '('))
  let address := String.ofList ((text.dropWhile (· != '(')).drop 1).dropLast
  ⟨if network == "" then "tcp" else network, address⟩

end SqlMapper.Schema
