import SqlMapper.Number.Binary64

/-!
Log entries: a level, a message and named details. A computation that logs carries the entries
written so far next to its outcome, so that a failure keeps what was logged before it.
-/
namespace SqlMapper
namespace Log

inductive Level where
  | debug | info | warn | error
  deriving DecidableEq

namespace Level

def name : Level → String
  | debug => "debug"
  | info => "info"
  | warn => "warn"
  | error => "error"

def rank : Level → Nat
  | debug => 0
  | info => 1
  | warn => 2
  | error => 3

end Level

inductive Detail where
  | text (value : String)
  | number (value : Int)
  | real (value : Binary64)
  | truth (value : Bool)
  | nothing
  deriving DecidableEq

structure Entry where
  level : Level
  message : String
  details : List (String × Detail)
  deriving DecidableEq

/-- The name under which a message is written. -/
def messageName : String :=
  "msg"

/-- Names that the parts of an entry take; a detail of such a name is not written. -/
def reservedNames : List String :=
  ["time", "level", "caller", "prefix"]

def Entry.written (entry : Entry) : List (String × Detail) :=
  entry.details.filter fun detail => !reservedNames.contains detail.1

/-- Whether an entry is written: everything in verbose mode, else warnings and errors only. -/
def Entry.shown (verbose : Bool) (entry : Entry) : Bool :=
  verbose || Level.rank .warn ≤ entry.level.rank

end Log

/-- An outcome together with the log entries written on the way to it. -/
structure Logged (ε α : Type) where
  log : List Log.Entry
  outcome : Except ε α

namespace Logged

variable {ε α β : Type}

def pure (value : α) : Logged ε α :=
  ⟨[], .ok value⟩

def fail (error : ε) : Logged ε α :=
  ⟨[], .error error⟩

def bind (first : Logged ε α) (next : α → Logged ε β) : Logged ε β :=
  match first.outcome with
  | .ok value =>
      let second := next value
      ⟨first.log ++ second.log, second.outcome⟩
  | .error error => ⟨first.log, .error error⟩

instance : Monad (Logged ε) where
  pure := Logged.pure
  bind := Logged.bind

def write (level : Log.Level) (message : String) (details : List (String × Log.Detail)) :
    Logged ε Unit :=
  ⟨[⟨level, message, details⟩], .ok ()⟩

def ofExcept (outcome : Except ε α) : Logged ε α :=
  ⟨[], outcome⟩

def mapError {δ : Type} (f : ε → δ) (x : Logged ε α) : Logged δ α :=
  ⟨x.log, x.outcome.mapError f⟩

/-- Runs the steps in order and stops at the first failure. -/
def mapList (f : α → Logged ε β) : List α → Logged ε (List β)
  | [] => pure []
  | a :: rest => bind (f a) fun b => bind (mapList f rest) fun more => pure (b :: more)

/-- A chain succeeds exactly if each of its parts does. -/
theorem bind_outcome_eq_ok_iff (first : Logged ε α) (next : α → Logged ε β) (result : β) :
    (first.bind next).outcome = .ok result ↔
      ∃ value, first.outcome = .ok value ∧ (next value).outcome = .ok result := by
  unfold bind
  cases first.outcome <;> simp

end Logged
end SqlMapper
