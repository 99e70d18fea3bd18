import Weblog.Sql.Statement
import Weblog.Store.ResultSet

/-!
# Weblog.Action

What the application does to the world outside, as data.

* `LogEntry`: what is worth a line in the log.
* `Effect`: one thing that is asked of the world, and `Effect.Answer`, the type of its answer.
* `Action`: a computation that asks one effect after another, each depending on the answers before.
  A statement about an action is a statement about every world it may meet.
-/

namespace Weblog

/-- What is worth a line in the log. -/
inductive LogEntry where
  | duplicateArgument
  | readinessFailed
  | lookupFailed
  | rollbackFailed
  | insertMissed
  | updateMissed
  | removeMissed
  | requestFailed
  | registrationFailed
  deriving DecidableEq, Repr

def LogEntry.line : LogEntry → String
  | .duplicateArgument => "WARN duplicate arg name in named arg and kw args"
  | .readinessFailed => "WARN readiness check failed"
  | .lookupFailed => "WARN session user lookup failed"
  | .rollbackFailed => "WARN rollback failed"
  | .insertMissed => "WARN failed to insert record"
  | .updateMissed => "WARN failed to update by primary key"
  | .removeMissed => "WARN failed to remove by primary key"
  | .requestFailed => "ERROR request failed"
  | .registrationFailed => "ERROR model registration failed"

/-- One thing asked of the world. -/
inductive Effect where
  /-- Takes a connection out of the pool. -/
  | connect
  /-- Runs a statement on the connection. -/
  | run (s : Statement)
  /-- Begins or ends a transaction on the connection. -/
  | control (t : TransactionControl)
  /-- Closes the pool. -/
  | close
  /-- Asks whether the pool is closed. -/
  | isClosed
  /-- Reads the clock, in milliseconds since the epoch. -/
  | clock
  /-- Draws the sixteen octets of a random UUID. -/
  | uuid
  /-- Draws a value from a named source outside. -/
  | draw (source : String)
  /-- Writes a line to the log. -/
  | log (entry : LogEntry)
  deriving DecidableEq, Repr

def Effect.Answer : Effect → Type
  | .connect => Except DbError Unit
  | .run _ => Except DbError ResultSet
  | .control _ => Except DbError Unit
  | .close => Unit
  | .isClosed => Bool
  | .clock => Int
  | .uuid => List UInt8
  | .draw _ => Json
  | .log _ => Unit

/-- A computation that asks effects of the world and ends in a value. -/
inductive Action (α : Type) : Type where
  | done (a : α)
  | ask (e : Effect) (next : e.Answer → Action α)

namespace Action

def bind {α β : Type} : Action α → (α → Action β) → Action β
  | .done a, f => f a
  | .ask e next, f => .ask e fun answer => bind (next answer) f

instance : Monad Action where
  pure := .done
  bind := bind

@[simp] theorem pure_eq {α : Type} (a : α) : (pure a : Action α) = .done a := rfl

@[simp] theorem done_bind {α β : Type} (a : α) (f : α → Action β) :
    (Action.done a >>= f) = f a := rfl

@[simp] theorem ask_bind {α β : Type} (e : Effect) (next : e.Answer → Action α)
    (f : α → Action β) :
    (Action.ask e next >>= f) = .ask e fun answer => next answer >>= f := rfl

theorem bind_done {α : Type} (x : Action α) : x.bind .done = x := by
  induction x with
  | done a => rfl
  | ask e next ih => simp only [bind, ih]

theorem bind_bind {α β γ : Type} (x : Action α) (f : α → Action β) (g : β → Action γ) :
    (x.bind f).bind g = x.bind fun a => (f a).bind g := by
  induction x with
  | done a => rfl
  | ask e next ih => simp only [bind, ih]

instance : LawfulMonad Action :=
  LawfulMonad.mk' Action bind_done (fun _ _ => rfl) bind_bind

def perform (e : Effect) : Action e.Answer := .ask e .done

/-- Reads the clock, in milliseconds since the epoch. -/
def clock : Action Int := perform .clock

def log (entry : LogEntry) : Action Unit := perform (.log entry)

def seconds : Action Int := do return (← clock) / 1000

end Action
end Weblog
