import Weblog.Sql.Placeholder
import Weblog.Store.Decode
import Weblog.Fallible

/-!
# Weblog.Store.Database

What is done with the database.

* `connect`, `run`, `control`: the effects that the database answers.
* `select`: the decoded rows of a statement, all or a first part.
* `execute`: a write, alone or in its own transaction.
* `ensureTables`, `ping`: statements that are sent as they are.
-/

namespace Weblog

/-- Asks an effect that the database answers. -/
def Fallible.database {α : Type} (x : Action (Except DbError α)) : Fallible StoreError α :=
  Fallible.mapError .database (ExceptT.mk x)

namespace Database

def connect : Fallible StoreError Unit := Fallible.database (Action.perform .connect)

def run (s : Statement) : Fallible StoreError ResultSet :=
  Fallible.database (Action.perform (.run s))

def control (t : TransactionControl) : Fallible StoreError Unit :=
  Fallible.database (Action.perform (.control t))

/-- A text with neutral markers and its arguments, as a statement. -/
def statement (sql : String) (args : List Json) : Statement :=
  ⟨Sql.native sql, args.map Bound.ofJson⟩

/-- The decoded rows of a statement, at most so many if a limit is given. A limit of no rows sends
nothing. -/
def select (sql : String) (args : List Json) (limit : Option Nat) :
    Fallible StoreError (List Fields) := do
  connect
  if limit = some 0 then pure []
  else
    let result ← run (statement sql args)
    Fallible.ofExcept (result.decode limit)

/-- Runs a write in its own transaction: it is committed when the write succeeds and rolled back
when it fails. The error is the write's even if rolling back fails as well. -/
def executeInTransaction (s : Statement) : Fallible StoreError Nat := do
  control .start
  match ← Fallible.lift (run s).run with
  | .ok result =>
    control .commit
    return result.affected
  | .error e =>
    match ← Fallible.lift (control .rollback).run with
    | .ok () => throw e
    | .error _ =>
      Fallible.lift (Action.log .rollbackFailed)
      throw e

/-- Runs a write and yields how many rows it affected. Without autocommit it has its own
transaction. -/
def execute (autocommit : Bool) (sql : String) (args : List Json) : Fallible StoreError Nat := do
  connect
  if autocommit then
    let result ← run (statement sql args)
    return result.affected
  else executeInTransaction (statement sql args)

/-- Creates the tables of models where they are not there. -/
def ensureTables : List Schema → Fallible StoreError Unit
  | [] => pure ()
  | s :: rest => do
    connect
    let _ ← run ⟨s.createTableSql, []⟩
    ensureTables rest

/-- Asks whether the database answers. -/
def ping : Fallible StoreError Unit := do
  connect
  let _ ← run ⟨"SELECT 1", []⟩
  pure ()

end Database
end Weblog
