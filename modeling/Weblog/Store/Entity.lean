import Weblog.Sql.FindAll
import Weblog.Store.Record

/-!
# Weblog.Store.Entity

Typed entities and their rows.

* `Entity`: a type with a schema, an encoding as fields and a decoding.
* `find`, `findAll`, `findNumber`: reads.
* `save`, `update`, `remove`: writes. A write that does not affect one row is noted in the log.
* `held`: what becomes of the variable whose value is saved.
-/

namespace Weblog

/-- A type whose values are rows of a model. Attributes that are left out of the encoding take
their defaults when the value is saved. -/
class Entity (α : Type) where
  schema : Except SchemaError Schema
  encode : α → Fields
  decode : Json → Option α

namespace Entity

variable {α : Type} [Entity α]

/-- The schema of the model, or why it has none. -/
def schemaOf (α : Type) [Entity α] : Fallible StoreError Schema :=
  Fallible.ofExcept ((Entity.schema α).mapError .schema)

/-- The value of a row. -/
def ofFields (fields : Fields) : Except StoreError α :=
  match Entity.decode (.object fields) with
  | some v => .ok v
  | none => .error .undecodable

/-- The values of rows, or the error of the first that is none. -/
def ofRows : List Fields → Except StoreError (List α)
  | [] => .ok []
  | row :: rows =>
    match ofFields (α := α) row with
    | .error e => .error e
    | .ok v => (ofRows rows).map (v :: ·)

def toRecord (s : Schema) (v : α) : Record := ⟨s, Entity.encode v⟩

def find (α : Type) [Entity α] (key : Json) : Fallible StoreError (Option α) := do
  let s ← schemaOf α
  let rows ← Database.select s.selectByKeySql [key] (some 1)
  match rows with
  | [] => return none
  | row :: _ => return some (← Fallible.ofExcept (ofFields row))

def findAll (α : Type) [Entity α] (q : FindAll) : Fallible StoreError (List α) := do
  let s ← schemaOf α
  let query := q.query s
  let rows ← Database.select query.sql query.params none
  Fallible.ofExcept (ofRows rows)

/-- The number that an expression has over the rows that meet a condition. -/
def findNumber (α : Type) [Entity α] (expr : String) (filter : Option String)
    (args : List Json) : Fallible StoreError (Option Json) := do
  let s ← schemaOf α
  let rows ← Database.select (s.numberSql expr filter) args (some 1)
  match rows with
  | [] => return none
  | row :: _ => return Fields.get? numberLabel row

/-- Notes a write that did not affect one row. -/
def expectOne (entry : LogEntry) (affected : Nat) : Fallible StoreError Unit :=
  if affected = 1 then pure () else Fallible.lift (Action.log entry)

/-- Inserts an entity and yields it with the defaults of its unset attributes. -/
def save (autocommit : Bool) (v : α) : Fallible StoreError α := do
  let s ← schemaOf α
  let (args, record) ← Fallible.lift (toRecord s v).insertArgs
  let args ← Fallible.ofExcept args
  let affected ← Database.execute autocommit s.insertSql args
  expectOne .insertMissed affected
  Fallible.ofExcept (ofFields record.values)

/-- What a variable holds after a save of its value: the value that the save yields, and where it
fails the one before. -/
def held (v : α) : Except StoreError α → α
  | .ok saved => saved
  | .error _ => v

/-- Writes the current values of an entity to the row with its key. -/
def update (autocommit : Bool) (v : α) : Fallible StoreError Unit := do
  let s ← schemaOf α
  let affected ← Database.execute autocommit s.updateSql (toRecord s v).updateArgs
  expectOne .updateMissed affected

/-- Deletes the row with the key of an entity. -/
def remove (autocommit : Bool) (v : α) : Fallible StoreError Unit := do
  let s ← schemaOf α
  let affected ← Database.execute autocommit s.deleteSql [(toRecord s v).keyValue]
  expectOne .removeMissed affected

end Entity
end Weblog
