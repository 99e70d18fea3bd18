import Weblog.Store.Database

/-!
# Weblog.Store.Record

Instances of a model without a type of their own.

* `Record`: values under attributes, with the schema of the model.
* `get`, `value`, `valueOrDefault`: strict, lenient and defaulting reads. A default that was
  resolved is kept, so that it is resolved once.
* `insertArgs`, `updateArgs`: the arguments of the writes, the key last.
-/

namespace Weblog

/-- Values under attributes, bound to a schema. -/
structure Record where
  schema : Schema
  values : Fields

namespace Record

/-- A record without values. -/
def empty (s : Schema) : Record := ⟨s, []⟩

def ofJson (s : Schema) : Json → Except StoreError Record
  | .object fields => .ok ⟨s, fields⟩
  | _ => .error .undecodable

/-- The value of an attribute, which must be set. -/
def get (r : Record) (attr : String) : Except StoreError Json :=
  match Fields.get? attr r.values with
  | some v => .ok v
  | none => .error (.missingAttribute attr)

/-- The value of an attribute, null when it is not set. -/
def value (r : Record) (attr : String) : Json := (Fields.get? attr r.values).getD .null

def set (r : Record) (attr : String) (v : Json) : Record :=
  { r with values := Fields.set attr v r.values }

/-- The value of an attribute, and where it is not set or null the default of its field, which is
then set. -/
def valueOrDefault (r : Record) (attr : String) : Action (Except StoreError Json × Record) :=
  let v := r.value attr
  if v ≠ .null then .done (.ok v, r)
  else
    match r.schema.field? attr with
    | none => .done (.error (.unknownField r.schema.name attr), r)
    | some f =>
      match f.initial with
      | none => .done (.ok .null, r)
      | some d => do
        let v ← d.resolve
        return (.ok v, r.set attr v)

/-- The values of attributes in order, each with its default. -/
def resolve (r : Record) : List String → Action (Except StoreError (List Json) × Record)
  | [] => .done (.ok [], r)
  | attr :: rest => do
    match ← r.valueOrDefault attr with
    | (.error e, r) => return (.error e, r)
    | (.ok v, r) =>
      let (vs, r) ← r.resolve rest
      return (vs.map (v :: ·), r)

/-- The arguments of an insert: every attribute but the key, then the key, each with its default. -/
def insertArgs (r : Record) : Action (Except StoreError (List Json) × Record) :=
  r.resolve r.schema.writeOrder

/-- The value of the key, null when it is not set. -/
def keyValue (r : Record) : Json := r.value r.schema.key

/-- The arguments of an update: the current values of every attribute but the key, then the key. -/
def updateArgs (r : Record) : List Json := r.schema.writeOrder.map r.value

end Record
end Weblog
