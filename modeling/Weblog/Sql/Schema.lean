import Weblog.Sql.Field
import Weblog.Sql.Placeholder

/-!
# Weblog.Sql.Schema

Models and the statements that follow from their declared fields.

* `Declaration`: a model as it is declared.
* `Schema`: a checked model, and `Declaration.build`, the check.
* `SchemaError`: what is wrong with a declaration.
* `selectSql`, `insertSql`, `updateSql`, `deleteSql`, `selectByKeySql`, `createTableSql`: the
  statements, with neutral markers.
-/

namespace Weblog

/-- What is wrong with the declaration of a model. -/
inductive SchemaError where
  | missingPrimaryKey (model : String)
  | duplicatePrimaryKey (attr : String)
  | duplicateField (attr : String)
  | invalidPrimaryKey (attr : String)
  deriving DecidableEq, Repr

def SchemaError.message : SchemaError → String
  | .missingPrimaryKey model => "primary key not found for model " ++ model
  | .duplicatePrimaryKey attr => "duplicate primary key for field: " ++ attr
  | .duplicateField attr => "duplicate field: " ++ attr
  | .invalidPrimaryKey attr => "field " ++ attr ++ " cannot be a primary key"

/-- A model as it is declared; its table is named like the model unless another name is given. -/
structure Declaration where
  model : String
  table : Option String
  fields : List Field

/-- A model whose declaration was checked. -/
structure Schema where
  /-- The name of the model. -/
  name : String
  /-- The name of the table. -/
  table : String
  /-- The attribute of the primary key. -/
  key : String
  /-- The other attributes in the order of their declaration. -/
  attrs : List String
  /-- All fields in the order of their declaration. -/
  declared : List Field

namespace Declaration

/-- Goes through the fields: each attribute once, and at most one key, of a family that can be
one. `seen` holds the attributes before, `key` the key found before. Yields the key. -/
def check (seen : List String) (key : Option String) :
    List Field → Except SchemaError (Option String)
  | [] => .ok key
  | f :: rest =>
    if f.attr ∈ seen then .error (.duplicateField f.attr)
    else if f.isKey then
      if f.kind.canBeKey = false then .error (.invalidPrimaryKey f.attr)
      else if key.isSome then .error (.duplicatePrimaryKey f.attr)
      else check (f.attr :: seen) (some f.attr) rest
    else check (f.attr :: seen) key rest

def build (d : Declaration) : Except SchemaError Schema :=
  match check [] none d.fields with
  | .error e => .error e
  | .ok none => .error (.missingPrimaryKey d.model)
  | .ok (some key) =>
    .ok
      { name := d.model
        table := d.table.getD d.model
        key := key
        attrs := (d.fields.filter fun f => !f.isKey).map (·.attr)
        declared := d.fields }

end Declaration

namespace Schema

def field? (s : Schema) (attr : String) : Option Field := s.declared.find? fun f => f.attr = attr

def columnOf (s : Schema) (attr : String) : String :=
  Sql.quoted (((s.field? attr).map Field.columnName).getD attr)

/-- An attribute in a select list: its column, renamed to the attribute where they differ. -/
def selectItem (s : Schema) (attr : String) : String :=
  match s.field? attr with
  | some f =>
    if f.columnName ≠ attr then Sql.quoted f.columnName ++ " AS " ++ Sql.quoted attr
    else Sql.quoted attr
  | none => Sql.quoted attr

/-- The attributes in the order of the arguments of a write: the key comes last. -/
def writeOrder (s : Schema) : List String := s.attrs ++ [s.key]

def quotedTable (s : Schema) : String := Sql.quoted s.table

def keyCondition (s : Schema) : String := s.columnOf s.key ++ " = ?"

/-- Selects all rows, the key first. -/
def selectSql (s : Schema) : String :=
  "SELECT " ++ Sql.commaSeparated ((s.key :: s.attrs).map s.selectItem) ++ " FROM " ++ s.quotedTable

def selectByKeySql (s : Schema) : String := s.selectSql ++ " WHERE " ++ s.keyCondition

def insertSql (s : Schema) : String :=
  "INSERT INTO " ++ s.quotedTable ++ " (" ++ Sql.commaSeparated (s.writeOrder.map s.columnOf) ++
    ") VALUES (" ++ Sql.markers s.writeOrder.length ++ ")"

def updateSql (s : Schema) : String :=
  "UPDATE " ++ s.quotedTable ++ " SET " ++
    Sql.commaSeparated (s.attrs.map fun a => s.columnOf a ++ " = ?") ++
    " WHERE " ++ s.keyCondition

def deleteSql (s : Schema) : String :=
  "DELETE FROM " ++ s.quotedTable ++ " WHERE " ++ s.keyCondition

def columnDefinition (f : Field) : String :=
  Sql.quoted f.columnName ++ " " ++ f.ddl ++ (if f.isKey then " NOT NULL" else "")

/-- Creates the table unless it is there. -/
def createTableSql (s : Schema) : String :=
  let definitions := s.declared.map columnDefinition ++ ["PRIMARY KEY (" ++ s.columnOf s.key ++ ")"]
  "CREATE TABLE IF NOT EXISTS " ++ s.quotedTable ++ " (\n  " ++
    ",\n  ".intercalate definitions ++ "\n)"

end Schema
end Weblog
