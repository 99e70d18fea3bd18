import Weblog.Json.Basic

/-!
# Weblog.Store.ResultSet

What the database answers to a statement.

* `ColumnType`, `Column`: a result column and its declared type.
* `Cell`: a cell as it is sent.
* `ResultSet`: rows under columns.
* `DbError`: why there is no answer.
-/

namespace Weblog

/-- The declared type of a result column. -/
inductive ColumnType where
  | bool
  | int2
  | int4
  | int8
  | float4
  | float8
  | numeric
  | uuid
  | timestamp
  | timestamptz
  | text
  | varchar
  | name
  | json
  | jsonb
  /-- A type whose cells are not decoded, by its name. -/
  | other (name : String)
  deriving DecidableEq, Repr

/-- A cell of a result row as the database sends it. -/
inductive Cell where
  | null
  | bool (b : Bool)
  | int (i : Int)
  /-- A floating point number; none is an infinity or no number. -/
  | float (x : Option Binary64)
  /-- A decimal: `coefficient / 10 ^ scale`. -/
  | decimal (negative : Bool) (coefficient scale : Nat)
  /-- The decimal that is no number. -/
  | notANumber
  | uuid (bytes : List UInt8)
  /-- Microseconds since the epoch. -/
  | instant (micros : Int)
  | text (s : String)
  /-- A JSON value in its text. -/
  | json (text : String)
  deriving Repr

/-- A result column. -/
structure Column where
  label : String
  type : ColumnType
  deriving DecidableEq, Repr

/-- What a statement gives back: rows under columns, and how many rows it affected. -/
structure ResultSet where
  columns : List Column
  rows : List (List Cell)
  affected : Nat
  deriving Repr

/-- Why the database did not serve: it reported an error with a text, a cell could not be read under
its column, or it could not be reached or understood. The driver's own texts are not shown. -/
inductive DbError where
  | reported (text : String)
  | unread (column : String)
  | withheld
  deriving DecidableEq, Repr

def DbError.message : DbError → String
  | .reported text => "error returned from database: " ++ text
  | .unread _ | .withheld => "*"

end Weblog
