import Weblog.Json.Basic

/-!
# Weblog.Sql.Statement

Statements as the database takes them.

* `Bound`: an argument with its type; `Bound.ofJson` finds the type of a JSON value.
* `Statement`: a text with numbered markers and the arguments bound to them.
* `TransactionControl`: the statements that begin and end a transaction.
-/

namespace Weblog

/-- An argument as it is bound to a statement. -/
inductive Bound where
  | null
  | bool (b : Bool)
  | int (i : Int)
  | float (x : Binary64)
  | text (s : String)
  | json (v : Json)
  deriving DecidableEq, Repr

/-- The argument that carries a JSON value: an integer of 64 bits as such, every other number in
double precision, arrays and objects as JSON. -/
def Bound.ofJson : Json → Bound
  | .null => .null
  | .bool b => .bool b
  | .number n =>
    match n.toInt64? with
    | some i => .int i
    | none => .float n.toFloat
  | .string s => .text s
  | .array items => .json (.array items)
  | .object fields => .json (.object fields)

/-- A prepared statement: its text with markers `$1`, `$2`, … and the arguments bound to them. -/
structure Statement where
  sql : String
  args : List Bound
  deriving DecidableEq, Repr

/-- The statements that begin and end a transaction. -/
inductive TransactionControl where
  | start
  | commit
  | rollback
  deriving DecidableEq, Repr

def TransactionControl.sql : TransactionControl → String
  | .start => "BEGIN"
  | .commit => "COMMIT"
  | .rollback => "ROLLBACK"

end Weblog
