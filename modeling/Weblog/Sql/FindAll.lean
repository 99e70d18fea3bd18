import Weblog.Json.Printer
import Weblog.Store.Error

/-!
# Weblog.Sql.FindAll

Queries over all rows of a model.

* `Limit`: how many rows, and from which one on.
* `Condition`, `FindAll`: a condition with its arguments, an order and a limit, all optional.
* `FindAll.query`: the text with neutral markers and the arguments in the order of the markers.
* `numberSql`: a query for a single number.
-/

namespace Weblog

/-- How many rows of a result. -/
inductive Limit where
  | count (n : Int)
  | range (offset count : Int)
  deriving DecidableEq, Repr

/-- Reads a limit: an integer, or an array of an offset and a count. -/
def Limit.ofJson? (v : Json) : Except StoreError Limit :=
  let refused := Except.error (.invalidLimit v.compact)
  match v with
  | .number n =>
    match n.toInt64? with
    | some i => .ok (.count i)
    | none => refused
  | .array [a, b] =>
    match a.int64?, b.int64? with
    | some offset, some rows => .ok (.range offset rows)
    | _, _ => refused
  | _ => refused

/-- A text with neutral markers and its arguments. -/
structure Query where
  sql : String
  params : List Json
  deriving DecidableEq, Repr

/-- A condition on rows, with a neutral marker for each argument. -/
structure Condition where
  text : String
  args : List Json
  deriving DecidableEq, Repr

/-- What is asked of all rows of a model. An empty condition or order counts as none. -/
structure FindAll where
  filter : Option Condition := none
  order : Option String := none
  limit : Option Limit := none
  deriving DecidableEq, Repr

/-- A clause before a text that is given and not empty. -/
def clause (keyword : String) : Option String → String
  | none => ""
  | some text => if text.isEmpty then "" else keyword ++ text

def Limit.sql : Limit → String
  | .count _ => " LIMIT ?"
  | .range _ _ => " LIMIT ? OFFSET ?"

def Limit.params : Limit → List Json
  | .count n => [.ofInt n]
  | .range offset rows => [.ofInt rows, .ofInt offset]

/-- The query over the rows of a model. -/
def FindAll.query (q : FindAll) (s : Schema) : Query where
  sql := s.selectSql ++ clause " WHERE " (q.filter.map Condition.text) ++
    clause " ORDER BY " q.order ++ (q.limit.map Limit.sql).getD ""
  params := ((q.filter.map Condition.args).getD []) ++ (q.limit.map Limit.params).getD []

def numberLabel : String := "_num_"

/-- Selects the value of an expression over the rows that meet a condition. -/
def Schema.numberSql (s : Schema) (expr : String) (filter : Option String) : String :=
  "SELECT " ++ expr ++ " AS " ++ numberLabel ++ " FROM " ++ s.quotedTable ++ clause " WHERE " filter

end Weblog
