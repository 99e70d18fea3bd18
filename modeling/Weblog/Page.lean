import Weblog.Json.Basic
import Weblog.Sql.FindAll
import Weblog.Text.Blank
import Weblog.Text.Numeral

/-!
# Weblog.Page

Pages of a list of items.

* `Page.ofWords`: the page of an index, in words of 64 bits; an index beyond the last page is the
  first page, with nothing to fetch.
* `Page.limit`: which rows the page shows.
* `pageIndex`: the index in a text; the first page where there is none.
-/

namespace Weblog

/-- One page of a list of items. -/
structure Page where
  itemCount : Int
  index : Int
  size : Int
  pageCount : Int
  offset : Int
  rows : Int
  hasNext : Bool
  hasPrevious : Bool
  deriving DecidableEq, Repr

namespace Page

/-- How many items a page shows. -/
def defaultSize : Int := 10

/-- The page of an index. The operations wrap around: the sum of the count and the size may leave the
words where the last page still ends in one. -/
def ofWords (itemCount index size : Int64) : Page :=
  let size := max size 1
  let count := max itemCount 0
  let pages := (count + size - 1) / size
  let beyond := count = 0 ∨ pages < index
  let shown := if beyond then 1 else index
  let offset := if beyond then 0 else size * (index - 1)
  let rows := if beyond then 0 else size
  { itemCount := count.toInt
    index := shown.toInt
    size := size.toInt
    pageCount := pages.toInt
    offset := offset.toInt
    rows := rows.toInt
    hasNext := decide (shown < pages)
    hasPrevious := decide (1 < shown) }

def ofSize (itemCount index size : Int) : Page :=
  ofWords (.ofInt itemCount) (.ofInt index) (.ofInt size)

def make (itemCount index : Int) : Page := ofSize itemCount index defaultSize

def limit (p : Page) : Limit := .range p.offset p.rows

def toJson (p : Page) : Json :=
  .ofFields [("item_count", .ofInt p.itemCount), ("page_index", .ofInt p.index),
    ("page_size", .ofInt p.size), ("page_count", .ofInt p.pageCount), ("offset", .ofInt p.offset),
    ("limit", .ofInt p.rows), ("has_next", .bool p.hasNext), ("has_previous", .bool p.hasPrevious)]

end Page

/-- The page index in a text: an integer of 64 bits that is at least one, else one. -/
def pageIndex (s : String) : Int :=
  match Text.ranged? .i64 (Text.trim s) with
  | some i => if 1 ≤ i then i else 1
  | none => 1

end Weblog
