import Weblog.Proofs.Sql.Token
import Weblog.Proofs.Text.Numeral
import Weblog.Proofs.Text.Split

/-!
# Weblog.Proofs.Sql.Reading

Statements as the database understands them: which columns they name, and which argument goes where.

* `Insertion`, `Update`, `Deletion`, `Selection`, `KeySelect`: what is read of a statement, out of its
  tokens.
* `Insertion.row?`: the row that an insert writes when arguments are bound to its markers.
* `Update.assigned?`, `Update.matched?`: the values that an update writes, and the one that a row
  must have to be written.
* `Selection.project?`: the row that a select list makes of a stored one.
-/

namespace Weblog
namespace Sql

/-- Where every item can be read, all of them are. -/
theorem mapM_eq_some {α β : Type} {f : α → Option β} {g : α → β} {xs : List α}
    (h : ∀ x ∈ xs, f x = some (g x)) : xs.mapM f = some (xs.map g) := by
  induction xs with
  | nil => rfl
  | cons x xs ih =>
    rw [List.mapM_cons, h x List.mem_cons_self, ih fun y hy => h y (List.mem_cons_of_mem x hy)]
    rfl

namespace Token

def keyword (s : String) : Token := .word s.toList

def past? (expected ts : List Token) : Option (List Token) :=
  if expected.isPrefixOf ts then some (ts.drop expected.length) else none

/-- An identifier and what follows it. -/
def name? : List Token → Option (String × List Token)
  | .name cs :: rest => some (String.ofList cs, rest)
  | _ => none

/-- An identifier that stands alone. -/
def loneName? : List Token → Option String
  | [.name cs] => some (String.ofList cs)
  | _ => none

/-- The number of a marker that stands alone. -/
def marker? : List Token → Option Nat
  | [.word ('$' :: ds)] => Text.nat? ds
  | _ => none

/-- The items between commas; an empty list has none. -/
def items? {α : Type} (item? : List Token → Option α) (ts : List Token) : Option (List α) :=
  if ts.isEmpty then some [] else (Text.splitAll (.sign ',') ts).mapM item?

theorem past?_nil (ts : List Token) : past? [] ts = some ts := rfl

theorem past?_cons (t : Token) (expected ts : List Token) :
    past? (t :: expected) (t :: ts) = past? expected ts := by
  simp [past?]

theorem items?_intercalate {α : Type} {item? : List Token → Option α} {tokens : α → List Token}
    {xs : List α} (hcomma : ∀ x ∈ xs, Token.sign ',' ∉ tokens x) (hne : ∀ x ∈ xs, tokens x ≠ [])
    (hitem : ∀ x ∈ xs, item? (tokens x) = some x) :
    items? item? ([Token.sign ','].intercalate (xs.map tokens)) = some xs := by
  cases xs with
  | nil => rfl
  | cons x rest =>
    have hnonempty : [Token.sign ','].intercalate ((x :: rest).map tokens) ≠ [] := by
      have hx := hne x List.mem_cons_self
      cases rest with
      | nil => simpa using hx
      | cons y rest => simp [hx]
    rw [items?, if_neg (by simpa using hnonempty),
      Text.splitAll_intercalate (by simpa using hcomma) (by simp), List.mapM_map]
    exact (mapM_eq_some (g := id) hitem).trans (by rw [List.map_id])

/-- Items with commas between them hold a token only if one of them does. -/
theorem not_mem_intercalate {t : Token} {pieces : List (List Token)} (hcomma : t ≠ .sign ',')
    (h : ∀ p ∈ pieces, t ∉ p) : t ∉ [Token.sign ','].intercalate pieces := by
  induction pieces with
  | nil => simp
  | cons p rest ih =>
    have hp := h p List.mem_cons_self
    have hrest := ih fun q hq => h q (List.mem_cons_of_mem p hq)
    cases rest with
    | nil => simpa using hp
    | cons q rest =>
      rw [List.intercalate_cons_cons]
      simp [hp, hcomma, hrest]

end Token

/-- An insert: the columns of the row, and the markers of its values. -/
structure Insertion where
  table : String
  columns : List String
  markers : List Nat
  deriving DecidableEq, Repr

/-- A column beside the marker of the value that it is set to or compared with. -/
structure Assignment where
  column : String
  marker : Nat
  deriving DecidableEq, Repr

/-- An update: the columns that are set, and the condition on the rows. -/
structure Update where
  table : String
  set : List Assignment
  condition : Assignment
  deriving DecidableEq, Repr

/-- An item of a select list: a column and the label of its values. -/
structure SelectItem where
  column : String
  label : String
  deriving DecidableEq, Repr

/-- A select over all rows of a table. -/
structure Selection where
  items : List SelectItem
  table : String
  deriving DecidableEq, Repr

/-- A deletion, with the condition on the rows. -/
structure Deletion where
  table : String
  condition : Assignment
  deriving DecidableEq, Repr

/-- A select of the rows that meet a condition. -/
structure KeySelect where
  selection : Selection
  condition : Assignment
  deriving DecidableEq, Repr

/-- The argument that is bound to a marker; markers are numbered from one on. -/
def argument? {α : Type} (args : List α) : Nat → Option α
  | 0 => none
  | k + 1 => args[k]?

namespace Insertion

def ofTokens? (ts : List Token) : Option Insertion := do
  let rest ← Token.past? [.keyword "INSERT", .keyword "INTO"] ts
  let (table, rest) ← Token.name? rest
  let rest ← Token.past? [.sign '('] rest
  let (columns, rest) ← Text.splitOnce (.sign ')') rest
  let rest ← Token.past? [.keyword "VALUES", .sign '('] rest
  let (markers, rest) ← Text.splitOnce (.sign ')') rest
  if rest.isEmpty then
    return ⟨table, ← Token.items? Token.loneName? columns, ← Token.items? Token.marker? markers⟩
  else none

def read? (sql : String) : Option Insertion := (Token.scan? sql.toList).bind ofTokens?

/-- The row that is written: each column with the argument of its marker. There is none where
columns and markers differ in number, or where a marker has no argument. -/
def row? {α : Type} (i : Insertion) (args : List α) : Option (List (String × α)) :=
  if i.columns.length = i.markers.length then
    (i.columns.zip i.markers).mapM fun p => (argument? args p.2).map (p.1, ·)
  else none

end Insertion

namespace Assignment

/-- Reads a column, an equals sign and a marker. -/
def ofTokens? (ts : List Token) : Option Assignment := do
  let (column, rest) ← Token.name? ts
  let rest ← Token.past? [.sign '='] rest
  return ⟨column, ← Token.marker? rest⟩

/-- The column with the argument of its marker. -/
def value? {α : Type} (args : List α) (a : Assignment) : Option (String × α) :=
  (argument? args a.marker).map (a.column, ·)

end Assignment

namespace Update

def ofTokens? (ts : List Token) : Option Update := do
  let rest ← Token.past? [.keyword "UPDATE"] ts
  let (table, rest) ← Token.name? rest
  let rest ← Token.past? [.keyword "SET"] rest
  let (set, condition) ← Text.splitOnce (.keyword "WHERE") rest
  return ⟨table, ← Token.items? Assignment.ofTokens? set, ← Assignment.ofTokens? condition⟩

def read? (sql : String) : Option Update := (Token.scan? sql.toList).bind ofTokens?

/-- The columns that are written, with their new values. -/
def assigned? {α : Type} (u : Update) (args : List α) : Option (List (String × α)) :=
  u.set.mapM (Assignment.value? args)

/-- The column that tells which rows are written, with the value that it must have. -/
def matched? {α : Type} (u : Update) (args : List α) : Option (String × α) :=
  u.condition.value? args

end Update

namespace Deletion

def ofTokens? (ts : List Token) : Option Deletion := do
  let rest ← Token.past? [.keyword "DELETE", .keyword "FROM"] ts
  let (table, rest) ← Token.name? rest
  let rest ← Token.past? [.keyword "WHERE"] rest
  return ⟨table, ← Assignment.ofTokens? rest⟩

def read? (sql : String) : Option Deletion := (Token.scan? sql.toList).bind ofTokens?

/-- The column that tells which rows are deleted, with the value that it must have. -/
def matched? {α : Type} (d : Deletion) (args : List α) : Option (String × α) :=
  d.condition.value? args

end Deletion

namespace SelectItem

/-- Reads a column, with a label of its own or without. -/
def ofTokens? : List Token → Option SelectItem
  | [.name column] => some ⟨String.ofList column, String.ofList column⟩
  | [.name column, .word ['A', 'S'], .name label] => some ⟨String.ofList column, String.ofList label⟩
  | _ => none

end SelectItem

namespace Selection

/-- Reads a select without conditions. -/
def ofTokens? (ts : List Token) : Option Selection := do
  let rest ← Token.past? [.keyword "SELECT"] ts
  let (items, rest) ← Text.splitOnce (.keyword "FROM") rest
  let (table, rest) ← Token.name? rest
  if rest.isEmpty then return ⟨← Token.items? SelectItem.ofTokens? items, table⟩ else none

def read? (sql : String) : Option Selection := (Token.scan? sql.toList).bind ofTokens?

/-- The row that is selected of a stored one: every item with the value of its column. -/
def project? {α : Type} (q : Selection) (row : List (String × α)) : Option (List (String × α)) :=
  q.items.mapM fun item => (row.lookup item.column).map (item.label, ·)

end Selection

namespace KeySelect

def ofTokens? (ts : List Token) : Option KeySelect := do
  let (selection, condition) ← Text.splitOnce (.keyword "WHERE") ts
  return ⟨← Selection.ofTokens? selection, ← Assignment.ofTokens? condition⟩

def read? (sql : String) : Option KeySelect := (Token.scan? sql.toList).bind ofTokens?

end KeySelect
end Sql
end Weblog
