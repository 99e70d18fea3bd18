import Weblog.Calendar
import Weblog.Json.Parser
import Weblog.Number.Bounded
import Weblog.Store.Error
import Weblog.Text.Hex

/-!
# Weblog.Store.Decode

Result rows as JSON values.

* `Cell.decode`: one cell by the type of a column; a missing value is null, and the error of a cell
  names the column.
* `Row.decode`: a row as fields under the labels of its columns; the first column that cannot be
  decoded is the error. Columns that share a label all stand for the last of them.
* `ResultSet.decode`: all rows, or the error of the first row that has one.
-/

namespace Weblog

def ColumnType.ofName : String → ColumnType
  | "BOOL" => .bool
  | "INT2" => .int2
  | "INT4" => .int4
  | "INT8" => .int8
  | "FLOAT4" => .float4
  | "FLOAT8" => .float8
  | "NUMERIC" => .numeric
  | "UUID" => .uuid
  | "TIMESTAMP" => .timestamp
  | "TIMESTAMPTZ" => .timestamptz
  | "TEXT" => .text
  | "VARCHAR" => .varchar
  | "NAME" => .name
  | "JSON" => .json
  | "JSONB" => .jsonb
  | unknown => .other unknown

/-- A decimal as a JSON number: an integer where it has no fraction and fits 64 bits. -/
def decimalValue (negative : Bool) (d : BoundedDecimal) : Json :=
  let whole : Int := if negative then -d.whole else d.whole
  if d.isWhole ∧ -9223372036854775808 ≤ whole ∧ whole < 9223372036854775808 then .ofInt whole
  else .ofFloat (if negative then d.toFloat.negate else d.toFloat)

/-- A UUID in lowercase hexadecimal digits, with its four dashes. -/
def uuidText (bytes : List UInt8) : String :=
  let part (skip count : Nat) := Text.hex ((bytes.drop skip).take count)
  part 0 4 ++ "-" ++ part 4 2 ++ "-" ++ part 6 2 ++ "-" ++ part 8 2 ++ "-" ++ part 10 6

/-- A number in double precision, null where there is none. -/
def floatValue : Option Binary64 → Json
  | some x => .ofFloat x
  | none => .null

def ColumnType.isText : ColumnType → Bool
  | .text | .varchar | .name => true
  | .other unknown => unknown == "CHAR" || unknown == "UNKNOWN"
  | _ => false

def ColumnType.isJson : ColumnType → Bool
  | .json | .jsonb => true
  | _ => false

def ColumnType.reads (type sent : ColumnType) : Bool :=
  type == sent || (type.isText && sent.isText) || (type.isJson && sent.isJson)

/-- The value of a cell that is sent as its type says, if it can be read. -/
def Cell.value? : Cell → ColumnType → Option Json
  | .bool b, .bool => some (.bool b)
  | .int i, .int2 | .int i, .int4 | .int i, .int8 => some (.ofInt i)
  | .float x, .float4 => some (floatValue (x.bind Binary64.toSingle?))
  | .float x, .float8 => some (floatValue x)
  | .decimal negative coefficient scale, .numeric =>
    (BoundedDecimal.ofDecimal? coefficient scale).map (decimalValue negative)
  | .uuid bytes, .uuid => some (.string (uuidText bytes))
  | .instant micros, .timestamptz => some (.string (Calendar.dateTimeText micros ++ "+00:00"))
  | .instant micros, .timestamp => some (.string (Calendar.dateTimeText micros))
  | .text s, .text | .text s, .varchar | .text s, .name => some (.string s)
  | .json s, .json | .json s, .jsonb => Json.parse? s.toList
  | _, _ => none

/-- A cell as the type of a column, where it was sent as another type. -/
def Cell.decode (column : Column) (sent : ColumnType) : Cell → Except StoreError Json
  | .null => .ok .null
  | cell =>
    if column.type.reads sent then
      match cell.value? column.type with
      | some v => .ok v
      | none => .error (.database (.unread column.label))
    else .error (.database (.unread column.label))

abbrev Row : Type := List (Column × Cell)

namespace Row

/-- The cells that are sent for columns; where there are too few, the others are missing values. -/
def ofCells (columns : List Column) (cells : List Cell) : Row :=
  columns.zip (cells ++ List.replicate columns.length .null)

/-- The last cell under a label, and the type that it is sent as. -/
def last? (row : Row) (label : String) : Option (ColumnType × Cell) :=
  (row.reverse.find? fun p => p.1.label == label).map fun p => (p.1.type, p.2)

/-- The value under a column. A column that shares its label with others has the last cell of that
label. -/
def value (row : Row) (column : Column) : Except StoreError Json :=
  match column.type, row.last? column.label with
  | .other name, _ => .error (.unsupportedColumn column.label name)
  | _, none => .ok .null
  | _, some (sent, cell) => cell.decode column sent

/-- The values under columns, into the fields read before. -/
def decodeOnto (row : Row) : List Column → Fields → Except StoreError Fields
  | [], fields => .ok fields
  | column :: columns, fields =>
    match row.value column with
    | .error e => .error e
    | .ok v => row.decodeOnto columns (Fields.set column.label v fields)

def decode (columns : List Column) (cells : List Cell) : Except StoreError Fields :=
  (ofCells columns cells).decodeOnto columns []

end Row

def decodeRows (columns : List Column) : List (List Cell) → Except StoreError (List Fields)
  | [] => .ok []
  | row :: rows =>
    match Row.decode columns row with
    | .error e => .error e
    | .ok fields => (decodeRows columns rows).map (fields :: ·)

/-- The rows of a result as fields, at most so many if a limit is given. -/
def ResultSet.decode (r : ResultSet) (limit : Option Nat) : Except StoreError (List Fields) :=
  decodeRows r.columns (match limit with | some n => r.rows.take n | none => r.rows)

end Weblog
