import Weblog.Action

/-!
# Weblog.Sql.Field

Declared columns.

* `FieldKind`: the family of a field, which decides its type in the database and its default.
* `Default`: a fixed value, or a value generated when it is needed.
* `Field`: a column with the name of its attribute.
-/

namespace Weblog

/-- The family of a field. -/
inductive FieldKind where
  | string
  | boolean
  | integer
  | float
  | text
  deriving DecidableEq, Repr

namespace FieldKind

/-- The name of the family where a field is described. -/
def label : FieldKind → String
  | .string => "StringField"
  | .boolean => "BooleanField"
  | .integer => "IntegerField"
  | .float => "FloatField"
  | .text => "TextField"

/-- Truth values and long texts never serve as keys. -/
def canBeKey : FieldKind → Bool
  | .boolean | .text => false
  | _ => true

/-- The type of the column unless another is declared. -/
def columnType : FieldKind → String
  | .string => "VARCHAR(100)"
  | .boolean => "BOOLEAN"
  | .integer => "BIGINT"
  | .float => "DOUBLE PRECISION"
  | .text => "TEXT"

end FieldKind

/-- Where the value of an unset attribute comes from. -/
inductive Default where
  | fixed (value : Json)
  | generated (provider : Action Json)

/-- The value of a default; a generated one is made anew. -/
def Default.resolve : Default → Action Json
  | .fixed value => .done value
  | .generated provider => provider

def FieldKind.initial : FieldKind → Option Default
  | .boolean => some (.fixed (.bool false))
  | .integer => some (.fixed (.ofInt 0))
  | .float => some (.fixed (.ofFloat Binary64.zero))
  | .string | .text => none

/-- A declared column. -/
structure Field where
  /-- The name of the attribute. -/
  attr : String
  /-- The family. -/
  kind : FieldKind
  /-- The name of the column, where it is not the attribute's. -/
  column : Option String
  /-- The type of the column. -/
  ddl : String
  /-- The field is declared as the primary key. -/
  isKey : Bool
  /-- Where the value of an unset attribute comes from. -/
  initial : Option Default

namespace Field

/-- A field of a family with all that the family decides. -/
def ofKind (kind : FieldKind) (attr : String) : Field where
  attr := attr
  kind := kind
  column := none
  ddl := kind.columnType
  isKey := false
  initial := kind.initial

/-- A short text. -/
def string : String → Field := ofKind .string

/-- A truth value. -/
def boolean : String → Field := ofKind .boolean

def integer : String → Field := ofKind .integer

/-- A number in double precision. -/
def float : String → Field := ofKind .float

def text : String → Field := ofKind .text

def primaryKey (f : Field) : Field := { f with isKey := true }

def named (f : Field) (column : String) : Field := { f with column := some column }

def typed (f : Field) (ddl : String) : Field := { f with ddl := ddl }

def withDefault (f : Field) (value : Json) : Field := { f with initial := some (.fixed value) }

def generatedBy (f : Field) (provider : Action Json) : Field :=
  { f with initial := some (.generated provider) }

def columnName (f : Field) : String := f.column.getD f.attr

/-- The field in words: family, type and column. -/
def describe (f : Field) : String :=
  "<" ++ f.kind.label ++ ", " ++ f.ddl ++ ", " ++ f.columnName ++ ">"

end Field
end Weblog
