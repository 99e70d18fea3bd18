import Weblog.Json.Basic
import Weblog.Text.Numeral

/-!
# Weblog.Json.Members

Reading structures out of JSON values.

* `members?`: the members of a structure, by name from an object or by position from an array.
* `readText`, `readBool`, `readInt`, `readFloat`: one member of a given type.
* `required`, `orElse`, `optional`: a member that must be there, one with a default, and one that
  may be missing or null.
-/

namespace Weblog
namespace Json

/-- The members of a structure with the given names: the fields of an object, or the items of an
array that is not longer than the names. -/
def members? (names : List String) : Json → Option Fields
  | .object fields => some fields
  | .array items => if items.length ≤ names.length then some (names.zip items) else none
  | _ => none

def readText : Json → Option String
  | .string s => some s
  | _ => none

/-- A truth value. -/
def readBool : Json → Option Bool
  | .bool b => some b
  | _ => none

def readInt (r : Text.IntRange) : Json → Option Int
  | .number (.integer i) => if r.has i then some i else none
  | _ => none

/-- A number in double precision, also one written as an integer. -/
def readFloat : Json → Option Binary64
  | .number n => some n.toFloat
  | _ => none

/-- A member that must be there. -/
def required {α : Type} (read : Json → Option α) (fields : Fields) (name : String) : Option α :=
  (Fields.get? name fields).bind read

def orElse {α : Type} (read : Json → Option α) (default : α) (fields : Fields) (name : String) :
    Option α :=
  match Fields.get? name fields with
  | none => some default
  | some v => read v

/-- A member that may be missing or null. -/
def optional {α : Type} (read : Json → Option α) (fields : Fields) (name : String) :
    Option (Option α) :=
  match Fields.get? name fields with
  | none => some none
  | some .null => some none
  | some v => (read v).map some

end Json
end Weblog
