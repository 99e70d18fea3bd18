import Weblog.Http.Message

/-!
# Weblog.Http.MediaType

Media types with parameters.

* `MediaType`: type, subtype and parameters; case does not matter but in the values.
* `MediaType.parse?`: reads a media type. Blanks may stand only before the name of a parameter
  and after a quoted value.
* `MediaType.param?`: the value of a parameter.
-/

namespace Weblog
namespace Http

def isToken (c : Char) : Bool :=
  c.isAlphanum || "!#$%&*+-.^_|~".toList.contains c || c == Char.ofNat 39 || c == Char.ofNat 96

/-- A media type; names are in lower case, and the subtype is without a suffix behind a plus. -/
structure MediaType where
  type : String
  subtype : String
  params : List (String × String)
  deriving DecidableEq, Repr

namespace MediaType

/-- Where the reading of parameters is; texts are held last character first. -/
inductive Reading where
  /-- Before a name. -/
  | start
  | name (n : List Char)
  /-- After the equals sign. -/
  | equals (n : List Char)
  | value (n v : List Char)
  | quoted (n v : List Char)
  /-- After a closing quote. -/
  | closed
  deriving DecidableEq, Repr

/-- A parameter of texts that are held last character first. -/
def param (n v : List Char) : String × String :=
  (lower (String.ofList n.reverse), String.ofList v.reverse)

def isQuotable (c : Char) : Bool := decide (31 < c.toNat) && c.toNat != 127

/-- Reads parameters; a quote right after the opening one belongs to the value. -/
def readParams : Reading → List Char → Option (List (String × String))
  | .start, [] => some []
  | .start, c :: rest =>
    if c = ' ' then readParams .start rest
    else if isToken c then readParams (.name [c]) rest
    else none
  | .name _, [] => none
  | .name n, c :: rest =>
    if c = '=' then readParams (.equals n) rest
    else if isToken c then readParams (.name (c :: n)) rest
    else none
  | .equals n, [] => some [param n []]
  | .equals n, c :: rest =>
    if c = '"' then readParams (.quoted n []) rest
    else if isToken c then readParams (.value n [c]) rest
    else none
  | .value n v, [] => some [param n v]
  | .value n v, c :: rest =>
    if c = ';' then (readParams .start rest).map (param n v :: ·)
    else if isToken c then readParams (.value n (c :: v)) rest
    else none
  | .quoted _ _, [] => none
  | .quoted n v, c :: rest =>
    if c = '"' ∧ v ≠ [] then (readParams .closed rest).map (param n v :: ·)
    else if isQuotable c then readParams (.quoted n (c :: v)) rest
    else none
  | .closed, [] => some []
  | .closed, c :: rest =>
    if c = ';' then readParams .start rest
    else if c = ' ' then readParams .closed rest
    else none

/-- A subtype without the suffix behind its last plus, unless the plus is its first character. -/
def withoutSuffix (subtype : List Char) : List Char :=
  match Text.splitOnce '+' subtype.reverse with
  | some (_, before) => if before.isEmpty then subtype else before.reverse
  | none => subtype

def parse? (s : String) : Option MediaType := do
  let (type, rest) ← Text.splitOnce '/' s.toList
  let (subtype, params) := match Text.splitOnce ';' rest with
    | some (subtype, params) => (subtype, some params)
    | none => (rest, none)
  if type.isEmpty ∨ !type.all isToken ∨ !subtype.all isToken then none
  else if subtype.isEmpty ∧ params.isSome then none
  else
    return {
      type := lower (String.ofList type)
      subtype := lower (String.ofList (withoutSuffix subtype))
      params := ← readParams .start (params.getD []) }

/-- The value of the first parameter of a name in lower case. -/
def param? (m : MediaType) (name : String) : Option String :=
  (m.params.find? fun p => p.1 = name).map (·.2)

end MediaType
end Http
end Weblog
