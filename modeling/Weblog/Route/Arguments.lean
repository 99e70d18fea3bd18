import Weblog.Fallible
import Weblog.Http.Form
import Weblog.Http.Multipart
import Weblog.Json.Parser
import Weblog.Route.Signature

/-!
# Weblog.Route.Arguments

The arguments of a handler, out of the path, the query and the body.

* `bodyFields`: the fields of a body in one of the three accepted formats.
* `queryFields`: the fields of a query, none where it is empty.
* `ArgSpec.keep`: the fields that a handler declares.
* `ArgSpec.arguments`: all of it: the parameters of the path stand in place of fields of the same
  name, and every required name must be there.
-/

namespace Weblog
namespace Arguments

/-- How many octets of a body are read. -/
def bodyLimit : Nat := 10485760

/-- How many octets of a multipart body are read. -/
def multipartLimit : Nat := 2097152

/-- Texts under names; of a repeated name the first text. -/
def ofPairs (pairs : List (String × String)) : Fields :=
  pairs.foldl (fun fs p => Fields.setNew p.1 (.string p.2) fs) []

/-- The content type of a request in lower case, if it is readable and not empty. -/
def contentType? (r : Http.Request) : Option String :=
  ((Http.headerText? "content-type" r.headers).map Http.lower).filter fun s => !s.isEmpty

def readBody (limit : Nat) (e : BodyError) (r : Http.Request) : Except BodyError (List UInt8) :=
  if min limit r.limit < r.body.size then .error e else .ok r.body.data.toList

def jsonFields (r : Http.Request) : Except BodyError Fields := do
  let octets ← readBody bodyLimit .tooLong r
  match Json.parseBytes? octets with
  | some (.object fs) => .ok fs
  | some _ => .error .notAnObject
  | none => .error .invalidJson

def formFields (r : Http.Request) : Except BodyError Fields := do
  let octets ← readBody bodyLimit .tooLong r
  return ofPairs (Http.Form.pairs octets)

/-- The fields of a form of several parts. -/
def multipartFields (r : Http.Request) : Except BodyError Fields :=
  match (Http.headerText? "content-type" r.headers).bind Http.Multipart.boundary? with
  | none => .error .missingBoundary
  | some boundary => do
    let octets ← readBody multipartLimit .multipart r
    match Http.Multipart.pairs? boundary octets with
    | some pairs => .ok (ofPairs pairs)
    | none => .error .multipart

/-- A format of bodies. -/
inductive Format where
  | json
  | form
  | multipart
  deriving DecidableEq, Repr

/-- What the content type of a format begins with. -/
def Format.mark : Format → String
  | .json => "application/json"
  | .form => "application/x-www-form-urlencoded"
  | .multipart => "multipart/form-data"

def Format.ofContentType? (contentType : String) : Option Format :=
  [Format.json, .form, .multipart].find? fun f => f.mark.toList.isPrefixOf contentType.toList

def Format.fields : Format → Http.Request → Except BodyError Fields
  | .json => jsonFields
  | .form => formFields
  | .multipart => multipartFields

def bodyFields (r : Http.Request) : Except BodyError Fields :=
  match contentType? r with
  | none => .error .missingContentType
  | some contentType =>
    match Format.ofContentType? contentType with
    | some format => format.fields r
    | none => .error (.unsupportedContentType contentType)

/-- The fields of a query, none where there is no query or it is empty. -/
def queryFields (query : Option String) : Option Fields :=
  match query with
  | none => none
  | some q => if q.isEmpty then none else some (ofPairs (Http.Form.pairs (Text.Utf8.bytesOf q)))

/-- The fields that a request brings: of the body of a POST and of the query of a GET. -/
def inputFields (r : Http.Request) : Except BodyError (Option Fields) :=
  match r.method with
  | .post => (bodyFields r).map some
  | .get => .ok (queryFields r.uri.query)
  | _ => .ok none

/-- The parameters of a path with their texts as values. -/
def ofPath (path : List (String × String)) : List (String × Json) :=
  path.map fun p => (p.1, .string p.2)

/-- Puts values under their names in place of others; each such case is noted in the log. -/
def overlay : Fields → Fields → Action Fields
  | [], fs => .done fs
  | (name, v) :: rest, fs => do
    if Fields.has name fs then Action.log .duplicateArgument
    overlay rest (Fields.set name v fs)

end Arguments

namespace ArgSpec

/-- The fields that a handler declares: all of them if it takes every name or none by name. -/
def keep (spec : ArgSpec) (fs : Fields) : Fields :=
  if spec.takesAll || spec.named.isEmpty then fs
  else fs.filter fun f => spec.named.contains f.1

/-- The fields of the input, if the handler reads it. -/
def input (spec : ArgSpec) (r : Http.Request) : Except BodyError (Option Fields) :=
  if spec.readsInput then Arguments.inputFields r else .ok none

/-- The first required name that is not among the arguments. -/
def missing? (spec : ArgSpec) (args : Fields) : Option String :=
  spec.required.find? fun name => !Fields.has name args

/-- The parameters of a path, those of one name once, over what is kept of the input. -/
def merge (spec : ArgSpec) (path : List (String × String)) : Option Fields → Action Fields
  | none => .done (Fields.ofList (Arguments.ofPath path))
  | some fs => Arguments.overlay (Fields.ofList (Arguments.ofPath path)) (spec.keep fs)

def arguments (spec : ArgSpec) (path : List (String × String)) (r : Http.Request) :
    Fallible AppError Fields := do
  let input ← Fallible.ofExcept ((spec.input r).mapError .body)
  let args ← Fallible.lift (spec.merge path input)
  match spec.missing? args with
  | some name => throw (.missingArgument name)
  | none => return args

end ArgSpec
end Weblog
