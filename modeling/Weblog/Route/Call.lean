import Weblog.Error
import Weblog.Session.Cookie

/-!
# Weblog.Route.Call

What a handler is called with.

* `RequestContext`: what a handler sees of the request when it asks for it.
* `Call`: the arguments, and the request if it was asked for.
* `Call.text`, `Call.required`: an argument as a text. Null counts as absent, and what is no string
  is shown as compact JSON.
-/

namespace Weblog

/-- What a handler sees of the request. -/
structure RequestContext where
  method : Http.Method
  uri : Http.Uri
  headers : List Http.Header
  user : Option SessionUser

/-- One call of a handler. -/
structure Call where
  args : Fields
  request : Option RequestContext

def Json.argumentText : Json → Option String
  | .null => none
  | .string s => some s
  | v => some v.compact

namespace Call

/-- An argument. -/
def arg (c : Call) (name : String) : Option Json := Fields.get? name c.args

def text (c : Call) (name : String) : Option String := (c.arg name).bind Json.argumentText

def textOr (c : Call) (name default : String) : String := (c.text name).getD default

/-- An argument that must be there. -/
def required (c : Call) (name : String) : Except AppError String :=
  match c.text name with
  | some s => .ok s
  | none => .error (.missingArgument name)

def user (c : Call) : Option SessionUser := c.request.bind RequestContext.user

/-- The text of a header of the request, if it is readable. -/
def header (c : Call) (name : String) : Option String :=
  c.request.bind fun r => Http.headerText? name r.headers

end Call
end Weblog
