import Weblog.Error
import Weblog.Fallible
import Weblog.Session.Cookie

/-!
# Weblog.Reply

What handlers give back, and the responses made of it.

* `Reply`: a finished response, octets, a text, the fields of an object, a status or a value.
* `Reply.page`: the fields that ask for a page to be rendered.
* `Reply.respond`: the response. A page is rendered with the user of the session in its context,
  whatever the handler put there.
-/

namespace Weblog

/-- Renders a page by its name and its context; it may fail with any error of the application. -/
abbrev Renderer : Type := String → Json → Fallible AppError String

/-- What a handler gives back. -/
inductive Reply where
  /-- A finished response. -/
  | response (r : Http.Response)
  | bytes (octets : List UInt8)
  /-- A page of HTML, or a redirection. -/
  | text (s : String)
  /-- The fields of an object, or the context of a page. -/
  | fields (fs : Fields)
  | status (code : Nat)
  | statusMessage (code : Nat) (message : String)
  /-- Any other value, shown as plain text. -/
  | value (v : Json)

namespace Reply

def htmlType : String := "text/html;charset=utf-8"

def jsonType : String := "application/json;charset=utf-8"

def plainType : String := "text/plain;charset=utf-8"

def bytesType : String := "application/octet-stream"

/-- A JSON value as a reply: an object as fields and a string as a text. -/
def ofJson : Json → Reply
  | .object fs => .fields fs
  | .string s => .text s
  | v => .value v

/-- What a text begins with when it is a redirection. -/
def redirectMark : String := "redirect:"

def redirect (location : String) : Reply := .text (redirectMark ++ location)

/-- The location of a text that is a redirection. -/
def redirectTarget? (s : String) : Option String :=
  if redirectMark.toList.isPrefixOf s.toList then
    some (String.ofList (s.toList.drop redirectMark.length))
  else none

/-- The key that names the page to render. -/
def templateKey : String := "__template__"

def userKey : String := "__user__"

/-- The fields of a context; a value that is no object stands under a key of its own. -/
def contextFields : Json → Fields
  | .object fs => fs
  | .null => []
  | v => [("value", v)]

def page (name : String) (context : Json) : Reply :=
  .fields (Fields.set templateKey (.string name) (contextFields context))

/-- The name of the page that fields ask for. -/
def template? (fs : Fields) : Option String := (Fields.get? templateKey fs).bind Json.text?

/-- The user of the session as a value, null where there is none. -/
def userValue (user : Option SessionUser) : Json := (user.map SessionUser.toJson).getD .null

/-- The context of a page: the fields with the user of the session. -/
def pageContext (user : Option SessionUser) (fs : Fields) : Json :=
  .object (Fields.set userKey (userValue user) fs)

def isStatus (code : Nat) : Bool := decide (100 ≤ code) && decide (code < 600)

def plain (s : String) : Http.Response := .text 200 plainType s

def statusResponse (code : Nat) : Http.Response :=
  if isStatus code then .empty code else plain (toString code)

def statusMessageResponse (code : Nat) (message : String) : Http.Response :=
  if isStatus code then .text code plainType message
  else plain ("(" ++ toString code ++ ", " ++ message ++ ")")

/-- The response to a text. A location that is no header value is refused. -/
def textResponse (s : String) : Except AppError Http.Response :=
  match redirectTarget? s with
  | none => .ok (.text 200 htmlType s)
  | some location =>
    match Http.headerValue? location with
    | some octets => .ok (.redirect octets)
    | none => .error (.badRequest ("invalid redirect target: " ++ location))

def pageResponse (user : Option SessionUser) (render : Renderer) (name : String) (fs : Fields) :
    Fallible AppError Http.Response := do
  let html ← render name (pageContext user fs)
  return .text 200 htmlType html

def respond (user : Option SessionUser) (render : Renderer) :
    Reply → Fallible AppError Http.Response
  | .response r => pure r
  | .bytes octets => pure (.typed 200 bytesType octets)
  | .text s => Fallible.ofExcept (textResponse s)
  | .fields fs =>
    match template? fs with
    | some name => pageResponse user render name fs
    | none => pure (.text 200 jsonType (Json.object fs).compact)
  | .status code => pure (statusResponse code)
  | .statusMessage code message => pure (statusMessageResponse code message)
  | .value v => pure (plain v.compact)

end Reply
end Weblog
