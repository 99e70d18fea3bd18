import Weblog.Config.Basic
import Weblog.Http.Message
import Weblog.Json.Printer
import Weblog.Store.Error
import Weblog.Action

/-!
# Weblog.Error

What goes wrong in the application, and how it is answered.

* `ApiError`: an error that a handler reports to its caller.
* `RouteError`: why a route cannot be registered.
* `AppError`: every error, with its text, its code and its status.
* `AppError.respond`: the response; a server error is noted in the log.
-/

namespace Weblog

/-- An error of the domain, reported to the caller. -/
structure ApiError where
  error : String
  data : String
  message : String
  deriving DecidableEq, Repr

namespace ApiError

/-- Bad or missing input in a field. -/
def value (field message : String) : ApiError := ⟨"value:invalid", field, message⟩

def notFound (resource message : String) : ApiError := ⟨"value:notfound", resource, message⟩

/-- Something the caller may not do. -/
def permission (message : String) : ApiError := ⟨"permission:forbidden", "permission", message⟩

def payload (e : ApiError) : Fields :=
  Fields.ofList [("error", .string e.error), ("data", .string e.data),
    ("message", .string e.message)]

def text (e : ApiError) : String := e.error ++ ": " ++ e.message

end ApiError

/-- Why a route cannot be registered. -/
inductive RouteError where
  | requestParamNotLast (path param : String)
  | duplicateRoute (method path : String)
  | invalidPattern (pattern : String)
  deriving DecidableEq, Repr

def RouteError.message : RouteError → String
  | .requestParamNotLast path param =>
    "request parameter must be the last named parameter in " ++ path ++ ": found '" ++ param ++
      "' after it"
  | .duplicateRoute method path => "duplicate route: " ++ method ++ " " ++ path
  | .invalidPattern pattern => "invalid path pattern: " ++ pattern

/-- Why a request body cannot be read as arguments. -/
inductive BodyError where
  | missingContentType
  | unsupportedContentType (contentType : String)
  | notAnObject
  | invalidJson
  | tooLong
  | missingBoundary
  /-- A multipart body is malformed or cannot be read; the reason is not shown. -/
  | multipart
  deriving DecidableEq, Repr

def BodyError.message : BodyError → String
  | .missingContentType => "Missing Content-Type."
  | .unsupportedContentType contentType => "Unsupported Content-Type: " ++ contentType
  | .notAnObject => "JSON body must be object."
  | .invalidJson => "invalid JSON body: *"
  | .tooLong => "length limit exceeded"
  | .missingBoundary => "Invalid `boundary` for `multipart/form-data` request"
  | .multipart => "*"

/-- Why a page cannot be rendered. -/
inductive RenderError where
  | missing (name : String)
  | failed (name : String)
  | custom (text : String)
  deriving DecidableEq, Repr

def RenderError.message : RenderError → String
  | .missing name => "missing template " ++ name ++ ": *"
  | .failed name => "render " ++ name ++ " failed: *"
  | .custom text => text

/-- Every error of the application. -/
inductive AppError where
  | config (e : ConfigError)
  | api (e : ApiError)
  | store (e : StoreError)
  | route (e : RouteError)
  | missingArgument (name : String)
  | body (e : BodyError)
  | badRequest (text : String)
  | template (e : RenderError)
  | internal (text : String)
  deriving DecidableEq, Repr

namespace AppError

def message : AppError → String
  | .config e => e.message
  | .api e => e.text
  | .store e => e.message
  | .route e => e.message
  | .missingArgument name => "Missing argument: " ++ name
  | .body e => "bad request: " ++ e.message
  | .badRequest text => "bad request: " ++ text
  | .template e => "template: " ++ e.message
  | .internal text => "internal: " ++ text

def status : AppError → Nat
  | .api _ | .missingArgument _ | .body _ | .badRequest _ => 400
  | _ => 500

def code : AppError → String
  | .config _ => "config_error"
  | .api e => e.error
  | .store (.database _) => "database_error"
  | .store _ => "orm_error"
  | .route _ => "route_error"
  | .missingArgument _ => "value:missing"
  | .body _ | .badRequest _ => "bad_request"
  | .template _ => "template_error"
  | .internal _ => "internal_error"

def data : AppError → String
  | .api e => e.data
  | .missingArgument name => name
  | _ => ""

/-- The text of an error in the body of its response. -/
def shown : AppError → String
  | .api e => e.message
  | e => e.message

end AppError

def Http.Response.json (status : Nat) (v : Json) : Http.Response :=
  .text status "application/json" v.compact

namespace AppError

def response (e : AppError) : Http.Response :=
  .json e.status (.ofFields [("error", .string e.code), ("data", .string e.data),
    ("message", .string e.shown)])

/-- Answers an error; a server error is noted in the log. -/
def respond (e : AppError) : Action Http.Response := do
  if 500 ≤ e.status then Action.log .requestFailed
  return e.response

end AppError
end Weblog
