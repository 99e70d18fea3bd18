import Weblog.Files
import Weblog.Route.Dispatch
import Weblog.Route.Tree
import Weblog.Store.Database

/-!
# Weblog.Site

The application as a whole: what becomes of a request on its way to a route and back.

* `CommonPage`: the pages about the state of the application itself.
* `Site`: where users are looked up, the session settings, the renderer and the routes.
* `Place`, `Site.places`: what a path leads to, and the tree of all paths.
* `Site.guarded`: the body limit, then the user of the session and the gate before the pages of the
  administrators. Every place is behind them.
* `Site.serve`: the response to a request.
-/

namespace Weblog

/-- A page about the state of the application. -/
inductive CommonPage where
  | health
  | ready
  | version
  deriving DecidableEq, Repr

namespace CommonPage

def all : List CommonPage := [.health, .ready, .version]

def path : CommonPage → String
  | .health => "/health"
  | .ready => "/ready"
  | .version => "/version"

def ofPath? (path : String) : Option CommonPage := all.find? fun p => p.path = path

def texts (pairs : List (String × String)) : Json :=
  .ofFields (pairs.map fun p => (p.1, .string p.2))

/-- Whether the application can serve: whether the database answers. -/
def readiness : Action Http.Response := do
  match ← Database.ping.run with
  | .ok () => return .json 200 (texts [("status", "ok"), ("database", "ok")])
  | .error _ =>
    Action.log .readinessFailed
    return .json 503 (texts [("status", "degraded"), ("database", "unavailable")])

def response : CommonPage → Action Http.Response
  | .health => .done (.json 200 (texts [("status", "ok")]))
  | .ready => readiness
  | .version => .done (.json 200 (texts [("name", "blog-cms"), ("version", "0.1.0")]))

end CommonPage

/-- What a path leads to. -/
inductive Place where
  | files
  /-- The handlers of the path, and the common page that is there for GET. -/
  | resource (page : Option CommonPage) (handlers : Resource)

/-- What serves a method at a place. -/
inductive Endpoint where
  | page (page : CommonPage)
  | entry (entry : Entry)

namespace Place

def ofResource (r : Resource) : Branch Place :=
  ⟨PathPart.read r.path, .resource (CommonPage.ofPath? r.path) r⟩

def ofFiles (path : String) : Branch Place := ⟨PathPart.read path, .files⟩

/-- The paths of the files: their root, with and without a slash, and all below it. -/
def filePaths : List String := [Files.root, Files.root ++ "/", Files.root ++ "/*file"]

/-- What serves a method; HEAD is served like GET. -/
def endpoint? (page : Option CommonPage) (handlers : Resource) (m : Http.Method) :
    Option Endpoint :=
  match page, m with
  | some p, .get | some p, .head => some (.page p)
  | _, m => (handlers.entry? m).map .entry

/-- The methods that are allowed where there is a resource. -/
def allowed (page : Option CommonPage) (handlers : Resource) : String :=
  ",".intercalate ((if page.isSome || handlers.get.isSome then ["GET", "HEAD"] else []) ++
    (if handlers.post.isSome then ["POST"] else []))

end Place

/-- The application. -/
structure Site where
  users : Directory
  session : SessionConfig
  render : Renderer
  routes : RouteTable

namespace Site

/-- All paths with what they lead to. -/
def places (s : Site) : List (Branch Place) :=
  (CommonPage.all.foldl (fun rs p => Resource.reserve p.path rs) s.routes.resources).map
    Place.ofResource ++ Place.filePaths.map Place.ofFiles

def currentUser (s : Site) (r : Http.Request) : Action (Option SessionUser) :=
  match Cookie.tokenIn? r.headers s.session.cookieName with
  | none => .done none
  | some token => do
    let now ← Action.seconds
    Cookie.resolve s.users token s.session.secret now

/-- A path that only administrators see. -/
def isGated (path : String) : Bool := "/manage/".toList.isPrefixOf path.toList

def isAdmin (user : Option SessionUser) : Bool := (user.map SessionUser.admin).getD false

/-- Where those are sent who may not pass the gate. -/
def signinPath : String := "/signin"

/-- What a place makes of a request that reaches it, with the user of its session. -/
abbrev Inner : Type := Option SessionUser → Http.Request → Action Http.Response

/-- Finds the user of the session and passes those on who may see the path. -/
def authenticate (s : Site) (inner : Inner) (r : Http.Request) : Action Http.Response := do
  let user ← s.currentUser r
  if isGated r.uri.path && !isAdmin user then
    return .redirect (Text.Utf8.bytesOf signinPath)
  else inner user r

/-- The length of the body that a request announces. -/
def contentLength? (headers : List Http.Header) : Option Nat :=
  ((Http.headerText? "content-length" headers).bind (Text.ranged? .u64)).map Int.toNat

def tooLarge : Http.Response := .text 413 "text/plain; charset=utf-8" "length limit exceeded"

/-- A place behind the body limit and the gate. -/
def guarded (s : Site) (inner : Inner) (r : Http.Request) : Action Http.Response :=
  match contentLength? r.headers with
  | some n =>
    if Arguments.bodyLimit < n then .done tooLarge
    else s.authenticate inner { r with limit := min r.limit n }
  | none => s.authenticate inner { r with limit := min r.limit Arguments.bodyLimit }

/-- A response whatever the request is. -/
def always (response : Http.Response) : Inner := fun _ _ => .done response

/-- What an endpoint makes of a request, with the parameters of its path. -/
def serveEndpoint (s : Site) (path : List (String × String)) : Endpoint → Inner
  | .page p => fun _ _ => p.response
  | .entry e => fun user r => e.dispatch user s.render path r

def parameters (handlers : Resource) (captured : List (List Char)) : List (String × String) :=
  PathPart.decodeAll ((PathPart.names (PathPart.read handlers.path)).zip captured)

def serve (s : Site) (r : Http.Request) : Action Http.Response :=
  match Branch.find? s.places r.uri.path.toList with
  | none => s.guarded (always (.empty 404)) r
  | some (.files, _) => s.guarded (always (Files.response r.method r.uri)) r
  | some (.resource page handlers, captured) =>
    match Place.endpoint? page handlers r.method with
    | some e => do
      let response ← s.guarded (s.serveEndpoint (parameters handlers captured) e) r
      return response.forMethod r.method
    | none => do
      let response ← s.guarded (always (.empty 405)) r
      return response.withHeader "allow" (Text.Utf8.bytesOf (Place.allowed page handlers))

end Site
end Weblog
