import Weblog.Reply
import Weblog.Route.Arguments
import Weblog.Route.Call
import Weblog.Route.Pattern

/-!
# Weblog.Route.Table

Declared routes and the table that keeps them.

* `Verb`, `Handler`, `Route`: a route as it is declared.
* `Entry`: a route whose declaration was checked.
* `RouteTable.resources`: the paths of the table, each with its handlers.
-/

namespace Weblog

/-- The method that a route is declared for. -/
inductive Verb where
  | get
  | post
  deriving DecidableEq, Repr

/-- The name of a method. -/
def Verb.text : Verb → String
  | .get => "GET"
  | .post => "POST"

abbrev Handler : Type := Call → Fallible AppError Reply

/-- A route as it is declared. -/
structure Route where
  verb : Verb
  pattern : String
  signature : Signature
  handler : Handler

namespace Route

def get (pattern : String) (handler : Handler) : Route := ⟨.get, pattern, [], handler⟩

def post (pattern : String) (handler : Handler) : Route := ⟨.post, pattern, [], handler⟩

def param (r : Route) (name : String) (kind : ParamKind) : Route :=
  { r with signature := r.signature ++ [⟨name, kind⟩] }

def request (r : Route) : Route := r.param "request" .request

def keyword (r : Route) (name : String) : Route := r.param name (.keyword true)

def keywordDefault (r : Route) (name : String) : Route := r.param name (.keyword false)

def label (r : Route) : String := r.verb.text ++ " " ++ r.pattern

end Route

/-- A route whose declaration was checked. -/
structure Entry where
  verb : Verb
  /-- The path under which the router keeps it. -/
  path : String
  spec : ArgSpec
  handler : Handler

/-- The checked routes in the order of their registration. -/
abbrev RouteTable : Type := List Entry

/-- A path with its handlers. -/
structure Resource where
  path : String
  get : Option Entry
  post : Option Entry

namespace Resource

/-- A path without handlers. -/
def ofPath (path : String) : Resource := ⟨path, none, none⟩

def put (r : Resource) (e : Entry) : Resource :=
  match e.verb with
  | .get => { r with get := some e }
  | .post => { r with post := some e }

/-- Puts an entry into the resource of its path, or into a new one at the end. -/
def insert (e : Entry) : List Resource → List Resource
  | [] => [(ofPath e.path).put e]
  | r :: rest => if r.path = e.path then r.put e :: rest else r :: insert e rest

def reserve (path : String) (rs : List Resource) : List Resource :=
  if rs.any fun r => r.path = path then rs else rs ++ [ofPath path]

end Resource

/-- The paths of a table in the order of their first registration. -/
def RouteTable.resources (t : RouteTable) : List Resource :=
  t.foldl (fun rs e => Resource.insert e rs) []

end Weblog
