import Weblog.Route.Table

/-!
# Weblog.Route.Registry

How the table of routes is filled, and how the router takes it up.

* `Registry`: the entries, and beside them the verbs and paths that are taken.
* `Registry.add`: checks a route and registers it; `Registry.addAll`: routes up to the first that is
  refused.
* `RouteTable.ofRoutes`: the table of the routes that are registered so.
* `Assembly`: the paths in their order, and beside it what is gathered of each.
* `RouteTable.assemble?`: the paths of a table, gathered entry by entry. Where a verb of a path is
  claimed twice, the router gives up.
-/

namespace Weblog

/-- The table of routes while it is filled. -/
structure Registry where
  /-- The checked routes in the order of their registration. -/
  entries : RouteTable := []
  /-- The verbs and paths that are taken, as a set. -/
  taken : List (Verb × String) := []

namespace Registry

def empty : Registry := {}

/-- Takes a verb and a path: whether they were free, and what is taken then. -/
def take (key : Verb × String) (taken : List (Verb × String)) : Bool × List (Verb × String) :=
  if key ∈ taken then (false, taken) else (true, key :: taken)

/-- Checks the parameters of a route and its pattern, takes its verb and path, and puts it at the
end of the entries. -/
def add (g : Registry) (r : Route) : Registry × Except RouteError Unit :=
  match r.signature.inspect r.pattern with
  | .error err => (g, .error err)
  | .ok spec =>
    match Pattern.convert r.pattern with
    | .error err => (g, .error err)
    | .ok path =>
      match take (r.verb, path) g.taken with
      | (false, taken) => ({ g with taken }, .error (.duplicateRoute r.verb.text r.pattern))
      | (true, taken) =>
        ({ entries := g.entries ++ [⟨r.verb, path, spec, r.handler⟩], taken }, .ok ())

/-- Adds routes up to the first that is refused. -/
def addAll (g : Registry) : List Route → Registry × Except RouteError Unit
  | [] => (g, .ok ())
  | r :: rest =>
    match g.add r with
    | (g, .ok ()) => g.addAll rest
    | (g, .error err) => (g, .error err)

end Registry

/-- The table of routes that are registered one after the other, up to the first that is refused. -/
def RouteTable.ofRoutes (declared : List Route) : RouteTable :=
  (Registry.empty.addAll declared).1.entries

/-- Puts an entry into the slot of its verb. Where this is occupied, the router gives up. -/
def Resource.put? (r : Resource) (e : Entry) : Option Resource :=
  match e.verb with
  | .get => if r.get.isSome then none else some (r.put e)
  | .post => if r.post.isSome then none else some (r.put e)

/-- The handlers of a path. -/
def Resource.at? (path : String) (rs : List Resource) : Option Resource :=
  rs.find? fun r => r.path = path

/-- What is gathered of the entries of a table. -/
structure Assembly where
  /-- The paths in the order of the first entry of each. -/
  order : List String := []
  /-- The handlers of the paths, found by the path alone. -/
  byPath : List Resource := []

namespace Assembly

/-- Takes the handlers of a path out. -/
def remove (path : String) (byPath : List Resource) : Option Resource × List Resource :=
  (Resource.at? path byPath, byPath.filter fun r => r.path ≠ path)

/-- Takes the handlers of the path of an entry out, or begins with none behind all other paths, and
puts them back with the entry. -/
def gather? (a : Assembly) (e : Entry) : Option Assembly :=
  match remove e.path a.byPath with
  | (some r, others) => (r.put? e).map fun r => ⟨a.order, r :: others⟩
  | (none, others) =>
    ((Resource.ofPath e.path).put? e).map fun r => ⟨a.order ++ [e.path], r :: others⟩

/-- The handlers of paths in their order, each taken out when its turn comes. -/
def resources : List String → List Resource → List Resource
  | [], _ => []
  | path :: order, byPath =>
    match remove path byPath with
    | (some r, others) => r :: resources order others
    | (none, others) => resources order others

end Assembly

/-- The paths of a table with their handlers, gathered entry by entry. -/
def RouteTable.assemble? (t : RouteTable) : Option (List Resource) :=
  (t.foldlM Assembly.gather? {}).map fun a => Assembly.resources a.order a.byPath

end Weblog
