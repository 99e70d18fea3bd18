import Weblog.Blog.Site
import Weblog.Proofs.Route.Registry
import Weblog.Proofs.Route.Signature
import Weblog.Proofs.Site

/-!
# Weblog.Proofs.Blog.Site

The routes of the blog as they are served.

* `outlines`: what the routes are whatever the blog is configured with.
* `table_eq`: every route of the blog is in its table.
* `isPlain_paths`: every path without parameters leads to itself.
* `exists_handlers`: a path that leads to itself has the entries of its routes.
* `Served`, `Served.serve_eq`: a POST to the path of a route is answered by its entry.
* `served_register`, `served_authenticate`: the routes that users register and sign in at.
-/

namespace Weblog
namespace Blog

/-- The path under which the router keeps a pattern, if it is accepted. -/
def keptPath (pattern : String) : String := (Pattern.convert pattern).toOption.getD ""

def entryOf (r : Route) : Entry := ⟨r.verb, keptPath r.pattern, r.signature.spec, r.handler⟩

/-- A route without its handler. -/
def outline (r : Route) : Verb × String × Signature := (r.verb, r.pattern, r.signature)

/-- The routes of the blog without their handlers, which alone know the settings. -/
def outlines : List (Verb × String × Signature) := (routes ⟨false, "", "", 0⟩).map outline

theorem map_outline (s : Settings) : (routes s).map outline = outlines := by
  simp only [outlines, routes, outline, List.map_cons, List.map_nil, Route.get, Route.post,
    Route.request, Route.keyword, Route.keywordDefault, Route.param]

/-- The checks of a route succeed. -/
def isAccepted (o : Verb × String × Signature) : Bool :=
  (Pattern.convert o.2.1).toOption.isSome && (Signature.misplaced? false o.2.2).isNone

theorem isAccepted_outlines : outlines.all isAccepted = true := by decide +kernel

theorem yields_entryOf {r : Route} (h : isAccepted (outline r) = true) : r.Yields (entryOf r) := by
  obtain ⟨hconvert, hplaced⟩ := Bool.and_eq_true_iff.1 h
  refine ⟨rfl, ?_, ?_, rfl⟩
  · rw [Signature.inspect_eq]
    cases hm : Signature.misplaced? false r.signature with
    | none => rfl
    | some p => simp [outline, hm] at hplaced
  · cases hc : Pattern.convert r.pattern with
    | ok path => simp [entryOf, keptPath, hc]; rfl
    | error e => simp [outline, hc, Except.toOption] at hconvert

def keyOf (o : Verb × String × Signature) : Verb × String := (o.1, keptPath o.2.1)

theorem nodup_keyOf_outlines : (outlines.map keyOf).Nodup := by decide +kernel

theorem map_key_entryOf (s : Settings) :
    ((routes s).map entryOf).map Entry.key = outlines.map keyOf := by
  rw [← map_outline s, List.map_map, List.map_map]
  rfl

theorem yields_of_mem {s : Settings} {r : Route} (h : r ∈ routes s) : r.Yields (entryOf r) := by
  have hmem : outline r ∈ outlines := map_outline s ▸ List.mem_map_of_mem h
  exact yields_entryOf (List.all_eq_true.1 isAccepted_outlines _ hmem)

theorem table_eq (s : Settings) : table s = (routes s).map entryOf := by
  refine RouteTable.ofRoutes_eq (fun r hr => yields_of_mem hr) ?_
  rw [map_key_entryOf]
  exact nodup_keyOf_outlines

def paths : List String :=
  (CommonPage.all.map CommonPage.path).foldl Resource.withPath
    ((outlines.map fun o => keptPath o.2.1).foldl Resource.withPath [])

/-- Evaluated once, for what is decided about the paths below. -/
theorem paths_eq : paths = ["/", "/register", "/signin", "/signout", "/api/users",
    "/api/authenticate", "/manage/blogs/create", "/manage/blogs", "/manage/blogs/edit",
    "/manage/comments", "/manage/users", "/api/blogs", "/api/blogs/:id", "/api/blogs/:id/delete",
    "/api/comments", "/api/blogs/:id/comments", "/api/comments/:id/delete", "/health", "/ready",
    "/version"] := by decide +kernel

variable {s : Settings} {users : Directory} {render : Renderer}

theorem map_path_resources : (site s users render).resources.map Resource.path = paths := by
  have hpaths : (table s).map Entry.path = outlines.map fun o => keptPath o.2.1 := by
    rw [table_eq, ← map_outline s, List.map_map, List.map_map]
    rfl
  rw [Site.map_path_resources, paths, ← hpaths]
  rfl

theorem nodup_key_table : ((table s).map Entry.key).Nodup := by
  rw [table_eq, map_key_entryOf]
  exact nodup_keyOf_outlines

theorem grouped_resources : Resource.Grouped (table s) (site s users render).resources :=
  Site.grouped_resources (s := site s users render) nodup_key_table

/-- The path of a route leads to it and to nothing else. -/
def isPlain (path : String) : Bool :=
  Branch.find? (Site.labels paths) path.toList == some (some path, [])

/-- Every path without parameters leads to itself. -/
theorem isPlain_paths : (paths.filter fun p => (PathPart.names (PathPart.read p)).isEmpty).all
    isPlain = true := by
  have hplain : isPlain = fun path =>
      Branch.find? (Site.labels paths) path.toList == some (some path, []) := rfl
  rw [hplain, paths_eq]
  decide +kernel

/-- The path of a route without parameters leads to itself. -/
theorem isPlain_of_mem {route : Route} {path : String} (hmem : route ∈ routes s)
    (hkept : keptPath route.pattern = path)
    (hnone : (PathPart.names (PathPart.read path)).isEmpty = true) : isPlain path = true := by
  have hroute : path ∈ outlines.map fun o => keptPath o.2.1 := by
    rw [← map_outline s, List.map_map]
    exact List.mem_map.2 ⟨route, hmem, hkept⟩
  have hpath : path ∈ paths :=
    Resource.mem_foldl_withPath.2 (.inl (Resource.mem_foldl_withPath.2 (.inr hroute)))
  exact List.all_eq_true.1 isPlain_paths _ (List.mem_filter.2 ⟨hpath, hnone⟩)

/-- A path that leads to itself has the entries of its routes. -/
theorem exists_handlers {route : Route} {path : String} (hmem : route ∈ routes s)
    (hkept : keptPath route.pattern = path) (hplain : isPlain path = true) (users : Directory)
    (render : Renderer) :
    ∃ handlers : Resource, handlers.path = path ∧
      handlers.slot route.verb = some (entryOf route) ∧
      Branch.find? (site s users render).places path.toList =
        some (.resource (CommonPage.ofPath? path) handlers, []) := by
  have hpaths : (site s users render).resources.map Resource.path = paths := map_path_resources
  have hlookup := eq_of_beq hplain
  rw [← hpaths] at hlookup
  obtain ⟨handlers, hresource, hp, hfind⟩ := Site.exists_of_lookup hlookup
  have htable : entryOf route ∈ table s := table_eq s ▸ List.mem_map_of_mem hmem
  have hslot := (grouped_resources.slots handlers hresource (entryOf route)).2
    ⟨htable, hkept.trans hp.symm⟩
  exact ⟨handlers, hp, hslot, hfind⟩

/-- A route of the blog for POST, at a path outside the gate that leads to it. -/
structure Served (s : Settings) (route : Route) (path : String) : Prop where
  mem : route ∈ routes s
  verb : route.verb = .post
  kept : keptPath route.pattern = path
  plain : isPlain path = true
  ungated : Site.isGated path = false

theorem served_of_mem {route : Route} {path : String} (hmem : route ∈ routes s)
    (hverb : route.verb = .post) (hkept : keptPath route.pattern = path)
    (hnone : (PathPart.names (PathPart.read path)).isEmpty = true)
    (hgate : Site.isGated path = false) : Served s route path :=
  ⟨hmem, hverb, hkept, isPlain_of_mem hmem hkept hnone, hgate⟩

/-- The path of a served route leads to its entry. -/
theorem Served.found {route : Route} {path : String} (h : Served s route path) (users : Directory)
    (render : Renderer) :
    ∃ handlers, handlers.path = path ∧ handlers.post = some (entryOf route) ∧
      Branch.find? (site s users render).places path.toList =
        some (.resource (CommonPage.ofPath? path) handlers, []) := by
  obtain ⟨handlers, hp, hslot, hfind⟩ := exists_handlers h.mem h.kept h.plain users render
  rw [h.verb] at hslot
  exact ⟨handlers, hp, hslot, hfind⟩

theorem Served.serve_eq {route : Route} {path : String} (h : Served s route path) {r : Http.Request}
    (hmethod : r.method = .post) (hpath : r.uri.path = path) :
    (site s users render).serve r =
      match Site.dispatched? r with
      | none => .done Site.tooLarge
      | some r' => (site s users render).currentUser r >>= fun user =>
          (entryOf route).dispatch user render [] r' := by
  obtain ⟨handlers, -, hpost, hfind⟩ := h.found users render
  have hgate := h.ungated
  rw [← hpath] at hgate hfind
  rw [Site.serve_post hmethod hgate hfind hpost]
  simp only [Site.parameters, List.zip_nil_right]
  rfl

/-- Signatures are checked when routes are registered. -/
theorem Served.inspect_eq {route : Route} {path : String} (h : Served s route path) :
    route.signature.inspect route.pattern = .ok (entryOf route).spec :=
  (yields_of_mem h.mem).inspected

def registerRoute (s : Settings) : Route :=
  (((Route.post "/api/users" (register s)).keyword "email").keyword "name").keyword "passwd"

theorem served_register : Served s (registerRoute s) "/api/users" :=
  served_of_mem (List.mem_iff_getElem?.2 ⟨4, rfl⟩) rfl
    (show keptPath "/api/users" = "/api/users" by decide +kernel) (by decide) (by decide)

def authenticateRoute (s : Settings) : Route :=
  ((Route.post "/api/authenticate" (authenticate s)).keyword "email").keyword "passwd"

theorem served_authenticate : Served s (authenticateRoute s) "/api/authenticate" :=
  served_of_mem (List.mem_iff_getElem?.2 ⟨5, rfl⟩) rfl
    (show keptPath "/api/authenticate" = "/api/authenticate" by decide +kernel) (by decide)
    (by decide)

end Blog
end Weblog
