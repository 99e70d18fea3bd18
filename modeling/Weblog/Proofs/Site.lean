import Weblog.Action.Trace
import Weblog.Proofs.Route.Table
import Weblog.Proofs.Route.Tree
import Weblog.Site

/-!
# Weblog.Proofs.Site

From a request for a path to the entry that serves it.

* `labels`: the tree of the paths of a site, with the paths alone in it.
* `exists_of_lookup`: what is found among the labels is a resource of the site.
* `guarded_eq`: what stands before a place that a request leads to.
* `dispatched?`: a request as it is dispatched, if the body that it announces is not too long.
* `allowance`, `clipped`: how much of its body may be read, and the request with no more of it.
* `carried?`: the text that the body of a request carries under a name.
* `serve_of_endpoint`, `serve_post`: outside the gate the user of the session is found, and then the
  entry of the path is dispatched.
-/

namespace Weblog
namespace Site

/-- The paths that resources stand at, with the paths of the files among them. -/
def labels (paths : List String) : List (Branch (Option String)) :=
  paths.map (fun p => ⟨PathPart.read p, some p⟩) ++
    Place.filePaths.map fun p => ⟨PathPart.read p, none⟩

def label : Place → Option String
  | .files => none
  | .resource _ handlers => some handlers.path

def resources (s : Site) : List Resource :=
  CommonPage.all.foldl (fun rs p => Resource.reserve p.path rs) s.routes.resources

theorem map_path_resources (s : Site) :
    s.resources.map Resource.path =
      (CommonPage.all.map CommonPage.path).foldl Resource.withPath
        ((s.routes.map Entry.path).foldl Resource.withPath []) := by
  rw [← Resource.map_path_resources]
  exact (Resource.map_path_reserve _ _).trans (congrArg (Resource.withPath · _)
    ((Resource.map_path_reserve _ _).trans (congrArg (Resource.withPath · _)
      (Resource.map_path_reserve _ _))))

theorem map_places (s : Site) :
    s.places.map (Branch.map label) = labels (s.resources.map Resource.path) := by
  rw [places, labels, List.map_append, List.map_map, List.map_map, List.map_map]
  rfl

theorem grouped_resources {s : Site} (hdistinct : (s.routes.map Entry.key).Nodup) :
    Resource.Grouped s.routes s.resources :=
  (((Resource.grouped_resources hdistinct).reserve _).reserve _).reserve _

theorem filed_resources (s : Site) : ∀ r ∈ s.resources, r.Filed :=
  Resource.filed_reserve (Resource.filed_reserve (Resource.filed_reserve
    (Resource.filed_foldl (List.forall_mem_nil _) s.routes) _) _) _

theorem mem_resources_of_find? {s : Site} {path : List Char} {page : Option CommonPage}
    {handlers : Resource} {captured : List (List Char)}
    (h : Branch.find? s.places path = some (.resource page handlers, captured)) :
    handlers ∈ s.resources := by
  obtain ⟨b, hb, hvalue, -⟩ := Branch.fits_of_find? h
  rcases List.mem_append.1 hb with hb | hb
  · obtain ⟨r, hr, rfl⟩ := List.mem_map.1 hb
    cases hvalue
    exact hr
  · obtain ⟨f, -, rfl⟩ := List.mem_map.1 hb
    cases hvalue

/-- A path that is found among the labels leads to a resource of the site. -/
theorem exists_of_lookup {s : Site} {path p : String} {captured : List (List Char)}
    (h : Branch.find? (labels (s.resources.map Resource.path)) path.toList =
      some (some p, captured)) :
    ∃ r ∈ s.resources, r.path = p ∧
      Branch.find? s.places path.toList = some (.resource (CommonPage.ofPath? p) r, captured) := by
  rw [← map_places, Branch.find?_map] at h
  obtain ⟨⟨place, c⟩, hfind, hlabel⟩ := Option.map_eq_some_iff.1 h
  obtain ⟨hplace, rfl⟩ := Prod.mk.inj hlabel
  obtain ⟨b, hb, hvalue, -⟩ := Branch.fits_of_find? hfind
  rcases List.mem_append.1 hb with hb | hb
  · obtain ⟨r, hr, rfl⟩ := List.mem_map.1 hb
    subst hvalue
    obtain rfl := Option.some.inj hplace
    exact ⟨r, hr, rfl, hfind⟩
  · obtain ⟨f, -, rfl⟩ := List.mem_map.1 hb
    subst hvalue
    cases hplace

/-- A request as it reaches its handler: so much of its body may be read as it announces, and
nothing of it is dispatched if that is too much. -/
def dispatched? (r : Http.Request) : Option Http.Request :=
  match contentLength? r.headers with
  | some n =>
    if Arguments.bodyLimit < n then none else some { r with limit := min r.limit n }
  | none => some { r with limit := min r.limit Arguments.bodyLimit }

/-- How many octets of the body of a request may be read: as many as it announces, and where it
announces nothing as many as are read of any body. -/
def allowance (r : Http.Request) : Nat :=
  (contentLength? r.headers).getD Arguments.bodyLimit

/-- A request with as much of its body as may be read. -/
def clipped (r : Http.Request) : Http.Request := { r with limit := min r.limit (allowance r) }

theorem dispatched?_eq (r : Http.Request) :
    dispatched? r = if Arguments.bodyLimit < allowance r then none else some (clipped r) := by
  rw [dispatched?, clipped, allowance]
  cases contentLength? r.headers <;> simp

theorem uri_of_dispatched? {r r' : Http.Request} (h : dispatched? r = some r') :
    r'.uri = r.uri := by
  unfold dispatched? at h
  split at h
  · split at h <;> cases h
    rfl
  · cases h
    rfl

theorem method_of_dispatched? {r r' : Http.Request} (h : dispatched? r = some r') :
    r'.method = r.method := by
  unfold dispatched? at h
  split at h
  · split at h <;> cases h
    rfl
  · cases h
    rfl

def carried? (r : Http.Request) (name : String) : Option String :=
  match (dispatched? r).map Arguments.bodyFields with
  | some (.ok fs) => (Fields.get? name fs).bind Json.argumentText
  | _ => none

/-- Whether the gate lets a user see the path of a request. -/
def admits (r : Http.Request) (user : Option SessionUser) : Bool :=
  !isGated r.uri.path || isAdmin user

theorem authenticate_eq (s : Site) (inner : Inner) (r : Http.Request) :
    s.authenticate inner r = s.currentUser r >>= fun user =>
      if admits r user then inner user r else .done (.redirect (Text.Utf8.bytesOf signinPath)) := by
  unfold authenticate admits
  congr 1
  funext user
  cases isGated r.uri.path <;> cases isAdmin user <;> rfl

/-- A place is reached with the user of the session, unless the body is announced to be too long or
the user may not pass the gate. -/
theorem guarded_eq (s : Site) (inner : Inner) (r : Http.Request) :
    s.guarded inner r =
      match dispatched? r with
      | none => .done tooLarge
      | some r' => s.currentUser r >>= fun user =>
          if admits r user then inner user r'
          else .done (.redirect (Text.Utf8.bytesOf signinPath)) := by
  rw [guarded, dispatched?]
  cases contentLength? r.headers with
  | none => exact s.authenticate_eq inner _
  | some n =>
    by_cases hlong : Arguments.bodyLimit < n
    · simp only [if_pos hlong]
    · simp only [if_neg hlong]
      exact s.authenticate_eq inner _

/-- Outside the gate a place is reached with the user of the session, unless the body is announced
to be too long. -/
theorem guarded_of_not_isGated {r : Http.Request} (h : isGated r.uri.path = false) (s : Site)
    (inner : Inner) :
    s.guarded inner r =
      match dispatched? r with
      | none => .done tooLarge
      | some r' => s.currentUser r >>= fun user => inner user r' := by
  simp only [guarded_eq, admits, h, Bool.not_false, Bool.true_or, if_true]

/-- A request outside the gate is answered by the entry of its path and its method; only to HEAD the
response is cut. -/
theorem serve_of_endpoint {s : Site} {r : Http.Request} {page : Option CommonPage}
    {handlers : Resource} {captured : List (List Char)} {e : Entry} (hmethod : r.method ≠ .head)
    (hgate : isGated r.uri.path = false)
    (hplace : Branch.find? s.places r.uri.path.toList = some (.resource page handlers, captured))
    (hendpoint : Place.endpoint? page handlers r.method = some (.entry e)) :
    s.serve r =
      match dispatched? r with
      | none => .done tooLarge
      | some r' => s.currentUser r >>= fun user =>
          e.dispatch user s.render (parameters handlers captured) r' := by
  have hwhole : ∀ x : Http.Response,
      (pure (x.forMethod r.method) : Action Http.Response) = pure x :=
    fun x => by rw [Http.Response.forMethod, if_neg hmethod]
  rw [serve, hplace]
  simp only [hendpoint]
  simp only [hwhole, bind_pure]
  exact guarded_of_not_isGated hgate s _

/-- A POST outside the gate is answered by the entry of its path. -/
theorem serve_post {s : Site} {r : Http.Request} {page : Option CommonPage} {handlers : Resource}
    {captured : List (List Char)} {e : Entry} (hmethod : r.method = .post)
    (hgate : isGated r.uri.path = false)
    (hplace : Branch.find? s.places r.uri.path.toList = some (.resource page handlers, captured))
    (hpost : handlers.post = some e) :
    s.serve r =
      match dispatched? r with
      | none => .done tooLarge
      | some r' => s.currentUser r >>= fun user =>
          e.dispatch user s.render (parameters handlers captured) r' := by
  have hendpoint : Place.endpoint? page handlers r.method = some (.entry e) := by
    rw [hmethod]
    cases page with
    | none => simp [Place.endpoint?, Resource.entry?, hpost]
    | some p => simp [Place.endpoint?, Resource.entry?, hpost]
  have hhead : r.method ≠ .head := by
    rw [hmethod]
    decide
  exact serve_of_endpoint hhead hgate hplace hendpoint

end Site
end Weblog
