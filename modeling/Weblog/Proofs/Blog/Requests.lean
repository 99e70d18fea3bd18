import Weblog.Proofs.Blog.Access
import Weblog.Proofs.Blog.Login
import Weblog.Proofs.Gate
import Weblog.Proofs.Route.Access
import Weblog.Proofs.Route.Captured

/-!
# Weblog.Proofs.Blog.Requests

From a request to the handler of a route of the blog, and to what the handler is called with.

* `behind_cases`: a request leads to a fixed response, to a common page, or to one of the routes.
* `parameters_fst`: the path of a route has no other parameter than the id.
* `requested?`: the text that a request has for a name, and `text_of_arguments`: it is the one that
  the handler sees.
* `runs_serve_of_handler`: what a handler does is what serving the request does after the user of
  the session was found.
-/

namespace Weblog
namespace Blog

variable {s : Settings} {users : Directory} {render : Renderer} {r r' : Http.Request}

/-- A request leads to a fixed response, to a common page, or to one of the routes. -/
theorem behind_cases (s : Settings) (users : Directory) (render : Renderer) (r : Http.Request) :
    (∃ response, (site s users render).behind r = Site.always response) ∨
      (∃ p : CommonPage, (site s users render).behind r = fun _ _ => p.response) ∨
      ∃ route ∈ routes s, ∃ captured, (site s users render).Matches r (entryOf route) captured := by
  rcases (site s users render).behind_cases nodup_key_table r with
    h | h | ⟨e, captured, he, hmatches⟩
  · exact .inl h
  · exact .inr (.inl h)
  · have hmem : e ∈ (routes s).map entryOf := table_eq s ▸ he
    obtain ⟨route, hroute, rfl⟩ := List.mem_map.1 hmem
    exact .inr (.inr ⟨route, hroute, captured, hmatches⟩)

theorem inspected_of_mem {route : Route} (h : route ∈ routes s) :
    route.signature.inspect route.pattern = .ok (entryOf route).spec :=
  (yields_of_mem h).inspected

theorem Served.matches {route : Route} {path : String} (h : Served s route path)
    (hmethod : r.method = .post) (hpath : r.uri.path = path) :
    (site s users render).Matches r (entryOf route) [] := by
  obtain ⟨handlers, hp, hpost, hfind⟩ := h.found users render
  refine ⟨_, handlers, hp.trans h.kept.symm, hpath ▸ hfind, ?_⟩
  rw [hmethod]
  cases CommonPage.ofPath? path with
  | none => simp [Place.endpoint?, Resource.entry?, hpost]
  | some p => simp [Place.endpoint?, Resource.entry?, hpost]

/-- The path of an outline has no other parameter than the id. -/
def hasIdOnly (o : Verb × String × Signature) : Bool :=
  PathPart.names (PathPart.read (keptPath o.2.1)) == [] ||
    PathPart.names (PathPart.read (keptPath o.2.1)) == [['i', 'd']]

theorem hasIdOnly_outlines : outlines.all hasIdOnly = true := by decide +kernel

theorem parameters_of_kept {route : Route} {path : String} (h : keptPath route.pattern = path)
    (captured : List (List Char)) : (entryOf route).parameters captured =
      PathPart.decodeAll ((PathPart.names (PathPart.read path)).zip captured) := h ▸ rfl

/-- The path of a route has no other parameter than the id. -/
theorem parameters_fst {route : Route} (h : route ∈ routes s) (captured : List (List Char)) :
    ((entryOf route).parameters captured).map Prod.fst = [] ∨
      ((entryOf route).parameters captured).map Prod.fst = ["id"] := by
  have hmem : outline route ∈ outlines := map_outline s ▸ List.mem_map_of_mem h
  have hnames := List.all_eq_true.1 hasIdOnly_outlines _ hmem
  rw [hasIdOnly, Bool.or_eq_true] at hnames
  have hpath : (entryOf route).path = keptPath (outline route).2.1 := rfl
  rw [Entry.parameters, hpath]
  rcases hnames with hnames | hnames
  · rw [eq_of_beq hnames]
    exact .inl rfl
  · rw [eq_of_beq hnames]
    cases captured with
    | nil => exact .inl rfl
    | cons value rest =>
      rw [List.zip_cons_cons, List.zip_nil_left]
      cases hvalue : PathPart.decode? value with
      | none =>
        rw [PathPart.decodeAll_eq_nil (List.mem_singleton_self _) hvalue]
        exact .inl rfl
      | some text =>
        rw [PathPart.decodeAll_eq_map (by simp [hvalue])]
        exact .inr rfl

theorem nodup_parameters {route : Route} (h : route ∈ routes s) (captured : List (List Char)) :
    (((entryOf route).parameters captured).map Prod.fst).Nodup := by
  rcases parameters_fst h captured with hnone | hid
  · rw [hnone]
    exact List.nodup_nil
  · rw [hid]
    exact List.pairwise_singleton _ _

/-- The text that a request has for a name: that of the parameter of its path, or else the one that
its body carries. -/
def requested? (e : Entry) (captured : List (List Char)) (r : Http.Request) (name : String) :
    Option String :=
  ((e.parameters captured).lookup name).or (Site.carried? r name)

/-- Only the id can be in the path. -/
theorem requested?_of_ne {route : Route} (h : route ∈ routes s) (captured : List (List Char))
    {name : String} (hname : name ≠ "id") :
    requested? (entryOf route) captured r name = Site.carried? r name := by
  have hlookup : ((entryOf route).parameters captured).lookup name = none := by
    refine List.lookup_eq_none_iff.2 fun p hp => ?_
    have hmem := List.mem_map_of_mem (f := Prod.fst) hp
    rcases parameters_fst h captured with hnone | hid
    · rw [hnone] at hmem
      cases hmem
    · rw [hid] at hmem
      rw [List.mem_singleton.1 hmem]
      simpa using hname
  rw [requested?, hlookup, Option.none_or]

/-- The handler of a POST sees the texts that the request has for the names that it declares. -/
theorem text_of_arguments {route : Route} (h : route ∈ routes s) {captured : List (List Char)}
    (hmethod : r.method = .post) (hdispatched : Site.dispatched? r = some r')
    {es : List Exchange} {args : Fields}
    (hargs : Action.Runs ((entryOf route).spec.arguments
      ((entryOf route).parameters captured) r').run es (.ok args))
    {name : String} (hname : name ∈ (entryOf route).spec.named) (user : Option SessionUser)
    (r'' : Http.Request) :
    ((entryOf route).call user r'' args).text name =
      requested? (entryOf route) captured r name := by
  have hnamed : name ∈ Signature.named route.signature := hname
  have hreads : Signature.readsInput route.signature = true := by
    rw [Signature.readsInput_eq, Bool.or_eq_true]
    right
    cases hempty : Signature.named route.signature with
    | nil =>
      rw [hempty] at hnamed
      cases hnamed
    | cons n rest => rfl
  obtain ⟨fs, hdecoded, rfl⟩ := ArgSpec.of_runs_arguments (inspected_of_mem h) hargs
  rw [Signature.decoded_post ((Site.method_of_dispatched? hdispatched).trans hmethod) hreads]
    at hdecoded
  have hbrings : Brings r fs := by
    rw [Brings, hdispatched, Option.map_some, hdecoded]
  rw [requested?, hbrings.carried?_eq, Call.text, Call.arg, Entry.call,
    Arguments.get?_overlaid (nodup_parameters h captured), Signature.get?_admitted hnamed]
  cases ((entryOf route).parameters captured).lookup name with
  | none => rfl
  | some text => rfl

/-- A request that is admitted runs the handler of the route that it matches. -/
theorem runs_serve_of_handler {route : Route} {captured : List (List Char)}
    (hmatches : (site s users render).Matches r (entryOf route) captured)
    (hdispatched : Site.dispatched? r = some r') {ds : List Exchange} {visitor : Option SessionUser}
    (hvisitor : Action.Runs ((site s users render).currentUser r) ds visitor)
    (hadmits : Site.admits r visitor = true) {args : Fields}
    (hargs : Action.Runs ((entryOf route).spec.arguments
      ((entryOf route).parameters captured) r').run [] (.ok args))
    {hs : List Exchange} {reply : Reply} {response : Http.Response}
    (hhandler : Action.Runs (route.handler ((entryOf route).call visitor r' args)).run hs (.ok reply))
    (hreply : Action.Runs (reply.respond visitor render).run [] (.ok response)) :
    Action.Runs ((site s users render).serve r) (ds ++ hs)
      ((site s users render).finish r response) := by
  refine Site.runs_serve_iff.2 (.reached hdispatched hvisitor hadmits ?_)
  rw [hmatches.behind_eq, Entry.dispatch_eq]
  have hanswer : Action.Runs ((entryOf route).answer visitor render r' args) (hs ++ []) response :=
    hhandler.bind (hreply.bind .done)
  rw [List.append_nil] at hanswer
  exact hargs.bind hanswer

end Blog
end Weblog
