import Weblog.Proofs.Fallible
import Weblog.Proofs.Route.Registry
import Weblog.Proofs.Site
import Weblog.Proofs.Store.Access

/-!
# Weblog.Proofs.Gate

How far a request gets.

* `Site.behind`, `Site.finish`: what a request leads to behind the body limit and the gate, and what
  is done to the response for the sake of its method; `serve_eq` puts a response together from them.
* `Matches`, `matches_of_label`, `Matches.behind_eq`: the entry that the router matches a request
  to, and which dispatches it.
* `Site.gate`, `Site.passing`, `Matches.serve_eq`: the response to such a request as one action.
* `LeadsTo`, `behind_cases`: what a request may lead to.
* `reads_currentUser`: finding the user of a session only reads, if the directory does.
* `Site.Passage`, `runs_serve_iff`: a request is refused for its length, or the user of its session
  is found; and then it is sent away, or it reaches what it leads to.
* `Site.Visit`, `Site.entered`: a run of a request in two parts, and what the second is a run of.
-/

namespace Weblog

/-- An entry that serves a method is one of GET, unless the method is POST. -/
theorem Place.slot_of_endpoint? {page : Option CommonPage} {handlers : Resource} {m : Http.Method}
    {e : Entry} (h : endpoint? page handlers m = some (.entry e)) :
    ∃ v, handlers.slot v = some e ∧ (v = .post → m = .post) := by
  have hentry : handlers.entry? m = some e →
      ∃ v, handlers.slot v = some e ∧ (v = .post → m = .post) := by
    intro h
    cases m with
    | get => exact ⟨.get, h, nofun⟩
    | head => exact ⟨.get, h, nofun⟩
    | post => exact ⟨.post, h, fun _ => rfl⟩
    | other name => cases h
  unfold endpoint? at h
  split at h
  · cases h
  · cases h
  · obtain ⟨e', he, hout⟩ := Option.map_eq_some_iff.1 h
    cases hout
    exact hentry he

/-- A response keeps its body, except for a HEAD. -/
theorem Http.Response.forMethod_eq_id {m : Http.Method} (h : m ≠ .head) :
    Http.Response.forMethod m = id := funext fun _ => if_neg h

/-- Looking up a user only reads. -/
def Directory.Reads (users : Directory) : Prop := ∀ uid, (users uid).Reads

/-- The parameters of the path of an entry, with the values that a request has for them. -/
def Entry.parameters (e : Entry) (captured : List (List Char)) : List (String × String) :=
  PathPart.decodeAll ((PathPart.names (PathPart.read e.path)).zip captured)

namespace Site

variable {s : Site} {r : Http.Request} {es : List Exchange} {response : Http.Response}

/-- What a request leads to. -/
def behind (s : Site) (r : Http.Request) : Inner :=
  match Branch.find? s.places r.uri.path.toList with
  | none => always (.empty 404)
  | some (.files, _) => always (Files.response r.method r.uri)
  | some (.resource page handlers, captured) =>
    match Place.endpoint? page handlers r.method with
    | some e => s.serveEndpoint (parameters handlers captured) e
    | none => always (.empty 405)

/-- What is done to a response for the sake of the method of its request. -/
def finish (s : Site) (r : Http.Request) (response : Http.Response) : Http.Response :=
  match Branch.find? s.places r.uri.path.toList with
  | none => response
  | some (.files, _) => response
  | some (.resource page handlers, _) =>
    match Place.endpoint? page handlers r.method with
    | some _ => response.forMethod r.method
    | none => response.withHeader "allow" (Text.Utf8.bytesOf (Place.allowed page handlers))

theorem serve_eq (s : Site) (r : Http.Request) :
    s.serve r = s.finish r <$> s.guarded (s.behind r) r := by
  have hfinish : s.finish r <$> s.guarded (s.behind r) r =
      s.guarded (s.behind r) r >>= fun response => .done (s.finish r response) :=
    map_eq_pure_bind _ _
  rw [hfinish, serve]
  unfold finish behind
  rcases Branch.find? s.places r.uri.path.toList with _ | ⟨_ | ⟨page, handlers⟩, captured⟩
  · exact (bind_pure _).symm
  · exact (bind_pure _).symm
  · dsimp only
    cases Place.endpoint? page handlers r.method with
    | none => rfl
    | some e => rfl

theorem status_finish (s : Site) (r : Http.Request) (response : Http.Response) :
    (s.finish r response).status = response.status := by
  unfold finish
  split
  · rfl
  · rfl
  · split
    · unfold Http.Response.forMethod
      split <;> rfl
    · rfl

theorem header?_finish {name : String} {value : List UInt8}
    (h : Http.header? name response.headers = some value) (s : Site) (r : Http.Request) :
    Http.header? name (s.finish r response).headers = some value := by
  unfold finish
  split
  · exact h
  · exact h
  · split
    · unfold Http.Response.forMethod
      split <;> exact h
    · obtain ⟨x, hx, rfl⟩ := Option.map_eq_some_iff.1 h
      rw [Http.header?, Http.Response.withHeader, List.find?_append, hx]
      rfl

/-- The router matches a request to an entry, with these values of the parameters of its path. -/
structure Matches (s : Site) (r : Http.Request) (e : Entry) (captured : List (List Char)) :
    Prop where
  found : ∃ page handlers, handlers.path = e.path ∧
    Branch.find? s.places r.uri.path.toList = some (.resource page handlers, captured) ∧
    Place.endpoint? page handlers r.method = some (.entry e)

theorem matches_of_find? (hdistinct : (s.routes.map Entry.key).Nodup) {page : Option CommonPage}
    {handlers : Resource} {captured : List (List Char)} {e : Entry}
    (hfind : Branch.find? s.places r.uri.path.toList = some (.resource page handlers, captured))
    (hendpoint : Place.endpoint? page handlers r.method = some (.entry e)) :
    e ∈ s.routes ∧ s.Matches r e captured := by
  have hmem := mem_resources_of_find? hfind
  obtain ⟨v, hslot, -⟩ := Place.slot_of_endpoint? hendpoint
  obtain rfl := s.filed_resources handlers hmem v e hslot
  obtain ⟨he, hpath⟩ := ((grouped_resources hdistinct).slots handlers hmem e).1 hslot
  exact ⟨he, ⟨page, handlers, hpath.symm, hfind, hendpoint⟩⟩

/-- A request of the method of an entry is matched to it where the router finds its path. -/
theorem matches_of_label (hdistinct : (s.routes.map Entry.key).Nodup) {e : Entry}
    (he : e ∈ s.routes) (hpage : CommonPage.ofPath? e.path = none)
    (hmethod : e.verb = .get ∧ r.method = .get ∨ e.verb = .post ∧ r.method = .post)
    {captured : List (List Char)}
    (hlabel : Branch.find? (labels (s.resources.map Resource.path)) r.uri.path.toList =
      some (some e.path, captured)) : s.Matches r e captured := by
  obtain ⟨handlers, hmem, hpath, hfind⟩ := exists_of_lookup hlabel
  have hslot : handlers.slot e.verb = some e :=
    ((grouped_resources hdistinct).slots handlers hmem e).2 ⟨he, hpath.symm⟩
  refine ⟨_, handlers, hpath, hfind, ?_⟩
  rw [hpage]
  rcases hmethod with ⟨hverb, hmethod⟩ | ⟨hverb, hmethod⟩
  · have hget : handlers.get = some e := by
      rw [← hslot, hverb]
      rfl
    simp [Place.endpoint?, Resource.entry?, hmethod, hget]
  · have hpost : handlers.post = some e := by
      rw [← hslot, hverb]
      rfl
    simp [Place.endpoint?, Resource.entry?, hmethod, hpost]

theorem Matches.behind_eq {e : Entry} {captured : List (List Char)} (h : s.Matches r e captured)
    (user : Option SessionUser) (r' : Http.Request) :
    s.behind r user r' = e.dispatch user s.render (e.parameters captured) r' := by
  obtain ⟨page, handlers, hpath, hfind, hendpoint⟩ := h.found
  unfold behind
  simp only [hfind, hendpoint]
  rw [serveEndpoint, parameters, hpath, Entry.parameters]

theorem Matches.mem (hdistinct : (s.routes.map Entry.key).Nodup) {e : Entry}
    {captured : List (List Char)} (h : s.Matches r e captured) : e ∈ s.routes := by
  obtain ⟨page, handlers, -, hfind, hendpoint⟩ := h.found
  exact (matches_of_find? hdistinct hfind hendpoint).1

theorem Matches.unique {e e' : Entry} {captured captured' : List (List Char)}
    (h : s.Matches r e captured) (h' : s.Matches r e' captured') :
    e = e' ∧ captured = captured' := by
  obtain ⟨page, handlers, -, hfind, hendpoint⟩ := h.found
  obtain ⟨page', handlers', -, hfind', hendpoint'⟩ := h'.found
  cases hfind.symm.trans hfind'
  cases hendpoint.symm.trans hendpoint'
  exact ⟨rfl, rfl⟩

/-- The response to a request that is matched to an entry loses its body where this was a HEAD. -/
theorem Matches.finish_eq_forMethod {e : Entry} {captured : List (List Char)}
    (h : s.Matches r e captured) (response : Http.Response) :
    s.finish r response = response.forMethod r.method := by
  obtain ⟨page, handlers, -, hfind, hendpoint⟩ := h.found
  unfold finish
  simp only [hfind, hendpoint]

/-- What a request leads to where the gate lets the user of its session pass. -/
def gate (s : Site) (r : Http.Request) (inner : Option SessionUser → Action Http.Response) :
    Action Http.Response :=
  s.currentUser r >>= fun user =>
    if admits r user then inner user else .done (.redirect (Text.Utf8.bytesOf signinPath))

/-- What a request leads to where it does not announce too long a body. -/
def passing (s : Site) (r : Http.Request) (inner : Option SessionUser → Action Http.Response) :
    Action Http.Response :=
  if Arguments.bodyLimit < allowance r then .done tooLarge else s.gate r inner

/-- Between a request and the entry that it is matched to stand what it announces and the gate. -/
theorem Matches.serve_eq {e : Entry} {captured : List (List Char)} (h : s.Matches r e captured) :
    s.serve r = Http.Response.forMethod r.method <$>
      s.passing r fun user => e.dispatch user s.render (e.parameters captured) (clipped r) := by
  have hfinish : s.finish r = Http.Response.forMethod r.method := funext h.finish_eq_forMethod
  rw [Site.serve_eq, hfinish, guarded_eq, dispatched?_eq, passing]
  congr 1
  by_cases hlong : Arguments.bodyLimit < allowance r
  · simp only [if_pos hlong]
  · simp only [if_neg hlong, gate, h.behind_eq]

/-- A visitor without a session passes where the path is open to all. -/
theorem gate_of_anonymous (htoken : Cookie.tokenIn? r.headers s.session.cookieName = none)
    (hopen : isGated r.uri.path = false) (inner : Option SessionUser → Action Http.Response) :
    s.gate r inner = inner none := by
  have hadmits : admits r none = true := by simp [admits, hopen]
  simp only [gate, currentUser, htoken, Action.done_bind, hadmits, if_true]

theorem passing_of_anonymous (hallowed : allowance r ≤ Arguments.bodyLimit)
    (htoken : Cookie.tokenIn? r.headers s.session.cookieName = none)
    (hopen : isGated r.uri.path = false) (inner : Option SessionUser → Action Http.Response) :
    s.passing r inner = inner none := by
  rw [passing, if_neg (Nat.not_lt.2 hallowed), gate_of_anonymous htoken hopen]

/-- A site of one route, in which nobody has an account. -/
def only (route : Route) : Site :=
  ⟨fun _ => .done .unknown, {}, fun _ _ => pure "", .ofRoutes [route]⟩

theorem routes_only {route : Route} {e : Entry} (h : route.Yields e) :
    (only route).routes = [e] :=
  @RouteTable.ofRoutes_eq [route] (fun _ => e) (by simpa using h) (List.pairwise_singleton _ _)

theorem matches_only {route : Route} {e : Entry} (h : route.Yields e)
    (hpage : CommonPage.ofPath? e.path = none)
    (hmethod : e.verb = .get ∧ r.method = .get ∨ e.verb = .post ∧ r.method = .post)
    {captured : List (List Char)}
    (hlabel : Branch.find? (labels ((CommonPage.all.map CommonPage.path).foldl Resource.withPath
      [e.path])) r.uri.path.toList = some (some e.path, captured)) :
    (only route).Matches r e captured := by
  have hroutes := routes_only h
  refine matches_of_label (hroutes ▸ List.pairwise_singleton _ _)
    (hroutes ▸ List.mem_singleton_self _) hpage hmethod ?_
  rw [map_path_resources, hroutes]
  exact hlabel

/-- A POST is matched to an entry of POST. -/
theorem Matches.verb_eq {e : Entry} {captured : List (List Char)} (h : s.Matches r e captured)
    (hmethod : r.method = .post) : e.verb = .post := by
  obtain ⟨page, handlers, -, hfind, hendpoint⟩ := h.found
  refine s.filed_resources handlers (mem_resources_of_find? hfind) .post e ?_
  rw [hmethod] at hendpoint
  cases page with
  | none => simpa [Place.endpoint?, Resource.entry?, Resource.slot] using hendpoint
  | some p => simpa [Place.endpoint?, Resource.entry?, Resource.slot] using hendpoint

/-- Only a POST is matched to an entry of POST. -/
theorem Matches.method_eq {e : Entry} {captured : List (List Char)} (h : s.Matches r e captured)
    (hverb : e.verb = .post) : r.method = .post := by
  obtain ⟨page, handlers, -, hfind, hendpoint⟩ := h.found
  obtain ⟨v, hslot, hpost⟩ := Place.slot_of_endpoint? hendpoint
  have hv : e.verb = v := s.filed_resources handlers (mem_resources_of_find? hfind) v e hslot
  exact hpost (hv.symm.trans hverb)

theorem Matches.fits {e : Entry} {captured : List (List Char)} (h : s.Matches r e captured) :
    PathPart.Fits (PathPart.read e.path) captured r.uri.path.toList := by
  obtain ⟨page, handlers, hpath, hfind, -⟩ := h.found
  obtain ⟨b, hb, hvalue, hfits⟩ := Branch.fits_of_find? hfind
  rcases List.mem_append.1 hb with hb | hb
  · obtain ⟨x, -, rfl⟩ := List.mem_map.1 hb
    cases hvalue
    rwa [Place.ofResource, hpath] at hfits
  · obtain ⟨f, -, rfl⟩ := List.mem_map.1 hb
    cases hvalue

/-- The router finds a place for a request where this serves its method. -/
def LeadsTo (s : Site) (r : Http.Request) (e : Endpoint) : Prop :=
  ∃ page handlers captured,
    Branch.find? s.places r.uri.path.toList = some (.resource page handlers, captured) ∧
      Place.endpoint? page handlers r.method = some e

theorem LeadsTo.behind_eq {p : CommonPage} (h : s.LeadsTo r (.page p)) :
    s.behind r = fun _ _ => p.response := by
  obtain ⟨page, handlers, captured, hfind, hendpoint⟩ := h
  unfold behind
  simp only [hfind, hendpoint]
  rfl

theorem LeadsTo.exists_matches (hdistinct : (s.routes.map Entry.key).Nodup) {e : Entry}
    (h : s.LeadsTo r (.entry e)) : ∃ captured, e ∈ s.routes ∧ s.Matches r e captured := by
  obtain ⟨page, handlers, captured, hfind, hendpoint⟩ := h
  exact ⟨captured, matches_of_find? hdistinct hfind hendpoint⟩

theorem Matches.leadsTo {e : Entry} {captured : List (List Char)} (h : s.Matches r e captured) :
    s.LeadsTo r (.entry e) := by
  obtain ⟨page, handlers, -, hfind, hendpoint⟩ := h.found
  exact ⟨page, handlers, captured, hfind, hendpoint⟩

/-- A request has a response that is the same for all, or is led to what serves it. -/
theorem leadsTo_cases (s : Site) (r : Http.Request) :
    (∃ response, s.behind r = always response) ∨ ∃ e, s.LeadsTo r e := by
  unfold behind
  rcases hfind : Branch.find? s.places r.uri.path.toList with
    _ | ⟨_ | ⟨page, handlers⟩, captured⟩
  · exact .inl ⟨_, rfl⟩
  · exact .inl ⟨_, rfl⟩
  · dsimp only
    cases hendpoint : Place.endpoint? page handlers r.method with
    | none => exact .inl ⟨_, rfl⟩
    | some e => exact .inr ⟨e, page, handlers, captured, hfind, hendpoint⟩

/-- A request leads to a response that is the same for all, to a common page, or to the entry that
the router matches it to. -/
theorem behind_cases (hdistinct : (s.routes.map Entry.key).Nodup) (r : Http.Request) :
    (∃ response, s.behind r = always response) ∨
      (∃ p : CommonPage, s.behind r = fun _ _ => p.response) ∨
      ∃ e captured, e ∈ s.routes ∧ s.Matches r e captured := by
  rcases s.leadsTo_cases r with halways | ⟨p | e, hleads⟩
  · exact .inl halways
  · exact .inr (.inl ⟨p, hleads.behind_eq⟩)
  · exact .inr (.inr ⟨e, hleads.exists_matches hdistinct⟩)

theorem reads_currentUser (husers : s.users.Reads) (r : Http.Request) :
    (s.currentUser r).Reads := by
  unfold currentUser
  split
  · exact (Action.silent_done _).reads
  · refine Action.silent_seconds.before fun now => ?_
    unfold Cookie.resolve
    split
    · exact (Action.silent_done _).reads
    · rename_i uid expires digest _
      refine Action.Sends.then_silent (husers uid) fun found => ?_
      split
      · exact (Action.silent_log _).before fun _ => Action.silent_done _
      · exact Action.silent_done _

/-- How far a request gets. -/
inductive Passage (s : Site) (r : Http.Request) : List Exchange → Http.Response → Prop where
  /-- Its body is announced to be too long. -/
  | refused : dispatched? r = none → Passage s r [] (s.finish r tooLarge)
  /-- The user of its session may not pass the gate. -/
  | sentAway {ds : List Exchange} {visitor : Option SessionUser} : dispatched? r ≠ none →
      Action.Runs (s.currentUser r) ds visitor → admits r visitor = false →
      Passage s r ds (s.finish r (.redirect (Text.Utf8.bytesOf signinPath)))
  /-- It reaches what it leads to. -/
  | reached {ds hs : List Exchange} {visitor : Option SessionUser} {r' : Http.Request}
      {response : Http.Response} : dispatched? r = some r' →
      Action.Runs (s.currentUser r) ds visitor → admits r visitor = true →
      Action.Runs (s.behind r visitor r') hs response →
      Passage s r (ds ++ hs) (s.finish r response)

theorem runs_serve_iff : Action.Runs (s.serve r) es response ↔ Passage s r es response := by
  rw [serve_eq, Action.runs_map_iff, guarded_eq]
  constructor
  · rintro ⟨x, h, rfl⟩
    cases hlength : dispatched? r with
    | none =>
      simp only [hlength] at h
      obtain ⟨rfl, rfl⟩ := Action.runs_done_iff.1 h
      exact .refused hlength
    | some r' =>
      simp only [hlength] at h
      obtain ⟨ds, hs, visitor, rfl, hvisitor, hrest⟩ := Action.runs_bind_iff.1 h
      cases hadmits : admits r visitor with
      | false =>
        simp only [hadmits, Bool.false_eq_true, if_false] at hrest
        obtain ⟨rfl, rfl⟩ := Action.runs_done_iff.1 hrest
        rw [List.append_nil]
        exact .sentAway (by simp [hlength]) hvisitor hadmits
      | true =>
        simp only [hadmits, if_true] at hrest
        exact .reached hlength hvisitor hadmits hrest
  · intro h
    cases h with
    | refused hlength =>
      rw [hlength]
      exact ⟨_, .done, rfl⟩
    | sentAway hlength hvisitor hadmits =>
      obtain ⟨r', hr'⟩ := Option.ne_none_iff_exists'.1 hlength
      refine ⟨_, ?_, rfl⟩
      rw [hr', ← List.append_nil es]
      refine hvisitor.bind ?_
      simp only [hadmits, Bool.false_eq_true, if_false]
      exact .done
    | reached hlength hvisitor hadmits hrest =>
      refine ⟨_, ?_, rfl⟩
      rw [hlength]
      refine hvisitor.bind ?_
      simp only [hadmits, if_true]
      exact hrest

/-- What becomes of a request when the user of its session is found. -/
def entered (s : Site) (r : Http.Request) (visitor : Option SessionUser) : Action Http.Response :=
  match dispatched? r with
  | none => .done tooLarge
  | some r' =>
    if admits r visitor then s.behind r visitor r'
    else .done (.redirect (Text.Utf8.bytesOf signinPath))

/-- A run of a request in two parts: what finds the user of its session, and what is asked after
that. A request that is refused for its length asks nothing. -/
structure Visit (s : Site) (r : Http.Request) (visitor : Option SessionUser) (ds hs : List Exchange)
    (response : Http.Response) : Prop where
  served : Action.Runs (s.serve r) (ds ++ hs) response
  found : dispatched? r ≠ none → Action.Runs (s.currentUser r) ds visitor

theorem exists_visit (h : Action.Runs (s.serve r) es response) :
    ∃ visitor ds hs, es = ds ++ hs ∧ s.Visit r visitor ds hs response := by
  have hserved := h
  cases runs_serve_iff.1 h with
  | refused hlength => exact ⟨none, [], [], rfl, hserved, fun hne => absurd hlength hne⟩
  | @sentAway ds visitor _ hvisitor _ =>
    exact ⟨visitor, es, [], (List.append_nil es).symm, by rwa [List.append_nil], fun _ => hvisitor⟩
  | @reached ds hs visitor _ _ _ hvisitor _ _ =>
    exact ⟨visitor, ds, hs, rfl, hserved, fun _ => hvisitor⟩

/-- No user is looked for where the body is announced to be too long. -/
theorem Visit.lookup_eq_nil {ds hs : List Exchange} {visitor : Option SessionUser}
    (h : s.Visit r visitor ds hs response) (hlength : dispatched? r = none) : ds = [] := by
  have hserved := h.served
  generalize hes : ds ++ hs = es at hserved
  cases runs_serve_iff.1 hserved with
  | refused _ => exact (List.append_eq_nil_iff.1 hes).1
  | sentAway hne _ _ => exact absurd hlength hne
  | reached hsome _ _ _ =>
    rw [hlength] at hsome
    cases hsome

/-- The second part of a run of a request is a run of what becomes of it. -/
theorem Visit.entered {ds hs : List Exchange} {visitor : Option SessionUser}
    (h : s.Visit r visitor ds hs response) :
    ∃ inner, Action.Runs (s.entered r visitor) hs inner ∧ response = s.finish r inner := by
  obtain ⟨hserved, hfound⟩ := h
  unfold Site.entered
  generalize hes : ds ++ hs = es at hserved
  cases runs_serve_iff.1 hserved with
  | refused hlength =>
    rw [hlength, (List.append_eq_nil_iff.1 hes).2]
    exact ⟨_, .done, rfl⟩
  | sentAway hlength hvisitor hadmits =>
    rw [← List.append_nil es] at hes
    obtain ⟨rfl, rfl⟩ := (hfound hlength).append_inj hvisitor hes
    obtain rfl := (hfound hlength).value_unique hvisitor
    obtain ⟨r', hr'⟩ := Option.ne_none_iff_exists'.1 hlength
    simp only [hr', hadmits, Bool.false_eq_true, if_false]
    exact ⟨_, .done, rfl⟩
  | reached hlength hvisitor hadmits hbehind =>
    have hne : dispatched? r ≠ none := by simp [hlength]
    obtain ⟨rfl, rfl⟩ := (hfound hne).append_inj hvisitor hes
    obtain rfl := (hfound hne).value_unique hvisitor
    simp only [hlength, hadmits, if_true]
    exact ⟨_, hbehind, rfl⟩

end Site
end Weblog
