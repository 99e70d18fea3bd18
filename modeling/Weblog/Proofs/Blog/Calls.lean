import Weblog.Proofs.Blog.Provenance
import Weblog.Proofs.Route.Required

/-!
# Weblog.Proofs.Blog.Calls

A request to the blog in two parts: what leads to the call of a handler, and the call.

* `Entry.conclude`: the response that is made of the outcome of a handler.
* `runs_conclude_iff`, `runs_conclude_error_iff`: what is answered where a handler gives fields or
  fails.
* `Calls`: what leads a request to a call has written nothing; what the handler is called with; and
  whatever the call does is what serving the request does from there on.
* `uncalled_or_calls`: no handler is called, and the request is not answered with status 200, or it
  comes to such a call. `uncalled_or_calls_of_visit` starts where the user of the session was found,
  and says what is missing where no handler is called.
-/

namespace Weblog

/-- The response that is made of the outcome of a handler. -/
def Entry.conclude (user : Option SessionUser) (render : Renderer)
    (outcome : Except AppError Reply) : Action Http.Response :=
  match Reply.ofOutcome outcome with
  | .error err => err.respond
  | .ok reply => (reply.respond user render).run >>= fun out =>
      match out with
      | .ok response => .done response
      | .error err => err.respond

theorem Entry.answer_eq (e : Entry) (user : Option SessionUser) (render : Renderer)
    (r : Http.Request) (args : Fields) :
    e.answer user render r args = (e.handler (e.call user r args)).run >>= conclude user render := rfl

namespace Reply

/-- The response to fields that ask for no page. -/
def ofFields (fs : Fields) : Http.Response := .text 200 jsonType (Json.object fs).compact

/-- The response where a handler gives fields or fails. An error of the domain is answered with its
payload. -/
def responseTo : Except AppError Fields → Http.Response
  | .ok fs => ofFields fs
  | .error (.api err) => ofFields err.payload
  | .error err => err.response

/-- What is logged then: errors of the server. -/
def loggedFor : Except AppError Fields → List Exchange
  | .ok _ => []
  | .error err => if 500 ≤ err.status then [⟨.log .requestFailed, ()⟩] else []

theorem sentBy_loggedFor (out : Except AppError Fields) : sentBy (loggedFor out) = [] := by
  cases out with
  | ok fs => rfl
  | error err =>
    unfold loggedFor
    dsimp only
    split <;> rfl

end Reply

theorem AppError.runs_respond_iff {err : AppError} {es : List Exchange} {response : Http.Response} :
    Action.Runs err.respond es response ↔
      es = (if 500 ≤ err.status then [⟨.log .requestFailed, ()⟩] else []) ∧
        response = err.response := by
  unfold respond
  split
  · constructor
    · intro h
      obtain ⟨u, es, rfl, hdone⟩ := Action.runs_ask_iff.1 h
      obtain ⟨rfl, rfl⟩ := Action.runs_done_iff.1 hdone
      exact ⟨rfl, rfl⟩
    · rintro ⟨rfl, rfl⟩
      exact .ask .done
  · exact Action.runs_done_iff

theorem Entry.conclude_error (user : Option SessionUser) (render : Renderer) {err : AppError}
    (h : ∀ e, err ≠ .api e) : conclude user render (.error err) = err.respond ∧
      Reply.responseTo (.error err) = err.response := by
  cases err with
  | api e => exact absurd rfl (h e)
  | _ => exact ⟨rfl, rfl⟩

theorem Entry.runs_conclude_iff {user : Option SessionUser} {render : Renderer}
    {out : Except AppError Fields} (hplain : ∀ fs, out = .ok fs → Reply.template? fs = none)
    {es : List Exchange} {response : Http.Response} :
    Action.Runs (conclude user render (out.map .fields)) es response ↔
      es = Reply.loggedFor out ∧ response = Reply.responseTo out := by
  have hfields : ∀ fs : Fields, Reply.template? fs = none →
      conclude user render (.ok (.fields fs)) = .done (Reply.ofFields fs) := by
    intro fs hfs
    have hrespond : (Reply.fields fs).respond user render = pure (Reply.ofFields fs) := by
      simp only [Reply.respond, hfs]
      rfl
    simp only [conclude, Reply.ofOutcome, hrespond]
    rfl
  cases out with
  | ok fs =>
    rw [Except.map, hfields fs (hplain fs rfl)]
    exact Action.runs_done_iff
  | error err =>
    by_cases hapi : ∃ e, err = .api e
    · obtain ⟨e, rfl⟩ := hapi
      have hrefused : conclude user render (.error (.api e)) = conclude user render
          (.ok (.fields e.payload)) := rfl
      rw [Except.map, hrefused, hfields _ e.template?_payload]
      exact Action.runs_done_iff
    · obtain ⟨hconclude, hresponse⟩ := conclude_error user render (not_exists.1 hapi)
      rw [Except.map, hconclude, hresponse]
      exact AppError.runs_respond_iff

theorem Entry.runs_conclude_error_iff {user : Option SessionUser} {render : Renderer}
    {err : AppError} {es : List Exchange} {response : Http.Response} :
    Action.Runs (conclude user render (.error err)) es response ↔
      es = Reply.loggedFor (.error err) ∧ response = Reply.responseTo (.error err) :=
  @runs_conclude_iff user render (.error err) nofun es response

/-- The response to a POST that is matched to an entry is not changed. -/
theorem Site.Matches.finish_eq {site : Site} {r : Http.Request} {e : Entry}
    {captured : List (List Char)} (h : site.Matches r e captured) (hverb : e.verb = .post)
    (response : Http.Response) : site.finish r response = response := by
  rw [h.finish_eq_forMethod, Http.Response.forMethod_eq_id (by simp [h.method_eq hverb])]
  rfl

namespace Blog

variable {s : Settings} {users : Directory} {render : Renderer} {r : Http.Request} {route : Route}
  {captured : List (List Char)} {es : List Exchange} {response : Http.Response}

/-- A request comes to a call of the handler of a route after exchanges that write nothing. -/
structure Calls (s : Settings) (users : Directory) (render : Renderer) (r : Http.Request)
    (route : Route) (captured : List (List Char)) (visitor : Option SessionUser)
    (before : List Exchange) (c : Call) : Prop where
  reads : ∀ st ∈ sentBy before, st.IsSelect
  /-- The user of the session was found, and nothing was sent after that. -/
  visited : ∃ ds as, before = ds ++ as ∧
    Action.Runs ((site s users render).currentUser r) ds visitor ∧ sentBy as = []
  user_eq : (entryOf route).spec.takesRequest = true → c.user = visitor
  text : ∀ name ∈ (entryOf route).spec.named,
    c.text name = requested? (entryOf route) captured r name
  /-- Whatever the call does is what serving the request does then. -/
  continues : ∀ hs response,
    Action.Runs ((route.handler c).run >>= Entry.conclude visitor render) hs response →
      Action.Runs ((site s users render).serve r) (before ++ hs) response

/-- Where the arguments of a POST cannot be gathered out of a body that is decoded, the request has no
text for a name that is required. -/
theorem exists_required_of_arguments_error (hroute : route ∈ routes s) (hmethod : r.method = .post)
    {r' : Http.Request} (hdispatched : Site.dispatched? r = some r') {fs : Fields}
    (hbrings : Brings r fs) {err : AppError}
    (hargs : Action.Runs ((entryOf route).spec.arguments
      ((entryOf route).parameters captured) r').run es (.error err)) :
    ∃ name ∈ (entryOf route).spec.required,
      requested? (entryOf route) captured r name = none := by
  have hbody : Arguments.bodyFields r' = .ok fs := by
    rw [Brings, hdispatched] at hbrings
    exact Option.some.inj hbrings
  obtain ⟨gs, hdecoded, hinput⟩ : ∃ gs, route.signature.decoded r' = .ok gs ∧
      (route.signature.readsInput = true → gs = fs) := by
    cases hreads : route.signature.readsInput with
    | false =>
      refine ⟨[], ?_, fun h => absurd h Bool.false_ne_true⟩
      rw [Signature.decoded, hreads]
      rfl
    | true =>
      refine ⟨fs, ?_, fun _ => rfl⟩
      rw [Signature.decoded_post ((Site.method_of_dispatched? hdispatched).trans hmethod) hreads,
        hbody]
  rw [ArgSpec.run_arguments (inspected_of_mem hroute) (nodup_parameters hroute captured),
    hdecoded] at hargs
  obtain ⟨_, _, _, rfl, -, hdone⟩ := Action.runs_bind_iff.1 hargs
  have houtcome := (Action.runs_done_iff.1 hdone).2
  unfold ArgSpec.outcome at houtcome
  dsimp only at houtcome
  split at houtcome
  · rename_i name hmissing
    have hrequired : name ∈ route.signature.required := List.mem_of_find?_eq_some hmissing
    have hnamed := Signature.mem_named_of_required hrequired
    have habsent : Fields.has name (Arguments.overlaid ((entryOf route).parameters captured)
        (route.signature.admitted gs)) = false := by
      simpa using List.find?_some hmissing
    obtain rfl := hinput (Signature.readsInput_of_required hrequired)
    rw [Fields.has, Arguments.get?_overlaid (nodup_parameters hroute captured),
      Signature.get?_admitted hnamed, Option.isSome_eq_false_iff, Option.isNone_iff_eq_none,
      Option.or_eq_none_iff, Option.map_eq_none_iff] at habsent
    refine ⟨name, hrequired, ?_⟩
    rw [requested?, habsent.1, Option.none_or, hbrings.carried?_eq, habsent.2]
    rfl
  · cases houtcome

/-- Where the arguments of a POST are gathered that is admitted, the handler is called with them. -/
theorem calls_of_arguments (husers : users.Reads) (hroute : route ∈ routes s)
    (hverb : route.verb = .post) (hmatches : (site s users render).Matches r (entryOf route) captured)
    {r' : Http.Request} (hdispatched : Site.dispatched? r = some r') {visitor : Option SessionUser}
    (hadmits : Site.admits r visitor = true) {ds as : List Exchange}
    (hvisitor : Action.Runs ((site s users render).currentUser r) ds visitor) {args : Fields}
    (hargs : Action.Runs ((entryOf route).spec.arguments
      ((entryOf route).parameters captured) r').run as (.ok args)) :
    Calls s users render r route captured visitor (ds ++ as)
      ((entryOf route).call visitor r' args) := by
  have hsilent := (entryOf route).spec.silent_arguments _ _ as _ hargs
  refine ⟨?reads, ⟨ds, as, rfl, hvisitor, hsilent⟩, ?user, ?text, ?continues⟩
  case reads =>
    rw [sentBy_append, hsilent, List.append_nil]
    exact Site.reads_currentUser (s := site s users render) husers r ds _ hvisitor
  case user =>
    intro htakes
    rw [Entry.call, if_pos htakes]
    rfl
  case text =>
    intro name hname
    exact text_of_arguments hroute (hmatches.method_eq hverb) hdispatched hargs hname _ _
  case continues =>
    intro hs response hcall
    rw [List.append_assoc, ← hmatches.finish_eq hverb response]
    refine Site.runs_serve_iff.2 (.reached hdispatched hvisitor hadmits ?_)
    rw [hmatches.behind_eq, Entry.dispatch_eq]
    exact hargs.bind hcall

/-- A POST that is matched to a route of the blog, in two parts: what finds the user of its session,
and after that either nothing is sent and it is not answered with status 200, for want of something
that it needs, or it comes to a call of the handler. -/
theorem uncalled_or_calls_of_visit (husers : users.Reads) (hroute : route ∈ routes s)
    (hverb : route.verb = .post) (hmatches : (site s users render).Matches r (entryOf route) captured)
    {visitor : Option SessionUser} {ds hs : List Exchange}
    (h : (site s users render).Visit r visitor ds hs response) :
    (sentBy hs = [] ∧ response.status ≠ 200 ∧ ∀ fs, Brings r fs → Site.admits r visitor = true →
      ∃ name ∈ (entryOf route).spec.required,
        requested? (entryOf route) captured r name = none) ∨
    ∃ as ts c, hs = as ++ ts ∧ sentBy as = [] ∧
      Calls s users render r route captured visitor (ds ++ as) c ∧
      Action.Runs ((route.handler c).run >>= Entry.conclude visitor render) ts response := by
  obtain ⟨inner, hentered, hresponse⟩ := h.entered
  rw [hmatches.finish_eq hverb] at hresponse
  subst hresponse
  unfold Site.entered at hentered
  cases hdispatched : Site.dispatched? r with
  | none =>
    simp only [hdispatched] at hentered
    obtain ⟨rfl, rfl⟩ := Action.runs_done_iff.1 hentered
    refine .inl ⟨rfl, by decide, fun fs hbrings => ?_⟩
    rw [Brings, hdispatched] at hbrings
    cases hbrings
  | some r' =>
    have hvisitor := h.found (by rw [hdispatched]; exact Option.some_ne_none r')
    simp only [hdispatched] at hentered
    cases hadmits : Site.admits r visitor with
    | false =>
      simp only [hadmits, Bool.false_eq_true, if_false] at hentered
      obtain ⟨rfl, rfl⟩ := Action.runs_done_iff.1 hentered
      exact .inl ⟨rfl, by decide, fun _ _ h => absurd h Bool.false_ne_true⟩
    | true =>
      simp only [hadmits, if_true] at hentered
      rw [hmatches.behind_eq, Entry.dispatch_eq] at hentered
      obtain ⟨as, ts, outcome, rfl, hargs, hrest⟩ := Action.runs_bind_iff.1 hentered
      have hsilent := (entryOf route).spec.silent_arguments _ _ as outcome hargs
      cases outcome with
      | error err =>
        refine .inl ⟨?_, AppError.status_of_runs_respond hrest, fun fs hbrings _ => ?_⟩
        · rw [sentBy_append, hsilent, err.silent_respond ts _ hrest, List.append_nil]
        · exact exists_required_of_arguments_error hroute (hmatches.method_eq hverb) hdispatched
            hbrings hargs
      | ok args =>
        exact .inr ⟨as, ts, (entryOf route).call visitor r' args, rfl, hsilent,
          calls_of_arguments husers hroute hverb hmatches hdispatched hadmits hvisitor hargs, hrest⟩

/-- A POST that is matched to a route of the blog comes to a call of its handler, or else it writes
nothing and is not answered with status 200. -/
theorem uncalled_or_calls (husers : users.Reads) (hroute : route ∈ routes s)
    (hverb : route.verb = .post) (hmatches : (site s users render).Matches r (entryOf route) captured)
    (h : Action.Runs ((site s users render).serve r) es response) :
    ((∀ st ∈ sentBy es, st.IsSelect) ∧ response.status ≠ 200) ∨
      ∃ visitor before hs c, es = before ++ hs ∧
        Calls s users render r route captured visitor before c ∧
        Action.Runs ((route.handler c).run >>= Entry.conclude visitor render) hs response := by
  obtain ⟨visitor, ds, hs, rfl, hvisit⟩ := Site.exists_visit h
  rcases uncalled_or_calls_of_visit husers hroute hverb hmatches hvisit with
    ⟨hsilent, hstatus, -⟩ | ⟨as, ts, c, rfl, -, hcalls, hcall⟩
  · refine .inl ⟨?_, hstatus⟩
    rw [sentBy_append, hsilent, List.append_nil]
    by_cases hdispatched : Site.dispatched? r = none
    · rw [hvisit.lookup_eq_nil hdispatched]
      exact nofun
    · exact Site.reads_currentUser (s := site s users render) husers r ds _
        (hvisit.found hdispatched)
  · exact .inr ⟨visitor, ds ++ as, ts, c, (List.append_assoc _ _ _).symm, hcalls, hcall⟩

end Blog
end Weblog
