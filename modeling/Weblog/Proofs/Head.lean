import Weblog.Proofs.Gate
import Weblog.Proofs.Route.Formats

/-!
# Weblog.Proofs.Head

A request for the head of a response, next to the GET that it goes with.

* `Entry.seen`: what an entry may see of a query.
* `dispatch_of_get`, `dispatch_of_head`: the entry of a GET receives this with the parameters of the
  path laid over, and that of a HEAD the parameters alone.
* `Arguments.overlaid_eq_overlaid_nil_iff`: when these are the same arguments.
* `Entry.IgnoresMethod`: the handler answers whatever the method of its request is.
* `runs_asHead`, `serve_asHead_of_missing`: where the two agree, and where the HEAD is refused.
* `heads_compared`: both requests side by side, for every entry of GET.
* `unlike_head`: a name that stands in the query alone is missing for the HEAD.
-/

namespace Weblog

/-- The same request for the head of the response. -/
def Http.Request.asHead (r : Http.Request) : Http.Request := { r with method := .head }

def Http.Response.bare (response : Http.Response) : Http.Response := { response with body := [] }

namespace Arguments

theorem isSome_lookup_reverse_iff {path : List (String × String)} {name : String} :
    (path.reverse.lookup name).isSome = true ↔ name ∈ path.map Prod.fst := by
  rw [Option.isSome_iff_ne_none, ne_eq, List.lookup_eq_none_iff]
  simp [@eq_comm _ name]

theorem has_overlaid_nil_iff {path : List (String × String)} {name : String} :
    Fields.has name (overlaid path []) = true ↔ name ∈ path.map Prod.fst := by
  rw [Fields.has, get?_overlaid_reverse, ← isSome_lookup_reverse_iff]
  simp

/-- Parameters that are laid over fields are all there is exactly if each field has the name of one
of them. -/
theorem overlaid_eq_overlaid_nil_iff {fs : Fields} (h : fs.Sorted) (path : List (String × String)) :
    overlaid path fs = overlaid path [] ↔
      ∀ name, Fields.has name fs = true → name ∈ path.map Prod.fst := by
  constructor
  · intro heq name hname
    by_cases hpath : name ∈ path.map Prod.fst
    · exact hpath
    · have hfs := get?_overlaid_of_not_mem hpath fs
      rw [heq, get?_overlaid_of_not_mem hpath, Fields.get?_nil] at hfs
      simp [Fields.has, ← hfs] at hname
  · intro hnames
    refine (sorted_overlaid h path).ext (sorted_overlaid Fields.sorted_nil path) ?_
    intro name
    by_cases hpath : name ∈ path.map Prod.fst
    · obtain ⟨text, htext⟩ := Option.isSome_iff_exists.1 (isSome_lookup_reverse_iff.2 hpath)
      rw [get?_overlaid_reverse, get?_overlaid_reverse, htext]
      rfl
    · have hnone : Fields.get? name fs = none := by
        have := mt (hnames name) hpath
        simpa [Fields.has] using this
      rw [get?_overlaid_of_not_mem hpath, get?_overlaid_of_not_mem hpath, hnone, Fields.get?_nil]

end Arguments

namespace Entry

variable {e : Entry} {r : Http.Request}

/-- What an entry may see of the query of a request. -/
def seen (e : Entry) (r : Http.Request) : Fields :=
  if e.spec.readsInput then e.spec.keep ((Arguments.queryFields r.uri.query).getD []) else []

theorem sorted_seen (e : Entry) (r : Http.Request) : (e.seen r).Sorted := by
  rw [seen, Arguments.queryFields_getD]
  split
  · exact e.spec.sorted_keep (Arguments.sorted_ofPairs _)
  · exact Fields.sorted_nil

/-- The handler answers whatever the method of its request is. -/
def IgnoresMethod (e : Entry) : Prop :=
  ∀ (c : Call) (m : Http.Method),
    e.handler { c with request := c.request.map fun x => { x with method := m } } = e.handler c

theorem exists_input_of_get (hmethod : r.method = .get) :
    ∃ input, e.spec.input r = .ok input ∧ e.spec.keep (input.getD []) = e.seen r := by
  rw [ArgSpec.input, seen]
  split
  · rw [Arguments.inputFields, hmethod]
    exact ⟨_, rfl, rfl⟩
  · exact ⟨none, rfl, e.spec.keep_nil⟩

theorem input_of_head (hmethod : r.method = .head) : e.spec.input r = .ok none := by
  rw [ArgSpec.input]
  split
  · rw [Arguments.inputFields, hmethod]
  · rfl

theorem dispatch_of_get (hmethod : r.method = .get) (path : List (String × String)) :
    ∃ noted : List (String × String), noted.Sublist path ∧ ∀ user render,
      e.dispatch user render path r =
        noted.forM (fun _ => Action.log .duplicateArgument) >>= fun _ =>
          e.receive user render r (Arguments.overlaid path (e.seen r)) := by
  obtain ⟨input, hinput, hseen⟩ := exists_input_of_get (e := e) hmethod
  rw [← hseen]
  exact exists_dispatch_eq hinput path

/-- No query is read of a HEAD. -/
theorem dispatch_of_head (hmethod : r.method = .head) (path : List (String × String))
    (user : Option SessionUser) (render : Renderer) :
    e.dispatch user render path r = e.receive user render r (Arguments.overlaid path []) := by
  rw [dispatch_eq, ArgSpec.run_arguments_of_none (input_of_head hmethod), Action.done_bind,
    ArgSpec.settle, receive]
  cases e.spec.missing? (Arguments.overlaid path []) <;> rfl

theorem IgnoresMethod.receive_eq (h : e.IgnoresMethod) (user : Option SessionUser)
    (render : Renderer) (args : Fields) :
    e.receive user render r.asHead args = e.receive user render r args := by
  have hcall : e.handler (e.call user r.asHead args) = e.handler (e.call user r args) := by
    rw [← h (e.call user r args) .head, call, call]
    cases e.spec.takesRequest <;> rfl
  simp only [receive, answer, hcall]

end Entry

/-- All that is asked for the sake of notes are lines of the log. -/
theorem Action.effect_of_runs_notes {α : Type} {k : LogEntry} {xs : List α} {es : List Exchange}
    {u : Unit} (h : Runs (xs.forM fun _ => Action.log k) es u) :
    ∀ x ∈ es, x.effect = .log k := by
  induction xs generalizing es with
  | nil =>
    obtain ⟨rfl, -⟩ := runs_done_iff.1 h
    exact List.forall_mem_nil _
  | cons y rest ih =>
    obtain ⟨answer, es, rfl, hrest⟩ := runs_ask_iff.1 h
    exact List.forall_mem_cons.2 ⟨rfl, ih hrest⟩

namespace Site

variable {s : Site} {r : Http.Request} {e : Entry} {captured : List (List Char)}
  {es : List Exchange} {response : Http.Response}

/-- The router matches a HEAD like the GET of the same path. -/
theorem Matches.asHead (h : s.Matches r e captured) (hmethod : r.method = .get) :
    s.Matches r.asHead e captured := by
  obtain ⟨page, handlers, hpath, hfind, hendpoint⟩ := h.found
  refine ⟨page, handlers, hpath, hfind, ?_⟩
  rw [hmethod] at hendpoint
  cases page <;> exact hendpoint

theorem passing_asHead (s : Site) (r : Http.Request)
    (inner : Option SessionUser → Action Http.Response) :
    s.passing r.asHead inner = s.passing r inner := rfl

theorem serve_of_get (h : s.Matches r e captured) (hmethod : r.method = .get) :
    ∃ noted : List (String × String), noted.Sublist (e.parameters captured) ∧
      s.serve r = s.passing r fun user =>
        noted.forM (fun _ => Action.log .duplicateArgument) >>= fun _ =>
          e.receive user s.render r (Arguments.overlaid (e.parameters captured) (e.seen r)) := by
  obtain ⟨noted, hsub, hdispatch⟩ :=
    Entry.dispatch_of_get (e := e) (r := clipped r) hmethod (e.parameters captured)
  refine ⟨noted, hsub, ?_⟩
  rw [h.serve_eq, Http.Response.forMethod_eq_id (by simp [hmethod]), id_map]
  congr 1
  funext user
  exact hdispatch user s.render

theorem serve_of_head (h : s.Matches r e captured) (hmethod : r.method = .head) :
    s.serve r = Http.Response.bare <$> s.passing r fun user =>
      e.receive user s.render r (Arguments.overlaid (e.parameters captured) []) := by
  have hbare : Http.Response.forMethod r.method = Http.Response.bare := by
    funext response
    rw [Http.Response.forMethod, hmethod]
    rfl
  rw [h.serve_eq, hbare]
  congr 2
  funext user
  exact Entry.dispatch_of_head (r := clipped r) hmethod _ user s.render

/-- Without its notes a run is one of what would not have noted anything. -/
theorem runs_passing_of_noted {noted : List (String × String)}
    {inner : Option SessionUser → Action Http.Response}
    (h : Action.Runs (s.passing r fun user =>
      noted.forM (fun _ => Action.log .duplicateArgument) >>= fun _ => inner user) es response) :
    ∃ ds ns hs, es = ds ++ ns ++ hs ∧ (∀ x ∈ ns, x.effect = .log .duplicateArgument) ∧
      Action.Runs (s.passing r inner) (ds ++ hs) response := by
  -- the notes stand behind the gate, between what finds the visitor and what the entry asks
  unfold passing at h ⊢
  by_cases hlong : Arguments.bodyLimit < allowance r
  · rw [if_pos hlong] at h ⊢
    obtain ⟨rfl, rfl⟩ := Action.runs_done_iff.1 h
    exact ⟨[], [], [], rfl, List.forall_mem_nil _, .done⟩
  · rw [if_neg hlong, gate] at h ⊢
    obtain ⟨ds, rest, visitor, rfl, hvisitor, hrest⟩ := Action.runs_bind_iff.1 h
    cases hadmits : admits r visitor with
    | true =>
      simp only [hadmits, if_true] at hrest
      obtain ⟨ns, hs, u, rfl, hnotes, hinner⟩ := Action.runs_bind_iff.1 hrest
      refine ⟨ds, ns, hs, (List.append_assoc _ _ _).symm,
        Action.effect_of_runs_notes hnotes, hvisitor.bind ?_⟩
      simpa only [hadmits, if_true] using hinner
    | false =>
      simp only [hadmits, Bool.false_eq_true, if_false] at hrest
      refine ⟨ds, [], rest, by simp, List.forall_mem_nil _, hvisitor.bind ?_⟩
      simpa only [hadmits, Bool.false_eq_true, if_false] using hrest

theorem serve_asHead (h : s.Matches r e captured) (hmethod : r.method = .get) :
    s.serve r.asHead = Http.Response.bare <$> s.passing r fun user =>
      e.receive user s.render r.asHead (Arguments.overlaid (e.parameters captured) []) := by
  rw [serve_of_head (h.asHead hmethod) rfl, passing_asHead]

/-- Where all that is seen of the query stands in the path as well and the method is not looked at,
a run of the GET is one of the HEAD, but for its notes and the body. -/
theorem runs_asHead (h : s.Matches r e captured) (hmethod : r.method = .get)
    (hignores : e.IgnoresMethod) (hnames : ∀ name, Fields.has name (e.seen r) = true →
      name ∈ (e.parameters captured).map Prod.fst)
    (hruns : Action.Runs (s.serve r) es response) :
    ∃ ds ns hs, es = ds ++ ns ++ hs ∧ (∀ x ∈ ns, x.effect = .log .duplicateArgument) ∧
      Action.Runs (s.serve r.asHead) (ds ++ hs) response.bare := by
  obtain ⟨noted, -, hget⟩ := serve_of_get h hmethod
  rw [hget, (Arguments.overlaid_eq_overlaid_nil_iff (e.sorted_seen r) _).2 hnames] at hruns
  obtain ⟨ds, ns, hs, rfl, hnotes, hrest⟩ := runs_passing_of_noted hruns
  refine ⟨ds, ns, hs, rfl, hnotes, ?_⟩
  rw [serve_asHead h hmethod, Action.runs_map_iff]
  simp only [hignores.receive_eq]
  exact ⟨response, hrest, rfl⟩

/-- A required name that is no parameter of the path is missing for the HEAD. -/
theorem serve_asHead_of_missing (h : s.Matches r e captured) (hmethod : r.method = .get)
    {name : String} (hrequired : name ∈ e.spec.required)
    (hname : name ∉ (e.parameters captured).map Prod.fst) :
    ∃ first ∈ e.spec.required, first ∉ (e.parameters captured).map Prod.fst ∧
      s.serve r.asHead = Http.Response.bare <$> s.passing r fun _ =>
        (AppError.missingArgument first).respond := by
  have hmissing : (e.spec.missing? (Arguments.overlaid (e.parameters captured) [])).isSome :=
    List.find?_isSome.2 ⟨name, hrequired, by
      simpa using mt Arguments.has_overlaid_nil_iff.1 hname⟩
  obtain ⟨first, hfirst⟩ := Option.isSome_iff_exists.1 hmissing
  refine ⟨first, List.mem_of_find?_eq_some hfirst, ?_, ?_⟩
  · intro hpath
    have hnot := List.find?_some hfirst
    simp [Arguments.has_overlaid_nil_iff.2 hpath] at hnot
  · rw [serve_asHead h hmethod]
    simp only [Entry.receive, hfirst]

/-- For every site and every GET that is matched to an entry: the HEAD for the same is matched to it
as well. The entry receives what it may see of the query, with the parameters of the path laid over,
for the GET, and the parameters alone for the HEAD, whose response loses its body; else nothing
differs. These are the same arguments exactly if every name that is seen is one of a parameter. Then
the HEAD has the status and the headers of the GET and asks the same of the world, but for notes in
the log, where the handler does not look at the method. A required name that is no parameter is
missing for the HEAD, whatever the query says, and the handler is not called. -/
theorem heads_compared (h : s.Matches r e captured) (hmethod : r.method = .get) :
    s.Matches r.asHead e captured ∧
    (∃ noted : List (String × String), noted.Sublist (e.parameters captured) ∧
      s.serve r = s.passing r fun user =>
        noted.forM (fun _ => Action.log .duplicateArgument) >>= fun _ =>
          e.receive user s.render r (Arguments.overlaid (e.parameters captured) (e.seen r))) ∧
    s.serve r.asHead = Http.Response.bare <$> s.passing r (fun user =>
      e.receive user s.render r.asHead (Arguments.overlaid (e.parameters captured) [])) ∧
    (Arguments.overlaid (e.parameters captured) (e.seen r) =
        Arguments.overlaid (e.parameters captured) [] ↔
      ∀ name, Fields.has name (e.seen r) = true →
        name ∈ (e.parameters captured).map Prod.fst) ∧
    ((∀ name, Fields.has name (e.seen r) = true →
        name ∈ (e.parameters captured).map Prod.fst) → e.IgnoresMethod →
      ∀ es response, Action.Runs (s.serve r) es response → ∃ ds ns hs, es = ds ++ ns ++ hs ∧
        (∀ x ∈ ns, x.effect = .log .duplicateArgument) ∧
        Action.Runs (s.serve r.asHead) (ds ++ hs) response.bare) ∧
    ((∃ name ∈ e.spec.required, name ∉ (e.parameters captured).map Prod.fst) →
      ∃ name ∈ e.spec.required, name ∉ (e.parameters captured).map Prod.fst ∧
        s.serve r.asHead = Http.Response.bare <$> s.passing r fun _ =>
          .done (.json 400 (.ofFields [("error", .string "value:missing"),
            ("data", .string name), ("message", .string ("Missing argument: " ++ name))]))) := by
  refine ⟨h.asHead hmethod, serve_of_get h hmethod, serve_asHead h hmethod,
    Arguments.overlaid_eq_overlaid_nil_iff (e.sorted_seen r) _, ?agreeing, ?refused⟩
  case agreeing =>
    intro hnames hignores es response
    exact runs_asHead h hmethod hignores hnames
  case refused =>
    rintro ⟨name, hrequired, hname⟩
    exact serve_asHead_of_missing h hmethod hrequired hname

end Site

/-- A route whose name stands in its path. -/
def shownRoute : Route :=
  (Route.get "/h/\x7bid\x7d" fun _ => pure (.text "shown")).keyword "id"

def shownEntry : Entry := ⟨.get, "/h/:id", shownRoute.signature.spec, shownRoute.handler⟩

def shownRequest : Http.Request := .make .get ⟨"", "/h/5", some "id=6&page=2"⟩ [] .empty

theorem heads_compared_shown :
    (Site.only shownRoute).serve shownRequest.asHead =
        .done (Http.Response.bare (.text 200 "text/html;charset=utf-8" "shown")) ∧
      ∀ es response, Action.Runs ((Site.only shownRoute).serve shownRequest) es response →
        (∀ x ∈ es, x.effect = .log .duplicateArgument) ∧ response.status = 200 := by
  have hmatched : (Site.only shownRoute).Matches shownRequest shownEntry [['5']] :=
    Site.matches_only ⟨rfl, rfl, by decide +kernel, rfl⟩ (by decide) (.inl ⟨rfl, rfl⟩)
      (by decide +kernel)
  have hparameters : shownEntry.parameters [['5']] = [("id", "5")] := by decide +kernel
  have hseen : shownEntry.seen shownRequest = [("id", .string "6")] := rfl
  obtain ⟨-, -, hhead, -, hagree, -⟩ := Site.heads_compared hmatched rfl
  have hserved : (Site.only shownRoute).serve shownRequest.asHead =
      .done (Http.Response.bare (.text 200 "text/html;charset=utf-8" "shown")) := by
    rw [hhead, Site.passing_of_anonymous (Nat.le_refl _) rfl (by decide +kernel), hparameters]
    rfl
  refine ⟨hserved, ?_⟩
  intro es response hruns
  have hnames : ∀ name, Fields.has name (shownEntry.seen shownRequest) = true →
      name ∈ (shownEntry.parameters [['5']]).map Prod.fst := by
    intro name hname
    rw [hseen, Fields.has, Fields.get?_cons] at hname
    rw [hparameters]
    by_cases hid : "id" = name <;> simp_all
  obtain ⟨ds, ns, hs, rfl, hnotes, hrest⟩ := hagree hnames (fun _ _ => rfl) es response hruns
  rw [hserved] at hrest
  obtain ⟨hnil, hresponse⟩ := Action.runs_done_iff.1 hrest
  obtain ⟨rfl, rfl⟩ := List.append_eq_nil_iff.1 hnil
  exact ⟨by simpa using hnotes, congrArg Http.Response.status hresponse⟩

/-- A route whose name stands in the query. -/
def soughtRoute : Route := (Route.get "/h" fun _ => pure (.text "read")).keyword "name"

def soughtEntry : Entry := ⟨.get, "/h", soughtRoute.signature.spec, soughtRoute.handler⟩

def soughtRequest : Http.Request := .make .get ⟨"", "/h", some "name=a"⟩ [] .empty

/-- A name that stands in the query alone is missing for the HEAD. -/
theorem unlike_head :
    (Site.only soughtRoute).serve soughtRequest =
        .done (.text 200 "text/html;charset=utf-8" "read") ∧
      (Site.only soughtRoute).serve soughtRequest.asHead =
        .done (Http.Response.bare (.json 400 (.ofFields [("error", .string "value:missing"),
          ("data", .string "name"), ("message", .string "Missing argument: name")]))) := by
  have hmatched : (Site.only soughtRoute).Matches soughtRequest soughtEntry [] :=
    Site.matches_only ⟨rfl, rfl, by decide +kernel, rfl⟩ (by decide) (.inl ⟨rfl, rfl⟩)
      (by decide +kernel)
  have hread : ∀ inner, (Site.only soughtRoute).passing soughtRequest inner = inner none :=
    Site.passing_of_anonymous (Nat.le_refl _) rfl (by decide +kernel)
  refine ⟨?got, ?headed⟩
  case got =>
    obtain ⟨noted, hsub, hget⟩ := Site.serve_of_get hmatched rfl
    obtain rfl := List.sublist_nil.1 hsub
    rw [hget, hread]
    rfl
  case headed =>
    rw [Site.serve_of_head (hmatched.asHead rfl) rfl, Site.passing_asHead, hread]
    rfl

end Weblog
