import Weblog.Proofs.Blog.Access
import Weblog.Proofs.Blog.Login
import Weblog.Proofs.Gate
import Weblog.Proofs.Route.Access

/-!
# Weblog.Proofs.Blog.Authorization

Who may change what, over every request to the blog.

* `keeps_of_endpoint`: the entry that a request leads to keeps to what its caller may change.
* `reads_or_accesses_behind`: what a request leads to only reads, unless it is a POST.
* `Authorized`: what the statements of a request are, by the user of its session.
* `serve_authorized`: every request is authorized, whatever the directory and the database answer.
-/

namespace Weblog

namespace Blog

variable {s : Settings} {users : Directory} {render : Renderer} {r r' : Http.Request}
  {visitor : Option SessionUser}

theorem Permitted.isChange {st : Statement} (h : Permitted visitor st) : st.IsChange := by
  obtain ⟨c, table, -, hchanges⟩ := h
  exact hchanges.isChange

/-- A handler that is not told the user of the session is permitted no more than the user is. -/
theorem Permitted.of_call {e : Entry} {args : Fields} {st : Statement}
    (h : Permitted (e.call visitor r args).user st) : Permitted visitor st := by
  obtain ⟨c, table, hmay, hchanges⟩ := h
  refine ⟨c, table, ?_, hchanges⟩
  have huser : (e.call visitor r args).user = if e.spec.takesRequest then visitor else none := by
    unfold Entry.call Call.user
    split <;> rfl
  rw [huser] at hmay
  split at hmay
  · exact hmay
  · cases hmay with
    | register => exact .register
    | comment h => cases h
    | post c h => cases h
    | uncomment h => cases h

theorem keeps_of_mem_table {e : Entry} (h : e ∈ table s) : Keeps e.verb e.handler := by
  rw [table_eq] at h
  obtain ⟨route, hroute, rfl⟩ := List.mem_map.1 h
  exact keeps_routes s route hroute

theorem keeps_of_endpoint {page : Option CommonPage} {handlers : Resource}
    {captured : List (List Char)} {e : Entry} {path : List Char}
    (hfind : Branch.find? (site s users render).places path =
      some (.resource page handlers, captured)) {m : Http.Method}
    (he : Place.endpoint? page handlers m = some (.entry e)) :
    Keeps e.verb e.handler ∧ (e.verb = .post → m = .post) := by
  have hmem := Site.mem_resources_of_find? hfind
  obtain ⟨v, hslot, hpost⟩ := Place.slot_of_endpoint? he
  obtain rfl := (site s users render).filed_resources handlers hmem v e hslot
  exact ⟨keeps_of_mem_table ((grouped_resources.slots handlers hmem e).1 hslot).1, hpost⟩

theorem reads_commonPage (p : CommonPage) : p.response.Reads := by
  cases p with
  | health => exact (Action.silent_done _).reads
  | version => exact (Action.silent_done _).reads
  | ready =>
    refine Action.Sends.then_silent Database.reads_ping fun out => ?_
    cases out with
    | ok u => exact Action.silent_done _
    | error e => exact (Action.silent_log _).before fun _ => Action.silent_done _

theorem reads_or_accesses_behind (hrender : render.Offline) :
    ((site s users render).behind r visitor r').Reads ∨
      r.method = .post ∧
        ((site s users render).behind r visitor r').Accesses (Permitted visitor) := by
  have halways : ∀ response, (Site.always response visitor r').Reads :=
    fun _ => (Action.silent_done _).reads
  unfold Site.behind
  rcases hfind : Branch.find? (site s users render).places r.uri.path.toList with
    _ | ⟨_ | ⟨page, handlers⟩, captured⟩
  · exact .inl (halways _)
  · exact .inl (halways _)
  · dsimp only
    rcases hendpoint : Place.endpoint? page handlers r.method with _ | p | e
    · exact .inl (halways _)
    · exact .inl (reads_commonPage p)
    · obtain ⟨hkeeps, hpost⟩ := keeps_of_endpoint hfind hendpoint
      cases hverb : e.verb with
      | get =>
        rw [hverb] at hkeeps
        exact .inl (Entry.sends_dispatch hrender (by simp) (fun args => hkeeps _) _)
      | post =>
        rw [hverb] at hkeeps
        refine .inr ⟨hpost hverb, Entry.sends_dispatch hrender (.reads (by simp)) ?_ _⟩
        intro args
        exact (hkeeps _).mono fun sts h => h.mono fun st hst => hst.of_call

/-- What the statements of a request are, by the user of its session. -/
structure Authorized (r : Http.Request) (visitor : Option SessionUser) (sts : List Statement) :
    Prop where
  known : ∀ st ∈ sts, st.IsSelect ∨ (∃ t : TransactionControl, st = t.statement) ∨
    ∃ c table, st.Changes c table
  posts : ∀ st ∈ sts, ∀ c, st.Changes c "blogs" → Site.isAdmin visitor = true
  removals : ∀ st ∈ sts, st.Changes .delete "comments" → Site.isAdmin visitor = true
  comments : ∀ st ∈ sts, st.Changes .insert "comments" → visitor.isSome = true
  reads : r.method ≠ .post → ∀ st ∈ sts, st.IsSelect
  once : ChangesOnce sts

theorem May.isAdmin_of_blogs {c : Change} {table : String} (h : May visitor c table)
    (htable : table = "blogs") : Site.isAdmin visitor = true := by
  cases h with
  | register => exact absurd htable (by decide)
  | comment _ => exact absurd htable (by decide)
  | post c hadmin => exact hadmin
  | uncomment hadmin => exact hadmin

theorem May.isAdmin_of_delete {table : String} (h : May visitor .delete table) :
    Site.isAdmin visitor = true := by
  cases h with
  | post c hadmin => exact hadmin
  | uncomment hadmin => exact hadmin

theorem May.isSome_of_insert {table : String} (h : May visitor .insert table)
    (htable : table = "comments") : visitor.isSome = true := by
  cases h with
  | register => exact absurd htable (by decide)
  | comment hsigned => exact hsigned
  | post c hadmin => exact absurd htable (by decide)

theorem authorized_of_access {sts : List Statement} (haccess : Access (Permitted visitor) sts)
    (hreads : r.method ≠ .post → ∀ st ∈ sts, st.IsSelect) : Authorized r visitor sts where
  known := by
    intro st hst
    rcases haccess.of_mem hst with hselect | hcontrol | ⟨c, table, -, hchanges⟩
    · exact .inl hselect
    · exact .inr (.inl hcontrol)
    · exact .inr (.inr ⟨c, table, hchanges⟩)
  posts := by
    intro st hst c hc
    obtain ⟨d, table, hmay, hchanges⟩ := haccess.of_isChange hst hc.isChange
    exact hmay.isAdmin_of_blogs (hchanges.unique hc).2
  removals := by
    intro st hst hc
    obtain ⟨d, table, hmay, hchanges⟩ := haccess.of_isChange hst hc.isChange
    obtain ⟨rfl, -⟩ := hchanges.unique hc
    exact hmay.isAdmin_of_delete
  comments := by
    intro st hst hc
    obtain ⟨d, table, hmay, hchanges⟩ := haccess.of_isChange hst hc.isChange
    obtain ⟨rfl, htable⟩ := hchanges.unique hc
    exact hmay.isSome_of_insert htable
  reads := hreads
  once := haccess.changesOnce fun _ => Permitted.isChange

/-- How a request is answered when the user of its session may not see its path. -/
def SentAway (response : Http.Response) : Prop :=
  response.status = 302 ∧
    Http.header? "location" response.headers = some (Text.Utf8.bytesOf "/signin")

/-- Every request, whatever the directory, the database and the clock answer: it is refused for the
length of its body and nothing is asked; or the user of its session is found, and the statements that
follow are authorized. If that user may not see its path, nothing follows and it is sent away;
otherwise it reaches what it leads to. Where the directory only reads, all statements together are
authorized. -/
theorem serve_authorized (hrender : render.Offline) {es : List Exchange} {response : Http.Response}
    (h : Action.Runs ((site s users render).serve r) es response) :
    (Site.dispatched? r = none ∧ es = [] ∧ response.status = 413) ∨
      ∃ visitor ds hs, es = ds ++ hs ∧
        Action.Runs ((site s users render).currentUser r) ds visitor ∧
        Authorized r visitor (sentBy hs) ∧
        (users.Reads → Authorized r visitor (sentBy es)) ∧
        ((Site.isGated r.uri.path = true ∧ Site.isAdmin visitor = false ∧ hs = [] ∧
            SentAway response) ∨
          (Site.isGated r.uri.path = true → Site.isAdmin visitor = true) ∧
            ∃ r' inner, Site.dispatched? r = some r' ∧
              Action.Runs ((site s users render).behind r visitor r') hs inner ∧
              response = (site s users render).finish r inner) := by
  have hcurrent : ∀ {visitor ds}, users.Reads →
      Action.Runs ((site s users render).currentUser r) ds visitor →
      ∀ st ∈ sentBy ds, st.IsSelect :=
    fun husers hvisitor =>
      Site.reads_currentUser (s := site s users render) husers r _ _ hvisitor
  cases Site.runs_serve_iff.1 h with
  | refused hlength => exact .inl ⟨hlength, rfl, Site.status_finish _ r Site.tooLarge⟩
  | @sentAway ds visitor hlength hvisitor hadmits =>
    have hgate : Site.isGated r.uri.path = true ∧ Site.isAdmin visitor = false := by
      simpa [Site.admits] using hadmits
    have hnone : Authorized r visitor [] := authorized_of_access (.reads (by simp)) (by simp)
    refine .inr ⟨visitor, es, [], (List.append_nil es).symm, hvisitor, hnone, ?_, .inl ?_⟩
    · intro husers
      have hreads := hcurrent husers hvisitor
      exact authorized_of_access (.reads hreads) fun _ => hreads
    · exact ⟨hgate.1, hgate.2, rfl, Site.status_finish _ r _, Site.header?_finish rfl _ r⟩
  | @reached ds hs visitor r' inner hlength hvisitor hadmits hbehind =>
    have haccess : Access (Permitted visitor) (sentBy hs) ∧
        (r.method ≠ .post → ∀ st ∈ sentBy hs, st.IsSelect) := by
      rcases reads_or_accesses_behind hrender with hreads | ⟨hmethod, haccesses⟩
      · have hreads := hreads hs inner hbehind
        exact ⟨.reads hreads, fun _ => hreads⟩
      · exact ⟨haccesses hs inner hbehind, fun hne => absurd hmethod hne⟩
    have hgate : Site.isGated r.uri.path = true → Site.isAdmin visitor = true := by
      intro hgated
      simpa [Site.admits, hgated] using hadmits
    refine .inr ⟨visitor, ds, hs, rfl, hvisitor, authorized_of_access haccess.1 haccess.2, ?_,
      .inr ⟨hgate, r', inner, hlength, hbehind, rfl⟩⟩
    intro husers
    have hreads := hcurrent husers hvisitor
    rw [sentBy_append]
    exact authorized_of_access (haccess.1.after_reads hreads) fun hmethod =>
      List.forall_mem_append.2 ⟨hreads, haccess.2 hmethod⟩

/-- A request for a page of the administrators, without a cookie. -/
def uninvited : Http.Request := .make .get ⟨"", "/manage/blogs", none⟩ [] .empty

theorem serve_authorized_ann :
    (ann.insertion ∈ sentBy annSignup ∧
      Authorized (annForm "/api/users") none (sentBy annSignup)) ∧
    ∃ response, Action.Runs ((annSite 86400).serve uninvited) [] response ∧ SentAway response := by
  have hrender : Renderer.Offline fun _ _ => pure "" := fun _ _ => Fallible.silent_pure _
  constructor
  · refine ⟨insertion_mem_annSignup, ?_⟩
    rcases serve_authorized hrender (runs_annSignup 86400) with
      ⟨-, hnone, -⟩ | ⟨visitor, ds, hs, hes, hvisitor, hauthorized, -, -⟩
    · cases hnone
    · obtain ⟨rfl, rfl⟩ := Action.runs_done_iff.1 hvisitor
      rw [hes]
      exact hauthorized
  · have haway := Site.runs_serve_iff.2 (.sentAway (s := annSite 86400) (r := uninvited)
      (by decide) .done (by decide))
    refine ⟨_, haway, ?_⟩
    rcases serve_authorized hrender haway with
      ⟨hlength, -, -⟩ | ⟨visitor, ds, hs, hes, hvisitor, -, -, ⟨-, -, -, hsent⟩ | ⟨hgate, -⟩⟩
    · exact absurd hlength (by decide)
    · exact hsent
    · obtain ⟨rfl, rfl⟩ := Action.runs_done_iff.1 hvisitor
      exact absurd (hgate (by decide)) (by decide)

end Blog
end Weblog
