import Weblog.Proofs.Blog.Authorization
import Weblog.Proofs.Blog.Inserts
import Weblog.Proofs.Blog.Requests

/-!
# Weblog.Proofs.Blog.Provenance

Where the values of a new row come from, over every request to the blog.

* `writes_serve`: every write behind a request is one of the handler that it reaches, called with the
  texts that the request has and with the user of its session.
* `inserts_serve`: every insert among them is one of the three that handlers make.
* `Traced`: the values that an insert binds, in the order of the columns.
* `serve_congr`: what a POST leads to depends on the declared names of its body and on nothing else
  in it.
* `inserts_traced`: both, for every POST.
-/

namespace Weblog
namespace Blog

open Fallible

variable {s : Settings} {users : Directory} {render : Renderer} {r r' : Http.Request}
  {es : List Exchange} {before : List Exchange} {st : Statement}

/-- The user of the session of a request was found at the beginning of these exchanges. -/
def Visited (s : Settings) (users : Directory) (render : Renderer) (r : Http.Request)
    (user : SessionUser) (es : List Exchange) : Prop :=
  ∃ ds rest, es = ds ++ rest ∧ Action.Runs ((site s users render).currentUser r) ds (some user)

theorem Origin.after {names : List String} {c : Call} (h : Origin s names c before st)
    (first : List Exchange) : Origin s names c (first ++ before) st := by
  cases h with
  | user earlier hnames hcheck =>
    rw [← List.append_assoc]
    exact .user _ hnames hcheck
  | post earlier hnames huser hname hname' hsummary hsummary' hcontent hcontent' =>
    rw [← List.append_assoc]
    exact .post _ hnames huser hname hname' hsummary hsummary' hcontent hcontent'
  | comment earlier hnames huser hid hfound hcontent hcontent' =>
    rw [← List.append_assoc]
    exact .comment _ hnames huser hid (hfound.mono (List.subset_append_right _ _)) hcontent hcontent'

/-- An insert of a handler that a request reaches, called with the texts of the request and the user
of its session. -/
def Asked (s : Settings) (users : Directory) (render : Renderer) (r : Http.Request)
    (before : List Exchange) (st : Statement) : Prop :=
  ∃ route ∈ routes s, ∃ captured c, (site s users render).Matches r (entryOf route) captured ∧
    (∀ name ∈ (entryOf route).spec.named,
      c.text name = requested? (entryOf route) captured r name) ∧
    (∀ user, c.user = some user → Visited s users render r user before) ∧
    Origin s (entryOf route).spec.named c before st

theorem user_call {e : Entry} {visitor : Option SessionUser} {args : Fields} {user : SessionUser}
    (h : (e.call visitor r args).user = some user) : visitor = some user := by
  unfold Entry.call Call.user at h
  split at h
  · exact h
  · cases h

/-- A statement of the handler that a request reaches, called with the texts of the request and the
user of its session. -/
def Handled (s : Settings) (users : Directory) (render : Renderer) (r : Http.Request)
    (before : List Exchange) (st : Statement) : Prop :=
  ∃ route ∈ routes s, ∃ captured c, (site s users render).Matches r (entryOf route) captured ∧
    (∀ name ∈ (entryOf route).spec.named,
      c.text name = requested? (entryOf route) captured r name) ∧
    (∀ user, c.user = some user → Visited s users render r user before) ∧
    ∃ first earlier y later outcome, before = first ++ earlier ∧ y.effect = .run st ∧
      Action.Runs (route.handler c).run (earlier ++ y :: later) outcome

/-- Only the handler that a POST reaches does not merely read. -/
theorem writes_serve (husers : users.Reads) (hrender : render.Offline) (hmethod : r.method = .post) :
    ((site s users render).serve r).Writes (Handled s users render r) := by
  have hcurrent : ∀ Q, ((site s users render).currentUser r).Writes Q := fun Q =>
    writes_of_reads (Site.reads_currentUser (s := site s users render) husers r)
  intro es response h
  cases Site.runs_serve_iff.1 h with
  | refused _ => exact .nil
  | sentAway _ hvisitor _ => exact hcurrent _ es _ hvisitor
  | @reached ds hs visitor r' inner hdispatched hvisitor _ hbehind =>
    refine EachAfter.append_iff.2 ⟨hcurrent _ ds _ hvisitor, ?_⟩
    rcases behind_cases s users render r with ⟨fixed, hfixed⟩ | ⟨p, hpage⟩ |
      ⟨route, hroute, captured, hmatches⟩
    · rw [hfixed] at hbehind
      obtain ⟨rfl, -⟩ := Action.runs_done_iff.1 hbehind
      exact .nil
    · rw [hpage] at hbehind
      exact writes_of_reads (reads_commonPage p) hs inner hbehind
    · rw [hmatches.behind_eq] at hbehind
      rcases Entry.of_runs_dispatch hrender hbehind with
        hnone | ⟨before, fs, after, args, outcome, rfl, hargs, hbefore, hhandler, hafter⟩
      · exact .of_unsent hnone
      · refine EachAfter.append_iff.2
          ⟨EachAfter.append_iff.2 ⟨.of_unsent hbefore, ?_⟩, .of_unsent hafter⟩
        rintro earlier y later rfl st hy -
        refine ⟨route, hroute, captured, _, hmatches, ?_, ?_, ds ++ before, earlier, y, later, outcome,
          (List.append_assoc ds before earlier).symm, hy, hhandler⟩
        · intro name hname
          exact text_of_arguments hroute hmethod hdispatched hargs hname _ _
        · intro user huser
          exact ⟨ds, before ++ earlier, rfl, user_call huser ▸ hvisitor⟩

/-- Every insert behind a POST is one of a handler. -/
theorem inserts_serve (husers : users.Reads) (hrender : render.Offline) (hmethod : r.method = .post) :
    ((site s users render).serve r).Inserts (Asked s users render r) := by
  intro es response h before x after hes st hx table hinsert
  obtain ⟨route, hroute, captured, c, hmatches, htext, hvisited, first, earlier, y, later, outcome,
    rfl, hy, hhandler⟩ := writes_serve husers hrender hmethod es response h before x after hes st hx
      fun hselect => hselect.not_isChange hinsert.isChange
  have horigin := inserts_routes s route hroute c _ outcome hhandler earlier y later rfl st hy table
    hinsert
  exact ⟨route, hroute, captured, c, hmatches, htext, hvisited, horigin.after first⟩

/-- A text that the body of a request carries, without the white space at its ends. -/
def trimmed (r : Http.Request) (name : String) : String :=
  Text.trim ((Site.carried? r name).getD "")

theorem textOr_eq_carried {route : Route} (hroute : route ∈ routes s) {captured : List (List Char)}
    {c : Call} {name : String}
    (htext : c.text name = requested? (entryOf route) captured r name) (hne : name ≠ "id") :
    c.textOr name "" = (Site.carried? r name).getD "" := by
  rw [Call.textOr, htext, requested?_of_ne hroute captured hne]

/-- The values that an insert binds, in the order of the columns, and where they come from. -/
structure Traced (s : Settings) (users : Directory) (render : Renderer) (r : Http.Request)
    (before : List Exchange) (st : Statement) : Prop where
  nothingElse : ∀ table, st.Changes .insert table →
    table = "users" ∨ table = "blogs" ∨ table = "comments"
  registrations : st.Changes .insert "users" →
    ∃ (earlier : List Exchange) (millis created : Int) (uuid : List UInt8) (uid : String),
      uid = Stamp.idText millis uuid ∧
      before = earlier ++ (⟨.clock, millis⟩ :: ⟨.uuid, uuid⟩ :: ⟨.clock, created⟩ ::
        Database.opening s.autocommit) ∧
      Text.isBlankText (asked r).name = false ∧ isEmail (asked r).email = true ∧
      isDigest (asked r).passwd = true ∧
      st = ⟨Sql.native User.schema.insertSql,
        [.text (asked r).email, .text (passwordHash uid (asked r).passwd), .bool false,
          .text (Text.trim (asked r).name), .text (gravatar (asked r).email),
          .float (Stamp.secondsOf created), .text uid]⟩
  posts : st.Changes .insert "blogs" →
    ∃ (user : SessionUser) (earlier : List Exchange) (created millis : Int) (uuid : List UInt8),
      Visited s users render r user before ∧
      before = earlier ++ (⟨.clock, created⟩ :: ⟨.clock, millis⟩ :: ⟨.uuid, uuid⟩ ::
        Database.opening s.autocommit) ∧
      trimmed r "name" ≠ "" ∧ trimmed r "summary" ≠ "" ∧ trimmed r "content" ≠ "" ∧
      st = ⟨Sql.native Post.schema.insertSql,
        [.text user.id, .text user.name, .text user.image, .text (trimmed r "name"),
          .text (trimmed r "summary"), .text (trimmed r "content"),
          .float (Stamp.secondsOf created), .text (Stamp.idText millis uuid)]⟩
  comments : st.Changes .insert "comments" →
    ∃ (user : SessionUser) (earlier : List Exchange) (created millis : Int) (uuid : List UInt8)
        (id : String) (post : Post),
      Visited s users render r user before ∧
      (∃ e captured, (site s users render).Matches r e captured ∧
        requested? e captured r "id" = some id) ∧
      FindsPost id post earlier ∧
      before = earlier ++ (⟨.clock, created⟩ :: ⟨.clock, millis⟩ :: ⟨.uuid, uuid⟩ ::
        Database.opening s.autocommit) ∧
      trimmed r "content" ≠ "" ∧
      st = ⟨Sql.native Comment.schema.insertSql,
        [.text (post.id.getD id), .text user.id, .text user.name, .text user.image,
          .text (trimmed r "content"), .float (Stamp.secondsOf created),
          .text (Stamp.idText millis uuid)]⟩

theorem Traced.of_not_insert (h : ∀ table, ¬ st.Changes .insert table) :
    Traced s users render r before st where
  nothingElse table hc := absurd hc (h table)
  registrations hc := absurd hc (h _)
  posts hc := absurd hc (h _)
  comments hc := absurd hc (h _)

theorem Registration.check_ok {q : Registration} (h : q.check = .ok ()) :
    Text.isBlankText q.name = false ∧ isEmail q.email = true ∧ isDigest q.passwd = true := by
  obtain ⟨hemail, hdigest⟩ := isEmail_of_check h
  refine ⟨?_, hemail, hdigest⟩
  unfold check at h
  split at h
  · cases h
  · rename_i hblank
    simpa using hblank

theorem traced_of_asked (h : Asked s users render r before st) :
    Traced s users render r before st := by
  obtain ⟨route, hroute, captured, c, hmatches, htext, hvisited, horigin⟩ := h
  have hcarried : ∀ name ∈ (entryOf route).spec.named, name ≠ "id" →
      c.textOr name "" = (Site.carried? r name).getD "" := fun name hname hne =>
    textOr_eq_carried hroute (htext name hname) hne
  have htrimmed : ∀ name ∈ (entryOf route).spec.named, name ≠ "id" →
      Text.trim (c.textOr name "") = trimmed r name := fun name hname hne =>
    congrArg Text.trim (hcarried name hname hne)
  cases horigin with
  | @user earlier millis created uuid hnames hcheck =>
    have hasked : registrationOf c = asked r := by
      rw [registrationOf, asked, hcarried "name" (hnames (by simp)) (by decide),
        hcarried "email" (hnames (by simp)) (by decide),
        hcarried "passwd" (hnames (by simp)) (by decide)]
    rw [hasked] at hcheck ⊢
    obtain ⟨hname, hemail, hdigest⟩ := Registration.check_ok hcheck
    have hinsert : (Draft.insertion ((asked r).enrolled millis uuid created)).Changes .insert
        "users" := User.schema.changes_insertSql _
    exact
      { nothingElse := fun table hc => .inl (hinsert.unique hc).2.symm
        registrations := fun _ => ⟨earlier, millis, created, uuid, _, rfl, rfl, hname, hemail,
          hdigest, rfl⟩
        posts := fun hc => absurd (hinsert.unique hc).2 (by decide)
        comments := fun hc => absurd (hinsert.unique hc).2 (by decide) }
  | @post earlier created millis uuid user name summary content hnames huser hname hname' hsummary
      hsummary' hcontent hcontent' =>
    rw [htrimmed "name" (hnames (by simp)) (by decide)] at hname
    rw [htrimmed "summary" (hnames (by simp)) (by decide)] at hsummary
    rw [htrimmed "content" (hnames (by simp)) (by decide)] at hcontent
    subst hname hsummary hcontent
    have hinsert : (Draft.insertion (Draft.stamped (newPost user (trimmed r "name")
        (trimmed r "summary") (trimmed r "content")) (Stamp.idText millis uuid)
        (Stamp.secondsOf created))).Changes .insert "blogs" := Post.schema.changes_insertSql _
    exact
      { nothingElse := fun table hc => .inr (.inl (hinsert.unique hc).2.symm)
        registrations := fun hc => absurd (hinsert.unique hc).2 (by decide)
        posts := fun _ => ⟨user, earlier, created, millis, uuid, hvisited user huser, rfl, hname',
          hsummary', hcontent', rfl⟩
        comments := fun hc => absurd (hinsert.unique hc).2 (by decide) }
  | @comment earlier created millis uuid user id content post hnames huser hid hfound hcontent
      hcontent' =>
    rw [htrimmed "content" (hnames (by simp)) (by decide)] at hcontent
    rw [htext "id" (hnames (by simp))] at hid
    subst hcontent
    have hinsert : (Draft.insertion (Draft.stamped (newComment user (post.id.getD id)
        (trimmed r "content")) (Stamp.idText millis uuid) (Stamp.secondsOf created))).Changes
        .insert "comments" := Comment.schema.changes_insertSql _
    exact
      { nothingElse := fun table hc => .inr (.inr (hinsert.unique hc).2.symm)
        registrations := fun hc => absurd (hinsert.unique hc).2 (by decide)
        posts := fun hc => absurd (hinsert.unique hc).2 (by decide)
        comments := fun _ => ⟨user, earlier, created, millis, uuid, id, post, hvisited user huser,
          ⟨_, captured, hmatches, hid⟩, hfound, rfl, hcontent', rfl⟩ }

/-! ## What a request leads to depends on the declared names alone -/

/-- The handler of a POST sees its arguments and the user of the session, and nothing else. -/
def SeesArguments (verb : Verb) (handler : Handler) : Prop :=
  verb = .post → ∀ (args : Fields) (seen seen' : Option RequestContext),
    seen.bind RequestContext.user = seen'.bind RequestContext.user →
    handler ⟨args, seen⟩ = handler ⟨args, seen'⟩

theorem seesArguments_get (handler : Handler) : SeesArguments .get handler := nofun

theorem seesArguments_routes (s : Settings) :
    ∀ route ∈ routes s, SeesArguments route.verb route.handler := by
  have hadmin : ∀ {args : Fields} {seen seen' : Option RequestContext},
      seen.bind RequestContext.user = seen'.bind RequestContext.user →
      requireAdmin ⟨args, seen⟩ = requireAdmin ⟨args, seen'⟩ := by
    intro args seen seen' h
    unfold requireAdmin Call.user
    rw [h]
  have hsigned : ∀ {args : Fields} {seen seen' : Option RequestContext},
      seen.bind RequestContext.user = seen'.bind RequestContext.user →
      requireUser ⟨args, seen⟩ = requireUser ⟨args, seen'⟩ := by
    intro args seen seen' h
    unfold requireUser Call.user
    rw [h]
  simp only [routes, List.forall_mem_cons]
  exact ⟨seesArguments_get _, seesArguments_get _, seesArguments_get _, seesArguments_get _,
    fun _ _ _ _ _ => rfl, fun _ _ _ _ _ => rfl, seesArguments_get _, seesArguments_get _,
    seesArguments_get _, seesArguments_get _, seesArguments_get _, seesArguments_get _,
    seesArguments_get _, fun _ _ _ _ h => congrArg (· >>= _) (hadmin h), seesArguments_get _,
    fun _ _ _ _ h => congrArg (· >>= _) (hadmin h), fun _ _ _ _ h => congrArg (· >>= _) (hadmin h),
    seesArguments_get _, fun _ _ _ _ h => congrArg (· >>= _) (hsigned h),
    fun _ _ _ _ h => congrArg (· >>= _) (hadmin h), List.forall_mem_nil _⟩

theorem takesAll_outlines : (outlines.all fun o => !Signature.takesAll o.2.2) = true := by
  decide +kernel

theorem takesAll_eq {route : Route} (h : route ∈ routes s) :
    Signature.takesAll route.signature = false := by
  have hmem : outline route ∈ outlines := map_outline s ▸ List.mem_map_of_mem h
  simpa [outline] using List.all_eq_true.1 takesAll_outlines _ hmem

/-- Two requests of one method at one path lead to the same, unless they are for files. -/
theorem behind_eq_of_path (hmethod : r.method = .post) (hmethod' : r'.method = .post)
    (hpath : r'.uri.path = r.uri.path) :
    (site s users render).behind r = (site s users render).behind r' := by
  have hfiles : Files.response r.method r.uri = Files.response r'.method r'.uri := by
    rw [hmethod, hmethod']
    rfl
  unfold Site.behind
  rw [hpath, hfiles, hmethod, hmethod']

theorem dispatch_congr {route : Route} (hroute : route ∈ routes s) (hverb : route.verb = .post)
    {x x' : Http.Request} (hx : x.method = .post) (hx' : x'.method = .post) {fs fs' : Fields}
    (hfs : Arguments.bodyFields x = .ok fs) (hfs' : Arguments.bodyFields x' = .ok fs')
    (hagree : ∀ name ∈ (entryOf route).spec.named, Fields.get? name fs = Fields.get? name fs')
    (captured : List (List Char)) (visitor : Option SessionUser) :
    (entryOf route).dispatch visitor render ((entryOf route).parameters captured) x =
      (entryOf route).dispatch visitor render ((entryOf route).parameters captured) x' := by
  have hdecoded : ∃ gs gs', Signature.decoded route.signature x = .ok gs ∧
      Signature.decoded route.signature x' = .ok gs' ∧
      Signature.admitted route.signature gs = Signature.admitted route.signature gs' := by
    -- a handler without arguments from the body is told nothing of it
    cases hreads : Signature.readsInput route.signature with
    | false =>
      refine ⟨[], [], ?_, ?_, rfl⟩
      · rw [Signature.decoded, hreads]
        rfl
      · rw [Signature.decoded, hreads]
        rfl
    | true =>
      have hgs := (Signature.decoded_post hx hreads).trans hfs
      have hgs' := (Signature.decoded_post hx' hreads).trans hfs'
      exact ⟨fs, fs', hgs, hgs', Signature.admitted_congr (Signature.sorted_of_decoded hgs)
        (Signature.sorted_of_decoded hgs') (takesAll_eq hroute) hagree⟩
  obtain ⟨gs, gs', hgs, hgs', hadmitted⟩ := hdecoded
  have harguments := Entry.arguments_congr (inspected_of_mem hroute)
    (nodup_parameters hroute captured) hgs hgs' hadmitted
  have hanswer : ∀ args, (entryOf route).answer visitor render x args =
      (entryOf route).answer visitor render x' args := by
    intro args
    have hcalled : (entryOf route).handler ((entryOf route).call visitor x args) =
        (entryOf route).handler ((entryOf route).call visitor x' args) := by
      refine seesArguments_routes s route hroute hverb args _ _ ?_
      cases (entryOf route).spec.takesRequest <;> rfl
    rw [Entry.answer, Entry.answer, hcalled]
  rw [Entry.dispatch_eq, Entry.dispatch_eq, harguments]
  refine congrArg (_ >>= ·) (funext fun outcome => ?_)
  cases outcome with
  | error err => rfl
  | ok args => exact hanswer args

/-- Two POSTs of the same path and headers, whose bodies agree on the declared names, lead to the
same. -/
theorem serve_congr (hmethod : r.method = .post) (hmethod' : r'.method = .post)
    (hpath : r'.uri.path = r.uri.path) (hheaders : r'.headers = r.headers) {fs fs' : Fields}
    (hfs : Brings r fs) (hfs' : Brings r' fs')
    (hagree : ∀ e captured, (site s users render).Matches r e captured →
      ∀ name ∈ e.spec.named, Fields.get? name fs = Fields.get? name fs') :
    (site s users render).serve r = (site s users render).serve r' := by
  obtain ⟨x, hx, hbody⟩ := Option.map_eq_some_iff.1 hfs
  obtain ⟨x', hx', hbody'⟩ := Option.map_eq_some_iff.1 hfs'
  have hcurrent : (site s users render).currentUser r = (site s users render).currentUser r' := by
    unfold Site.currentUser
    rw [hheaders]
  have hadmits : Site.admits r = Site.admits r' := by
    unfold Site.admits
    rw [hpath]
  have hfinish : (site s users render).finish r = (site s users render).finish r' := by
    unfold Site.finish
    rw [hpath, hmethod, hmethod']
  have hbehind : ∀ visitor, (site s users render).behind r visitor x =
      (site s users render).behind r' visitor x' := by
    intro visitor
    rw [← behind_eq_of_path hmethod hmethod' hpath]
    rcases behind_cases s users render r with ⟨response, halways⟩ | ⟨p, hpage⟩ |
      ⟨route, hroute, captured, hmatches⟩
    · rw [halways]
      rfl
    · rw [hpage]
    · rw [hmatches.behind_eq, hmatches.behind_eq]
      exact dispatch_congr hroute (hmatches.verb_eq hmethod)
        ((Site.method_of_dispatched? hx).trans hmethod)
        ((Site.method_of_dispatched? hx').trans hmethod') hbody hbody'
        (hagree _ captured hmatches) captured visitor
  rw [Site.serve_eq, Site.serve_eq, Site.guarded_eq, Site.guarded_eq, hx, hx']
  simp only [hcurrent, hadmits, hfinish, hbehind]

/-- Whatever the body of a POST has under other names, an insert takes its values from where they
should come, and another POST of the same path and headers, whose body agrees on the declared names,
leads to the same questions and statements, and to the same response. -/
theorem inserts_traced (husers : users.Reads) (hrender : render.Offline)
    (hmethod : r.method = .post) :
    (∀ es response, Action.Runs ((site s users render).serve r) es response →
      EachAfter (fun before x => ∀ st, x.effect = .run st → Traced s users render r before st) es) ∧
    ∀ r' fs fs', r'.method = .post → r'.uri.path = r.uri.path → r'.headers = r.headers →
      Brings r fs → Brings r' fs' →
      (∀ e captured, (site s users render).Matches r e captured →
        ∀ name ∈ e.spec.named, Fields.get? name fs = Fields.get? name fs') →
      ∀ es response, Action.Runs ((site s users render).serve r) es response ↔
        Action.Runs ((site s users render).serve r') es response := by
  constructor
  · intro es response h before x after hes st hx
    by_cases hinsert : ∃ table, st.Changes .insert table
    · obtain ⟨table, hinsert⟩ := hinsert
      exact traced_of_asked (inserts_serve husers hrender hmethod es response h before x after hes st
        hx table hinsert)
    · exact .of_not_insert fun table hc => hinsert ⟨table, hc⟩
  · intro r' fs fs' hmethod' hpath hheaders hfs hfs' hagree es response
    rw [serve_congr hmethod hmethod' hpath hheaders hfs hfs' hagree]

/-- The form of Ann, who would be an administrator. -/
def annBoast : Http.Request :=
  .make .post ⟨"", "/api/users", none⟩
    [⟨"content-type", Text.Utf8.bytesOf "application/x-www-form-urlencoded"⟩]
    ("email=ann@mail.org&admin=true&name=Ann&passwd=" ++ annRegistration.passwd).toUTF8

def annFields : Fields :=
  [("email", .string annRegistration.email), ("name", .string annRegistration.name),
    ("passwd", .string annRegistration.passwd)]

theorem brings_annForm : Brings (annForm "/api/users") annFields := by rfl

theorem brings_annBoast : Brings annBoast (("admin", .string "true") :: annFields) := by rfl

theorem inserts_traced_annBoast :
    Action.Runs ((annSite 86400).serve annBoast) annSignup
        (signedInResponse ann (annCookie 86400)) ∧
      Traced (annSettings 86400) (annSite 86400).users (annSite 86400).render annBoast
        (annSignup.take 6) ann.insertion := by
  have husers : Directory.Reads (annSite 86400).users := fun _ => (Action.silent_done _).reads
  have hrender : Renderer.Offline (annSite 86400).render := fun _ _ => Fallible.silent_pure _
  have hsite : annSite 86400 =
      site (annSettings 86400) (annSite 86400).users (annSite 86400).render := rfl
  obtain ⟨-, hcongr⟩ := inserts_traced (s := annSettings 86400) (r := annForm "/api/users") husers
    hrender rfl
  obtain ⟨htraced, -⟩ := inserts_traced (s := annSettings 86400) (r := annBoast) husers hrender rfl
  rw [← hsite] at hcongr htraced
  have hagree : ∀ e captured, (annSite 86400).Matches (annForm "/api/users") e captured →
      ∀ name ∈ e.spec.named,
        Fields.get? name annFields = Fields.get? name (("admin", .string "true") :: annFields) := by
    intro e captured hmatches
    obtain ⟨rfl, -⟩ := hmatches.unique (served_register.matches rfl rfl)
    decide +kernel
  have hruns : Action.Runs ((annSite 86400).serve annBoast) annSignup
      (signedInResponse ann (annCookie 86400)) :=
    (hcongr annBoast annFields _ rfl rfl rfl brings_annForm brings_annBoast hagree _ _).1
      (runs_annSignup 86400)
  refine ⟨hruns, ?_⟩
  exact htraced _ _ hruns (annSignup.take 6) ⟨.run ann.insertion, .ok ⟨[], [], 1⟩⟩
    [⟨.clock, annMillis⟩] rfl ann.insertion rfl

end Blog
end Weblog
