import Weblog.Proofs.Blog.Reports

/-!
# Weblog.Proofs.Blog.Updates

What a request to update a post changes.

* `Holds`, `FoundBy`: a row has the columns of a post, whatever other columns it has; the first of
  the rows that answer a search does.
* `ofFields_eq_ok_iff`: of such a row the post is read, and of no other.
* `ChangedBy`: of all that was sent, one statement makes a change.
* `decideUpdatePost_eq`: an administrator who brings three texts looks for the post, and decides on
  the post with these texts.
* `bindsTexts_revision`: the statement that this leads to assigns the columns as they were found,
  but for the texts, and is for the row that was found.
* `update_touches_only_texts`: nothing else is changed, and nothing at all where a text is blank or
  there is no such post.
-/

namespace Weblog

open Fallible

/-- A row has the columns of a post, whatever other columns it has: the texts as they are, and where
they are not missing or null, an id that is a text and a time of creation that is a number. -/
structure Post.Holds (row : Fields) (p : Post) : Prop where
  texts : ∀ c ∈ Draft.others p, Fields.get? c.1 row = some c.2
  id : (Fields.get? "id" row).getD .null = (p.id.map Json.string).getD .null
  createdAt : ((Fields.get? "created_at" row).getD .null = .null ∧ p.createdAt = none) ∨
    ∃ n, Fields.get? "created_at" row = some (.number n) ∧ p.createdAt = some n.toFloat

/-- The posts that are read of rows are the ones whose columns the rows have. -/
theorem Post.ofFields_eq_ok_iff {row : Fields} {p : Post} :
    Entity.ofFields row = .ok p ↔ Post.Holds row p := by
  rw [Entity.ofFields_eq_ok_iff]
  obtain ⟨id, userId, userName, userImage, name, summary, content, createdAt⟩ := p
  simp only [Entity.decode, ofJson?, Json.members?, Option.bind_eq_bind, Option.bind_some,
    Option.bind_eq_some_iff, Json.required_readText_eq_some_iff,
    Json.optional_readText_eq_some_iff, Json.optional_readFloat_eq_some_iff]
  constructor
  · rintro ⟨_, hid, _, huserId, _, huserName, _, huserImage, _, hname, _, hsummary, _, hcontent,
      _, hcreatedAt, hpost⟩
    cases hpost
    refine ⟨?_, hid, hcreatedAt⟩
    simp only [Draft.others, List.forall_mem_cons]
    exact ⟨huserId, huserName, huserImage, hname, hsummary, hcontent, List.forall_mem_nil _⟩
  · rintro ⟨htexts, hid, hcreatedAt⟩
    simp only [Draft.others, List.forall_mem_cons] at htexts
    obtain ⟨huserId, huserName, huserImage, hname, hsummary, hcontent, -⟩ := htexts
    exact ⟨id, hid, _, huserId, _, huserName, _, huserImage, _, hname, _, hsummary, _, hcontent,
      createdAt, hcreatedAt, rfl⟩

/-- A search that is answered by rows finds a post: the first of them has its columns. -/
def Post.FoundBy (rs : ResultSet) (p : Post) : Prop :=
  ∃ row rest, rs.decode (some 1) = .ok (row :: rest) ∧ Post.Holds row p

/-! ## One change -/

/-- Of all that was sent, one statement makes a change. -/
def ChangedBy (st : Statement) (es : List Exchange) : Prop :=
  ∃ before answer after, es = before ++ ⟨.run st, answer⟩ :: after ∧
    (∀ st' ∈ sentBy before, ¬ st'.IsChange) ∧ ∀ st' ∈ sentBy after, ¬ st'.IsChange

/-- Nothing that was sent makes a change, and a connection or a transaction was refused. -/
def RefusedUnchanged (es : List Exchange) : Prop :=
  (∀ st ∈ sentBy es, ¬ st.IsChange) ∧
    ∃ e : DbError, ⟨.connect, .error e⟩ ∈ es ∨ ⟨.control .start, .error e⟩ ∈ es

variable {st : Statement} {autocommit : Bool} {ws first last : List Exchange}
  {written : Except StoreError Nat}

theorem ChangedBy.between (h : ChangedBy st ws) (hfirst : ∀ st ∈ sentBy first, st.IsSelect)
    (hlast : sentBy last = []) : ChangedBy st (first ++ (ws ++ last)) := by
  obtain ⟨before, answer, after, rfl, hbefore, hafter⟩ := h
  refine ⟨first ++ before, answer, after ++ last, ?_, ?_, ?_⟩
  · simp only [List.append_assoc, List.cons_append]
  · rw [sentBy_append]
    exact List.forall_mem_append.2 ⟨fun st hst => (hfirst st hst).not_isChange, hbefore⟩
  · rwa [sentBy_append, hlast, List.append_nil]

theorem RefusedUnchanged.between (h : RefusedUnchanged ws)
    (hfirst : ∀ st ∈ sentBy first, st.IsSelect) (hlast : sentBy last = []) :
    RefusedUnchanged (first ++ (ws ++ last)) := by
  obtain ⟨hsent, e, he⟩ := h
  refine ⟨?_, e, he.imp ?_ ?_⟩
  · rw [sentBy_append, sentBy_append, hlast, List.append_nil]
    exact List.forall_mem_append.2 ⟨fun st hst => (hfirst st hst).not_isChange, hsent⟩
  · exact fun hmem => List.mem_append_right _ (List.mem_append_left _ hmem)
  · exact fun hmem => List.mem_append_right _ (List.mem_append_left _ hmem)

/-- Where nothing was sent, no statement was run. -/
theorem run_not_mem (h : sentBy ws = []) (st : Statement) (a : Except DbError ResultSet) :
    ⟨.run st, a⟩ ∉ ws := by
  intro hmem
  have hsent := mem_sentBy_of_run hmem rfl
  rw [h] at hsent
  cases hsent

/-- A write runs its own statement and no other. -/
theorem Database.Executed.eq_of_run {st' : Statement} {a : Except DbError ResultSet}
    (h : Executed st autocommit ws written) (hrun : ⟨.run st', a⟩ ∈ ws) : st' = st := by
  cases h with
  | unconnected _ e => cases List.mem_singleton.1 hrun
  | alone rs =>
    simp only [List.mem_cons, List.not_mem_nil, or_false] at hrun
    rcases hrun with h | h <;> cases h
    rfl
  | failed e =>
    simp only [List.mem_cons, List.not_mem_nil, or_false] at hrun
    rcases hrun with h | h <;> cases h
    rfl
  | transacted h =>
    cases h <;> simp only [List.mem_cons, List.not_mem_nil, or_false] at hrun
    case refused e => rcases hrun with h | h <;> cases h
    case committed rs => rcases hrun with h | h | h | h <;> cases h; rfl
    case uncommitted rs e => rcases hrun with h | h | h | h <;> cases h; rfl
    case rolledBack e => rcases hrun with h | h | h | h <;> cases h; rfl
    case leftOpen e d => rcases hrun with h | h | h | h | h <;> cases h; rfl

/-- A write makes one change, unless it is refused before. -/
theorem Database.Executed.changedBy_or (h : Executed st autocommit ws written) :
    ChangedBy st ws ∨ RefusedUnchanged ws := by
  have hcontrol := fun t : TransactionControl => Statement.not_isChange_control t
  cases h with
  | unconnected _ e => exact .inr ⟨nofun, e, .inl (.head _)⟩
  | alone rs => exact .inl ⟨[_], _, [], rfl, nofun, nofun⟩
  | failed e => exact .inl ⟨[_], _, [], rfl, nofun, nofun⟩
  | transacted h =>
    cases h with
    | refused e =>
      exact .inr ⟨List.forall_mem_singleton.2 (hcontrol .start), e, .inr (.tail _ (.head _))⟩
    | committed rs =>
      exact .inl ⟨[_, _], _, [_], rfl, List.forall_mem_singleton.2 (hcontrol .start),
        List.forall_mem_singleton.2 (hcontrol .commit)⟩
    | uncommitted rs e =>
      exact .inl ⟨[_, _], _, [_], rfl, List.forall_mem_singleton.2 (hcontrol .start),
        List.forall_mem_singleton.2 (hcontrol .commit)⟩
    | rolledBack e =>
      exact .inl ⟨[_, _], _, [_], rfl, List.forall_mem_singleton.2 (hcontrol .start),
        List.forall_mem_singleton.2 (hcontrol .rollback)⟩
    | leftOpen e d =>
      exact .inl ⟨[_, _], _, [_, _], rfl,
        List.forall_mem_singleton.2 (hcontrol .start),
        List.forall_mem_singleton.2 (hcontrol .rollback)⟩

namespace Blog

/-! ## The decision of an administrator -/

/-- A post with the texts that a request brings. -/
def revised (r : Http.Request) (p : Post) : Post :=
  { p with name := trimmed r "name", summary := trimmed r "summary", content := trimmed r "content" }

/-- All three texts that a request brings are there and are not blank. -/
def BringsTexts (r : Http.Request) : Prop :=
  trimmed r "name" ≠ "" ∧ trimmed r "summary" ≠ "" ∧ trimmed r "content" ≠ ""

variable {s : Settings} {users : Directory} {render : Renderer} {r : Http.Request} {c : Call}
  {captured : List (List Char)} {ds hs es : List Exchange} {response : Http.Response} {id : String}

theorem nonBlank_eq {name : String} (h : Text.trim (c.textOr name "") ≠ "") :
    nonBlank c name = pure (Text.trim (c.textOr name "")) := by
  rw [Call.textOr] at h ⊢
  cases htext : c.text name with
  | none =>
    rw [htext] at h
    exact absurd rfl h
  | some text =>
    rw [htext, Option.getD_some] at h
    have hrequired : required c name = pure text := by
      rw [required, Call.required, htext]
      rfl
    rw [nonBlank, hrequired, pure_bind, Option.getD_some]
    exact if_neg (by simpa using h)

/-- A call of the handler has the texts of the request. -/
def TextsOf (r : Http.Request) (c : Call) : Prop :=
  ∀ name ∈ ["name", "summary", "content"], Text.trim (c.textOr name "") = trimmed r name

/-- An administrator who brings three texts looks for the post, and decides on the post with them. -/
theorem decideUpdatePost_eq {u : SessionUser} (huser : c.user = some u) (hadmin : u.admin = true)
    (hid : c.text "id" = some id) (hc : TextsOf r c) (htexts : BringsTexts r) :
    decideUpdatePost c = findPost id >>= fun post => pure (.update (revised r post)) := by
  have hname := hc "name" (by decide)
  have hsummary := hc "summary" (by decide)
  have hcontent := hc "content" (by decide)
  have hrequired : required c "id" = pure id := by
    rw [required, Call.required, hid]
    rfl
  have hallowed : requireAdmin c = pure u := by
    rw [requireAdmin, huser]
    exact if_pos hadmin
  simp only [decideUpdatePost, hallowed, hrequired, pure_bind,
    nonBlank_eq (hname ▸ htexts.1), nonBlank_eq (hsummary ▸ htexts.2.1),
    nonBlank_eq (hcontent ▸ htexts.2.2), hname, hsummary, hcontent, revised]

theorem bringsTexts_of_decided (hc : TextsOf r c) {p : Writing Post}
    (h : Action.Runs (decideUpdatePost c).run es (.ok p)) : BringsTexts r := by
  obtain ⟨_, _, _, rfl, -, h⟩ := Fallible.runs_bind_ok_iff.1 h
  obtain ⟨_, _, _, rfl, -, h⟩ := Fallible.runs_bind_ok_iff.1 h
  obtain ⟨_, _, _, rfl, -, h⟩ := Fallible.runs_bind_ok_iff.1 h
  obtain ⟨_, _, _, rfl, hname, h⟩ := Fallible.runs_bind_ok_iff.1 h
  obtain ⟨_, _, _, rfl, hsummary, h⟩ := Fallible.runs_bind_ok_iff.1 h
  obtain ⟨_, _, _, rfl, hcontent, -⟩ := Fallible.runs_bind_ok_iff.1 h
  obtain ⟨-, rfl, hname⟩ := runs_nonBlank_ok hname
  obtain ⟨-, rfl, hsummary⟩ := runs_nonBlank_ok hsummary
  obtain ⟨-, rfl, hcontent⟩ := runs_nonBlank_ok hcontent
  rw [hc "name" (by decide)] at hname
  rw [hc "summary" (by decide)] at hsummary
  rw [hc "content" (by decide)] at hcontent
  exact ⟨hname, hsummary, hcontent⟩

/-! ## The course of an update -/

/-- What is made of the answer to a search for a post. -/
def foundIn (id : String) (rs : ResultSet) : Except AppError Post :=
  ((rs.decode (some 1)).mapError .store).bind (pick Post "Blog" "blog" id)

theorem foundIn_eq_ok_iff {rs : ResultSet} {p : Post} :
    foundIn id rs = .ok p ↔ Post.FoundBy rs p := by
  simp only [foundIn, Post.FoundBy, ← Post.ofFields_eq_ok_iff]
  cases rs.decode (some 1) with
  | error e => simp [Except.mapError, Except.bind]
  | ok rows =>
    cases rows with
    | nil => simp [Except.mapError, Except.bind, pick]
    | cons row rest =>
      cases hrow : (Entity.ofFields row : Except StoreError Post) <;>
        simp [Except.mapError, Except.bind, pick, hrow]

/-- What an update asks first, where the search is answered. -/
def searched (id : String) (answer : Except DbError ResultSet) : List Exchange :=
  [⟨.connect, .ok ()⟩, ⟨.run (search id), answer⟩]

/-- The course of a call by an administrator who brings three texts. -/
inductive Updating (s : Settings) (r : Http.Request) (id : String) :
    List Exchange → Http.Response → Prop where
  | unsearched (e : DbError) {fs : List Exchange} :
      fs = [⟨.connect, .error e⟩] ∨ fs = searched id (.error e) →
      Updating s r id (fs ++ Reply.loggedFor (.error (.store (.database e))))
        (Reply.responseTo (.error (.store (.database e))))
  | unfound (rs : ResultSet) {err : AppError} : foundIn id rs = .error err →
      Updating s r id (searched id (.ok rs) ++ Reply.loggedFor (.error err))
        (Reply.responseTo (.error err))
  | written (rs : ResultSet) {post : Post} {ws : List Exchange} {written : Except StoreError Nat} :
      foundIn id rs = .ok post →
      Database.Executed (Draft.revision (revised r post)) s.autocommit ws written →
      Updating s r id (searched id (.ok rs) ++
          (Writing.update (revised r post)).course (revised r post) ws written)
        (Reply.responseTo ((Writing.update (revised r post)).outcome (revised r post) written))

/-- What an administrator who brings three texts decides, by the answer to the search. -/
theorem decided_of_runs
    (hdecide : decideUpdatePost c = findPost id >>= fun post => pure (.update (revised r post)))
    {fs : List Exchange} {out : Except AppError (Writing Post)}
    (h : Action.Runs (decideUpdatePost c).run fs out) :
    (∃ e : DbError, (fs = [⟨.connect, .error e⟩] ∨ fs = searched id (.error e)) ∧
      out = .error (.store (.database e))) ∨
    (∃ rs err, fs = searched id (.ok rs) ∧ foundIn id rs = .error err ∧ out = .error err) ∨
    ∃ rs post, fs = searched id (.ok rs) ∧ foundIn id rs = .ok post ∧
      out = .ok (.update (revised r post)) := by
  rw [hdecide] at h
  obtain ⟨o, hfind, rfl⟩ := Fallible.runs_bind_pure_iff.1 h
  rcases (runs_findNamed_iff Post.build_eq).1 hfind with
    ⟨e, rfl, rfl⟩ | ⟨e, rfl, rfl⟩ | ⟨rs, rfl, rfl⟩
  · exact .inl ⟨e, .inl rfl, rfl⟩
  · exact .inl ⟨e, .inr rfl, rfl⟩
  · cases hfound : foundIn id rs with
    | error err => exact .inr (.inl ⟨rs, err, rfl, hfound, congrArg _ hfound⟩)
    | ok post => exact .inr (.inr ⟨rs, post, rfl, hfound, congrArg _ hfound⟩)

theorem updating_of_call {visitor : Option SessionUser} {ts : List Exchange}
    (hdecide : decideUpdatePost c = findPost id >>= fun post => pure (.update (revised r post)))
    (h : Action.Runs (((updateRoute s).handler c).run >>= Entry.conclude visitor render) ts
      response) : Updating s r id ts response := by
  rcases (Writer.runs_call_iff (w := postUpdate s)).1 h with
    ⟨fs, err, rfl, hrefused, rfl⟩ | ⟨fs, cs, ws, p, v, written, rfl, hok, hcomplete, hexecuted, rfl⟩
  · rcases decided_of_runs hdecide hrefused with
      ⟨e, hfs, hout⟩ | ⟨rs, _, rfl, hfound, hout⟩ | ⟨_, _, _, _, hout⟩
    · cases hout
      exact .unsearched e hfs
    · cases hout
      exact .unfound rs hfound
    · cases hout
  · rcases decided_of_runs hdecide hok with
      ⟨_, _, hout⟩ | ⟨_, _, _, _, hout⟩ | ⟨rs, post, rfl, hfound, hout⟩
    · cases hout
    · cases hout
    · cases hout
      obtain ⟨rfl, rfl⟩ := Action.runs_done_iff.1 hcomplete
      rw [List.append_nil]
      exact .written rs hfound hexecuted

theorem reads_searched (id : String) (a : Except DbError ResultSet) :
    ∀ st ∈ sentBy (searched id a), st.IsSelect :=
  List.forall_mem_singleton.2 (Post.schema.isSelect_selectByKeySql _)

theorem eq_of_mem_searched {id' : String} {a a' : Except DbError ResultSet}
    (h : ⟨.run (search id'), a'⟩ ∈ searched id a) : a' = a := by
  rcases List.mem_cons.1 h with h | h
  · cases h
  · cases List.mem_singleton.1 h
    rfl

variable {ts : List Exchange} {rs : ResultSet}

/-- Where the search is answered, what is found decides on what follows. -/
theorem Updating.of_searched (h : Updating s r id ts response)
    (hmem : ⟨.run (search id), .ok rs⟩ ∈ ts) :
    (∃ err, foundIn id rs = .error err ∧ ∀ st ∈ sentBy ts, st.IsSelect) ∨
    ∃ post ws written, foundIn id rs = .ok post ∧
      Database.Executed (Draft.revision (revised r post)) s.autocommit ws written ∧
      ts = searched id (.ok rs) ++
        (Writing.update (revised r post)).course (revised r post) ws written ∧
      response = Reply.responseTo
        ((Writing.update (revised r post)).outcome (revised r post) written) := by
  cases h with
  | @unsearched e fs hfs =>
    exfalso
    rcases List.mem_append.1 hmem with hmem | hmem
    · rcases hfs with rfl | rfl
      · cases List.mem_singleton.1 hmem
      · cases eq_of_mem_searched hmem
    · exact run_not_mem (Reply.sentBy_loggedFor _) _ _ hmem
  | unfound rs' hfound =>
    rcases List.mem_append.1 hmem with hmem | hmem
    · cases eq_of_mem_searched hmem
      refine .inl ⟨_, hfound, ?_⟩
      rw [sentBy_append, Reply.sentBy_loggedFor, List.append_nil]
      exact reads_searched id _
    · exact absurd hmem (run_not_mem (Reply.sentBy_loggedFor _) _ _)
  | @written rs' post ws written hfound hexecuted =>
    rcases List.mem_append.1 hmem with hmem | hmem
    · cases eq_of_mem_searched hmem
      exact .inr ⟨post, ws, written, hfound, hexecuted, rfl, rfl⟩
    · exfalso
      have hsearch : (search id).IsSelect := Post.schema.isSelect_selectByKeySql _
      rcases List.mem_append.1 hmem with hmem | hmem
      · rw [hexecuted.eq_of_run hmem] at hsearch
        exact hsearch.not_isChange (Post.schema.changes_updateSql _).isChange
      · exact run_not_mem ((Writing.update (revised r post)).sentBy_logged _ written) _ _ hmem

/-! ## What an update binds -/

/-- An update assigns the columns of a post as they were found, but for the texts of a request, and
is for the row that was found. -/
def BindsTexts (r : Http.Request) (p : Post) (st : Statement) : Prop :=
  ∃ u : Sql.Update, Sql.Update.read? st.sql = some u ∧ u.table = "blogs" ∧
    u.assigned? st.args = some
      [("user_id", .text p.userId), ("user_name", .text p.userName),
        ("user_image", .text p.userImage), ("name", .text (trimmed r "name")),
        ("summary", .text (trimmed r "summary")), ("content", .text (trimmed r "content")),
        ("created_at", p.createdAt.elim .null .float)] ∧
    u.matched? st.args = some ("id", p.id.elim .null .text)

theorem bindsTexts_revision (r : Http.Request) (p : Post) :
    BindsTexts r p (Draft.revision (revised r p)) := by
  refine ⟨_, read?_revision, rfl, ?_, ?_⟩
  · obtain ⟨id, _, _, _, _, _, _, createdAt⟩ := p
    cases id <;> cases createdAt <;> rfl
  · obtain ⟨id, _, _, _, _, _, _, createdAt⟩ := p
    cases id <;> cases createdAt <;> rfl

/-- A request updates a post: unless it is refused, one statement makes a change, which is for the
texts alone; and where that succeeds, the post with these texts is the response. -/
structure Updated (s : Settings) (r : Http.Request) (p : Post) (hs : List Exchange)
    (response : Http.Response) : Prop where
  once : ChangedBy (Draft.revision (revised r p)) hs ∨ RefusedUnchanged hs
  binds : BindsTexts r p (Draft.revision (revised r p))
  reported : ∀ rs : ResultSet, ⟨.run (Draft.revision (revised r p)), .ok rs⟩ ∈ hs →
    (s.autocommit = false → ⟨.control .commit, .ok ()⟩ ∈ hs) →
    response = Reply.ofFields (Entity.encode (revised r p))

theorem updated_of_executed {p : Post} {as ws : List Exchange} {written : Except StoreError Nat}
    (hsilent : sentBy as = [])
    (h : Database.Executed (Draft.revision (revised r p)) s.autocommit ws written) :
    Updated s r p
      (as ++ (searched id (.ok rs) ++ (Writing.update (revised r p)).course (revised r p) ws written))
      (Reply.responseTo ((Writing.update (revised r p)).outcome (revised r p) written)) := by
  have hfirst : ∀ st ∈ sentBy (as ++ searched id (.ok rs)), st.IsSelect := by
    rw [sentBy_append, hsilent, List.nil_append]
    exact reads_searched id _
  have hlast := (Writing.update (revised r p)).sentBy_logged (revised r p) written
  rw [← List.append_assoc]
  refine ⟨?_, bindsTexts_revision r p, fun rs' hrun hcommit => ?_⟩
  · exact h.changedBy_or.imp (·.between hfirst hlast) (·.between hfirst hlast)
  · have hrun := Database.mem_of_between hfirst hlast hrun rfl fun hselect =>
      hselect.not_isChange (Post.schema.changes_updateSql _).isChange
    have hcommit : s.autocommit = false → ⟨.control .commit, .ok ()⟩ ∈ ws := fun ha =>
      Database.mem_of_between hfirst hlast (hcommit ha) rfl (by decide)
    rw [(h.of_answered hrun hcommit).2]
    rfl

theorem exists_carried {name : String} (h : trimmed r name ≠ "") :
    ∃ text, Site.carried? r name = some text := by
  cases htext : Site.carried? r name with
  | none =>
    rw [trimmed, htext] at h
    exact absurd rfl h
  | some text => exact ⟨text, rfl⟩

/-- A request that brings three texts has every argument of an update but the id. -/
theorem BringsTexts.requested?_ne_none (h : BringsTexts r) {name : String}
    (hname : name ∈ ["name", "summary", "content"]) :
    requested? (entryOf (updateRoute s)) captured r name ≠ none := by
  have hthere : ∀ name, name ≠ "id" → trimmed r name ≠ "" →
      requested? (entryOf (updateRoute s)) captured r name ≠ none := by
    intro name hne htrimmed
    obtain ⟨text, htext⟩ := exists_carried htrimmed
    rw [requested?_of_ne updateRoute_mem captured hne, htext]
    exact Option.some_ne_none text
  simp only [List.mem_cons, List.not_mem_nil, or_false] at hname
  rcases hname with rfl | rfl | rfl
  · exact hthere _ (by decide) h.1
  · exact hthere _ (by decide) h.2.1
  · exact hthere _ (by decide) h.2.2

/-- The call of an administrator who is allowed to update the post with an id. -/
theorem called_of_visit (husers : users.Reads)
    (hmatches : (site s users render).Matches r (entryOf (updateRoute s)) captured)
    {u : SessionUser} (hadmin : u.admin = true)
    (hvisit : (site s users render).Visit r (some u) ds hs response) :
    (sentBy hs = [] ∧ ¬ (BringsTexts r ∧
        (requested? (entryOf (updateRoute s)) captured r "id").isSome = true)) ∨
    ∃ as ts c, hs = as ++ ts ∧ sentBy as = [] ∧ c.user = some u ∧ TextsOf r c ∧
      c.text "id" = requested? (entryOf (updateRoute s)) captured r "id" ∧
      Action.Runs (((updateRoute s).handler c).run >>= Entry.conclude (some u) render) ts
        response := by
  have hnamed : (entryOf (updateRoute s)).spec.named = ["id", "name", "summary", "content"] := rfl
  rcases uncalled_or_calls_of_visit husers updateRoute_mem rfl hmatches hvisit with
    ⟨hsilent, -, hwanting⟩ | ⟨as, ts, c, rfl, hsilent, hcalls, hcall⟩
  · refine .inl ⟨hsilent, fun ⟨htexts, hid⟩ => ?_⟩
    obtain ⟨fs, hbrings⟩ := exists_brings (exists_carried htexts.1).choose_spec
    have hadmits : Site.admits r (some u) = true := by
      rw [Site.admits, Bool.or_eq_true]
      exact .inr hadmin
    obtain ⟨name, hname, hnone⟩ := hwanting fs hbrings hadmits
    have hrequired : (entryOf (updateRoute s)).spec.required =
      ["id", "name", "summary", "content"] := rfl
    rw [hrequired] at hname
    rcases List.mem_cons.1 hname with rfl | hname
    · rw [hnone] at hid
      cases hid
    · exact htexts.requested?_ne_none hname hnone
  · refine .inr ⟨as, ts, c, rfl, hsilent, hcalls.user_eq rfl, fun name hname => ?_,
      hcalls.text "id" (by simp [hnamed]), hcall⟩
    have hmem : name ∈ (entryOf (updateRoute s)).spec.named := by
      rw [hnamed]
      exact List.mem_cons_of_mem _ hname
    have hne : name ≠ "id" := by
      rintro rfl
      exact absurd hname (by decide)
    exact congrArg Text.trim (textOr_eq_carried updateRoute_mem (hcalls.text name hmem) hne)

theorem reads_of_blank (husers : users.Reads)
    (hmatches : (site s users render).Matches r (entryOf (updateRoute s)) captured)
    {u : SessionUser} (hadmin : u.admin = true)
    (hvisit : (site s users render).Visit r (some u) ds hs response) (hblank : ¬ BringsTexts r) :
    ∀ st ∈ sentBy hs, st.IsSelect := by
  rcases called_of_visit husers hmatches hadmin hvisit with
    ⟨hsilent, -⟩ | ⟨as, ts, c, rfl, hsilent, -, hc, -, hcall⟩
  · rw [hsilent]
    exact nofun
  · rcases (Writer.runs_call_iff (w := postUpdate s)).1 hcall with
      ⟨fs, err, rfl, hrefused, -⟩ | ⟨fs, cs, ws, p, v, written, -, hok, -⟩
    · rw [sentBy_append, hsilent, sentBy_append, Reply.sentBy_loggedFor, List.append_nil]
      exact (decides_updatePost c).reads fs _ hrefused
    · exact absurd (bringsTexts_of_decided hc hok) hblank

theorem updating_of_visit (husers : users.Reads)
    (hmatches : (site s users render).Matches r (entryOf (updateRoute s)) captured)
    {u : SessionUser} (hadmin : u.admin = true)
    (hvisit : (site s users render).Visit r (some u) ds hs response)
    (hid : requested? (entryOf (updateRoute s)) captured r "id" = some id)
    (htexts : BringsTexts r) :
    ∃ as ts, hs = as ++ ts ∧ sentBy as = [] ∧ Updating s r id ts response := by
  rcases called_of_visit husers hmatches hadmin hvisit with
    ⟨-, hwanting⟩ | ⟨as, ts, c, rfl, hsilent, huser, hc, hcid, hcall⟩
  · exact absurd ⟨htexts, by rw [hid]; rfl⟩ hwanting
  · have hdecide := decideUpdatePost_eq huser hadmin (hcid.trans hid) hc htexts
    exact ⟨as, ts, rfl, hsilent, updating_of_call hdecide hcall⟩

/-- Of every run of a request of an administrator to update a post, after the user of the session was
found: where the request brings three texts that are not blank, the post is looked for, unless no
connection can be had; and whatever post is found, in a row with whatever other columns, one statement
makes a change, which assigns the columns of the row as they were found, but for the three texts.
Where a text is missing or blank, or no post is found, nothing is changed. -/
theorem update_touches_only_texts (husers : users.Reads)
    (hmatches : (site s users render).Matches r (entryOf (updateRoute s)) captured)
    {u : SessionUser} (hadmin : u.admin = true)
    (hvisit : (site s users render).Visit r (some u) ds hs response) :
    (∀ id, requested? (entryOf (updateRoute s)) captured r "id" = some id →
      (BringsTexts r →
        (∃ a, ⟨.run (search id), a⟩ ∈ hs) ∨ ∃ e : DbError, ⟨.connect, .error e⟩ ∈ hs) ∧
      ∀ rs, ⟨.run (search id), .ok rs⟩ ∈ hs →
        (∀ p, Post.FoundBy rs p → BringsTexts r → Updated s r p hs response) ∧
        ((∀ p, ¬ Post.FoundBy rs p) → ∀ st ∈ sentBy hs, st.IsSelect)) ∧
    (¬ BringsTexts r → ∀ st ∈ sentBy hs, st.IsSelect) := by
  have hreads := reads_of_blank husers hmatches hadmin hvisit
  refine ⟨fun id hid => ⟨fun htexts => ?_, fun rs hsearch => ⟨?_, fun hnone => ?_⟩⟩, hreads⟩
  · obtain ⟨as, ts, rfl, -, hupdating⟩ :=
      updating_of_visit husers hmatches hadmin hvisit hid htexts
    cases hupdating with
    | unsearched e hfs =>
      rcases hfs with rfl | rfl
      · exact .inr ⟨e, by simp⟩
      · exact .inl ⟨.error e, by simp [searched]⟩
    | unfound rs _ => exact .inl ⟨.ok rs, by simp [searched]⟩
    | written rs _ _ => exact .inl ⟨.ok rs, by simp [searched]⟩
  · intro p hp htexts
    obtain ⟨as, ts, rfl, hsilent, hupdating⟩ :=
      updating_of_visit husers hmatches hadmin hvisit hid htexts
    have hmem := (List.mem_append.1 hsearch).resolve_left (run_not_mem hsilent _ _)
    have hfound : foundIn id rs = .ok p := foundIn_eq_ok_iff.2 hp
    rcases hupdating.of_searched hmem with
      ⟨err, herr, -⟩ | ⟨post, ws, written, hpost, hexecuted, rfl, rfl⟩
    · rw [hfound] at herr
      cases herr
    · cases hfound.symm.trans hpost
      exact updated_of_executed hsilent hexecuted
  · by_cases htexts : BringsTexts r
    · obtain ⟨as, ts, rfl, hsilent, hupdating⟩ :=
        updating_of_visit husers hmatches hadmin hvisit hid htexts
      have hmem := (List.mem_append.1 hsearch).resolve_left (run_not_mem hsilent _ _)
      rcases hupdating.of_searched hmem with ⟨err, -, hselects⟩ | ⟨post, ws, written, hpost, -⟩
      · rwa [sentBy_append, hsilent]
      · exact absurd (foundIn_eq_ok_iff.1 hpost) (hnone post)
    · exact hreads htexts

theorem brings_editForm : Brings (editForm "/api/blogs/7")
    [("content", .string "Newest"), ("name", .string "New"), ("summary", .string "Newer")] := by rfl

theorem update_touches_only_texts_staleUpdate : ∃ response,
    editorSite.Visit (editForm "/api/blogs/7") (some editor.sessionUser) [⟨.clock, annMillis⟩]
      staleUpdate.tail response ∧
    Updated (annSettings 86400) (editForm "/api/blogs/7") oldPost staleUpdate.tail response ∧
    revised (editForm "/api/blogs/7") oldPost = editedPost := by
  obtain ⟨response, hruns⟩ := runs_staleUpdate
  have husers : editorUsers.Reads := fun _ => (Action.silent_done _).reads
  have hvisit : editorSite.Visit (editForm "/api/blogs/7") (some editor.sessionUser)
      [⟨.clock, annMillis⟩] staleUpdate.tail response :=
    ⟨hruns, fun _ => runs_currentUser_editForm _⟩
  have hid : requested? (entryOf (updateRoute (annSettings 86400))) [['7']]
      (editForm "/api/blogs/7") "id" = some "7" := by
    rw [requested?, parameters_of_kept kept_updateRoute]
    decide +kernel
  have htexts : BringsTexts (editForm "/api/blogs/7") := by
    simp only [BringsTexts, trimmed, brings_editForm.carried?_eq]
    decide +kernel
  have hrow : Post.Holds oldRow.fields oldPost := Post.ofFields_eq_ok_iff.1 rfl
  have hpost : Post.FoundBy oldSelected oldPost := ⟨oldRow.fields, [], rfl, hrow⟩
  obtain ⟨hfound, -⟩ := update_touches_only_texts husers matches_update rfl hvisit
  obtain ⟨-, hsearched⟩ := hfound "7" hid
  obtain ⟨hupdated, -⟩ := hsearched oldSelected (by simp [staleUpdate])
  refine ⟨response, hvisit, hupdated _ hpost htexts, ?_⟩
  simp only [revised, trimmed, brings_editForm.carried?_eq]
  decide +kernel

end Blog
end Weblog
