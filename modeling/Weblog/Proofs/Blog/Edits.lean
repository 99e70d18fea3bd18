import Weblog.Proofs.Blog.Parameters
import Weblog.Proofs.Blog.PostRows
import Weblog.Proofs.Blog.Provenance

/-!
# Weblog.Proofs.Blog.Edits

Requests that update and delete posts and are served at the same time.

* `Edit`: the two writes that they lead to, each of a post that was found under the id of the request.
* `writes_of_leads`: however far such a request has come, it has written nothing else.
* `posts_whole_of_interleaves`: whatever the order of the statements, a row has the texts that it
  began with or those of one update of it, its other columns never change, and a row that is gone
  stays gone. So it is where a post is deleted before it is written back.
-/

namespace Weblog
namespace Blog

open Fallible Sql

variable {s : Settings} {users : Directory} {render : Renderer} {r : Http.Request} {c : Call}

/-! ## One request -/

theorem FindsPost.exists_mem {id : String} {post : Post} {es : List Exchange}
    (h : FindsPost id post es) : ∃ x ∈ es, FindsPost id post [x] := by
  obtain ⟨rs, row, rows, hmem, hrows, hpost⟩ := h
  exact ⟨_, hmem, rs, row, rows, List.mem_singleton_self _, hrows, hpost⟩

theorem writes_updatePost : (updatePost s c).run.Writes fun before st => ∃ id post,
    c.text "id" = some id ∧ FindsPost id post before ∧
    st = Draft.revision { post with
      name := Text.trim (c.textOr "name" "")
      summary := Text.trim (c.textOr "summary" "")
      content := Text.trim (c.textOr "content" "") } := by
  refine writes_after silent_requireAdmin.reads fun _ _ hrun => ?_
  obtain ⟨rfl, -⟩ := runs_requireAdmin_ok hrun
  refine writes_after (silent_required c "id").reads fun _ id hrun => ?_
  obtain ⟨rfl, hid⟩ := runs_required_ok hrun
  refine writes_after (reads_findNamed _ _ _) fun earlier post hfound => ?_
  refine writes_after (silent_nonBlank c "name").reads fun _ _ hrun => ?_
  obtain ⟨rfl, rfl, -⟩ := runs_nonBlank_ok hrun
  refine writes_after (silent_nonBlank c "summary").reads fun _ _ hrun => ?_
  obtain ⟨rfl, rfl, -⟩ := runs_nonBlank_ok hrun
  refine writes_after (silent_nonBlank c "content").reads fun _ _ hrun => ?_
  obtain ⟨rfl, rfl, -⟩ := runs_nonBlank_ok hrun
  refine writes_then_reads (writes_mapError _ ?_) fun _ => (silent_pure _).reads
  intro es out hruns before y after hes st hy hst
  have hsent := Draft.writes_update s.autocommit _ es out hruns before y after hes st hy hst
  exact ⟨id, post, hid, (runs_findPost_ok hfound).mono (by simp), hsent⟩

theorem writes_deletePost : (deletePost s c).run.Writes fun before st => ∃ id post,
    c.text "id" = some id ∧ FindsPost id post before ∧ st = Draft.removal post := by
  refine writes_after silent_requireAdmin.reads fun _ _ hrun => ?_
  obtain ⟨rfl, -⟩ := runs_requireAdmin_ok hrun
  refine writes_after (silent_required c "id").reads fun _ id hrun => ?_
  obtain ⟨rfl, hid⟩ := runs_required_ok hrun
  refine writes_after (reads_findNamed _ _ _) fun earlier post hfound => ?_
  refine writes_then_reads (writes_mapError _ ?_) fun _ => (silent_pure _).reads
  intro es out hruns before y after hes st hy hst
  have hsent := Draft.writes_remove s.autocommit post es out hruns before y after hes st hy hst
  exact ⟨id, post, hid, (runs_findPost_ok hfound).mono (by simp), hsent⟩

def updateRoute (s : Settings) : Route :=
  ((((Route.post "/api/blogs/\x7bid\x7d" (updatePost s)).request.keyword "id").keyword
    "name").keyword "summary").keyword "content"

def deleteRoute (s : Settings) : Route :=
  (Route.post "/api/blogs/\x7bid\x7d/delete" (deletePost s)).request.keyword "id"

theorem kept_updateRoute : keptPath (updateRoute s).pattern = "/api/blogs/:id" :=
  show keptPath "/api/blogs/\x7bid\x7d" = _ by decide +kernel

theorem kept_deleteRoute : keptPath (deleteRoute s).pattern = "/api/blogs/:id/delete" :=
  show keptPath "/api/blogs/\x7bid\x7d/delete" = _ by decide +kernel

theorem updateRoute_mem : updateRoute s ∈ routes s := List.mem_iff_getElem?.2 ⟨15, rfl⟩

theorem deleteRoute_mem : deleteRoute s ∈ routes s := List.mem_iff_getElem?.2 ⟨16, rfl⟩

/-- The router leads a request to a route. -/
def Reaches (s : Settings) (users : Directory) (render : Renderer) (r : Http.Request)
    (route : Route) : Prop :=
  ∃ captured, (site s users render).Matches r (entryOf route) captured

/-- The texts that a request brings, without the white space at their ends. -/
def textsOf (r : Http.Request) : Texts :=
  ⟨some (trimmed r "name"), some (trimmed r "summary"), some (trimmed r "content")⟩

/-- A request to update the post with an id. -/
def Updates (s : Settings) (users : Directory) (render : Renderer) (r : Http.Request) (id : String) :
    Prop :=
  ∃ captured, (site s users render).Matches r (entryOf (updateRoute s)) captured ∧
    requested? (entryOf (updateRoute s)) captured r "id" = some id

/-- A post that was found under an id is written back with the texts that a request to update it
brings, or it is deleted. -/
def Edit (s : Settings) (users : Directory) (render : Renderer) (r : Http.Request)
    (before : List Exchange) (st : Statement) : Prop :=
  ∃ id post, FindsPost id post before ∧
    ((Updates s users render r id ∧ ∃ post' : Post, st = Draft.revision post' ∧
        post'.id = post.id ∧
        PostRow.ofPost id post' = { PostRow.ofPost id post with texts := textsOf r }) ∨
      st = Draft.removal post)

/-- A request for a route leads to its handler and to no other. -/
theorem Reaches.handled {route : Route} (h : Reaches s users render r route)
    {before : List Exchange} {st : Statement} (hhandled : Handled s users render r before st) :
    ∃ captured c, (site s users render).Matches r (entryOf route) captured ∧
      (∀ name ∈ (entryOf route).spec.named,
        c.text name = requested? (entryOf route) captured r name) ∧
      ∃ first earlier y later outcome, before = first ++ earlier ∧ y.effect = .run st ∧
        Action.Runs (route.handler c).run (earlier ++ y :: later) outcome := by
  obtain ⟨captured, hmatches⟩ := h
  obtain ⟨route', -, captured', c, hmatches', htext, -, first, earlier, y, later, outcome, hbefore,
    hy, hruns⟩ := hhandled
  obtain ⟨hentry, rfl⟩ := hmatches.unique hmatches'
  have hhandler : route.handler = route'.handler := congrArg Entry.handler hentry
  rw [← hentry] at htext
  rw [← hhandler] at hruns
  exact ⟨captured, c, hmatches, htext, first, earlier, y, later, outcome, hbefore, hy, hruns⟩

theorem edit_of_handled (hr : Reaches s users render r (updateRoute s) ∨
      Reaches s users render r (deleteRoute s)) {before : List Exchange} {st : Statement}
    (hst : ¬ st.IsSelect) (h : Handled s users render r before st) :
    Edit s users render r before st := by
  rcases hr with hr | hr
  · obtain ⟨captured, c, hmatches, htext, first, earlier, y, later, outcome, rfl, hy, hruns⟩ :=
      hr.handled h
    obtain ⟨id, post, hid, hfound, rfl⟩ :=
      writes_updatePost _ outcome hruns earlier y later rfl st hy hst
    have htrimmed : ∀ name ∈ (entryOf (updateRoute s)).spec.named, name ≠ "id" →
        Text.trim (c.textOr name "") = trimmed r name := fun name hname hne =>
      congrArg Text.trim (textOr_eq_carried updateRoute_mem (htext name hname) hne)
    have hnamed : (entryOf (updateRoute s)).spec.named = ["id", "name", "summary", "content"] := rfl
    rw [htext "id" (by simp [hnamed])] at hid
    refine ⟨id, post, hfound.mono (List.subset_append_right _ _), .inl ⟨⟨captured, hmatches, hid⟩, _,
      rfl, rfl, ?_⟩⟩
    simp only [htrimmed "name" (by simp [hnamed]) (by decide),
      htrimmed "summary" (by simp [hnamed]) (by decide),
      htrimmed "content" (by simp [hnamed]) (by decide)]
    rfl
  · obtain ⟨captured, c, -, -, first, earlier, y, later, outcome, rfl, hy, hruns⟩ := hr.handled h
    obtain ⟨id, post, -, hfound, rfl⟩ :=
      writes_deletePost _ outcome hruns earlier y later rfl st hy hst
    exact ⟨id, post, hfound.mono (List.subset_append_right _ _), .inr rfl⟩

theorem Reaches.method_eq {route : Route} (h : Reaches s users render r route)
    (hverb : route.verb = .post) : r.method = .post := by
  obtain ⟨captured, hmatches⟩ := h
  exact hmatches.method_eq hverb

/-- However far a request to update or delete a post has come, it has written nothing but that. -/
theorem writes_of_leads (husers : users.Reads) (hrender : render.Offline)
    (hr : Reaches s users render r (updateRoute s) ∨ Reaches s users render r (deleteRoute s))
    {es : List Exchange} {y : Action Http.Response}
    (h : Action.Leads ((site s users render).serve r) es y) :
    EachAfter (fun before x => ∀ st, x.effect = .run st → ¬ st.IsSelect →
      Edit s users render r before st) es := by
  have hmethod : r.method = .post := hr.elim (·.method_eq rfl) (·.method_eq rfl)
  obtain ⟨fs, response, hruns⟩ := h.exists_runs
  suffices hall : EachAfter _ (es ++ fs) from (EachAfter.append_iff.1 hall).1
  intro before x after hes st hx hst
  exact edit_of_handled hr hst
    (writes_serve husers hrender hmethod _ response hruns before x after hes st hx hst)

/-! ## All requests -/

variable {ι : Type} {start : List PostRow} {may : PostRow → Texts → Prop} {t t' : Table ι}

/-- Every post that a task was told of is a row that was there at the beginning, with texts that it
may have. -/
def Told (start : List PostRow) (may : PostRow → Texts → Prop) (x : Exchange) : Prop :=
  ∀ id post, FindsPost id post [x] → post.id = some id ∧ ∃ p ∈ start, p.id = id ∧ ∃ e, may p e ∧
    { p with texts := e } = PostRow.ofPost id post

theorem preserves_of_edit (hdistinct : (start.map PostRow.id).Nodup) {before : List Exchange}
    {st : Statement} (h : Edit s users render r before st) (htold : ∀ x ∈ before, Told start may x)
    (hmay : ∀ p, Updates s users render r p.id → may p (textsOf r)) {f : List Tuple → List Tuple}
    (hf : Alters st "blogs" f) : Preserves (Kept start may) "id" f := by
  obtain ⟨id, post, hfound, hedit⟩ := h
  obtain ⟨x, hx, hfound⟩ := hfound.exists_mem
  obtain ⟨hid, p, hp, rfl, e, -, hpost⟩ := htold x hx id post hfound
  rcases hedit with ⟨hupdates, post', rfl, hid', hpost'⟩ | rfl
  · refine preserves_revision hdistinct hp (hmay p hupdates) (hid'.trans hid) ?_ hf
    rw [hpost', ← hpost]
  · exact preserves_removal hid hf

/-- The texts that a row may have: those that it began with, or those of one request to update it. -/
def Offered (s : Settings) (users : Directory) (render : Renderer) (requests : ι → Http.Request)
    (p : PostRow) (e : Texts) : Prop :=
  e = p.texts ∨ ∃ i, Updates s users render (requests i) p.id ∧ e = textsOf (requests i)

theorem careful_of_leads (husers : users.Reads) (hrender : render.Offline)
    (hdistinct : (start.map PostRow.id).Nodup) {requests : ι → Http.Request} {i : ι}
    (hr : Reaches s users render (requests i) (updateRoute s) ∨
      Reaches s users render (requests i) (deleteRoute s))
    {es : List Exchange} {y : Action Http.Response}
    (h : Action.Leads ((site s users render).serve (requests i)) es y) :
    Table.Careful (Told start (Offered s users render requests)) "blogs" "id"
      (Kept start (Offered s users render requests)) es := by
  intro before x after hes htold st f hx hf
  have hedit := writes_of_leads husers hrender hr h before x after hes st hx hf.not_isSelect
  exact preserves_of_edit hdistinct hedit htold (fun p hp => .inr ⟨i, hp, rfl⟩) hf

variable [DecidableEq ι]

theorem told_of_admits {turn : Turn ι} (hsound : t.Sound (Kept start may) "id")
    (h : t.Admits "blogs" turn t') : Told start may turn.exchange := by
  rintro id post ⟨rs, row, rows, hx, hrows, hpost⟩
  obtain ⟨i, x⟩ := turn
  obtain rfl := List.mem_singleton.1 hx
  have h : t.Answers (Table.dialect "blogs") i (search id) (.ok rs) t' := h
  cases h with
  | read hreads =>
    cases hreads with
    | found hread _ hseen hfound hfields =>
      rw [ResultSet.decode_some hfields] at hrows
      have hrow : row ∈ row :: rows := List.mem_cons_self
      rw [← Except.ok.inj hrows] at hrow
      exact exists_of_found (hsound.shows hseen) hread hfound (List.mem_of_mem_take hrow) hpost
    | other _ hne => exact absurd rfl (hne _ read?_search)
  | changed _ halters =>
    have halters : Alters (search id) "blogs" _ := halters
    exact absurd (Post.schema.isSelect_selectByKeySql _) halters.not_isSelect

/-- Of requests to update and to delete posts that take turns in any order, each with single
statements: whatever the database shows of open transactions, every row is one that was there at the
beginning, with the texts that it had or with those of one request to update it, and with nothing
else changed. And from any point on no row comes back that is not there any more. -/
theorem posts_whole_of_interleaves (husers : users.Reads) (hrender : render.Offline)
    {requests : ι → Http.Request}
    (hrequests : ∀ i, Reaches s users render (requests i) (updateRoute s) ∨
      Reaches s users render (requests i) (deleteRoute s))
    (hdistinct : (start.map PostRow.id).Nodup) {ts : List (Turn ι)}
    {ys : ι → Action Http.Response}
    (h : Interleaves (Table.Admits "blogs") (.idle (start.map PostRow.tuple))
      (fun i => (site s users render).serve (requests i)) ts t ys) :
    (∀ row ∈ t.rows, ∃ p ∈ start, ∃ e, Offered s users render requests p e ∧
      row = { p with texts := e }.tuple) ∧
    ∀ before after t₁, ts = before ++ after →
      Evolves (Table.Admits "blogs") (.idle (start.map PostRow.tuple)) before t₁ →
      Evolves (Table.Admits "blogs") t₁ after t →
      (t.rows.map fun row => row.lookup "id").Sublist (t₁.rows.map fun row => row.lookup "id") := by
  obtain ⟨hevolves, hleads⟩ := interleaves_iff.1 h
  have hasks : ∀ i, Table.Careful (Told start (Offered s users render requests)) "blogs" "id"
      (Kept start (Offered s users render requests)) (ownTurns i ts) := fun i =>
    careful_of_leads husers hrender hdistinct (hrequests i) (hleads i)
  have hidle : Table.Sound (Kept start (Offered s users render requests)) "id"
      (.idle (start.map PostRow.tuple) : Table ι) := by
    refine Table.sound_idle fun row hrow => ?_
    obtain ⟨p, hp, rfl⟩ := List.mem_map.1 hrow
    exact ⟨p, hp, p.texts, .inl rfl, rfl⟩
  constructor
  · exact (Table.follows_of_evolves told_of_admits hasks hidle (.nil _) hevolves).1.rows
  · rintro before after t₁ rfl hbefore hafter
    exact (Table.follows_of_evolves told_of_admits hasks hidle hbefore hafter).2.keys

/-! ## A post that is deleted before it is written back -/

/-- Ann as an administrator. -/
def editor : User := { ann with admin := true }

def editorUsers : Directory :=
  .ofList [(ann.id.getD "", .found ⟨editor.sessionUser, editor.passwd⟩)]

def editorSite : Site := site (annSettings 86400) editorUsers fun _ _ => pure ""

/-- The form of an administrator who is signed in. -/
def editForm (path : String) : Http.Request :=
  .make .post ⟨"", path, none⟩
    [⟨"cookie", Text.Utf8.bytesOf (Cookie.pairText "awesession" (annToken 86400))⟩,
      ⟨"content-type", Text.Utf8.bytesOf "application/x-www-form-urlencoded"⟩]
    "name=New&summary=Newer&content=Newest".toUTF8

theorem runs_currentUser_editForm (path : String) :
    Action.Runs (editorSite.currentUser (editForm path)) [⟨.clock, annMillis⟩]
      (some editor.sessionUser) := by
  have hsent : Cookie.IsSentBack "awesession" (annToken 86400) (editForm path).headers := by
    obtain ⟨before, after, octets, others, blank, hheaders, hrest⟩ := isSentBack_annToken 86400
    refine ⟨before, after ++ (editForm path).headers.tail, octets, others, blank, ?_, hrest⟩
    rw [← List.cons_append, ← List.append_assoc, ← hheaders]
    rfl
  have hresolves : editorSite.Resolves (annToken 86400) editor (annMillis / 1000) :=
    Site.resolves_issue (u := editor) isName_awesession isDigitOrLower_of_mem_annId (by decide)
      (by decide) (by decide)
  exact hresolves (editForm path) annMillis [] hsent rfl (Directory.runs_ofList_head _ _ _)

theorem matches_update : editorSite.Matches (editForm "/api/blogs/7")
    (entryOf (updateRoute (annSettings 86400))) [['7']] :=
  matches_of_lookup updateRoute_mem kept_updateRoute (by decide) (.inr ⟨rfl, rfl⟩)
    (by rw [paths_eq]; decide +kernel)

theorem matches_delete : editorSite.Matches (editForm "/api/blogs/7/delete")
    (entryOf (deleteRoute (annSettings 86400))) [['7']] :=
  matches_of_lookup deleteRoute_mem kept_deleteRoute (by decide) (.inr ⟨rfl, rfl⟩)
    (by rw [paths_eq]; decide +kernel)

def oldRow : PostRow :=
  ⟨"7", some "u", some "Bob", some "bob.png", ⟨some "Old", some "Older", some "Oldest"⟩, none⟩

def otherRow : PostRow := { oldRow with id := "8" }

def oldPost : Post := ⟨some "7", "u", "Bob", "bob.png", "Old", "Older", "Oldest", none⟩

def editedPost : Post := { oldPost with name := "New", summary := "Newer", content := "Newest" }

/-- The row of the post as the database sends it. -/
def oldSelected : ResultSet where
  columns := [⟨"id", .varchar⟩, ⟨"user_id", .varchar⟩, ⟨"user_name", .varchar⟩,
    ⟨"user_image", .varchar⟩, ⟨"name", .varchar⟩, ⟨"summary", .varchar⟩, ⟨"content", .text⟩,
    ⟨"created_at", .float8⟩]
  rows := [[.text "7", .text "u", .text "Bob", .text "bob.png", .text "Old", .text "Older",
    .text "Oldest", .null]]
  affected := 1

/-- How the update is answered when the post has been deleted after it was found. -/
def staleUpdate : List Exchange :=
  [⟨.clock, annMillis⟩, ⟨.connect, .ok ()⟩, ⟨.run (search "7"), .ok oldSelected⟩,
    ⟨.connect, .ok ()⟩, ⟨.run (Draft.revision editedPost), .ok ⟨[], [], 0⟩⟩, ⟨.log .updateMissed, ()⟩]

def deletion : List Exchange :=
  [⟨.clock, annMillis⟩, ⟨.connect, .ok ()⟩, ⟨.run (search "7"), .ok oldSelected⟩,
    ⟨.connect, .ok ()⟩, ⟨.run (Draft.removal oldPost), .ok ⟨[], [], 1⟩⟩]

theorem runs_staleUpdate : ∃ response,
    Action.Runs (editorSite.serve (editForm "/api/blogs/7")) staleUpdate response := by
  have hadmits : Site.admits (editForm "/api/blogs/7") (some editor.sessionUser) = true := by
    decide +kernel
  have hparameters : (entryOf (updateRoute (annSettings 86400))).parameters [['7']] =
      [("id", "7")] := by
    rw [parameters_of_kept kept_updateRoute]
    decide +kernel
  have hargs : Action.Runs ((entryOf (updateRoute (annSettings 86400))).spec.arguments
      ((entryOf (updateRoute (annSettings 86400))).parameters [['7']])
        (editForm "/api/blogs/7")).run [] (.ok [("content", .string "Newest"),
          ("id", .string "7"), ("name", .string "New"), ("summary", .string "Newer")]) := by
    rw [hparameters]
    exact .done
  have hanswer : Action.Runs (updatePost (annSettings 86400)
      ((entryOf (updateRoute (annSettings 86400))).call (some editor.sessionUser)
        (editForm "/api/blogs/7") [("content", .string "Newest"), ("id", .string "7"),
          ("name", .string "New"), ("summary", .string "Newer")])).run staleUpdate.tail
      (.ok (.fields editedPost.toFields)) := .ask (.ask (.ask (.ask (.ask .done))))
  exact ⟨_, runs_serve_of_handler matches_update rfl (runs_currentUser_editForm _) hadmits hargs
    hanswer .done⟩

theorem runs_deletion : ∃ response,
    Action.Runs (editorSite.serve (editForm "/api/blogs/7/delete")) deletion response := by
  have hadmits : Site.admits (editForm "/api/blogs/7/delete") (some editor.sessionUser) = true := by
    decide +kernel
  have hparameters : (entryOf (deleteRoute (annSettings 86400))).parameters [['7']] =
      [("id", "7")] := by
    rw [parameters_of_kept kept_deleteRoute]
    decide +kernel
  have hargs : Action.Runs ((entryOf (deleteRoute (annSettings 86400))).spec.arguments
      ((entryOf (deleteRoute (annSettings 86400))).parameters [['7']])
        (editForm "/api/blogs/7/delete")).run [] (.ok [("id", .string "7")]) := by
    rw [hparameters]
    exact .done
  have hanswer : Action.Runs (deletePost (annSettings 86400)
      ((entryOf (deleteRoute (annSettings 86400))).call (some editor.sessionUser)
        (editForm "/api/blogs/7/delete") [("id", .string "7")])).run deletion.tail
      (.ok (.fields [("id", .string "7")])) := .ask (.ask (.ask (.ask .done)))
  exact ⟨_, runs_serve_of_handler matches_delete rfl (runs_currentUser_editForm _) hadmits hargs
    hanswer .done⟩

def editRequest : Bool → Http.Request
  | false => editForm "/api/blogs/7"
  | true => editForm "/api/blogs/7/delete"

/-- Both requests have found the post, and then it is deleted. -/
def turnsToDeletion : List (Turn Bool) :=
  (staleUpdate.take 3).map (⟨false, ·⟩) ++ deletion.map (⟨true, ·⟩)

/-- The post that is not there any more is written back. -/
def turnsAfterDeletion : List (Turn Bool) := (staleUpdate.drop 3).map (⟨false, ·⟩)

theorem answers_search (i : Bool) : Shared.Answers (Table.dialect "blogs")
    (.idle [oldRow.tuple, otherRow.tuple]) i (search "7") (.ok oldSelected)
    (.idle [oldRow.tuple, otherRow.tuple]) := by
  have hfound : KeySelect.found? ⟨⟨(Post.schema.key :: Post.schema.attrs).map fun a => ⟨a, a⟩,
      "blogs"⟩, ⟨"id", 1⟩⟩ (search "7").args [oldRow.tuple, otherRow.tuple] =
      some [oldRow.fields] := rfl
  exact .read (.found read?_search rfl ⟨[], rfl⟩ hfound rfl)

theorem evolves_toDeletion : Evolves (Table.Admits "blogs")
    (.idle [oldRow.tuple, otherRow.tuple]) turnsToDeletion (.idle [otherRow.tuple]) := by
  have hremoved : Shared.Answers (Table.dialect "blogs") (.idle [oldRow.tuple, otherRow.tuple]) true
      (Draft.removal oldPost) (.ok ⟨[], [], 1⟩) (.idle [otherRow.tuple]) :=
    .changed (d := Table.dialect "blogs") _ (Alters.delete (@read?_removal oldPost) rfl rfl)
  exact .turn rfl (.turn rfl (.turn (answers_search false) (.turn rfl (.turn rfl
    (.turn (answers_search true) (.turn rfl (.turn hremoved (.nil _))))))))

theorem evolves_afterDeletion : Evolves (Table.Admits "blogs") (.idle [otherRow.tuple])
    turnsAfterDeletion (.idle [otherRow.tuple]) := by
  have hmissed : Shared.Answers (Table.dialect "blogs") (.idle [otherRow.tuple]) false
      (Draft.revision editedPost) (.ok ⟨[], [], 0⟩) (.idle [otherRow.tuple]) :=
    .changed (d := Table.dialect "blogs") _ (Alters.update (@read?_revision editedPost) rfl rfl rfl)
  exact .turn rfl (.turn hmissed (.turn rfl (.nil _)))

/-- The post is not there, and no row has been given its texts. -/
theorem posts_whole_of_interleaves_stale : ∃ ys,
    Interleaves (Table.Admits "blogs") (.idle [oldRow.tuple, otherRow.tuple])
      (fun i => editorSite.serve (editRequest i)) (turnsToDeletion ++ turnsAfterDeletion)
      (.idle [otherRow.tuple]) ys ∧
    (∀ row ∈ [otherRow.tuple], ∃ p ∈ [oldRow, otherRow], ∃ e,
      Offered (annSettings 86400) editorUsers (fun _ _ => pure "") editRequest p e ∧
      row = { p with texts := e }.tuple) ∧
    ([otherRow.tuple].map fun row => row.lookup "id").Sublist
      ([otherRow.tuple].map fun row => row.lookup "id") := by
  obtain ⟨updated, hupdate⟩ := runs_staleUpdate
  obtain ⟨deleted, hdelete⟩ := runs_deletion
  have hleads : ∀ i, Action.Leads (editorSite.serve (editRequest i))
      (ownTurns i (turnsToDeletion ++ turnsAfterDeletion)) (.done (cond i deleted updated)) := by
    rintro (_ | _)
    · exact hupdate.leads
    · exact hdelete.leads
  have hinterleaves := interleaves_iff.2
    ⟨Evolves.append_iff.2 ⟨_, evolves_toDeletion, evolves_afterDeletion⟩, hleads⟩
  have husers : editorUsers.Reads := fun _ => (Action.silent_done _).reads
  have hrender : Renderer.Offline fun _ _ => pure "" := fun _ _ => silent_pure _
  have hrequests : ∀ i,
      Reaches (annSettings 86400) editorUsers (fun _ _ => pure "") (editRequest i)
        (updateRoute (annSettings 86400)) ∨
      Reaches (annSettings 86400) editorUsers (fun _ _ => pure "") (editRequest i)
        (deleteRoute (annSettings 86400)) := by
    rintro (_ | _)
    · exact .inl ⟨_, matches_update⟩
    · exact .inr ⟨_, matches_delete⟩
  have hdistinct : ([oldRow, otherRow].map PostRow.id).Nodup := by decide
  obtain ⟨hrows, hkeys⟩ :=
    posts_whole_of_interleaves husers hrender hrequests hdistinct hinterleaves
  exact ⟨_, hinterleaves, hrows, hkeys _ _ _ rfl evolves_toDeletion evolves_afterDeletion⟩

end Blog
end Weblog
