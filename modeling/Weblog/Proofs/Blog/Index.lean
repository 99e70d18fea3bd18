import Weblog.Proofs.Blog.Articles
import Weblog.Proofs.Blog.Calls
import Weblog.Proofs.Blog.Listings

/-!
# Weblog.Proofs.Blog.Index

The page with the newest posts, as it is served.

* `Fetches`: what the listing of posts asks the database, and the posts that it gets.
* `serve_index`, `exists_call`: a GET of the root calls the handler of the page with the page text
  of its query.
* `runs_index_iff`: after what it fetches, a run of the request is one that answers with the page.
* `index_shows_posts`: the page shows all posts or fails, by whether it is known of each of them
  when it was made.
-/

namespace Weblog
namespace Blog

open Fallible

variable {s : Settings} {users : Directory} {render : Renderer} {r r' : Http.Request}

/-! ## What the database is asked -/

/-- The reply to a count counts so many; none where it holds no number. -/
def CountsAs (rs : ResultSet) (n : Int) : Prop :=
  ∃ rows, rs.decode (some 1) = .ok rows ∧
    n = ((rows.head?.bind (Fields.get? numberLabel)).bind Json.int64?).getD 0

/-- The text of the page in the query of a request; that of the first page where there is none. -/
def pageText (r : Http.Request) : String :=
  (((Arguments.queryFields r.uri.query).bind (Fields.get? "page")).bind Json.argumentText).getD "1"

/-- What the listing of posts asks the database for a page text, and the posts that it gets. -/
inductive Fetches (text : String) : List Exchange → List Post → Prop where
  /-- There is no post. -/
  | nothing {rs : ResultSet} : CountsAs rs 0 →
      Fetches text [⟨.connect, .ok ()⟩, ⟨.run (countStatement Post.schema), .ok rs⟩] []
  /-- The rows of one page are read. -/
  | rows {rs found : ResultSet} {n : Int} {posts : List Post} : CountsAs rs n → n ≠ 0 →
      Entity.ofResult found = .ok posts →
      Fetches text [⟨.connect, .ok ()⟩, ⟨.run (countStatement Post.schema), .ok rs⟩,
        ⟨.connect, .ok ()⟩,
        ⟨.run (pageStatement Post.schema "created_at DESC" (Page.make n (pageIndex text))),
          .ok found⟩] posts

theorem runs_countOf_of_countsAs {rs : ResultSet} {n : Int} (h : CountsAs rs n) :
    Action.Runs (countOf Post).run
      [⟨.connect, .ok ()⟩, ⟨.run (countStatement Post.schema), .ok rs⟩] (.ok n) := by
  obtain ⟨rows, hrows, rfl⟩ := h
  have hselect : Action.Runs
      (Database.select (Post.schema.numberSql "COUNT(id)" none) [] (some 1)).run
      [⟨.connect, .ok ()⟩, ⟨.run (countStatement Post.schema), .ok rs⟩] (.ok rows) :=
    (Database.runs_select_iff (by decide)).2 (.inr (.inr ⟨rs, rfl, hrows.symm⟩))
  have hnumber : Action.Runs (Entity.findNumber Post "COUNT(id)" none []).run
      [⟨.connect, .ok ()⟩, ⟨.run (countStatement Post.schema), .ok rs⟩]
      (.ok (rows.head?.bind (Fields.get? numberLabel))) := by
    rw [Entity.findNumber_eq Post.build_eq]
    refine runs_bind_ok_iff.2 ⟨_, [], rows, (List.append_nil _).symm, hselect, ?_⟩
    cases rows <;> exact .done
  exact runs_bind_ok_iff.2 ⟨_, [], _, (List.append_nil _).symm,
    runs_mapError_iff.2 ⟨_, hnumber, rfl⟩, .done⟩

/-- A listing gives the posts that it fetches, in the order of their rows. -/
theorem Fetches.runs_listing {c : Call} {fs : List Exchange} {posts : List Post}
    (h : Fetches (c.textOr "page" "1") fs posts) :
    ∃ p, Action.Runs (listing Post "created_at DESC" c).run fs (.ok (p, posts)) := by
  cases h with
  | nothing hcount => exact ⟨askedPage c 0, runs_listing_of_none _ (runs_countOf_of_countsAs hcount)⟩
  | @rows rs found n _ hcount hne hfound =>
    exact ⟨askedPage c n, runs_listing_of_found Post.build_eq inert_newest (by decide)
      (runs_countOf_of_countsAs hcount) hne hfound⟩

/-! ## The request -/

def indexRoute : Route := (Route.get "/" indexPage).keywordDefault "page"

theorem mem_indexRoute (s : Settings) : indexRoute ∈ routes s := List.mem_iff_getElem?.2 ⟨0, rfl⟩

/-- A GET of the root is answered by the page with the newest posts. -/
theorem serve_index (hmethod : r.method = .get) (hpath : r.uri.path = "/")
    (hdispatched : Site.dispatched? r = some r') :
    (site s users render).serve r = (site s users render).currentUser r >>= fun user =>
      (entryOf indexRoute).dispatch user render [] r' := by
  have hkept : keptPath indexRoute.pattern = "/" :=
    show keptPath "/" = "/" by decide +kernel
  have hplain := isPlain_of_mem (mem_indexRoute s) hkept (by decide)
  obtain ⟨handlers, hp, hslot, hfind⟩ :=
    exists_handlers (mem_indexRoute s) hkept hplain users render
  have hget : handlers.get = some (entryOf indexRoute) := hslot
  have hcommon : CommonPage.ofPath? "/" = none := by decide
  rw [hcommon, ← hpath] at hfind
  have hgate : Site.isGated r.uri.path = false := by
    rw [hpath]
    decide
  have hendpoint : Place.endpoint? none handlers r.method =
      some (.entry (entryOf indexRoute)) := by
    rw [hmethod]
    simp [Place.endpoint?, Resource.entry?, hget]
  have hhead : r.method ≠ .head := by
    rw [hmethod]
    decide
  rw [Site.serve_of_endpoint hhead hgate hfind hendpoint, hdispatched]
  simp only [Site.parameters, List.zip_nil_right]
  rfl

/-- The handler of the page is called with the page text of the query. -/
theorem exists_call (render : Renderer) (hmethod : r.method = .get)
    (hdispatched : Site.dispatched? r = some r') (user : Option SessionUser) :
    ∃ c : Call, c.textOr "page" "1" = pageText r ∧
      (entryOf indexRoute).dispatch user render [] r' =
        (indexPage c).run >>= Entry.conclude user render := by
  have hdecoded : indexRoute.signature.decoded r' =
      .ok ((Arguments.queryFields r.uri.query).getD []) := by
    have hinput : Arguments.inputFields r' = .ok (Arguments.queryFields r.uri.query) := by
      rw [Arguments.inputFields, Site.method_of_dispatched? hdispatched, hmethod,
        Site.uri_of_dispatched? hdispatched]
    have hreads : indexRoute.signature.readsInput = true := rfl
    rw [Signature.decoded, hreads, if_pos rfl, hinput]
    rfl
  refine ⟨(entryOf indexRoute).call user r'
    (indexRoute.signature.admitted ((Arguments.queryFields r.uri.query).getD [])), ?_, ?_⟩
  · have hnamed : "page" ∈ indexRoute.signature.named := List.mem_singleton_self _
    rw [Call.textOr, Call.text, Call.arg, Entry.call, Signature.get?_admitted hnamed, pageText]
    cases Arguments.queryFields r.uri.query <;> rfl
  · have hspec : indexRoute.signature.inspect indexRoute.pattern =
        .ok (entryOf indexRoute).spec := rfl
    rw [Entry.dispatch_eq_answer hspec hdecoded rfl, Entry.answer_eq]
    rfl

/-- A GET of the root that fetches posts is answered with their page. -/
theorem runs_index_iff (hmethod : r.method = .get) (hpath : r.uri.path = "/")
    (hdispatched : Site.dispatched? r = some r') {ds : List Exchange} {visitor : Option SessionUser}
    (hvisitor : Action.Runs ((site s users render).currentUser r) ds visitor) {fs : List Exchange}
    {posts : List Post} (hfetches : Fetches (pageText r) fs posts) :
    ∃ p, ∀ rest out, Action.Runs ((site s users render).serve r) (ds ++ (fs ++ rest)) out ↔
      Action.Runs (Entry.conclude visitor render (.ok (.fields (listingFields p posts))))
        rest out := by
  obtain ⟨c, htext, hdispatch⟩ := exists_call render hmethod hdispatched visitor
  rw [← htext] at hfetches
  obtain ⟨p, hlisting⟩ := hfetches.runs_listing
  have hhandler : Action.Runs (indexPage c).run (fs ++ [])
      (.ok (.fields (listingFields p posts))) :=
    runs_bind_ok_iff.2 ⟨fs, [], (p, posts), rfl, hlisting, .done⟩
  rw [List.append_nil] at hhandler
  refine ⟨p, fun rest out => ?_⟩
  rw [serve_index hmethod hpath hdispatched, hvisitor.bind_iff, hdispatch, hhandler.bind_iff]

/-! ## The response -/

section Response

variable (p : Page) {posts : List Post} (visitor : Option SessionUser) (millis : Int)

/-- Where it is known of all posts when they were made, they are shown. -/
theorem exists_html (h : ∀ post ∈ posts, post.createdAt ≠ none) :
    ∃ html, articles html = posts.map (articleBody (millis / 1000)) ∧ ∀ rest out,
      Action.Runs (Entry.conclude visitor Template.renderer (.ok (.fields (listingFields p posts))))
          (⟨.clock, millis⟩ :: rest) out ↔ rest = [] ∧ out = .text 200 Reply.htmlType html := by
  obtain ⟨html, hrender, harticles⟩ := exists_page_of_dated visitor p h (millis / 1000)
  have hanswered := answeredBy_of_render (template?_page "blogs.html" _) hrender
  refine ⟨html, harticles, fun rest out => ?_⟩
  have hrespond := (hanswered [] _).2 ⟨rfl, rfl⟩
  exact hrespond.bind_iff.trans Action.runs_done_iff

/-- Where it is not known of some post, the page fails. -/
theorem runs_conclude_undated_iff (h : ∃ post ∈ posts, post.createdAt = none) {rest : List Exchange}
    {out : Http.Response} :
    Action.Runs (Entry.conclude visitor Template.renderer (.ok (.fields (listingFields p posts))))
        (⟨.clock, millis⟩ :: rest) out ↔
      rest = [⟨.log .requestFailed, ()⟩] ∧
        out = (AppError.template (.failed "blogs.html")).response := by
  have hrender := render_of_undated visitor p h (millis / 1000)
  have hrespond : Action.Runs ((Reply.fields (listingFields p posts)).respond visitor
      Template.renderer).run [⟨.clock, millis⟩]
      (.error (.template (.failed "blogs.html"))) := by
    have hname : Reply.template? (listingFields p posts) = some "blogs.html" := template?_page _ _
    rw [Reply.respond, hname]
    refine runs_bind_iff.2 (.inl ⟨_, runs_renderer_iff.2 ⟨millis, rfl, ?_⟩, rfl⟩)
    rw [hrender]
    rfl
  exact hrespond.bind_iff.trans AppError.runs_respond_iff

end Response

/-- The page with the newest posts, for every page text, every count and all rows that are read as
posts: where each of the posts has a time of creation, the response is a page with one article for
each of them in the order of the rows; and where one of them has none, it is an error of the
template. -/
theorem index_shows_posts (s : Settings) (users : Directory) (hmethod : r.method = .get)
    (hpath : r.uri.path = "/") (hdispatched : Site.dispatched? r = some r') {ds : List Exchange}
    {visitor : Option SessionUser}
    (hvisitor : Action.Runs ((site s users Template.renderer).currentUser r) ds visitor)
    {fs : List Exchange} {posts : List Post} (hfetches : Fetches (pageText r) fs posts)
    (millis : Int) :
    ((∀ post ∈ posts, post.createdAt ≠ none) →
      ∃ html, articles html = posts.map (articleBody (millis / 1000)) ∧ ∀ rest out,
        Action.Runs ((site s users Template.renderer).serve r)
            (ds ++ (fs ++ ⟨.clock, millis⟩ :: rest)) out ↔
          rest = [] ∧ out = .text 200 Reply.htmlType html) ∧
    ((∃ post ∈ posts, post.createdAt = none) → ∀ rest out,
      Action.Runs ((site s users Template.renderer).serve r)
          (ds ++ (fs ++ ⟨.clock, millis⟩ :: rest)) out ↔
        rest = [⟨.log .requestFailed, ()⟩] ∧
          out = (AppError.template (.failed "blogs.html")).response) := by
  obtain ⟨p, hserve⟩ := runs_index_iff hmethod hpath hdispatched hvisitor hfetches
  constructor
  · intro hdated
    obtain ⟨html, harticles, hanswered⟩ := exists_html p visitor millis hdated
    exact ⟨html, harticles, fun rest out => (hserve _ out).trans (hanswered rest out)⟩
  · intro hundated rest out
    exact (hserve _ out).trans (runs_conclude_undated_iff p visitor millis hundated)

section OnePost

def bareSettings : Settings := ⟨true, "awesession", "Awesome", 86400⟩

def nobody : Directory := .ofList []

def frontPage : Http.Request := .make .get ⟨"", "/", none⟩ [] .empty

def onePost (created : Option Binary64) : Post :=
  { id := some "7", userId := "u1", userName := "Ada", name := "N", summary := "S", content := "C",
    createdAt := created }

def oneCount : ResultSet := ⟨[⟨numberLabel, .int8⟩], [[.int 1]], 1⟩

def oneRow (created : Cell) : ResultSet :=
  ⟨[⟨"id", .varchar⟩, ⟨"user_id", .varchar⟩, ⟨"user_name", .varchar⟩, ⟨"user_image", .varchar⟩,
      ⟨"name", .varchar⟩, ⟨"summary", .varchar⟩, ⟨"content", .text⟩, ⟨"created_at", .float8⟩],
    [[.text "7", .text "u1", .text "Ada", .text "", .text "N", .text "S", .text "C", created]], 1⟩

def fetchedOne (created : Cell) : List Exchange :=
  [⟨.connect, .ok ()⟩, ⟨.run (countStatement Post.schema), .ok oneCount⟩, ⟨.connect, .ok ()⟩,
    ⟨.run (pageStatement Post.schema "created_at DESC" (Page.make 1 (pageIndex "1"))),
      .ok (oneRow created)⟩]

theorem fetches_one {created : Cell} {o : Option Binary64}
    (h : Entity.ofResult (oneRow created) = .ok [onePost o]) :
    Fetches (pageText frontPage) (fetchedOne created) [onePost o] :=
  .rows ⟨_, rfl, rfl⟩ (by decide) h

/-- A post of the first second of 1970, shown to nobody in particular. -/
theorem index_shows_posts_one :
    Entity.ofResult (oneRow (.float (some Binary64.zero))) = .ok [onePost (some Binary64.zero)] ∧
    ∃ html, articles html = [articleBody 1700000000 (onePost (some Binary64.zero))] ∧
      Action.Runs ((site bareSettings nobody Template.renderer).serve frontPage)
        (fetchedOne (.float (some Binary64.zero)) ++ [⟨.clock, (1700000000000 : Int)⟩])
        (.text 200 Reply.htmlType html) := by
  have hread : Entity.ofResult (oneRow (.float (some Binary64.zero))) =
      .ok [onePost (some Binary64.zero)] := rfl
  have hvisitor : Action.Runs ((site bareSettings nobody Template.renderer).currentUser frontPage)
      [] none := .done
  have hdated : ∀ post ∈ [onePost (some Binary64.zero)], post.createdAt ≠ none := by
    simp [onePost]
  obtain ⟨html, harticles, hserve⟩ := (index_shows_posts bareSettings nobody rfl rfl rfl hvisitor
    (fetches_one hread) 1700000000000).1 hdated
  exact ⟨hread, html, harticles, (hserve [] _).2 ⟨rfl, rfl⟩⟩

/-- A row without a time of creation is read as a post, and the page fails over it. -/
theorem index_fails_undated :
    Fetches (pageText frontPage) (fetchedOne .null) [onePost none] ∧
    Action.Runs ((site bareSettings nobody Template.renderer).serve frontPage)
      (fetchedOne .null ++ [⟨.clock, (1700000000000 : Int)⟩, ⟨.log .requestFailed, ()⟩])
      (AppError.template (.failed "blogs.html")).response ∧
    (AppError.template (.failed "blogs.html")).response.status = 500 ∧
    ¬ ∃ rest html, Action.Runs ((site bareSettings nobody Template.renderer).serve frontPage)
      (fetchedOne .null ++ ⟨.clock, (1700000000000 : Int)⟩ :: rest)
        (.text 200 Reply.htmlType html) := by
  have hfetches : Fetches (pageText frontPage) (fetchedOne .null) [onePost none] := fetches_one rfl
  have hvisitor : Action.Runs ((site bareSettings nobody Template.renderer).currentUser frontPage)
      [] none := .done
  obtain ⟨p, hserve⟩ := runs_index_iff rfl rfl rfl hvisitor hfetches
  have hundated : ∃ post ∈ [onePost none], post.createdAt = none :=
    ⟨_, List.mem_singleton_self _, rfl⟩
  have hfails := fun rest out => (hserve (⟨.clock, (1700000000000 : Int)⟩ :: rest) out).trans
    (runs_conclude_undated_iff p none 1700000000000 hundated)
  refine ⟨hfetches, (hfails _ _).2 ⟨rfl, rfl⟩, rfl, ?_⟩
  rintro ⟨rest, html, hruns⟩
  have hstatus : (200 : Nat) = 500 := congrArg Http.Response.status ((hfails rest _).1 hruns).2
  cases hstatus

end OnePost

end Blog
end Weblog
