import Weblog.Blog.Routes
import Weblog.Proofs.Blog.Access
import Weblog.Proofs.Json.Fields
import Weblog.Proofs.Page
import Weblog.Proofs.Sql.Markers
import Weblog.Proofs.Store.Entity

/-!
# Weblog.Proofs.Blog.Listings

What the lists of the blog fetch and show.

* `Lists`: the handlers that show one page of a list, each with its model and order.
* `Counts`: the integer that the reply to a count holds.
* `Serves`: one page is fetched, and it is the page that is reported.
* `runs_listing`: the runs of a listing, by the answer to its count.
* `listings_cover_once`: the pages of a list show every item once, and each listing fetches the page
  that it reports.
-/

namespace Weblog
namespace Blog

open Fallible
open Text (IntRange)

/-- The handlers that show one page of a list, with its model and order. -/
inductive Lists : Handler → Schema → String → Prop where
  | index : Lists indexPage Post.schema "created_at DESC"
  | posts : Lists listPosts Post.schema "created_at DESC"
  | comments : Lists listComments Comment.schema "created_at"
  | users : Lists listUsers User.schema "created_at DESC"

def countStatement (m : Schema) : Statement := Database.statement (m.numberSql "COUNT(id)" none) []

/-- The reply to a count holds an integer. -/
def Counts (rs : ResultSet) (n : Int) : Prop :=
  ∃ row rows, rs.decode (some 1) = .ok (row :: rows) ∧
    (Fields.get? numberLabel row).bind Json.int64? = some n

/-- The statement that fetches the rows of a page: its rows bound as the limit, and its offset. -/
def pageStatement (m : Schema) (order : String) (p : Page) : Statement :=
  ⟨m.selectSql ++ " ORDER BY " ++ order ++ " LIMIT $1 OFFSET $2", [.int p.rows, .int p.offset]⟩

/-- The page is fetched, where a connection is there, and it is the one that is reported. -/
structure Serves (m : Schema) (order : String) (p : Page) (rest : List Exchange)
    (out : Except AppError Reply) : Prop where
  fetched : (∃ e, rest = [⟨.connect, .error e⟩]) ∨
    ∃ answer, rest = [⟨.connect, .ok ()⟩, ⟨.run (pageStatement m order p), answer⟩]
  reported : ∀ reply, out = .ok reply →
    ∃ fs, reply = .fields fs ∧ Fields.get? "page" fs = some p.toJson

theorem native_limit {text : String} (h : Sql.Inert text.toList) :
    Sql.native (text ++ " LIMIT ? OFFSET ?") = text ++ " LIMIT $1 OFFSET $2" := by
  have hlimit : Sql.renumber none 0 " LIMIT ? OFFSET ?".toList = " LIMIT $1 OFFSET $2".toList := by
    decide
  refine String.toList_injective ?_
  rw [Sql.toList_native, String.toList_append, Sql.renumber_inert h, hlimit, String.toList_append]

theorem bound_ofInt {v : Int} (h : IntRange.i64.has v = true) : Bound.ofJson (.ofInt v) = .int v := by
  obtain ⟨hmin, hmax⟩ := Page.has_i64_iff.1 h
  have hread : (Number.integer v).toInt64? = some v :=
    if_pos ⟨hmin, Int.lt_of_le_of_lt hmax (by decide)⟩
  simp only [Json.ofInt, Bound.ofJson, hread]

/-- The query of the rows in an order that a page shows. -/
def pageQuery (order : String) (p : Page) : FindAll := { order := some order, limit := some p.limit }

/-- The query of a page that is asked for, with its markers numbered. -/
theorem statement_pageQuery (m : Schema) {order : String} (horder : Sql.Inert order.toList)
    (hclause : clause " ORDER BY " (some order) = " ORDER BY " ++ order) (c : Call) (n : Int) :
    Database.statement ((pageQuery order (askedPage c n)).query m).sql
        ((pageQuery order (askedPage c n)).query m).params =
      pageStatement m order (askedPage c n) := by
  obtain ⟨hrows, hoffset⟩ := Page.has_limit n (pageIndex (c.textOr "page" "1")) Page.defaultSize
  have hsql : ((pageQuery order (askedPage c n)).query m).sql =
      m.selectSql ++ " ORDER BY " ++ order ++ " LIMIT ? OFFSET ?" := by
    have hquery : ((pageQuery order (askedPage c n)).query m).sql =
        m.selectSql ++ "" ++ clause " ORDER BY " (some order) ++ " LIMIT ? OFFSET ?" := rfl
    rw [hquery, String.append_empty, hclause, ← String.append_assoc]
  have hparams : ((pageQuery order (askedPage c n)).query m).params =
      [.ofInt (askedPage c n).rows, .ofInt (askedPage c n).offset] := rfl
  have hinert : Sql.Inert (m.selectSql ++ " ORDER BY " ++ order).toList := by
    have hby : Sql.Inert " ORDER BY ".toList := by decide
    rw [String.toList_append, String.toList_append]
    exact (m.quiet_selectSql.inert.append hby).append horder
  rw [Database.statement, hsql, native_limit hinert, hparams, List.map_cons, List.map_cons,
    bound_ofInt (v := (askedPage c n).rows) hrows, bound_ofInt (v := (askedPage c n).offset) hoffset]
  rfl

section Runs

variable {α : Type} [Entity α] {m : Schema} {es : List Exchange}

/-- A number is asked for with one statement, and is the one in the first row of the reply. -/
theorem runs_findNumber (hm : Entity.schema α = .ok m) {expr : String} {filter : Option String}
    {args : List Json} {out : Except StoreError (Option Json)}
    (h : Action.Runs (Entity.findNumber α expr filter args).run es out) :
    (∃ e d, es = [⟨.connect, .error e⟩] ∧ out = .error d) ∨
      ∃ answer : Except DbError ResultSet,
        es = [⟨.connect, .ok ()⟩, ⟨.run (Database.statement (m.numberSql expr filter) args), answer⟩] ∧
        ∀ rs row rows, answer = .ok rs → rs.decode (some 1) = .ok (row :: rows) →
          out = .ok (Fields.get? numberLabel row) := by
  rw [Entity.findNumber_eq hm] at h
  rcases runs_bind_iff.1 h with ⟨e, hselect, rfl⟩ | ⟨fs, gs, found, rfl, hselect, hfound⟩
  · rcases (Database.runs_select_iff (by decide)).1 hselect with
      ⟨d, rfl, -⟩ | ⟨d, rfl, -⟩ | ⟨rs, rfl, he⟩
    · exact .inl ⟨d, _, rfl, rfl⟩
    · exact .inr ⟨_, rfl, nofun⟩
    · refine .inr ⟨_, rfl, ?_⟩
      rintro rs row rows ⟨⟩ hdecode
      rw [hdecode] at he
      cases he
  · rcases (Database.runs_select_iff (by decide)).1 hselect with
      ⟨d, rfl, hf⟩ | ⟨d, rfl, hf⟩ | ⟨rs, rfl, hf⟩
    · cases hf
    · cases hf
    · have hsilent : gs = [] := by
        cases found with
        | nil => exact (runs_pure_iff.1 hfound).1
        | cons row rows => exact (runs_pure_iff.1 hfound).1
      subst hsilent
      refine .inr ⟨.ok rs, by rw [List.append_nil], ?_⟩
      rintro rs row rows ⟨⟩ hdecode
      rw [hdecode] at hf
      cases hf
      exact (runs_pure_iff.1 hfound).2

/-- A count asks for a connection, and then for the number; it yields the number in the reply. -/
theorem runs_countOf (hm : Entity.schema α = .ok m) {out : Except AppError Int}
    (h : Action.Runs (countOf α).run es out) :
    (∃ e d, es = [⟨.connect, .error e⟩] ∧ out = .error d) ∨
      ∃ answer : Except DbError ResultSet,
        es = [⟨.connect, .ok ()⟩, ⟨.run (countStatement m), answer⟩] ∧
        ∀ rs n, answer = .ok rs → Counts rs n → out = .ok n := by
  rcases runs_bind_iff.1 h with ⟨e, hstored, rfl⟩ | ⟨fs, gs, found, rfl, hstored, hfound⟩
  · obtain ⟨r, hnumber, hr⟩ := runs_mapError_iff.1 hstored
    rcases runs_findNumber hm hnumber with hunconnected | ⟨answer, hes, hanswer⟩
    · obtain ⟨d, d', hes, rfl⟩ := hunconnected
      cases hr
      exact .inl ⟨d, _, hes, rfl⟩
    · refine .inr ⟨answer, hes, ?_⟩
      rintro rs n hrs ⟨row, rows, hdecode, -⟩
      rw [hanswer rs row rows hrs hdecode] at hr
      cases hr
  · obtain ⟨r, hnumber, hr⟩ := runs_mapError_iff.1 hstored
    obtain ⟨rfl, rfl⟩ := runs_pure_iff.1 hfound
    rw [List.append_nil]
    rcases runs_findNumber hm hnumber with hunconnected | ⟨answer, hes, hanswer⟩
    · obtain ⟨d, d', hes, rfl⟩ := hunconnected
      cases hr
    · refine .inr ⟨answer, hes, ?_⟩
      rintro rs n hrs ⟨row, rows, hdecode, hnum⟩
      rw [hanswer rs row rows hrs hdecode] at hr
      cases hr
      rw [hnum]
      rfl

/-- After the fetch of a page a listing ends, with the page if it ends well. -/
theorem runs_fetch (hm : Entity.schema α = .ok m) {q : FindAll} {page : Page}
    {out : Except AppError (Page × List α)}
    (h : Action.Runs (stored (Entity.findAll α q) >>= fun vs => pure (page, vs)).run es out) :
    ((∃ e, es = [⟨.connect, .error e⟩]) ∨
      ∃ answer, es = [⟨.connect, .ok ()⟩,
        ⟨.run (Database.statement (q.query m).sql (q.query m).params), answer⟩]) ∧
    ∀ p, out = .ok p → p.1 = page := by
  have hexchanges : ∀ {fs : List Exchange} {o : Except StoreError (List α)},
      Action.Runs (Entity.findAll α q).run fs o → (∃ e, fs = [⟨.connect, .error e⟩]) ∨
        ∃ answer, fs = [⟨.connect, .ok ()⟩,
          ⟨.run (Database.statement (q.query m).sql (q.query m).params), answer⟩] := by
    intro fs o hfind
    rcases (Entity.runs_findAll_iff hm).1 hfind with ⟨e, rfl, -⟩ | ⟨e, rfl, -⟩ | ⟨rs, rfl, -⟩
    · exact .inl ⟨e, rfl⟩
    · exact .inr ⟨_, rfl⟩
    · exact .inr ⟨_, rfl⟩
  rcases runs_bind_iff.1 h with ⟨e, hstored, rfl⟩ | ⟨fs, gs, vs, rfl, hstored, hpure⟩
  · obtain ⟨r, hfind, -⟩ := runs_mapError_iff.1 hstored
    exact ⟨hexchanges hfind, nofun⟩
  · obtain ⟨r, hfind, -⟩ := runs_mapError_iff.1 hstored
    obtain ⟨rfl, rfl⟩ := runs_pure_iff.1 hpure
    rw [List.append_nil]
    refine ⟨hexchanges hfind, ?_⟩
    rintro p ⟨⟩
    rfl

/-- A listing counts first. Where the count is not zero, it then fetches the page that is asked for
among so many. -/
theorem runs_listing (hm : Entity.schema α = .ok m) {order : String} {c : Call}
    {out : Except AppError (Page × List α)} (h : Action.Runs (listing α order c).run es out) :
    (∃ e, es = [⟨.connect, .error e⟩]) ∨
      ∃ answer rest, es = ⟨.connect, .ok ()⟩ :: ⟨.run (countStatement m), answer⟩ :: rest ∧
        ∀ rs n, answer = .ok rs → Counts rs n → n ≠ 0 →
          Action.Runs (stored (Entity.findAll α (pageQuery order (askedPage c n))) >>=
            fun vs => pure (askedPage c n, vs)).run rest out := by
  rcases runs_bind_iff.1 h with ⟨e, hcount, rfl⟩ | ⟨fs, gs, k, rfl, hcount, hrest⟩
  · rcases runs_countOf hm hcount with ⟨d, -, hes, -⟩ | ⟨answer, hes, hanswer⟩
    · exact .inl ⟨d, hes⟩
    · refine .inr ⟨answer, [], hes, fun rs n hrs hn => ?_⟩
      cases hanswer rs n hrs hn
  · rcases runs_countOf hm hcount with ⟨_, _, _, hfailed⟩ | ⟨answer, rfl, hanswer⟩
    · cases hfailed
    · refine .inr ⟨answer, gs, rfl, fun rs n hrs hn hne => ?_⟩
      cases hanswer rs n hrs hn
      dsimp only at hrest
      rw [if_neg hne] at hrest
      exact hrest

/-- After a count of some, a listing fetches the page that is asked for among so many. -/
theorem runs_listing_of_found (hm : Entity.schema α = .ok m) {order : String}
    (horder : Sql.Inert order.toList)
    (hclause : clause " ORDER BY " (some order) = " ORDER BY " ++ order) {c : Call}
    {found : ResultSet} {n : Int} {vs : List α}
    (hcount : Action.Runs (countOf α).run es (.ok n)) (hne : n ≠ 0)
    (hfound : Entity.ofResult found = .ok vs) :
    Action.Runs (listing α order c).run
      (es ++ [⟨.connect, .ok ()⟩, ⟨.run (pageStatement m order (askedPage c n)), .ok found⟩])
      (.ok (askedPage c n, vs)) := by
  have hfind : Action.Runs (stored (Entity.findAll α (pageQuery order (askedPage c n)))).run
      [⟨.connect, .ok ()⟩, ⟨.run (pageStatement m order (askedPage c n)), .ok found⟩]
      (.ok vs) := by
    refine runs_mapError_iff.2 ⟨.ok vs, ?_, rfl⟩
    refine (Entity.runs_findAll_iff hm).2 (.inr (.inr ⟨found, ?_, hfound.symm⟩))
    rw [statement_pageQuery m horder hclause]
  refine runs_bind_ok_iff.2 ⟨_, _, n, rfl, hcount, ?_⟩
  dsimp only
  rw [if_neg hne]
  exact runs_bind_ok_iff.2 ⟨_, [], vs, (List.append_nil _).symm, hfind, .done⟩

/-- After a count of none, a listing asks for nothing more. -/
theorem runs_listing_of_none (order : String) {c : Call}
    (hcount : Action.Runs (countOf α).run es (.ok 0)) :
    Action.Runs (listing α order c).run es (.ok (askedPage c 0, [])) :=
  runs_bind_ok_iff.2 ⟨_, [], 0, (List.append_nil _).symm, hcount, .done⟩

/-- What a listing fetches and reports after its count. -/
theorem serves_of_runs (hm : Entity.schema α = .ok m) {order : String} {c : Call} {n : Int}
    (horder : Sql.Inert order.toList)
    (hclause : clause " ORDER BY " (some order) = " ORDER BY " ++ order)
    {reply : Page × List α → Reply}
    (hreply : ∀ p, ∃ fs, reply p = .fields fs ∧ Fields.get? "page" fs = some p.1.toJson)
    {out : Except AppError (Page × List α)}
    (h : Action.Runs (stored (Entity.findAll α (pageQuery order (askedPage c n))) >>=
      fun vs => pure (askedPage c n, vs)).run es out) :
    Serves m order (askedPage c n) es (out.map reply) := by
  obtain ⟨hfetched, hpage⟩ := runs_fetch hm h
  rw [statement_pageQuery m horder hclause] at hfetched
  refine ⟨hfetched, ?_⟩
  intro r hr
  cases out with
  | error e => cases hr
  | ok p =>
    cases hr
    rw [← hpage p rfl]
    exact hreply p

end Runs

/-- What a handler does that shows one page of a list: it counts first, and where there is something
to show it fetches the page that it reports. The page is sound where the last one ends in a word. -/
def Pages (m : Schema) (order : String) (c : Call) (es : List Exchange)
    (out : Except AppError Reply) : Prop :=
  (∃ e, es = [⟨.connect, .error e⟩]) ∨
    ∃ answer rest, es = ⟨.connect, .ok ()⟩ :: ⟨.run (countStatement m), answer⟩ :: rest ∧
      ∀ rs n, answer = .ok rs → Counts rs n → n ≠ 0 →
        Serves m order (askedPage c n) rest out ∧
          (1 ≤ n → n + 9 ≤ IntRange.i64.greatest →
            Page.Sound n (pageIndex (c.textOr "page" "1")) Page.defaultSize)

theorem pages_of_runs {α : Type} [Entity α] {m : Schema} (hm : Entity.schema α = .ok m)
    {order : String} (horder : Sql.Inert order.toList)
    (hclause : clause " ORDER BY " (some order) = " ORDER BY " ++ order) {c : Call}
    (reply : Page × List α → Reply)
    (hreply : ∀ p, ∃ fs, reply p = .fields fs ∧ Fields.get? "page" fs = some p.1.toJson)
    {es : List Exchange} {out : Except AppError Reply}
    (h : Action.Runs (listing α order c >>= fun p => pure (reply p)).run es out) :
    Pages m order c es out := by
  have hsound : ∀ n : Int, 1 ≤ n → n + 9 ≤ IntRange.i64.greatest →
      Page.Sound n (pageIndex (c.textOr "page" "1")) Page.defaultSize := by
    intro n hn hmax
    obtain ⟨hi, himax⟩ := bounds_pageIndex (c.textOr "page" "1")
    have hlast : n + Page.defaultSize - 1 ≤ IntRange.i64.greatest := by
      unfold Page.defaultSize
      omega
    exact Page.sound ⟨by omega, by decide, by decide, hlast⟩ hn hi himax
  obtain ⟨listed, hlisting, rfl⟩ : ∃ listed, Action.Runs (listing α order c).run es listed ∧
      out = listed.map reply := by
    rcases runs_bind_iff.1 h with ⟨e, hlisting, rfl⟩ | ⟨fs, gs, p, rfl, hlisting, hpure⟩
    · exact ⟨.error e, hlisting, rfl⟩
    · obtain ⟨rfl, rfl⟩ := runs_pure_iff.1 hpure
      exact ⟨.ok p, by rwa [List.append_nil], rfl⟩
  rcases runs_listing hm hlisting with hunconnected | ⟨answer, rest, hes, hrest⟩
  · exact .inl hunconnected
  · refine .inr ⟨answer, rest, hes, fun rs n hrs hcounts hne => ⟨?_, hsound n⟩⟩
    exact serves_of_runs hm horder hclause hreply (hrest rs n hrs hcounts hne)

theorem get?_page_listing {name : String} (hname : "page" ≠ name) (page : Page)
    (items : List Json) :
    Fields.get? "page" (Fields.ofList [("page", page.toJson), (name, .array items)]) =
      some page.toJson := by
  rw [Fields.get?_ofList (by simpa using hname), Fields.get?_cons, if_pos rfl]

theorem pages_of_lists {handler : Handler} {m : Schema} {order : String}
    (hlists : Lists handler m order) {c : Call} {es : List Exchange} {out : Except AppError Reply}
    (h : Action.Runs (handler c).run es out) : Pages m order c es out := by
  have hdescending : clause " ORDER BY " (some "created_at DESC") =
      " ORDER BY " ++ "created_at DESC" := by
    decide
  have hascending : clause " ORDER BY " (some "created_at") = " ORDER BY " ++ "created_at" := by
    decide
  cases hlists with
  | index =>
    refine pages_of_runs Post.build_eq (by decide) hdescending
      (fun p => .page "blogs.html" (listingJson "blogs" p.1 p.2)) (fun p => ⟨_, rfl, ?_⟩) h
    rw [Fields.get?_set_of_ne (by decide)]
    exact get?_page_listing (by decide) p.1 _
  | posts =>
    exact pages_of_runs Post.build_eq (by decide) hdescending
      (fun p => .ofJson (listingJson "blogs" p.1 p.2))
      (fun p => ⟨_, rfl, get?_page_listing (by decide) p.1 _⟩) h
  | comments =>
    exact pages_of_runs Comment.build_eq (by decide) hascending
      (fun p => .ofJson (listingJson "comments" p.1 p.2))
      (fun p => ⟨_, rfl, get?_page_listing (by decide) p.1 _⟩) h
  | users =>
    exact pages_of_runs User.build_eq (by decide) hdescending
      (fun p => .ofJson (listingJson "users" p.1 (p.2.map User.masked)))
      (fun p => ⟨_, rfl, get?_page_listing (by decide) p.1 _⟩) h

/-- For every number of items and every size: a reader who goes from page to page sees exactly the
pages that the items need, and every item once; words of 64 bits compute these pages. For every page
text and every count, each listing binds the rows and the offset of the page that it reports as limit
and offset. Where the last page ends in a word, they begin among the items, and past the end there is
the first page with nothing to fetch; nothing that such a page is computed from leaves the words, just
if there is room for one page more. -/
theorem listings_cover_once :
    (∀ n s : Int, 0 ≤ n → 1 ≤ s → s ≤ IntRange.i64.greatest →
      n + s - 1 ≤ IntRange.i64.greatest → Page.Paginates n s ∧
        ∀ i, 1 ≤ i → i ≤ IntRange.i64.greatest → Page.ofSize n i s = Page.ofInts n i s) ∧
    ∀ handler m order, Lists handler m order → ∀ c es out, Action.Runs (handler c).run es out →
      Pages m order c es out := by
  constructor
  · intro n s hn hs hsmax hlast
    have hfits : Page.Fits n s := ⟨hn, hs, hsmax, hlast⟩
    exact ⟨Page.paginates hfits, fun i hi hmax => hfits.ofSize_eq hi hmax⟩
  · intro handler m order hlists c es out h
    exact pages_of_lists hlists h

theorem runs_listPosts {c : Call} {es : List Exchange} {p : Page} {posts : List Post}
    (h : Action.Runs (listing Post "created_at DESC" c).run es (.ok (p, posts))) :
    Action.Runs (listPosts c).run es (.ok (.ofJson (listingJson "blogs" p posts))) :=
  runs_bind_ok_iff.2 ⟨_, [], (p, posts), (List.append_nil _).symm, h, .done⟩

theorem inert_newest : Sql.Inert "created_at DESC".toList := by decide

theorem ofResult_none : Entity.ofResult (⟨[], [], 0⟩ : ResultSet) = .ok ([] : List Post) := rfl

section Fifteen

/-- A call for a page past the end of fifteen posts. -/
def pastEnd : Call := ⟨[("page", .string "7")], none⟩

def fifteen : ResultSet := ⟨[⟨numberLabel, .int8⟩], [[.int 15]], 1⟩

/-- The first of two pages, for which nothing is fetched. -/
def firstOfTwo : Page := ⟨15, 1, 10, 2, 0, 0, true, false⟩

def exchangesPastEnd : List Exchange :=
  [⟨.connect, .ok ()⟩, ⟨.run (countStatement Post.schema), .ok fifteen⟩, ⟨.connect, .ok ()⟩,
    ⟨.run (pageStatement Post.schema "created_at DESC" firstOfTwo), .ok ⟨[], [], 0⟩⟩]

theorem runs_listPosts_pastEnd : Action.Runs (listPosts pastEnd).run exchangesPastEnd
    (.ok (.ofJson (listingJson "blogs" firstOfTwo ([] : List Post)))) := by
  have hasked : askedPage pastEnd 15 = firstOfTwo := by decide +kernel
  have hcount : Action.Runs (countOf Post).run
      [⟨.connect, .ok ()⟩, ⟨.run (countStatement Post.schema), .ok fifteen⟩] (.ok 15) :=
    .ask (.ask .done)
  have hlisting := runs_listing_of_found (c := pastEnd) Post.build_eq inert_newest (by decide) hcount
    (by decide) ofResult_none
  rw [hasked] at hlisting
  exact runs_listPosts hlisting

/-- Past the end of fifteen posts there is the first of two pages, for which no row is fetched. -/
theorem listings_cover_once_pastEnd :
    Page.Paginates 15 10 ∧ Page.ofSize 15 7 10 = Page.ofInts 15 7 10 ∧
      Pages Post.schema "created_at DESC" pastEnd exchangesPastEnd
        (.ok (.ofJson (listingJson "blogs" firstOfTwo ([] : List Post)))) := by
  obtain ⟨hpaginates, hwords⟩ :=
    listings_cover_once.1 15 10 (by decide) (by decide) (by decide) (by decide)
  exact ⟨hpaginates, hwords 7 (by decide) (by decide),
    listings_cover_once.2 _ _ _ .posts _ _ _ runs_listPosts_pastEnd⟩

end Fifteen

section Limits

/-- The greatest count whose last page ends in a word. -/
def mostPosts : Int := 9223372036854775798

def mostCount : ResultSet := ⟨[⟨numberLabel, .int8⟩], [[.int mostPosts]], 1⟩

def seventhOfMost : Page := ⟨mostPosts, 7, 10, 922337203685477580, 60, 10, true, true⟩

/-- Fifteen as a floating-point number. -/
def fifteenFloat : ResultSet :=
  ⟨[⟨numberLabel, .float8⟩], [[.float (some (Binary64.ofInt 15))]], 1⟩

def noPage : Page := ⟨0, 1, 10, 0, 0, 0, false, false⟩

/-- The sum of the greatest count and the size leaves the words before one is taken away, where a page
of it is listed. And a count that is a floating-point number counts as none: the listing reports that
there is nothing, and fetches nothing. -/
theorem listings_at_limits :
    (Counts mostCount mostPosts ∧ mostPosts + 9 = IntRange.i64.greatest ∧
      Action.Runs (listPosts pastEnd).run
        [⟨.connect, .ok ()⟩, ⟨.run (countStatement Post.schema), .ok mostCount⟩,
          ⟨.connect, .ok ()⟩,
          ⟨.run (pageStatement Post.schema "created_at DESC" seventhOfMost), .ok ⟨[], [], 0⟩⟩]
        (.ok (.ofJson (listingJson "blogs" seventhOfMost ([] : List Post)))) ∧
      mostPosts + Page.defaultSize ∈ Page.values mostPosts (pageIndex "7") Page.defaultSize ∧
      IntRange.i64.has (mostPosts + Page.defaultSize) = false) ∧
    (fifteenFloat.decode (some 1) = .ok [[(numberLabel, .ofFloat (Binary64.ofInt 15))]] ∧
      Action.Runs (listPosts pastEnd).run
        [⟨.connect, .ok ()⟩, ⟨.run (countStatement Post.schema), .ok fifteenFloat⟩]
        (.ok (.ofJson (listingJson "blogs" noPage ([] : List Post))))) := by
  refine ⟨⟨⟨_, _, rfl, by decide⟩, by decide, ?_, by simp [Page.values], by decide⟩,
    rfl, ?_⟩
  · have hasked : askedPage pastEnd mostPosts = seventhOfMost := by decide +kernel
    have hcount : Action.Runs (countOf Post).run
        [⟨.connect, .ok ()⟩, ⟨.run (countStatement Post.schema), .ok mostCount⟩] (.ok mostPosts) :=
      .ask (.ask .done)
    have hlisting := runs_listing_of_found (c := pastEnd) Post.build_eq inert_newest (by decide)
      hcount (by decide) ofResult_none
    rw [hasked] at hlisting
    exact runs_listPosts hlisting
  · have hasked : askedPage pastEnd 0 = noPage := by decide +kernel
    have hcount : Action.Runs (countOf Post).run
        [⟨.connect, .ok ()⟩, ⟨.run (countStatement Post.schema), .ok fifteenFloat⟩] (.ok 0) :=
      .ask (.ask .done)
    have hlisting := runs_listing_of_none "created_at DESC" (c := pastEnd) hcount
    rw [hasked] at hlisting
    exact runs_listPosts hlisting

end Limits

end Blog
end Weblog
