import Weblog.Proofs.Blog.Rendered
import Weblog.Proofs.Template.Elements

/-!
# Weblog.Proofs.Blog.Articles

The articles on the page with the newest posts.

* `articles`, `articleBody`: the articles of a page, read back out of it, and the article of a post.
* `piecesAll_article`, `contents_articles`: the article of a post can be drawn where it is known
  when the post was made, and one article after the other is read back.
* `piecesAll_layout`: the page is what stands above its list, the list, and what stands below it.
* `exists_page_of_dated`, `render_of_undated`: the page has one article for each post, or there is
  no page.
-/

namespace Weblog
namespace Blog

open Fallible Template

/-! ## Articles -/

def openTag : String := "<article>"

def closeTag : String := "</article>"

/-- What stands in the articles of a page, in order. -/
def articles (html : String) : List String :=
  (contents openTag.toList closeTag.toList html.toList).map String.ofList

/-- How long ago a post was made; empty where that is not known. -/
def ageOf (now : Int) (post : Post) : String :=
  (post.createdAt.map fun x => Calendar.age x now).getD ""

/-- The article of a post: its name, its author, its age and its summary. -/
def articleBody (now : Int) (post : Post) : String :=
  "\n      <h2>" ++ escape post.name ++ "</h2>\n      <p class=\"meta\">by " ++
    escape post.userName ++ ", " ++ escape (ageOf now post) ++ "</p>\n      <p>" ++
    escape post.summary ++ "</p>\n    "

variable {now : Int} {post : Post} {posts : List Post}

theorem tags_article : Tags openTag.toList closeTag.toList :=
  ⟨by decide, by decide, by decide, by decide⟩

def bodyPieces (now : Int) (post : Post) : List Template.Piece :=
  [.literal "\n      <h2>", .shown (escape post.name),
    .literal "</h2>\n      <p class=\"meta\">by ", .shown (escape post.userName), .literal ", ",
    .shown (escape (ageOf now post)), .literal "</p>\n      <p>", .shown (escape post.summary),
    .literal "</p>\n    "]

def bodyMarks : List Mark :=
  [.literal "\n      <h2>", .hole, .literal "</h2>\n      <p class=\"meta\">by ", .hole,
    .literal ", ", .hole, .literal "</p>\n      <p>", .hole, .literal "</p>\n    "]

theorem drawn_bodyPieces (now : Int) (post : Post) : Drawn (bodyPieces now post) bodyMarks where
  marks := rfl
  harmless := by
    have hescaped : ∀ s, (Template.Piece.shown (escape s)).Harmless := fun _ _ hc =>
      not_special_of_mem_escape hc
    simp only [bodyPieces, List.forall_mem_cons]
    exact ⟨trivial, hescaped _, trivial, hescaped _, trivial, hescaped _, trivial, hescaped _,
      trivial, List.forall_mem_nil _⟩

theorem joined_bodyPieces (now : Int) (post : Post) :
    joined (bodyPieces now post) = articleBody now post := by
  unfold articleBody bodyPieces
  simp only [joined, Template.Piece.text, String.append_assoc, String.append_empty]

/-- No tag of an article stands in what an article shows. -/
theorem isFree_articleBody (now : Int) (post : Post) :
    isFree openTag.toList (articleBody now post).toList = true ∧
      isFree closeTag.toList (articleBody now post).toList = true := by
  rw [← joined_bodyPieces]
  exact ⟨(drawn_bodyPieces now post).isFree_joined (by decide) (by decide),
    (drawn_bodyPieces now post).isFree_joined (by decide) (by decide)⟩

/-- The pieces of the article of a post; none where it is not known when the post was made. -/
def articlePieces (now : Int) (post : Post) : Option (List Template.Piece) :=
  post.createdAt.map fun x =>
    [.literal "\n    <article>\n      <h2>", .shown (escape post.name),
      .literal "</h2>\n      <p class=\"meta\">by ", .shown (escape post.userName), .literal ", ",
      .shown (escape (Calendar.age x now)), .literal "</p>\n      <p>",
      .shown (escape post.summary), .literal "</p>\n    </article>\n  "]

/-- The article of a post is drawn where its age is known, and is an error where it is not. -/
theorem piecesAll_article (s : Scope) (post : Post) :
    piecesAll (fun _ => none) (s.bind "blog" (entityJson post)) article =
      articlePieces s.now post := by
  have hget := Draft.get?_encode post
  have hblog : (s.bind "blog" (entityJson post)).lookup "blog" = some (entityJson post) := rfl
  have hname : (entityJson post).field? "name" = some (.string post.name) := hget _
  have huser : (entityJson post).field? "user_name" = some (.string post.userName) := hget _
  have hsummary : (entityJson post).field? "summary" = some (.string post.summary) := hget _
  have hcreated : (entityJson post).field? "created_at" = post.createdAt.map Json.ofFloat := hget _
  cases hc : post.createdAt with
  | none =>
    rw [hc] at hcreated
    simp [article, piecesAll, Node.pieces, Expr.eval, hblog, hname, huser, hcreated, articlePieces,
      hc]
  | some x =>
    rw [hc] at hcreated
    simp [article, piecesAll, Node.pieces, Expr.eval, hblog, hname, huser, hsummary, hcreated,
      articlePieces, hc, Json.ofFloat, Number.toFloat, shown]
    rfl

theorem joined_articlePieces {ps : List Template.Piece} (h : articlePieces now post = some ps) :
    joined ps = "\n    " ++ (openTag ++ (articleBody now post ++ (closeTag ++ "\n  "))) := by
  obtain ⟨x, hx, rfl⟩ := Option.map_eq_some_iff.1 h
  have hage : ageOf now post = Calendar.age x now := by rw [ageOf, hx]; rfl
  have hlead : "\n    <article>\n      <h2>" = "\n    " ++ (openTag ++ "\n      <h2>") := by decide
  have htrail : "</p>\n    </article>\n  " = "</p>\n    " ++ (closeTag ++ "\n  ") := by
    decide
  unfold articleBody
  simp only [joined, Template.Piece.text, hage, hlead, htrail, String.append_assoc,
    String.append_empty]

/-- One article after the other: each is read back. -/
theorem contents_articles {pss : List (List Template.Piece)}
    (h : posts.mapM (articlePieces now) = some pss) (rest : List Char) :
    contents openTag.toList closeTag.toList ((joined pss.flatten).toList ++ rest) =
      posts.map (fun post => (articleBody now post).toList) ++
        contents openTag.toList closeTag.toList rest := by
  induction posts generalizing pss with
  | nil =>
    cases h
    rfl
  | cons post posts ih =>
    rw [List.mapM_cons] at h
    obtain ⟨ps, hps, h⟩ := Option.bind_eq_some_iff.1 h
    obtain ⟨pss, hpss, h⟩ := Option.bind_eq_some_iff.1 h
    cases h
    obtain ⟨hopening, hclosing⟩ := isFree_articleBody now post
    have hlead : isFree openTag.toList "\n    ".toList = true := by decide
    have htrail : isFree openTag.toList "\n  ".toList = true := by decide
    rw [List.flatten_cons, joined_append, joined_articlePieces hps]
    simp only [String.toList_append, List.append_assoc]
    rw [contents_append hlead, contents_element tags_article hopening hclosing,
      contents_append htrail, ih hpss, List.map_cons, List.cons_append]

/-- The articles of posts can be drawn where it is known of all of them when they were made. -/
theorem isSome_mapM_articlePieces :
    (posts.mapM (articlePieces now)).isSome = true ↔ ∀ post ∈ posts, post.createdAt ≠ none := by
  induction posts with
  | nil => simp
  | cons post posts ih =>
    rw [List.forall_mem_cons, ← ih, List.mapM_cons, articlePieces]
    cases post.createdAt with
    | none => simp
    | some x => cases posts.mapM (articlePieces now) <;> simp

/-! ## The page -/

/-- What stands above the content of a page. -/
def aboveContent : List Node := layout.take 5

def belowContent : List Node := layout.drop 6

/-- What stands below the list of posts. -/
def pager : List Node := (blogsPage.flatMap Prod.snd).drop 2

def noPosts : List Node := [.text "\n    <p>No posts yet.</p>\n  "]

theorem layout_eq : layout = aboveContent ++ (.place "content" [] :: belowContent) := rfl

theorem blockPieces_content : blockPieces blogsPage "content" = some fun s =>
    piecesAll (fun _ => none) s
      (.text "\n  " :: .each "blog" (.var "blogs") article noPosts :: pager) :=
  rfl

/-- The pieces of the list of posts. -/
def listed (now : Int) (posts : List Post) : Option (List Template.Piece) :=
  if posts = [] then some [.literal "\n    <p>No posts yet.</p>\n  "]
  else (posts.mapM (articlePieces now)).map List.flatten

theorem pieces_each {s : Scope} (hs : s.lookup "blogs" = some (.array (posts.map entityJson))) :
    (Node.each "blog" (.var "blogs") article noPosts).pieces (fun _ => none) s =
      listed s.now posts := by
  rw [Node.pieces, Expr.eval, hs]
  cases posts with
  | nil => rfl
  | cons post posts =>
    have hbody : (fun v => piecesAll (fun _ => none) (s.bind "blog" v) article) ∘ entityJson =
        articlePieces s.now := funext fun post => piecesAll_article s post
    rw [listed, if_neg (List.cons_ne_nil post posts), ← hbody, ← List.mapM_map]
    rfl

/-- Where it is known of all posts when they were made, each is read back out of the list. -/
theorem exists_listed (h : ∀ post ∈ posts, post.createdAt ≠ none) (now : Int) :
    ∃ list, listed now posts = some list ∧ ∀ rest,
      contents openTag.toList closeTag.toList ((joined list).toList ++ rest) =
        posts.map (fun post => (articleBody now post).toList) ++
          contents openTag.toList closeTag.toList rest := by
  by_cases hnil : posts = []
  · subst hnil
    exact ⟨_, if_pos rfl, fun rest => contents_append (by decide) rest⟩
  · obtain ⟨pss, hpss⟩ := Option.isSome_iff_exists.1 (isSome_mapM_articlePieces.2 h)
    refine ⟨pss.flatten, ?_, contents_articles hpss⟩
    rw [listed, if_neg hnil, hpss]
    rfl

/-- The page is what stands above its list, the list, and what stands below it. -/
theorem piecesAll_layout {s : Scope}
    (hs : s.lookup "blogs" = some (.array (posts.map entityJson))) :
    piecesAll (blockPieces blogsPage) s layout =
      (piecesAll (blockPieces blogsPage) s aboveContent).bind fun above =>
        (listed s.now posts).bind fun list =>
          (piecesAll (fun _ => none) s pager).bind fun below =>
            (piecesAll (blockPieces blogsPage) s belowContent).map fun bottom =>
              above ++ (.literal "\n  " :: list ++ below ++ bottom) := by
  have hcontent : piecesAll (fun _ => none) s
      (.text "\n  " :: .each "blog" (.var "blogs") article noPosts :: pager) =
        (listed s.now posts).bind fun list =>
          (piecesAll (fun _ => none) s pager).map fun below =>
            .literal "\n  " :: list ++ below := by
    rw [piecesAll, Node.pieces, piecesAll, pieces_each hs]
    cases listed s.now posts with
    | none => rfl
    | some list => cases piecesAll (fun _ => none) s pager <;> rfl
  rw [layout_eq, piecesAll_append, piecesAll, Node.pieces, blockPieces_content]
  dsimp only
  rw [hcontent]
  cases piecesAll (blockPieces blogsPage) s aboveContent with
  | none => rfl
  | some above =>
    cases listed s.now posts with
    | none => rfl
    | some list =>
      cases piecesAll (fun _ => none) s pager with
      | none => rfl
      | some below => cases piecesAll (blockPieces blogsPage) s belowContent <;> rfl

section Shapes

variable (admin : Option Bool) (count : Nat) (next previous : Bool)

/-- The shapes of a listing with the user of the session. -/
def indexShapes : Shapes := withUser admin (.ofList (listingShapes count next previous))

/-- An outline without the tag of an article. -/
def OutlinedFree (outline : Option (List Mark)) : Prop :=
  ∃ ms, outline = some ms ∧ ms.all (Mark.isFree openTag.toList) = true

theorem outlined_above : OutlinedFree
    (outlineAll (blockOutlines blogsPage) (indexShapes admin count next previous)
      aboveContent) := by
  rcases admin with _ | _ | _ <;> exact ⟨_, rfl, by decide +kernel⟩

theorem outlined_pager : OutlinedFree
    (outlineAll (fun _ => none) (indexShapes admin count next previous) pager) := by
  cases next <;> cases previous <;> exact ⟨_, rfl, by decide +kernel⟩

theorem outlined_below : OutlinedFree
    (outlineAll (blockOutlines blogsPage) (indexShapes admin count next previous) belowContent) :=
  ⟨_, rfl, by decide +kernel⟩

end Shapes

/-- What has an outline without the tag is drawn without it. -/
theorem exists_free_pieces {fill : PieceFillings} {outlines : OutlineFillings}
    (hfill : fill.Follows outlines) {s : Scope} {env : Shapes} (hs : s.Fits env)
    {nodes : List Node} (h : OutlinedFree (outlineAll outlines env nodes)) :
    ∃ ps, piecesAll fill s nodes = some ps ∧ isFree openTag.toList (joined ps).toList = true := by
  obtain ⟨ms, hms, hfree⟩ := h
  obtain ⟨ps, hps, hdrawn⟩ := exists_piecesAll hfill hs nodes hms
  exact ⟨ps, hps, hdrawn.isFree_joined (by decide) hfree⟩

section Page

variable (user : Option SessionUser) (p : Page)

theorem lookup_blogs (posts : List Post) (now : Int) :
    (Scope.ofContext (Reply.pageContext user (listingFields p posts)) now).lookup "blogs" =
      some (.array (posts.map entityJson)) := by
  have hlookup : (Scope.ofContext (Reply.pageContext user (listingFields p posts)) now).lookup
      "blogs" = Fields.get? "blogs" (Fields.set Reply.userKey (Reply.userValue user)
        (listingFields p posts)) := rfl
  rw [hlookup, Fields.get?_set_of_ne (by decide), get?_listingFields p posts (by decide)]
  rfl

theorem dated_listingFields (h : ∀ post ∈ posts, post.createdAt ≠ none) :
    Dated (listingFields p posts) := by
  intro v hv
  rw [postsOf_listingFields] at hv
  obtain ⟨post, hpost, rfl⟩ := List.mem_map.1 hv
  obtain ⟨x, hx⟩ := Option.ne_none_iff_exists'.1 (h post hpost)
  have hcreated : (entityJson post).field? "created_at" = post.createdAt.map Json.ofFloat :=
    Draft.get?_encode post _
  exact ⟨.float x, by rw [hcreated, hx]; rfl⟩

/-- Where it is known of all posts when they were made, the page has one article for each. -/
theorem exists_page_of_dated (h : ∀ post ∈ posts, post.createdAt ≠ none) (now : Int) :
    ∃ html, render "blogs.html" (Reply.pageContext user (listingFields p posts)) now = .ok html ∧
      articles html = posts.map (articleBody now) := by
  have hscope := (context_listing p posts).fits_scope (dated_listingFields p h) user now
  obtain ⟨above, habove, hfree⟩ := exists_free_pieces (follows_blockPieces blogsPage) hscope
    (outlined_above _ _ _ _)
  obtain ⟨below, hbelow, hfree'⟩ := exists_free_pieces follows_none hscope (outlined_pager _ _ _ _)
  obtain ⟨bottom, hbottom, hfree''⟩ := exists_free_pieces (follows_blockPieces blogsPage) hscope
    (outlined_below _ _ _ _)
  obtain ⟨list, hlisted, hlist⟩ := exists_listed h now
  have hfind : find? "blogs.html" = some blogsPage := rfl
  have hpieces : pagePieces "blogs.html" (Reply.pageContext user (listingFields p posts)) now =
      some (above ++ (.literal "\n  " :: list ++ below ++ bottom)) := by
    rw [pagePieces_eq hfind, piecesAll_layout (lookup_blogs user p posts now), habove, hbelow,
      hbottom, Option.bind_some]
    have hnow : (Scope.ofContext (Reply.pageContext user (listingFields p posts)) now).now = now :=
      rfl
    rw [hnow, hlisted]
    rfl
  refine ⟨_, render_eq_joined hpieces, ?_⟩
  have hlead : isFree openTag.toList "\n  ".toList = true := by decide
  have hbottom' : contents openTag.toList closeTag.toList (joined bottom).toList = [] := by
    rw [← List.append_nil (joined bottom).toList, contents_append hfree'']
    rfl
  have hcontents : contents openTag.toList closeTag.toList
      (joined (above ++ (.literal "\n  " :: list ++ below ++ bottom))).toList =
        posts.map fun post => (articleBody now post).toList := by
    simp only [joined_append, joined, Template.Piece.text, String.toList_append, List.cons_append,
      List.append_assoc]
    rw [contents_append hfree, contents_append hlead, hlist, contents_append hfree', hbottom',
      List.append_nil]
  rw [articles, hcontents, List.map_map]
  exact List.map_congr_left fun post _ => String.ofList_toList

/-- Where it is not known of some post when it was made, there is no page. -/
theorem render_of_undated (h : ∃ post ∈ posts, post.createdAt = none) (now : Int) :
    render "blogs.html" (Reply.pageContext user (listingFields p posts)) now =
      .error (.failed "blogs.html") := by
  have hfind : find? "blogs.html" = some blogsPage := rfl
  have hlisted : listed now posts = none := by
    obtain ⟨post, hpost, hcreated⟩ := h
    have hnone : posts.mapM (articlePieces now) = none := by
      rw [← Option.not_isSome_iff_eq_none, isSome_mapM_articlePieces]
      exact fun hall => hall post hpost hcreated
    rw [listed, if_neg (List.ne_nil_of_mem hpost), hnone]
    rfl
  rw [render_eq hfind, pagePieces_eq hfind, piecesAll_layout (lookup_blogs user p posts now)]
  have hnow : (Scope.ofContext (Reply.pageContext user (listingFields p posts)) now).now = now :=
    rfl
  rw [hnow, hlisted]
  cases piecesAll (blockPieces blogsPage) _ aboveContent <;> rfl

end Page

end Blog
end Weblog
