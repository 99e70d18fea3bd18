import Weblog.Blog.Routes
import Weblog.Proofs.Blog.Drafts
import Weblog.Proofs.Template.Outline

/-!
# Weblog.Proofs.Blog.Rendered

What the pages of the blog show of texts that anyone may have written.

* `outline_listing`, `outline_plain`, `outline_form`, `outline_manage`: the outlines of the pages
  depend on no text and no number.
* `SameShape`, `Dated`: when two contexts have the same shape, and when the posts of one can be shown.
* `ShowsPage`, `Outlined`: the handlers that reply with a page, and what their contexts are like.
* `pages_keep_outline`: two pages of one handler whose contexts have the same shape are equal outside
  the places of what is shown, and what is shown is harmless there.
-/

namespace Weblog
namespace Blog

open Fallible Template

/-! ## The shapes of contexts -/

/-- The shape of the user of the session, of whom only the presence and the role are known. -/
def userShape : Option Bool → Shape
  | none => .null
  | some admin => .record (Shapes.ofList [("name", .text), ("admin", .flag admin)])

/-- A context with the user of the session. -/
def withUser (admin : Option Bool) (env : Shapes) : Shapes := env.bind Reply.userKey (userShape admin)

def pageShape (next previous : Bool) : Shape :=
  .record (Shapes.ofList [("page_index", .whole), ("page_count", .whole), ("has_next", .flag next),
    ("has_previous", .flag previous)])

def postShape : Shape :=
  .record (Shapes.ofList [("name", .text), ("user_name", .text), ("summary", .text),
    ("created_at", .number)])

/-- The shapes of a context by the number of its posts and the truth values of its page. -/
abbrev ContextShapes : Type := Nat → Bool → Bool → List (String × Shape)

def listingShapes : ContextShapes := fun count next previous =>
  [("blogs", .items count postShape), ("page", pageShape next previous)]

def formShapes : List (String × Shape) := [("id", .text), ("action", .text)]

def manageShapes : List (String × Shape) := [("page_index", .whole)]

theorem outline_listing (admin : Option Bool) (count : Nat) (next previous : Bool) :
    ∃ ms, pageOutline "blogs.html"
      (withUser admin (.ofList (listingShapes count next previous))) = some ms := by
  rcases admin with _ | _ | _ <;> cases next <;> cases previous <;> cases count <;> exact ⟨_, rfl⟩

theorem outline_plain {name : String} (h : name = "register.html" ∨ name = "signin.html")
    (admin : Option Bool) : ∃ ms, pageOutline name (withUser admin (.ofList [])) = some ms := by
  rcases h with rfl | rfl <;> rcases admin with _ | _ | _ <;> exact ⟨_, rfl⟩

theorem outline_form (admin : Option Bool) :
    ∃ ms, pageOutline "manage_blog_edit.html" (withUser admin (.ofList formShapes)) = some ms := by
  rcases admin with _ | _ | _ <;> exact ⟨_, rfl⟩

theorem outline_manage {name : String}
    (h : name = "manage_blogs.html" ∨ name = "manage_comments.html" ∨ name = "manage_users.html")
    (admin : Option Bool) :
    ∃ ms, pageOutline name (withUser admin (.ofList manageShapes)) = some ms := by
  rcases h with rfl | rfl | rfl <;> rcases admin with _ | _ | _ <;> exact ⟨_, rfl⟩

/-! ## Contexts -/

/-- The posts of a context. -/
def postsOf (fs : Fields) : List Json :=
  match Fields.get? "blogs" fs with
  | some (.array vs) => vs
  | _ => []

/-- A truth value of the page of a context. -/
def pageFlag (fs : Fields) (name : String) : Bool :=
  decide ((Fields.get? "page" fs).bind (Json.field? name) = some (.bool true))

/-- Each post of a context has a time of creation. -/
def Dated (fs : Fields) : Prop := ∀ v ∈ postsOf fs, ∃ n, v.field? "created_at" = some (.number n)

/-- The contexts of two pages have the same shape. -/
structure SameShape (u v : Option SessionUser) (fs gs : Fields) : Prop where
  user : u.map SessionUser.admin = v.map SessionUser.admin
  posts : (postsOf fs).length = (postsOf gs).length
  next : pageFlag fs "has_next" = pageFlag gs "has_next"
  previous : pageFlag fs "has_previous" = pageFlag gs "has_previous"

def ContextShapes.of (shapes : ContextShapes) (fs : Fields) : List (String × Shape) :=
  shapes (postsOf fs).length (pageFlag fs "has_next") (pageFlag fs "has_previous")

/-- Fields that ask for a page, and have the shapes of a context. -/
structure Context (name : String) (shapes : ContextShapes) (fs : Fields) : Prop where
  template : Reply.template? fs = some name
  fits : Dated fs → ∀ p ∈ shapes.of fs, p.2.Fits (Fields.get? p.1 fs)

theorem fits_userValue (u : Option SessionUser) :
    (userShape (u.map SessionUser.admin)).Fits (some (Reply.userValue u)) := by
  cases u with
  | none => exact rfl
  | some u =>
    have hget : ∀ key, Fields.get? key (Fields.ofList [("id", .string u.id), ("name", .string u.name),
        ("email", .string u.email), ("image", .string u.image), ("admin", .bool u.admin)]) =
        Fields.get? key [("id", .string u.id), ("name", .string u.name), ("email", .string u.email),
          ("image", .string u.image), ("admin", .bool u.admin)] :=
      fun key => Fields.get?_ofList (by simp) key
    refine fits_record (hget "name") ?_
    simp only [List.forall_mem_cons]
    exact ⟨⟨u.name, hget _⟩, hget _, List.forall_mem_nil _⟩

theorem Context.fits_scope {name : String} {shapes : ContextShapes} {fs : Fields}
    (h : Context name shapes fs) (hdated : Dated fs) (u : Option SessionUser) (now : Int) :
    (Scope.ofContext (Reply.pageContext u fs) now).Fits
      (withUser (u.map SessionUser.admin) (.ofList (shapes.of fs))) := by
  intro key
  have hlookup : (Scope.ofContext (Reply.pageContext u fs) now).lookup key =
      Fields.get? key (Fields.set Reply.userKey (Reply.userValue u) fs) := rfl
  rw [hlookup, withUser, Shapes.bind]
  by_cases hkey : key = Reply.userKey
  · subst hkey
    rw [if_pos rfl, Fields.get?_set_self]
    exact fits_userValue u
  · rw [if_neg hkey, Fields.get?_set_of_ne hkey]
    exact fits_ofList (h.fits hdated) key

/-! ## The handlers -/

/-- The handlers that reply with a page. -/
inductive ShowsPage : Handler → Prop where
  | index : ShowsPage indexPage
  | register : ShowsPage (plainPage "register.html")
  | signin : ShowsPage (plainPage "signin.html")
  | create : ShowsPage createPage
  | update : ShowsPage updatePage
  | posts : ShowsPage (managePage "manage_blogs.html")
  | comments : ShowsPage (managePage "manage_comments.html")
  | users : ShowsPage (managePage "manage_users.html")

/-- Every key but that of the page name is looked up in the context itself. -/
theorem get?_page {name key : String} (h : key ≠ Reply.templateKey) (fs : Fields) :
    Fields.get? key (Fields.set Reply.templateKey (.string name) fs) = Fields.get? key fs :=
  Fields.get?_set_of_ne h _ _

theorem template?_page (name : String) (fs : Fields) :
    Reply.template? (Fields.set Reply.templateKey (.string name) fs) = some name := by
  rw [Reply.template?, Fields.get?_set_self]
  rfl

section Listing

variable (p : Page) (posts : List Post)

/-- The context of the page with the newest posts. -/
def listingFields : Fields :=
  Fields.set Reply.templateKey (.string "blogs.html")
    (Fields.ofList [("page", p.toJson), ("blogs", .array (posts.map entityJson))])

theorem get?_listingFields {key : String} (h : key ≠ Reply.templateKey) :
    Fields.get? key (listingFields p posts) =
      Fields.get? key [("page", p.toJson), ("blogs", .array (posts.map entityJson))] := by
  rw [listingFields, get?_page h]
  exact Fields.get?_ofList (by simp) key

theorem postsOf_listingFields : postsOf (listingFields p posts) = posts.map entityJson := by
  rw [postsOf, get?_listingFields p posts (by decide)]
  rfl

theorem get?_pageFields (key : String) : p.toJson.field? key =
    Fields.get? key [("item_count", .ofInt p.itemCount), ("page_index", .ofInt p.index),
      ("page_size", .ofInt p.size), ("page_count", .ofInt p.pageCount), ("offset", .ofInt p.offset),
      ("limit", .ofInt p.rows), ("has_next", .bool p.hasNext),
      ("has_previous", .bool p.hasPrevious)] :=
  Fields.get?_ofList (by simp) key

theorem pageFlag_listingFields {name : String} {b : Bool}
    (h : p.toJson.field? name = some (.bool b)) : pageFlag (listingFields p posts) name = b := by
  have hpage : Fields.get? "page" (listingFields p posts) = some p.toJson := by
    rw [get?_listingFields p posts (by decide)]
    rfl
  rw [pageFlag, hpage, Option.bind_some, h]
  cases b <;> rfl

theorem fits_page : (pageShape p.hasNext p.hasPrevious).Fits (some p.toJson) := by
  have hget := get?_pageFields p
  refine fits_record (hget "page_index") ?_
  simp only [List.forall_mem_cons]
  exact ⟨⟨p.index, hget _⟩, ⟨p.pageCount, hget _⟩, hget _, hget _, List.forall_mem_nil _⟩

theorem fits_post {post : Post}
    (hdated : ∃ n, (entityJson post).field? "created_at" = some (.number n)) :
    postShape.Fits (some (entityJson post)) := by
  have hget := Draft.get?_encode post
  refine fits_record (hget "name") ?_
  simp only [List.forall_mem_cons]
  exact ⟨⟨post.name, hget _⟩, ⟨post.userName, hget _⟩, ⟨post.summary, hget _⟩, hdated,
    List.forall_mem_nil _⟩

theorem context_listing : Context "blogs.html" listingShapes (listingFields p posts) where
  template := template?_page _ _
  fits := by
    intro hdated
    have hnext := pageFlag_listingFields p posts (get?_pageFields p "has_next")
    have hprevious := pageFlag_listingFields p posts (get?_pageFields p "has_previous")
    rw [Dated, postsOf_listingFields] at hdated
    rw [ContextShapes.of, hnext, hprevious, postsOf_listingFields, listingShapes]
    simp only [List.forall_mem_cons]
    refine ⟨?items, ?shown, List.forall_mem_nil _⟩
    case items =>
      rw [get?_listingFields p posts (by decide)]
      refine ⟨_, rfl, rfl, fun v hv => ?_⟩
      obtain ⟨post, -, rfl⟩ := List.mem_map.1 hv
      exact fits_post (hdated _ hv)
    case shown =>
      rw [get?_listingFields p posts (by decide)]
      exact fits_page p

end Listing

theorem context_plain (name : String) :
    Context name (fun _ _ _ => []) (Fields.set Reply.templateKey (.string name) []) where
  template := template?_page _ _
  fits _ := List.forall_mem_nil _

theorem context_form (id action : String) :
    Context "manage_blog_edit.html" (fun _ _ _ => formShapes)
      (Fields.set Reply.templateKey (.string "manage_blog_edit.html")
        (Fields.ofList [("id", .string id), ("action", .string action)])) where
  template := template?_page _ _
  fits := by
    intro _
    simp only [ContextShapes.of, formShapes, List.forall_mem_cons]
    refine ⟨⟨id, ?_⟩, ⟨action, ?_⟩, List.forall_mem_nil _⟩
    · rw [get?_page (by decide), Fields.get?_ofList (by simp)]
      rfl
    · rw [get?_page (by decide), Fields.get?_ofList (by simp)]
      rfl

theorem context_manage (name : String) (index : Int) :
    Context name (fun _ _ _ => manageShapes) (Fields.set Reply.templateKey (.string name)
      (Fields.ofList [("page_index", .ofInt index)])) where
  template := template?_page _ _
  fits := by
    intro _
    simp only [ContextShapes.of, manageShapes, List.forall_mem_cons]
    refine ⟨⟨index, ?_⟩, List.forall_mem_nil _⟩
    rw [get?_page (by decide), Fields.get?_ofList (by simp)]
    rfl

/-- A handler that replies with one page, whose outline depends on the shapes of its context alone. -/
structure Outlined (handler : Handler) (name : String) (shapes : ContextShapes) : Prop where
  outline : ∀ admin count next previous,
    ∃ ms, pageOutline name (withUser admin (.ofList (shapes count next previous))) = some ms
  context : ∀ c es reply, Action.Runs (handler c).run es (.ok reply) →
    ∃ fs, reply = .fields fs ∧ Context name shapes fs

theorem outlined_manage {name : String}
    (h : name = "manage_blogs.html" ∨ name = "manage_comments.html" ∨ name = "manage_users.html") :
    Outlined (managePage name) name fun _ _ _ => manageShapes where
  outline admin _ _ _ := outline_manage h admin
  context := by
    intro c es reply hruns
    obtain ⟨rfl, hreply⟩ := runs_pure_iff.1 hruns
    cases hreply
    exact ⟨_, rfl, context_manage name _⟩

theorem outlined_plain {name : String} (h : name = "register.html" ∨ name = "signin.html") :
    Outlined (plainPage name) name fun _ _ _ => [] where
  outline admin _ _ _ := outline_plain h admin
  context := by
    intro c es reply hruns
    obtain ⟨rfl, hreply⟩ := runs_pure_iff.1 hruns
    cases hreply
    exact ⟨_, rfl, context_plain name⟩

theorem ShowsPage.exists_outlined {handler : Handler} (h : ShowsPage handler) :
    ∃ name shapes, Outlined handler name shapes := by
  cases h with
  | index =>
    refine ⟨_, _, outline_listing, fun c es reply hruns => ?_⟩
    obtain ⟨fs, gs, ⟨page, posts⟩, rfl, -, hreply⟩ := runs_bind_ok_iff.1 hruns
    obtain ⟨rfl, hreply⟩ := runs_pure_iff.1 hreply
    cases hreply
    exact ⟨_, rfl, context_listing page posts⟩
  | register => exact ⟨_, _, outlined_plain (.inl rfl)⟩
  | signin => exact ⟨_, _, outlined_plain (.inr rfl)⟩
  | create =>
    refine ⟨_, _, fun admin _ _ _ => outline_form admin, fun c es reply hruns => ?_⟩
    obtain ⟨rfl, hreply⟩ := runs_pure_iff.1 hruns
    cases hreply
    exact ⟨_, rfl, context_form _ _⟩
  | update =>
    refine ⟨_, _, fun admin _ _ _ => outline_form admin, fun c es reply hruns => ?_⟩
    obtain ⟨fs, gs, id, rfl, -, hreply⟩ := runs_bind_ok_iff.1 hruns
    obtain ⟨rfl, hreply⟩ := runs_pure_iff.1 hreply
    cases hreply
    exact ⟨_, rfl, context_form _ _⟩
  | posts => exact ⟨_, _, outlined_manage (.inl rfl)⟩
  | comments => exact ⟨_, _, outlined_manage (.inr (.inl rfl))⟩
  | users => exact ⟨_, _, outlined_manage (.inr (.inr rfl))⟩

/-! ## Responses -/

/-- What a reply is answered with: the clock is read once, and the page is sent. -/
def AnsweredBy (reply : Reply) (user : Option SessionUser) (millis : Int) (html : String) : Prop :=
  ∀ es out, Action.Runs (reply.respond user Template.renderer).run (⟨.clock, millis⟩ :: es) out ↔
    es = [] ∧ out = .ok (.text 200 Reply.htmlType html)

/-- The renderer reads the clock once. -/
theorem runs_renderer_iff {name : String} {context : Json} {es : List Exchange}
    {out : Except AppError String} :
    Action.Runs (Template.renderer name context).run es out ↔
      ∃ millis : Int, es = [⟨.clock, millis⟩] ∧
        out = (render name context (millis / 1000)).mapError .template := by
  constructor
  · intro h
    rcases runs_bind_iff.1 h with ⟨e, hclock, -⟩ | ⟨fs, gs, now, rfl, hclock, hrender⟩
    · obtain ⟨now, -, he⟩ := runs_lift_iff.1 hclock
      cases he
    · obtain ⟨_, hseconds, he⟩ := runs_lift_iff.1 hclock
      cases he
      obtain ⟨millis, rfl, rfl⟩ := Action.runs_seconds_iff.1 hseconds
      obtain ⟨rfl, rfl⟩ := runs_ofExcept_iff.1 hrender
      exact ⟨millis, rfl, rfl⟩
  · rintro ⟨millis, rfl, rfl⟩
    exact .ask .done

theorem answeredBy_of_render {fs : Fields} {name : String} (hname : Reply.template? fs = some name)
    {user : Option SessionUser} {millis : Int} {html : String}
    (h : render name (Reply.pageContext user fs) (millis / 1000) = .ok html) :
    AnsweredBy (.fields fs) user millis html := by
  intro es out
  rw [Reply.respond, hname]
  constructor
  · intro hruns
    rcases runs_bind_iff.1 hruns with ⟨e, hpage, rfl⟩ | ⟨gs, hs, shown, hes, hpage, hdone⟩
    · obtain ⟨now, hes, ho⟩ := runs_renderer_iff.1 hpage
      cases hes
      rw [h] at ho
      cases ho
    · obtain ⟨now, rfl, ho⟩ := runs_renderer_iff.1 hpage
      obtain ⟨rfl, rfl⟩ := runs_pure_iff.1 hdone
      cases hes
      rw [h] at ho
      cases ho
      exact ⟨rfl, rfl⟩
  · rintro ⟨rfl, rfl⟩
    refine runs_bind_ok_iff.2 ⟨[⟨.clock, millis⟩], [], html, rfl, ?_, runs_pure_iff.2 ⟨rfl, rfl⟩⟩
    refine runs_renderer_iff.2 ⟨millis, rfl, ?_⟩
    rw [h]
    rfl

/-- For every page handler and every two of its replies: both ask for the same page, and where their
contexts have the same shape, both are answered with pages that are equal outside the places of what
is shown, and nothing that is shown has a character that ends a text or a quoted attribute. -/
theorem pages_keep_outline {handler : Handler} (hpage : ShowsPage handler) {c d : Call}
    {es ds : List Exchange} {reply other : Reply}
    (h : Action.Runs (handler c).run es (.ok reply))
    (h' : Action.Runs (handler d).run ds (.ok other)) :
    ∃ name fs gs, reply = .fields fs ∧ other = .fields gs ∧
      Reply.template? fs = some name ∧ Reply.template? gs = some name ∧
      ∀ u v, SameShape u v fs gs → Dated fs → Dated gs → ∀ millis millis', ∃ ps qs,
        pagePieces name (Reply.pageContext u fs) (millis / 1000) = some ps ∧
        pagePieces name (Reply.pageContext v gs) (millis' / 1000) = some qs ∧
        AnsweredBy reply u millis (joined ps) ∧ AnsweredBy other v millis' (joined qs) ∧
        ps.map Piece.mark = qs.map Piece.mark ∧ ∀ p ∈ ps ++ qs, p.Harmless := by
  obtain ⟨name, shapes, houtlined⟩ := hpage.exists_outlined
  obtain ⟨fs, rfl, hfs⟩ := houtlined.context c es reply h
  obtain ⟨gs, rfl, hgs⟩ := houtlined.context d ds other h'
  refine ⟨name, fs, gs, rfl, rfl, hfs.template, hgs.template, ?_⟩
  intro u v hshape hdated hdated' millis millis'
  obtain ⟨ms, houtline⟩ := houtlined.outline (u.map SessionUser.admin) (postsOf fs).length
    (pageFlag fs "has_next") (pageFlag fs "has_previous")
  have hscope := hgs.fits_scope hdated' v (millis' / 1000)
  rw [← hshape.user, ContextShapes.of, ← hshape.posts, ← hshape.next, ← hshape.previous] at hscope
  obtain ⟨ps, hps, hdrawn⟩ :=
    exists_pagePieces houtline (hfs.fits_scope hdated u (millis / 1000))
  obtain ⟨qs, hqs, hdrawn'⟩ := exists_pagePieces houtline hscope
  exact ⟨ps, qs, hps, hqs, answeredBy_of_render hfs.template (render_eq_joined hps),
    answeredBy_of_render hgs.template (render_eq_joined hqs), hdrawn.marks.trans hdrawn'.marks.symm,
    List.forall_mem_append.2 ⟨hdrawn.harmless, hdrawn'.harmless⟩⟩

section Quoted

def quotedId : String := "\"><script>"

def formOf (id : String) : Call := ⟨[("id", .string id)], none⟩

def formFields (id : String) : Fields :=
  Fields.set Reply.templateKey (.string "manage_blog_edit.html")
    (Fields.ofList [("id", .string id), ("action", .string ("/api/blogs/" ++ id))])

theorem runs_updatePage (id : String) :
    Action.Runs (updatePage (formOf id)).run [] (.ok (.fields (formFields id))) := .done

/-- An id that would end its attribute is shown without a quote or an angle. -/
theorem pages_keep_outline_quotedId : ∃ ps qs,
    AnsweredBy (.fields (formFields quotedId)) none 0 (joined ps) ∧
    AnsweredBy (.fields (formFields "7")) none 0 (joined qs) ∧
    ps.map Piece.mark = qs.map Piece.mark ∧ (∀ p ∈ ps ++ qs, p.Harmless) ∧
    Piece.shown "&quot;&gt;&lt;script&gt;" ∈ ps := by
  obtain ⟨name, fs, gs, hfs, hgs, hname, -, hshown⟩ :=
    pages_keep_outline .update (runs_updatePage quotedId) (runs_updatePage "7")
  cases hfs
  cases hgs
  obtain rfl : "manage_blog_edit.html" = name :=
    Option.some.inj ((template?_page _ _).symm.trans hname)
  have hshape : SameShape none none (formFields quotedId) (formFields "7") :=
    ⟨rfl, by decide +kernel, by decide +kernel, by decide +kernel⟩
  have hdated : ∀ {fs : Fields}, postsOf fs = [] → Dated fs := fun hnone v hv => by
    rw [hnone] at hv
    cases hv
  obtain ⟨ps, qs, hps, -, hanswered, hanswered', hmarks, hharmless⟩ := hshown none none hshape
    (hdated (by decide +kernel)) (hdated (by decide +kernel)) 0 0
  refine ⟨ps, qs, hanswered, hanswered', hmarks, hharmless, ?_⟩
  have hshows : (pagePieces "manage_blog_edit.html" (Reply.pageContext none (formFields quotedId))
      (0 / 1000)).any (·.contains (.shown "&quot;&gt;&lt;script&gt;")) = true := by decide +kernel
  rw [hps] at hshows
  exact List.contains_iff_mem.1 hshows

end Quoted

end Blog
end Weblog
