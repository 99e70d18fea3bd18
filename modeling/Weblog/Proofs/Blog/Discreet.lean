import Weblog.Proofs.Blog.Access
import Weblog.Proofs.Blog.Masked
import Weblog.Proofs.Blog.SignIn
import Weblog.Proofs.Blog.Site

/-!
# Weblog.Proofs.Blog.Discreet

What handlers make of stored password hashes.

* `User.conceals`: users that are read of rows apart from their hashes are the same but for these.
* `Discreet`: whatever it is called with, a handler makes the same of answers that differ in hashes,
  and no reply shows one.
* `Accepts`, `alike_authenticate`: signing in depends on a hash only through whether it is that of
  the digest that was sent.
* `discreet_routes`: all routes are discreet but the one that users sign in at.
-/

namespace Weblog

open Fallible

theorem User.conceals : Entity.Conceals "passwd" fun u v : User => u.masked = v.masked := by
  refine Entity.conceals_of_decode fun fs gs h => ?_
  have hpasswd := h.required_hidden
  have hdecode : Option.Rel (fun u v : User => u.masked = v.masked) (User.ofJson? (.object fs))
      (User.ofJson? (.object gs)) := by
    simp (disch := decide) only [User.ofJson?, Json.members?, Option.bind_eq_bind, Option.bind_some,
      h.optional_eq, h.required_eq, h.orElse_eq]
    generalize Json.required Json.readText fs "passwd" = p,
      Json.required Json.readText gs "passwd" = q at hpasswd
    refine rel_bind _ fun id => rel_bind _ fun email => ?_
    -- a hash that is no text is refused in both, and any other is masked
    cases hpasswd with
    | none => exact .none
    | some _ =>
      rw [Option.bind_some, Option.bind_some]
      refine rel_bind _ fun admin => rel_bind _ fun name => rel_bind _ fun image => ?_
      exact rel_bind _ fun created => .some rfl
  exact hdecode

theorem Post.conceals : Entity.Conceals "passwd" (Eq : Post → Post → Prop) := by
  refine Entity.conceals_of_decode fun fs gs h => rel_of_eq ?_
  have hdecode : Post.ofJson? (.object fs) = Post.ofJson? (.object gs) := by
    simp (disch := decide) only [Post.ofJson?, Json.members?, Option.bind_eq_bind, Option.bind_some,
      h.optional_eq, h.required_eq]
  exact hdecode

theorem Comment.conceals : Entity.Conceals "passwd" (Eq : Comment → Comment → Prop) := by
  refine Entity.conceals_of_decode fun fs gs h => rel_of_eq ?_
  have hdecode : Comment.ofJson? (.object fs) = Comment.ofJson? (.object gs) := by
    simp (disch := decide) only [Comment.ofJson?, Json.members?, Option.bind_eq_bind,
      Option.bind_some, h.optional_eq, h.required_eq]
  exact hdecode

/-! ## The handlers -/

namespace Blog

variable {s : Settings} {c : Call} {Q : ResultSet → ResultSet → Prop}

theorem alike_refuse {α : Type} {R : α → α → Prop} (e : ApiError) :
    Alike (apartFrom "passwd" Q) R (refuse e) (refuse e) := alike_throw _

section Reads

variable {α : Type} [Entity α] {m : Schema} {E : α → α → Prop}

theorem alike_countOf (hm : Entity.schema α = .ok m) :
    Alike (apartFrom "passwd" Q) Eq (countOf α) (countOf α) :=
  ((Entity.alike_findNumber (by decide) hm _ _ _).mapError AppError.store).bind_same
    fun _ => alike_pure rfl

theorem alike_listing (h : Entity.Conceals "passwd" E) (hm : Entity.schema α = .ok m)
    (order : String) (c : Call) :
    Alike (apartFrom "passwd" Q) (fun p q => p.1 = q.1 ∧ List.Forall₂ E p.2 q.2)
      (listing α order c) (listing α order c) := by
  refine (alike_countOf hm).bind_same fun n => ?_
  dsimp only
  split
  · exact alike_pure ⟨rfl, .nil⟩
  · refine ((Entity.alike_findAll h hm _).mapError AppError.store).bind fun _ _ hfound => ?_
    exact alike_pure ⟨rfl, hfound.1⟩

theorem alike_findNamed (h : Entity.Conceals "passwd" (Eq : α → α → Prop))
    (hm : Entity.schema α = .ok m) (resource label id : String) :
    Alike (apartFrom "passwd" Q) Eq (findNamed α resource label id)
      (findNamed α resource label id) := by
  refine ((Entity.alike_find h hm (.string id)).mapError AppError.store).bind fun v w hvw => ?_
  cases hvw with
  | none => exact alike_refuse _
  | some heq => exact alike_pure heq

end Reads

theorem alike_usersOfEmail (email : String) :
    Alike (apartFrom "passwd" Q) (fun us vs =>
        List.Forall₂ (fun u v : User => u.masked = v.masked) us vs ∧
        ∃ rs rs', Q rs rs' ∧ Entity.ofResult rs = .ok us ∧ Entity.ofResult rs' = .ok vs)
      (usersOfEmail email) (usersOfEmail email) :=
  (Entity.alike_findAll User.conceals User.build_eq _).mapError AppError.store

/-- Whatever it is called with, a handler makes the same of answers that differ in hashes, and its
reply shows none. -/
def Discreet (handler : Handler) : Prop :=
  ∀ Q c, Alike (apartFrom "passwd" Q) (fun x y => x = y ∧ x.Masked) (handler c) (handler c)

theorem discreet_pure {reply : Call → Reply} (h : ∀ c, (reply c).Masked) :
    Discreet fun c => pure (reply c) := fun _ c => alike_pure ⟨rfl, h c⟩

theorem discreet_listing {α : Type} [Entity α] {m : Schema} {E : α → α → Prop}
    (h : Entity.Conceals "passwd" E) (hm : Entity.schema α = .ok m) (order : String)
    {reply : Page × List α → Reply}
    (hreply : ∀ page vs ws, List.Forall₂ E vs ws → reply (page, vs) = reply (page, ws))
    (hmasked : ∀ p, (reply p).Masked) :
    Discreet fun c => listing α order c >>= fun p => pure (reply p) := by
  intro Q c
  refine (alike_listing h hm order c).bind fun p q hpq => alike_pure ⟨?_, hmasked p⟩
  obtain ⟨page, vs⟩ := p
  obtain ⟨page', ws⟩ := q
  obtain ⟨rfl, hvs⟩ := hpq
  exact hreply page vs ws hvs

theorem masked_signedInResponse (u : User) (cookie : List UInt8) :
    (signedInResponse u cookie).Masked :=
  (Http.Response.masked_json (masked_userJson u) _).withHeader (by decide) cookie

theorem headerValue_sessionCookie {u v : User} (h : u.masked = v.masked) (session : SessionConfig)
    (now : Int) :
    SameOutcome (fun cookie cookie' => u = v → cookie = cookie')
      (headerValue (sessionCookie session u now)) (headerValue (sessionCookie session v now)) := by
  -- a digest is always header text, so that only the id can make the cookie none
  have hid : u.id = v.id := (congrArg User.id h : u.masked.id = v.masked.id)
  have hiff : Http.IsHeaderText (sessionCookie session u now) ↔
      Http.IsHeaderText (sessionCookie session v now) := by
    rw [sessionCookie, sessionCookie, ← hid]
    exact Cookie.isHeaderText_setting_iff
  by_cases hu : Http.IsHeaderText (sessionCookie session u now)
  · rw [headerValue, headerValue, Http.headerValue?_eq_some hu,
      Http.headerValue?_eq_some (hiff.1 hu)]
    exact .ok fun heq => heq ▸ rfl
  · have hnone : ∀ {text : String}, ¬ Http.IsHeaderText text → Http.headerValue? text = none :=
      fun htext => if_neg htext
    rw [headerValue, headerValue, hnone hu, hnone (mt hiff.2 hu)]
    exact .error _

/-- Users who are the same but for their hashes are signed in alike, with cookies of their own. -/
theorem alike_signedIn {u v : User} (h : u.masked = v.masked) (session : SessionConfig) :
    Alike (apartFrom "passwd" Q) (fun x y => ∃ cookie cookie',
        x = .response (signedInResponse u cookie) ∧ y = .response (signedInResponse v cookie') ∧
          (u = v → cookie = cookie'))
      (signedIn session u) (signedIn session v) := by
  refine (alike_of_silent (silent_lift Action.silent_seconds)).bind_same fun now => ?_
  refine (alike_ofExcept (headerValue_sessionCookie h session now)).bind fun cookie cookie' => ?_
  intro hcookie
  exact alike_pure ⟨cookie, cookie', rfl, rfl, hcookie⟩

theorem discreet_register : Discreet (register s) := by
  intro Q c
  rw [register_eq]
  refine (alike_of_silent (silent_ofExcept _)).bind_same fun _ => ?_
  refine (alike_usersOfEmail _).bind fun us vs ⟨hothers, _⟩ => ?_
  have hempty : us.isEmpty = vs.isEmpty := by cases hothers <;> rfl
  rw [← hempty]
  split
  · refine (alike_of_silent (silent_lift silent_newId)).bind_same fun uid => ?_
    refine ((Entity.alike_save User.build_eq offline_userSchema _ _).mapError _).bind_same
      fun user => ?_
    refine (alike_signedIn rfl s.session).mono ?_
    rintro _ _ ⟨cookie, cookie', rfl, rfl, hcookie⟩
    exact ⟨by rw [hcookie rfl], masked_signedInResponse user cookie⟩
  · exact alike_refuse _

/-- The password hash of the first user of a result is that of a digest. -/
def Accepts (digest : String) (rs : ResultSet) : Prop :=
  ∃ (u : User) (others : List User), Entity.ofResult rs = .ok (u :: others) ∧
    u.passwd = passwordHash (u.id.getD "") digest

theorem accepts_iff {digest : String} {rs : ResultSet} {u : User} {others : List User}
    (h : Entity.ofResult rs = .ok (u :: others)) :
    Accepts digest rs ↔ u.passwd = passwordHash (u.id.getD "") digest := by
  constructor
  · rintro ⟨v, rest, hv, hpasswd⟩
    cases h.symm.trans hv
    exact hpasswd
  · exact fun hpasswd => ⟨u, others, h, hpasswd⟩

/-- Two results accept a digest alike. -/
def SameVerdict (digest : String) (rs rs' : ResultSet) : Prop :=
  Accepts digest rs ↔ Accepts digest rs'

/-- Responses show the same, apart from their headers, and no hash. -/
structure ShownAlike (x y : Http.Response) : Prop where
  status : x.status = y.status
  body : x.body = y.body
  masked : x.Masked

theorem status_signedInResponse (u : User) (cookie : List UInt8) :
    (signedInResponse u cookie).status = 200 := rfl

theorem body_signedInResponse (u : User) (cookie : List UInt8) :
    (signedInResponse u cookie).body = Text.Utf8.bytesOf (entityJson u.masked).compact := rfl

theorem shownAlike_signedInResponse {u v : User} (h : u.masked = v.masked)
    (cookie cookie' : List UInt8) :
    ShownAlike (signedInResponse u cookie) (signedInResponse v cookie') where
  status := by rw [status_signedInResponse, status_signedInResponse]
  body := by rw [body_signedInResponse, body_signedInResponse, h]
  masked := masked_signedInResponse u cookie

/-- Signing in depends on hashes only through whether that of the first user found is the one of the
digest. -/
theorem alike_authenticate {digest : String} (hdigest : c.textOr "passwd" "" = digest) :
    Alike (apartFrom "passwd" (SameVerdict digest)) (Reply.Alike ShownAlike) (authenticate s c)
      (authenticate s c) := by
  unfold authenticate
  dsimp only
  rw [hdigest]
  split
  · exact alike_refuse _
  · split
    · exact alike_refuse _
    · refine (alike_usersOfEmail _).bind fun us vs ⟨hfound, rs, rs', hverdict, hus, hvs⟩ => ?_
      cases hfound with
      | nil => exact alike_refuse _
      | @cons u v us vs huv _ =>
        rw [SameVerdict, accepts_iff hus, accepts_iff hvs] at hverdict
        dsimp only
        by_cases hu : u.passwd = passwordHash (u.id.getD "") digest
        · rw [if_pos hu, if_pos (hverdict.1 hu)]
          refine (alike_signedIn huv s.session).mono ?_
          rintro _ _ ⟨cookie, cookie', rfl, rfl, -⟩
          exact .responses (shownAlike_signedInResponse huv cookie cookie')
        · rw [if_neg hu, if_neg (mt hverdict.2 hu)]
          exact alike_refuse _

theorem discreet_signout : Discreet (signout s) := by
  intro Q c
  refine (alike_of_silent (silent_ofExcept _)).bind_same fun target => ?_
  refine (alike_of_silent (silent_ofExcept _)).bind_same fun cookie => alike_pure ⟨rfl, ?_⟩
  exact Http.Response.masked_of_body rfl

theorem discreet_updatePage : Discreet updatePage := by
  intro Q c
  refine (alike_of_silent (silent_required c "id")).bind_same fun id => ?_
  exact alike_pure ⟨rfl, Reply.masked_page _ _⟩

theorem discreet_getPost : Discreet getPost := by
  intro Q c
  refine (alike_of_silent (silent_required c "id")).bind_same fun id => ?_
  refine (alike_findNamed Post.conceals Post.build_eq _ _ _).bind_same fun post => ?_
  exact alike_pure ⟨rfl, fun _ => masked_postJson post⟩

theorem discreet_createPost : Discreet (createPost s) := by
  intro Q c
  refine (alike_of_silent silent_requireAdmin).bind_same fun user => ?_
  refine (alike_of_silent (silent_nonBlank c "name")).bind_same fun name => ?_
  refine (alike_of_silent (silent_nonBlank c "summary")).bind_same fun summary => ?_
  refine (alike_of_silent (silent_nonBlank c "content")).bind_same fun content => ?_
  refine ((Entity.alike_save Post.build_eq offline_postSchema _ _).mapError _).bind_same
    fun post => ?_
  exact alike_pure ⟨rfl, fun _ => masked_postJson post⟩

theorem discreet_updatePost : Discreet (updatePost s) := by
  intro Q c
  refine (alike_of_silent silent_requireAdmin).bind_same fun _ => ?_
  refine (alike_of_silent (silent_required c "id")).bind_same fun id => ?_
  refine (alike_findNamed Post.conceals Post.build_eq _ _ _).bind_same fun post => ?_
  refine (alike_of_silent (silent_nonBlank c "name")).bind_same fun name => ?_
  refine (alike_of_silent (silent_nonBlank c "summary")).bind_same fun summary => ?_
  refine (alike_of_silent (silent_nonBlank c "content")).bind_same fun content => ?_
  refine ((Entity.alike_update Post.build_eq _ _).mapError _).bind_same fun _ => ?_
  exact alike_pure ⟨rfl, fun _ => masked_postJson _⟩

theorem masked_deleted (id : String) : (deleted id).Masked := by
  refine Reply.masked_ofFields ?_
  simp [Json.MaskedMember]

theorem discreet_deletePost : Discreet (deletePost s) := by
  intro Q c
  refine (alike_of_silent silent_requireAdmin).bind_same fun _ => ?_
  refine (alike_of_silent (silent_required c "id")).bind_same fun id => ?_
  refine (alike_findNamed Post.conceals Post.build_eq _ _ _).bind_same fun post => ?_
  refine ((Entity.alike_remove Post.build_eq _ _).mapError _).bind_same fun _ => ?_
  exact alike_pure ⟨rfl, masked_deleted id⟩

theorem discreet_createComment : Discreet (createComment s) := by
  intro Q c
  refine (alike_of_silent silent_requireUser).bind_same fun user => ?_
  dsimp only
  split
  · exact alike_refuse _
  · refine (alike_of_silent (silent_required c "id")).bind_same fun id => ?_
    refine (alike_findNamed Post.conceals Post.build_eq _ _ _).bind_same fun post => ?_
    refine ((Entity.alike_save Comment.build_eq offline_commentSchema _ _).mapError _).bind_same
      fun comment => ?_
    exact alike_pure ⟨rfl, fun _ => masked_commentJson comment⟩

theorem discreet_deleteComment : Discreet (deleteComment s) := by
  intro Q c
  refine (alike_of_silent silent_requireAdmin).bind_same fun _ => ?_
  refine (alike_of_silent (silent_required c "id")).bind_same fun id => ?_
  refine (alike_findNamed Comment.conceals Comment.build_eq _ _ _).bind_same fun comment => ?_
  refine ((Entity.alike_remove Comment.build_eq _ _).mapError _).bind_same fun _ => ?_
  exact alike_pure ⟨rfl, masked_deleted id⟩

theorem discreet_listUsers : Discreet listUsers := by
  refine discreet_listing User.conceals User.build_eq "created_at DESC" (fun page vs ws hvs => ?_)
    fun p => masked_listing (by decide) p.1 (List.forall_mem_map.2 fun u _ => masked_userJson u)
  have hmap : vs.map User.masked = ws.map User.masked := by
    induction hvs with
    | nil => rfl
    | cons huv _ ih => rw [List.map_cons, List.map_cons, huv, ih]
  dsimp only
  rw [hmap]

/-- Of posts and comments everything is shown, and it depends on no hash. -/
theorem discreet_listing_same {α : Type} [Entity α] {m : Schema}
    (h : Entity.Conceals "passwd" (Eq : α → α → Prop)) (hm : Entity.schema α = .ok m)
    (order : String) {reply : Page × List α → Reply} (hmasked : ∀ p, (reply p).Masked) :
    Discreet fun c => listing α order c >>= fun p => pure (reply p) := by
  refine discreet_listing h hm order (fun page vs ws hvs => ?_) hmasked
  rw [List.forall₂_eq_eq_eq] at hvs
  rw [hvs]

theorem discreet_indexPage : Discreet indexPage :=
  discreet_listing_same Post.conceals Post.build_eq "created_at DESC" fun _ => Reply.masked_page _ _

theorem discreet_listPosts : Discreet listPosts :=
  discreet_listing_same Post.conceals Post.build_eq "created_at DESC" fun p =>
    masked_listing (by decide) p.1 fun v _ => masked_postJson v

theorem discreet_listComments : Discreet listComments :=
  discreet_listing_same Comment.conceals Comment.build_eq "created_at" fun p =>
    masked_listing (by decide) p.1 fun v _ => masked_commentJson v

theorem discreet_plainPage (name : String) : Discreet (plainPage name) :=
  discreet_pure fun _ => Reply.masked_page name _

theorem discreet_managePage (name : String) : Discreet (managePage name) :=
  discreet_pure fun _ => Reply.masked_page name _

/-- Every route is discreet but the one that users sign in at. -/
theorem discreet_routes (s : Settings) :
    ∀ route ∈ routes s, Discreet route.handler ∨ route = authenticateRoute s := by
  simp only [routes, List.forall_mem_cons]
  exact ⟨.inl discreet_indexPage, .inl (discreet_plainPage _), .inl (discreet_plainPage _),
    .inl discreet_signout, .inl discreet_register, .inr rfl, .inl discreet_listUsers,
    .inl (discreet_pure fun _ => Reply.masked_page _ _), .inl (discreet_managePage _),
    .inl discreet_updatePage, .inl (discreet_managePage _), .inl (discreet_managePage _),
    .inl discreet_listPosts, .inl discreet_createPost, .inl discreet_getPost,
    .inl discreet_updatePost, .inl discreet_deletePost, .inl discreet_listComments,
    .inl discreet_createComment, .inl discreet_deleteComment, List.forall_mem_nil _⟩

end Blog
end Weblog
