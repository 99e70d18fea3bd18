import Weblog.Blog.Site
import Weblog.Proofs.Blog.Accounts
import Weblog.Proofs.Store.Access

/-!
# Weblog.Proofs.Blog.Access

What the handlers of the blog do to the stored data, whatever they are called with and whatever the
database answers.

* `Post.schema`, `Comment.schema`: the checked models of posts and comments.
* `May`, `Permitted`: what a user may change, and the statements that do so.
* `Keeps`: a route for GET only reads, and one for POST reads first and then changes at most what the
  user may change.
* `keeps_routes`: every route of the blog keeps to that.
* `reads_directory`: looking up the user of a session only reads.
-/

namespace Weblog

open Fallible

def Post.schema : Schema where
  name := "Blog"
  table := "blogs"
  key := "id"
  attrs := ["user_id", "user_name", "user_image", "name", "summary", "content", "created_at"]
  declared := declaration.fields

theorem Post.build_eq : Entity.schema Post = .ok Post.schema := rfl

def Comment.schema : Schema where
  name := "Comment"
  table := "comments"
  key := "id"
  attrs := ["blog_id", "user_id", "user_name", "user_image", "content", "created_at"]
  declared := declaration.fields

theorem Comment.build_eq : Entity.schema Comment = .ok Comment.schema := rfl

namespace Blog

theorem silent_newId : Stamp.newId.Silent :=
  Action.silent_clock.before fun _ =>
    (Action.silent_perform fun _ => rfl).before fun _ => Action.silent_done _

/-- The default of the field is not generated. -/
def isFixed (f : Field) : Bool :=
  match f.initial with
  | some (.generated _) => false
  | _ => true

/-- Only the ids and the times of creation have defaults that are generated, out of the clock and
random UUIDs. -/
theorem offline_of_declared {s : Schema} (h : s.declared =
    idField :: ((s.declared.drop 1).dropLast ++ [createdAtField]))
    (hfixed : (s.declared.drop 1).dropLast.all isFixed = true) : s.Offline := by
  intro f hf d hd
  rw [h] at hf
  rcases List.mem_cons.1 hf with rfl | hf
  · cases hd
    exact silent_newId.map _
  rcases List.mem_append.1 hf with hf | hf
  · have hfixed := List.all_eq_true.1 hfixed f hf
    rw [isFixed, hd] at hfixed
    cases d with
    | fixed v => exact Action.silent_done v
    | generated provider => cases hfixed
  · cases List.mem_singleton.1 hf
    cases hd
    exact (Action.silent_clock.before fun _ => Action.silent_done _).map _

theorem offline_userSchema : User.schema.Offline := offline_of_declared rfl rfl

theorem offline_postSchema : Post.schema.Offline := offline_of_declared rfl rfl

theorem offline_commentSchema : Comment.schema.Offline := offline_of_declared rfl rfl

/-- What a user may change: everyone may register, whoever is signed in may comment, and
administrators may change posts and delete comments. -/
inductive May (user : Option SessionUser) : Change → String → Prop where
  | register : May user .insert "users"
  | comment : user.isSome = true → May user .insert "comments"
  | post (c : Change) : Site.isAdmin user = true → May user c "blogs"
  | uncomment : Site.isAdmin user = true → May user .delete "comments"

/-- A statement that changes what a user may change. -/
def Permitted (user : Option SessionUser) (st : Statement) : Prop :=
  ∃ c table, May user c table ∧ st.Changes c table

variable {α β : Type} {P : Statement → Prop} {R : List Statement → Prop} {s : Settings} {c : Call}

theorem sends_stored {x : Fallible StoreError α} (hx : x.run.Sends R) : (stored x).run.Sends R :=
  sends_mapError _ hx

theorem silent_refuse (e : ApiError) : (refuse e : Fallible AppError α).run.Silent := silent_throw _

theorem silent_required (c : Call) (name : String) : (required c name).run.Silent :=
  silent_ofExcept _

theorem silent_nonBlank (c : Call) (name : String) : (nonBlank c name).run.Silent := by
  refine silent_bind (silent_required c name) fun text => ?_
  dsimp only
  split
  · exact silent_refuse _
  · exact silent_pure _

theorem silent_requireAdmin : (requireAdmin c).run.Silent := by
  unfold requireAdmin
  split
  · split
    · exact silent_pure _
    · exact silent_refuse _
  · exact silent_refuse _

theorem silent_requireUser : (requireUser c).run.Silent := by
  unfold requireUser
  split
  · exact silent_pure _
  · exact silent_refuse _

theorem accesses_requireAdmin {f : SessionUser → Fallible AppError α}
    (hf : Site.isAdmin c.user = true → ∀ u, (f u).run.Accesses P) :
    (requireAdmin c >>= f).run.Accesses P := by
  cases hadmin : Site.isAdmin c.user with
  | true => exact accesses_bind silent_requireAdmin.reads (hf hadmin)
  | false =>
    have hrefused : requireAdmin c = refuse (.permission "") := by
      unfold requireAdmin
      split
      · rename_i u hu
        rw [hu] at hadmin
        exact if_neg (by simpa [Site.isAdmin] using hadmin)
      · rfl
    rw [hrefused]
    exact (silent_refuse _).reads.accesses

theorem accesses_requireUser {f : SessionUser → Fallible AppError α}
    (hf : c.user.isSome = true → ∀ u, (f u).run.Accesses P) :
    (requireUser c >>= f).run.Accesses P := by
  unfold requireUser
  split
  · rename_i u hu
    exact accesses_bind (silent_pure u).reads (hf (by rw [hu]; rfl))
  · exact (silent_refuse _).reads.accesses

section Reads

variable [Entity α]

theorem reads_countOf : (countOf α).run.Reads :=
  reads_bind (sends_stored (Entity.reads_findNumber _ _ _)) fun _ => (silent_pure _).reads

theorem reads_listing (order : String) (c : Call) : (listing α order c).run.Reads := by
  refine reads_bind reads_countOf fun n => ?_
  unfold askedPage
  split
  · exact (silent_pure _).reads
  · exact reads_bind (sends_stored (Entity.reads_findAll _)) fun _ => (silent_pure _).reads

theorem reads_findNamed (resource label id : String) :
    (findNamed α resource label id).run.Reads := by
  refine reads_bind (sends_stored (Entity.reads_find _)) fun found => ?_
  cases found with
  | some v => exact (silent_pure v).reads
  | none => exact (silent_refuse _).reads

end Reads

/-! ## The handlers -/

theorem reads_usersOfEmail (email : String) : (usersOfEmail email).run.Reads :=
  sends_stored (Entity.reads_findAll _)

theorem silent_signedIn (session : SessionConfig) (u : User) : (signedIn session u).run.Silent :=
  silent_bind (silent_lift Action.silent_seconds) fun _ =>
    silent_bind (silent_ofExcept _) fun _ => silent_pure _

theorem accesses_enroll (s : Settings) (r : Registration) :
    (enroll s r).run.Accesses fun st => ∃ u : User, u.email = r.email ∧ st = u.insertion := by
  refine accesses_bind (silent_lift silent_newId).reads fun uid => ?_
  refine accesses_bind_silent (sends_stored ?_) fun user => silent_signedIn _ user
  refine Entity.accesses_save User.build_eq offline_userSchema ?_ _
  intro fs args record hargs
  rw [User.insertArgs_eq rfl rfl] at hargs
  obtain ⟨millis, rest, -, hdone⟩ := Action.runs_ask_iff.1 hargs
  cases (Action.runs_done_iff.1 hdone).2
  exact ⟨(r.user uid).stamped millis, rfl, rfl⟩

theorem accesses_register : (register s c).run.Accesses (Permitted c.user) := by
  rw [register_eq]
  refine accesses_bind (silent_ofExcept _).reads fun _ => ?_
  refine accesses_bind (reads_usersOfEmail _) fun others => ?_
  split
  · refine (accesses_enroll s _).mono fun sts h => h.mono ?_
    rintro st ⟨u, -, rfl⟩
    exact ⟨_, _, .register, User.schema.changes_insertSql u.row⟩
  · exact (silent_refuse _).reads.accesses

theorem reads_authenticate : (authenticate s c).run.Reads := by
  unfold authenticate
  dsimp only
  split
  · exact (silent_refuse _).reads
  · split
    · exact (silent_refuse _).reads
    · refine reads_bind (reads_usersOfEmail _) fun users => ?_
      cases users with
      | nil => exact (silent_refuse _).reads
      | cons user others =>
        dsimp only
        split
        · exact (silent_signedIn _ _).reads
        · exact (silent_refuse _).reads

theorem silent_signout : (signout s c).run.Silent :=
  silent_bind (silent_ofExcept _) fun _ => silent_bind (silent_ofExcept _) fun _ => silent_pure _

theorem reads_listUsers : (listUsers c).run.Reads :=
  reads_bind (reads_listing _ c) fun _ => (silent_pure _).reads

theorem reads_listPosts : (listPosts c).run.Reads :=
  reads_bind (reads_listing _ c) fun _ => (silent_pure _).reads

theorem reads_listComments : (listComments c).run.Reads :=
  reads_bind (reads_listing _ c) fun _ => (silent_pure _).reads

theorem reads_indexPage : (indexPage c).run.Reads :=
  reads_bind (reads_listing _ c) fun _ => (silent_pure _).reads

theorem reads_getPost : (getPost c).run.Reads :=
  reads_bind (silent_required c "id").reads fun _ =>
    reads_bind (reads_findNamed _ _ _) fun _ => (silent_pure _).reads

theorem silent_updatePage : (updatePage c).run.Silent :=
  silent_bind (silent_required c "id") fun _ => silent_pure _

theorem accesses_createPost : (createPost s c).run.Accesses (Permitted c.user) := by
  refine accesses_requireAdmin fun hadmin user => ?_
  refine accesses_bind (silent_nonBlank c "name").reads fun name => ?_
  refine accesses_bind (silent_nonBlank c "summary").reads fun summary => ?_
  refine accesses_bind (silent_nonBlank c "content").reads fun content => ?_
  refine accesses_bind_silent (sends_stored ?_) fun _ => silent_pure _
  exact Entity.accesses_save Post.build_eq offline_postSchema
    (fun _ args _ _ => ⟨_, _, .post .insert hadmin, Post.schema.changes_insertSql args⟩) _

theorem accesses_updatePost : (updatePost s c).run.Accesses (Permitted c.user) := by
  refine accesses_requireAdmin fun hadmin _ => ?_
  refine accesses_bind (silent_required c "id").reads fun id => ?_
  refine accesses_bind (reads_findNamed _ _ _) fun post => ?_
  refine accesses_bind (silent_nonBlank c "name").reads fun name => ?_
  refine accesses_bind (silent_nonBlank c "summary").reads fun summary => ?_
  refine accesses_bind (silent_nonBlank c "content").reads fun content => ?_
  refine accesses_bind_silent (sends_stored ?_) fun _ => silent_pure _
  exact Entity.accesses_update Post.build_eq
    (fun args => ⟨_, _, .post .update hadmin, Post.schema.changes_updateSql args⟩) _ _

theorem accesses_deletePost : (deletePost s c).run.Accesses (Permitted c.user) := by
  refine accesses_requireAdmin fun hadmin _ => ?_
  refine accesses_bind (silent_required c "id").reads fun id => ?_
  refine accesses_bind (reads_findNamed _ _ _) fun post => ?_
  refine accesses_bind_silent (sends_stored ?_) fun _ => silent_pure _
  exact Entity.accesses_remove Post.build_eq
    (fun args => ⟨_, _, .post .delete hadmin, Post.schema.changes_deleteSql args⟩) _ _

theorem accesses_createComment : (createComment s c).run.Accesses (Permitted c.user) := by
  refine accesses_requireUser fun hsigned user => ?_
  dsimp only
  split
  · exact (silent_refuse _).reads.accesses
  · refine accesses_bind (silent_required c "id").reads fun id => ?_
    refine accesses_bind (reads_findNamed _ _ _) fun post => ?_
    refine accesses_bind_silent (sends_stored ?_) fun _ => silent_pure _
    exact Entity.accesses_save Comment.build_eq offline_commentSchema
      (fun _ args _ _ => ⟨_, _, .comment hsigned, Comment.schema.changes_insertSql args⟩) _

theorem accesses_deleteComment : (deleteComment s c).run.Accesses (Permitted c.user) := by
  refine accesses_requireAdmin fun hadmin _ => ?_
  refine accesses_bind (silent_required c "id").reads fun id => ?_
  refine accesses_bind (reads_findNamed _ _ _) fun comment => ?_
  refine accesses_bind_silent (sends_stored ?_) fun _ => silent_pure _
  exact Entity.accesses_remove Comment.build_eq
    (fun args => ⟨_, _, .uncomment hadmin, Comment.schema.changes_deleteSql args⟩) _ _

/-- A handler for GET only reads. One for POST reads, and then changes at most what its caller may
change. -/
def Keeps (verb : Verb) (handler : Handler) : Prop :=
  match verb with
  | .get => ∀ c, (handler c).run.Reads
  | .post => ∀ c, (handler c).run.Accesses (Permitted c.user)

theorem keeps_routes (s : Settings) : ∀ route ∈ routes s, Keeps route.verb route.handler := by
  have hplain : ∀ reply : Reply, (pure reply : Fallible AppError Reply).run.Reads :=
    fun _ => (silent_pure _).reads
  simp only [routes, List.forall_mem_cons]
  exact ⟨fun _ => reads_indexPage, fun _ => hplain _, fun _ => hplain _,
    fun _ => silent_signout.reads, fun _ => accesses_register, fun _ => reads_authenticate.accesses,
    fun _ => reads_listUsers, fun _ => hplain _, fun _ => hplain _,
    fun _ => silent_updatePage.reads, fun _ => hplain _, fun _ => hplain _, fun _ => reads_listPosts,
    fun _ => accesses_createPost, fun _ => reads_getPost, fun _ => accesses_updatePost,
    fun _ => accesses_deletePost, fun _ => reads_listComments, fun _ => accesses_createComment,
    fun _ => accesses_deleteComment, List.forall_mem_nil _⟩

theorem reads_directory (uid : String) : (directory uid).Reads := by
  refine Action.Sends.then_silent (Entity.reads_find _) fun found => ?_
  rcases found with e | _ | u
  · exact Action.silent_done _
  · exact Action.silent_done _
  · exact Action.silent_done _

end Blog
end Weblog
