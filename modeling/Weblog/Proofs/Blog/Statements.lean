import Weblog.Proofs.Blog.Requests
import Weblog.Proofs.Sql.Markers
import Weblog.Proofs.Store.Script

/-!
# Weblog.Proofs.Blog.Statements

The texts that the blog sends to the database.

* `texts`: the texts of the models and the fixed ones, each with the number of its arguments.
* `Scripted`: the script that a handler follows, whatever it is called with; `scripted_routes`: every
  route has one.
* `sends_texts`: no other text is sent, and requests to one route send the same texts in the same
  places.
-/

namespace Weblog
namespace Blog

open Fallible

def models : List Schema := [User.schema, Post.schema, Comment.schema]

theorem schemas_eq : schemas = .ok models := rfl

/-- A text of a model as it is sent. -/
def sentForm (t : String × Nat) : String × Nat := (Sql.native t.1, t.2)

/-- The texts that models determine and the fixed ones, each with the number of its arguments. -/
def texts (models : List Schema) : List (String × Nat) :=
  models.flatMap (fun m => m.templates.map sentForm) ++
    ("SELECT 1", 0) :: [TransactionControl.start, .commit, .rollback].map fun t => t.statement.form

/-- The markers of every text are numbered as its arguments are. -/
theorem numbers_texts (models : List Schema) :
    ∀ t ∈ texts models, Sql.numbers none t.1.toList = List.range' 1 t.2 := by
  intro t ht
  rcases List.mem_append.1 ht with ht | ht
  · obtain ⟨m, -, ht⟩ := List.mem_flatMap.1 ht
    obtain ⟨u, hu, rfl⟩ := List.mem_map.1 ht
    exact m.numbers_templates u hu
  · have hfixed : ∀ t ∈ ("SELECT 1", 0) ::
        [TransactionControl.start, .commit, .rollback].map (fun t => t.statement.form),
        Sql.numbers none t.1.toList = List.range' 1 t.2 := by decide
    exact hfixed t ht

theorem mem_texts {m : Schema} (hm : m ∈ models) {t : String × Nat} (ht : t ∈ m.templates) :
    sentForm t ∈ texts models :=
  List.mem_append_left _ (List.mem_flatMap.2 ⟨m, hm, List.mem_map_of_mem ht⟩)

theorem mem_texts_control (t : TransactionControl) : t.statement.form ∈ texts models :=
  List.mem_append_right _ (List.mem_cons_of_mem _
    (List.mem_map_of_mem (f := fun t : TransactionControl => t.statement.form)
      (by cases t <;> decide)))

/-- A script out of the texts of the blog. -/
def IsScript (plan : List (String × Nat)) : Prop := ∀ t ∈ plan, t ∈ texts models

theorem isScript_opening (autocommit : Bool) : IsScript (Database.openingForms autocommit) := by
  unfold Database.openingForms
  split
  · exact List.forall_mem_nil _
  · exact List.forall_mem_singleton.2 (mem_texts_control .start)

/-- Whatever the world answers, an action sends texts of the blog alone. -/
theorem form_mem_texts {es : List Exchange} {plan : List (String × Nat)} (hplan : IsScript plan)
    (h : forms es <+: plan) : ∀ st ∈ sentBy es, st.form ∈ texts models := by
  intro st hst
  rcases form_mem h hst with hmem | rfl | rfl
  · exact hplan _ hmem
  · exact mem_texts_control .commit
  · exact mem_texts_control .rollback

section Reads

variable {α : Type} [Entity α] {m : Schema}

theorem completes_countOf (hm : Entity.schema α = .ok m) :
    Completes [sentForm (m.numberSql "COUNT(id)" none, 0)] (countOf α) := by
  have hcount := Entity.completes_findNumber hm "COUNT(id)" none []
  exact (hcount.mapError AppError.store).then_silent fun _ => silent_pure _

theorem completes_findPage (hm : Entity.schema α = .ok m) {order clauses : String}
    (hclauses : clause " ORDER BY " (some order) ++ " LIMIT ? OFFSET ?" = clauses) (p : Page) :
    Completes [sentForm (m.selectSql ++ clauses, 2)]
      (Entity.findAll α { order := some order, limit := some p.limit }) := by
  have hsql : (FindAll.query { order := some order, limit := some p.limit } m).sql =
      m.selectSql ++ clauses := by
    have hquery : (FindAll.query { order := some order, limit := some p.limit } m).sql =
        m.selectSql ++ "" ++ clause " ORDER BY " (some order) ++ " LIMIT ? OFFSET ?" := rfl
    rw [hquery, String.append_empty, String.append_assoc, hclauses]
  have hfind := Entity.completes_findAll hm { order := some order, limit := some p.limit }
  rw [hsql] at hfind
  exact hfind

theorem follows_listing (hm : Entity.schema α = .ok m) {order clauses : String}
    (hclauses : clause " ORDER BY " (some order) ++ " LIMIT ? OFFSET ?" = clauses) (c : Call) :
    (listing α order c).run.Follows
      [sentForm (m.numberSql "COUNT(id)" none, 0), sentForm (m.selectSql ++ clauses, 2)] := by
  refine follows_bind (completes_countOf hm) fun n => ?_
  dsimp only
  split
  · exact (silent_pure _).follows
  · exact (((completes_findPage hm hclauses (askedPage c n)).mapError AppError.store).then_silent
      fun _ => silent_pure _).follows

theorem completes_findNamed (hm : Entity.schema α = .ok m) (resource label id : String) :
    Completes [sentForm (m.selectByKeySql, 1)] (findNamed α resource label id) := by
  refine ((Entity.completes_find hm (.string id)).mapError AppError.store).then_silent fun found => ?_
  cases found with
  | some v => exact silent_pure v
  | none => exact silent_refuse _

end Reads

theorem completes_usersOfEmail (email : String) :
    Completes [sentForm (User.schema.selectSql ++ " WHERE email = ?", 1)] (usersOfEmail email) := by
  have hsql : (FindAll.query { filter := some ⟨"email = ?", [.string email]⟩ } User.schema).sql =
      User.schema.selectSql ++ " WHERE email = ?" := by
    have hquery : (FindAll.query { filter := some ⟨"email = ?", [.string email]⟩ } User.schema).sql =
        User.schema.selectSql ++ clause " WHERE " (some "email = ?") ++ "" ++ "" := rfl
    have hclause : clause " WHERE " (some "email = ?") = " WHERE email = ?" := by decide
    rw [hquery, String.append_empty, String.append_empty, hclause]
  have hfind := Entity.completes_findAll User.build_eq
    { filter := some ⟨"email = ?", [.string email]⟩ }
  rw [hsql] at hfind
  exact hfind.mapError AppError.store

/-! ## The handlers -/

/-- Whatever it is called with, a handler follows one script. -/
def Scripted (handler : Handler) : Prop :=
  ∃ plan, IsScript plan ∧ ∀ c, (handler c).run.Follows plan

theorem scripted_of_silent {handler : Handler} (h : ∀ c, (handler c).run.Silent) :
    Scripted handler :=
  ⟨[], List.forall_mem_nil _, fun c => (h c).follows⟩

variable {s : Settings}

theorem scripted_listing {α : Type} [Entity α] {m : Schema} (hm : Entity.schema α = .ok m)
    (hmodel : m ∈ models) {order clauses : String}
    (hclauses : clause " ORDER BY " (some order) ++ " LIMIT ? OFFSET ?" = clauses)
    (hmem : (m.selectSql ++ clauses, 2) ∈ m.templates) (reply : Page × List α → Reply) :
    Scripted fun c => listing α order c >>= fun p => pure (reply p) := by
  refine ⟨[sentForm (m.numberSql "COUNT(id)" none, 0), sentForm (m.selectSql ++ clauses, 2)], ?_, ?_⟩
  · have hcount : (m.numberSql "COUNT(id)" none, 0) ∈ m.templates := by simp [Schema.templates]
    exact List.forall_mem_cons.2 ⟨mem_texts hmodel hcount,
      List.forall_mem_singleton.2 (mem_texts hmodel hmem)⟩
  · intro c
    refine (follows_listing hm hclauses c).then_silent fun out => ?_
    cases out with
    | error e => exact Action.silent_done _
    | ok p => exact silent_pure _

theorem IsScript.append {plan rest : List (String × Nat)} (h : IsScript plan)
    (hrest : IsScript rest) : IsScript (plan ++ rest) := List.forall_mem_append.2 ⟨h, hrest⟩

section Scripts

variable {m : Schema} (hm : m ∈ models)

include hm

theorem isScript_find : IsScript [sentForm (m.selectByKeySql, 1)] :=
  List.forall_mem_singleton.2 (mem_texts hm (by simp [Schema.templates]))

theorem isScript_email : IsScript [sentForm (m.selectSql ++ " WHERE email = ?", 1)] :=
  List.forall_mem_singleton.2 (mem_texts hm (by simp [Schema.templates]))

theorem isScript_save (autocommit : Bool) : IsScript (Database.openingForms autocommit ++
    [sentForm (m.insertSql, m.writeOrder.length)]) :=
  (isScript_opening autocommit).append
    (List.forall_mem_singleton.2 (mem_texts hm (by simp [Schema.templates])))

theorem isScript_update (autocommit : Bool) : IsScript (Database.openingForms autocommit ++
    [sentForm (m.updateSql, m.writeOrder.length)]) :=
  (isScript_opening autocommit).append
    (List.forall_mem_singleton.2 (mem_texts hm (by simp [Schema.templates])))

theorem isScript_remove (autocommit : Bool) : IsScript (Database.openingForms autocommit ++
    [sentForm (m.deleteSql, 1)]) :=
  (isScript_opening autocommit).append
    (List.forall_mem_singleton.2 (mem_texts hm (by simp [Schema.templates])))

end Scripts

theorem user_mem_models : User.schema ∈ models := List.mem_cons_self

theorem post_mem_models : Post.schema ∈ models := .tail _ (.head _)

theorem comment_mem_models : Comment.schema ∈ models := .tail _ (.tail _ (.head _))

theorem scripted_register : Scripted (register s) := by
  refine ⟨_, (isScript_email user_mem_models).append
    (isScript_save user_mem_models s.autocommit), fun c => ?_⟩
  rw [register_eq]
  refine silent_then_follows (silent_ofExcept _) fun _ => ?_
  refine follows_bind (completes_usersOfEmail _) fun others => ?_
  split
  · refine silent_then_follows (silent_lift silent_newId) fun uid => ?_
    refine (Completes.then_silent (Completes.mapError ?_ _) fun user => silent_signedIn _ user).follows
    exact Entity.completes_save User.build_eq offline_userSchema s.autocommit _
  · exact (silent_refuse _).follows

theorem scripted_authenticate : Scripted (authenticate s) := by
  refine ⟨_, isScript_email user_mem_models, fun c => ?_⟩
  unfold authenticate
  dsimp only
  split
  · exact (silent_refuse _).follows
  · split
    · exact (silent_refuse _).follows
    · refine ((completes_usersOfEmail _).then_silent fun users => ?_).follows
      cases users with
      | nil => exact silent_refuse _
      | cons user others =>
        dsimp only
        split
        · exact silent_signedIn _ _
        · exact silent_refuse _

theorem scripted_getPost : Scripted getPost := by
  refine ⟨_, isScript_find post_mem_models, fun c => ?_⟩
  refine silent_then_follows (silent_required c "id") fun id => ?_
  exact ((completes_findNamed Post.build_eq _ _ _).then_silent fun _ => silent_pure _).follows

theorem scripted_createPost : Scripted (createPost s) := by
  refine ⟨_, isScript_save post_mem_models s.autocommit, fun c => ?_⟩
  refine silent_then_follows silent_requireAdmin fun user => ?_
  refine silent_then_follows (silent_nonBlank c "name") fun name => ?_
  refine silent_then_follows (silent_nonBlank c "summary") fun summary => ?_
  refine silent_then_follows (silent_nonBlank c "content") fun content => ?_
  refine (Completes.then_silent (Completes.mapError ?_ _) fun _ => silent_pure _).follows
  exact Entity.completes_save Post.build_eq offline_postSchema s.autocommit _

theorem scripted_updatePost : Scripted (updatePost s) := by
  refine ⟨_, (isScript_find post_mem_models).append
    (isScript_update post_mem_models s.autocommit), fun c => ?_⟩
  refine silent_then_follows silent_requireAdmin fun _ => ?_
  refine silent_then_follows (silent_required c "id") fun id => ?_
  refine follows_bind (completes_findNamed Post.build_eq _ _ _) fun post => ?_
  refine silent_then_follows (silent_nonBlank c "name") fun name => ?_
  refine silent_then_follows (silent_nonBlank c "summary") fun summary => ?_
  refine silent_then_follows (silent_nonBlank c "content") fun content => ?_
  refine (Completes.then_silent (Completes.mapError ?_ _) fun _ => silent_pure _).follows
  exact Entity.completes_update Post.build_eq s.autocommit _

theorem scripted_deletePost : Scripted (deletePost s) := by
  refine ⟨_, (isScript_find post_mem_models).append
    (isScript_remove post_mem_models s.autocommit), fun c => ?_⟩
  refine silent_then_follows silent_requireAdmin fun _ => ?_
  refine silent_then_follows (silent_required c "id") fun id => ?_
  refine follows_bind (completes_findNamed Post.build_eq _ _ _) fun post => ?_
  refine (Completes.then_silent (Completes.mapError ?_ _) fun _ => silent_pure _).follows
  exact Entity.completes_remove Post.build_eq s.autocommit _

theorem scripted_createComment : Scripted (createComment s) := by
  refine ⟨_, (isScript_find post_mem_models).append
    (isScript_save comment_mem_models s.autocommit), fun c => ?_⟩
  refine silent_then_follows silent_requireUser fun user => ?_
  dsimp only
  split
  · exact (silent_refuse _).follows
  · refine silent_then_follows (silent_required c "id") fun id => ?_
    refine follows_bind (completes_findNamed Post.build_eq _ _ _) fun post => ?_
    refine (Completes.then_silent (Completes.mapError ?_ _) fun _ => silent_pure _).follows
    exact Entity.completes_save Comment.build_eq offline_commentSchema s.autocommit _

theorem scripted_deleteComment : Scripted (deleteComment s) := by
  refine ⟨_, (isScript_find comment_mem_models).append
    (isScript_remove comment_mem_models s.autocommit), fun c => ?_⟩
  refine silent_then_follows silent_requireAdmin fun _ => ?_
  refine silent_then_follows (silent_required c "id") fun id => ?_
  refine follows_bind (completes_findNamed Comment.build_eq _ _ _) fun comment => ?_
  refine (Completes.then_silent (Completes.mapError ?_ _) fun _ => silent_pure _).follows
  exact Entity.completes_remove Comment.build_eq s.autocommit _

/-- Every route of the blog has its script. -/
theorem scripted_routes (s : Settings) : ∀ route ∈ routes s, Scripted route.handler := by
  have hplain : ∀ reply : Reply, Scripted fun _ => pure reply :=
    fun _ => scripted_of_silent fun _ => silent_pure _
  have hnewest : clause " ORDER BY " (some "created_at DESC") ++ " LIMIT ? OFFSET ?" =
      " ORDER BY created_at DESC LIMIT ? OFFSET ?" := by decide
  have holdest : clause " ORDER BY " (some "created_at") ++ " LIMIT ? OFFSET ?" =
      " ORDER BY created_at LIMIT ? OFFSET ?" := by decide
  have hmem : ∀ m : Schema,
      (m.selectSql ++ " ORDER BY created_at DESC LIMIT ? OFFSET ?", 2) ∈ m.templates := fun m => by
    simp [Schema.templates]
  have hmem' : ∀ m : Schema,
      (m.selectSql ++ " ORDER BY created_at LIMIT ? OFFSET ?", 2) ∈ m.templates := fun m => by
    simp [Schema.templates]
  simp only [routes, List.forall_mem_cons]
  exact ⟨scripted_listing Post.build_eq post_mem_models hnewest (hmem _) _, hplain _, hplain _,
    scripted_of_silent fun _ => silent_signout, scripted_register, scripted_authenticate,
    scripted_listing User.build_eq user_mem_models hnewest (hmem _) _, hplain _,
    scripted_of_silent fun _ => silent_pure _, scripted_of_silent fun _ => silent_updatePage,
    scripted_of_silent fun _ => silent_pure _, scripted_of_silent fun _ => silent_pure _,
    scripted_listing Post.build_eq post_mem_models hnewest (hmem _) _, scripted_createPost,
    scripted_getPost, scripted_updatePost, scripted_deletePost,
    scripted_listing Comment.build_eq comment_mem_models holdest (hmem' _) _,
    scripted_createComment, scripted_deleteComment, List.forall_mem_nil _⟩

/-! ## The site -/

variable {render : Renderer} {r r' : Http.Request}

theorem follows_dispatch (hrender : render.Offline) {e : Entry} {plan : List (String × Nat)}
    (h : ∀ c, (e.handler c).run.Follows plan) (visitor : Option SessionUser)
    (path : List (String × String)) (r : Http.Request) :
    (e.dispatch visitor render path r).Follows plan := by
  intro es response hruns
  rcases Entry.of_runs_dispatch hrender hruns with
    hnone | ⟨before, fs, after, args, outcome, rfl, -, hbefore, hhandler, hafter⟩
  · rw [forms_of_unsent hnone]
    exact List.nil_prefix
  · rw [forms_append, forms_append, forms_of_unsent hbefore, forms_of_unsent hafter,
      List.nil_append, List.append_nil]
    exact h _ fs outcome hhandler

theorem follows_directory (uid : String) :
    (directory uid).Follows [sentForm (User.schema.selectByKeySql, 1)] := by
  refine (Entity.completes_find User.build_eq (.string uid)).follows.then_silent fun found => ?_
  rcases found with e | _ | u
  · exact Action.silent_done _
  · exact Action.silent_done _
  · exact Action.silent_done _

theorem follows_currentUser (s : Settings) (render : Renderer) (r : Http.Request) :
    ((site s directory render).currentUser r).Follows [sentForm (User.schema.selectByKeySql, 1)] := by
  unfold Site.currentUser
  split
  · exact (Action.silent_done _).follows
  · refine Action.silent_seconds.then_follows fun now => ?_
    unfold Cookie.resolve
    split
    · exact (Action.silent_done _).follows
    · refine (follows_directory _).then_silent fun found => ?_
      split
      · exact (Action.silent_log _).before fun _ => Action.silent_done _
      · exact Action.silent_done _

theorem follows_commonPage (p : CommonPage) : p.response.Follows [("SELECT 1", 0)] := by
  cases p with
  | health => exact (Action.silent_done _).follows
  | version => exact (Action.silent_done _).follows
  | ready =>
    have hping : Database.ping.run.Follows [("SELECT 1", 0)] := by
      refine silent_then_follows Database.silent_connect fun _ => ?_
      have hping : ¬ Statement.IsEnding ⟨"SELECT 1", []⟩ := by decide
      exact ((Database.completes_run hping).then_silent fun _ => silent_pure _).follows
    refine hping.then_silent fun out => ?_
    cases out with
    | ok u => exact Action.silent_done _
    | error e => exact (Action.silent_log _).before fun _ => Action.silent_done _

/-- What serves a request has a script, which every request that it serves follows. -/
theorem exists_script (hrender : render.Offline) {e : Endpoint}
    (h : (site s directory render).LeadsTo r e) :
    ∃ plan, IsScript plan ∧ ∀ r', (site s directory render).LeadsTo r' e → ∀ visitor x,
      ((site s directory render).behind r' visitor x).Follows plan := by
  cases e with
  | page p =>
    refine ⟨[("SELECT 1", 0)], List.forall_mem_singleton.2 ?_, fun r' h' visitor x => ?_⟩
    · exact List.mem_append_right _ List.mem_cons_self
    · rw [h'.behind_eq]
      exact follows_commonPage p
  | entry e =>
    obtain ⟨-, he, -⟩ := h.exists_matches nodup_key_table
    have hmem : e ∈ (routes s).map entryOf := table_eq s ▸ he
    obtain ⟨route, hroute, rfl⟩ := List.mem_map.1 hmem
    obtain ⟨plan, hplan, hfollows⟩ := scripted_routes s route hroute
    refine ⟨plan, hplan, fun r' h' visitor x => ?_⟩
    obtain ⟨captured, -, hmatches⟩ := h'.exists_matches nodup_key_table
    rw [hmatches.behind_eq]
    exact follows_dispatch hrender hfollows visitor _ x

theorem exists_script_behind (hrender : render.Offline) (r : Http.Request) :
    ∃ plan, IsScript plan ∧ ∀ visitor x,
      ((site s directory render).behind r visitor x).Follows plan := by
  rcases (site s directory render).leadsTo_cases r with ⟨response, halways⟩ | ⟨e, hleads⟩
  · refine ⟨[], List.forall_mem_nil _, fun visitor x => ?_⟩
    rw [halways]
    exact (Action.silent_done _).follows
  · obtain ⟨plan, hplan, hfollows⟩ := exists_script hrender hleads
    exact ⟨plan, hplan, hfollows r hleads⟩

/-- Every statement of a request is a text of the blog with its arguments. -/
theorem forms_serve (hrender : render.Offline) {es : List Exchange} {response : Http.Response}
    (h : Action.Runs ((site s directory render).serve r) es response) :
    ∀ st ∈ sentBy es, st.form ∈ texts models := by
  have hcurrent : ∀ {ds visitor},
      Action.Runs ((site s directory render).currentUser r) ds visitor →
      ∀ st ∈ sentBy ds, st.form ∈ texts models := fun hvisitor =>
    form_mem_texts (isScript_find user_mem_models) (follows_currentUser s render r _ _ hvisitor)
  cases Site.runs_serve_iff.1 h with
  | refused _ => exact List.forall_mem_nil _
  | sentAway _ hvisitor _ => exact hcurrent hvisitor
  | reached _ hvisitor _ hbehind =>
    obtain ⟨plan, hplan, hfollows⟩ := exists_script_behind (s := s) hrender r
    rw [sentBy_append]
    exact List.forall_mem_append.2
      ⟨hcurrent hvisitor, form_mem_texts hplan (hfollows _ _ _ _ hbehind)⟩

/-- What a request asks after its user was found is the beginning of the script of what serves it. -/
theorem forms_of_follows {plan : List (String × Nat)} (hplan : ∀ visitor x,
      ((site s directory render).behind r visitor x).Follows plan) {ds hs : List Exchange}
    {visitor : Option SessionUser} {response : Http.Response}
    (hvisitor : Action.Runs ((site s directory render).currentUser r) ds visitor)
    (h : Action.Runs ((site s directory render).serve r) (ds ++ hs) response) :
    forms hs <+: plan := by
  have hvisit : (site s directory render).Visit r visitor ds hs response := ⟨h, fun _ => hvisitor⟩
  obtain ⟨inner, hentered, -⟩ := hvisit.entered
  refine (?_ : Action.Follows plan _) hs inner hentered
  unfold Site.entered
  split
  · exact (Action.silent_done _).follows
  · split
    · exact hplan visitor _
    · exact (Action.silent_done _).follows

/-- Whatever a request holds and the database answers, each text that is sent is one that the models
determine or a fixed one, with as many arguments as it has markers, which are numbered from one on.
Two requests to one route, however their paths, queries and bodies differ, send the same text as
the `k`-th one after the users of their sessions are found, what ends a transaction aside. -/
theorem sends_texts (hrender : render.Offline) :
    schemas = .ok models ∧
    (∀ es response, Action.Runs ((site s directory render).serve r) es response →
      ∀ st ∈ sentBy es, (∃ n, (st.sql, n) ∈ texts models) ∧
        Sql.numbers none st.sql.toList = List.range' 1 st.args.length) ∧
    ∀ r' e, (site s directory render).LeadsTo r e → (site s directory render).LeadsTo r' e →
      ∀ ds hs visitor response ds' hs' visitor' response',
        Action.Runs ((site s directory render).currentUser r) ds visitor →
        Action.Runs ((site s directory render).serve r) (ds ++ hs) response →
        Action.Runs ((site s directory render).currentUser r') ds' visitor' →
        Action.Runs ((site s directory render).serve r') (ds' ++ hs') response' →
        ∀ (k : Nat) (st st' : Statement), (unended hs)[k]? = some st →
          (unended hs')[k]? = some st' → st.sql = st'.sql := by
  refine ⟨schemas_eq, ?known, ?same⟩
  case known =>
    intro es response h st hst
    have hform := forms_serve hrender h st hst
    exact ⟨⟨st.args.length, hform⟩, numbers_texts models _ hform⟩
  case same =>
    intro r' e hleads hleads' ds hs visitor response ds' hs' visitor' response' hvisitor h hvisitor'
      h' k st st' hst hst'
    obtain ⟨plan, -, hplan⟩ := exists_script hrender hleads
    have hsent : ∀ {es : List Exchange} {x : Statement}, forms es <+: plan →
        (unended es)[k]? = some x → plan[k]? = some x.form := by
      intro es x hprefix hx
      have hform : (forms es)[k]? = some x.form := by
        rw [forms, List.getElem?_map, hx]
        rfl
      obtain ⟨rest, hrest⟩ := hprefix
      rw [← hrest, List.getElem?_append_left (List.getElem?_eq_some_iff.1 hform).1, hform]
    have hk := hsent (forms_of_follows (hplan r hleads) hvisitor h) hst
    have hk' := hsent (forms_of_follows (hplan r' hleads') hvisitor' h') hst'
    rw [hk] at hk'
    exact congrArg Prod.fst (Option.some.inj hk')

/-- The registration of Ben, and his form. -/
def benRegistration : Registration :=
  ⟨"Ben", "ben@mail.org", String.ofList (List.replicate 64 '1')⟩

def benForm : Http.Request :=
  .make .post ⟨"", "/api/users", none⟩
    [⟨"content-type", Text.Utf8.bytesOf "application/x-www-form-urlencoded"⟩]
    ("email=ben@mail.org&name=Ben&passwd=" ++ benRegistration.passwd).toUTF8

theorem carried?_benForm :
    Site.carried? benForm "email" = some benRegistration.email ∧
      Site.carried? benForm "name" = some benRegistration.name ∧
      Site.carried? benForm "passwd" = some benRegistration.passwd := by
  decide +kernel

/-- The blog over the stored users, with empty pages. -/
def storedSite : Site := site (annSettings 86400) directory fun _ _ => pure ""

/-- The user that a registration makes. -/
def Registration.newcomer (q : Registration) : User :=
  q.enrolled annMillis (List.replicate 16 7) annMillis

/-- How the world answers a registration. -/
def Registration.signup (q : Registration) : List Exchange :=
  [⟨.connect, .ok ()⟩, ⟨.run (emailSearch q.email), .ok ⟨[], [], 0⟩⟩, ⟨.clock, annMillis⟩,
    ⟨.uuid, List.replicate 16 7⟩, ⟨.clock, annMillis⟩, ⟨.connect, .ok ()⟩,
    ⟨.run q.newcomer.insertion, .ok ⟨[], [], 1⟩⟩, ⟨.clock, annMillis⟩]

theorem runs_signup {q : Registration} (hmethod : r.method = .post)
    (hpath : r.uri.path = "/api/users")
    (hcurrent : storedSite.currentUser r = .done none)
    (hcarried : Site.carried? r "email" = some q.email ∧ Site.carried? r "name" = some q.name ∧
      Site.carried? r "passwd" = some q.passwd)
    (hcheck : q.check = .ok ()) :
    ∃ response, Action.Runs (storedSite.serve r) ([] ++ q.signup) response := by
  obtain ⟨hemail, hname, hpasswd⟩ := hcarried
  have hasked : asked r = q := by
    rw [asked, hemail, hname, hpasswd]
    rfl
  have hgiven : ∀ name ∈ ["email", "name", "passwd"], (Site.carried? r name).isSome = true := by
    simp [hemail, hname, hpasswd]
  have hmillis : (0 : Int) ≤ annMillis := by decide
  have hcookie : headerValue (sessionCookie (annSettings 86400).session q.newcomer
      (annMillis / 1000)) = .ok (Text.Utf8.bytesOf (sessionCookie (annSettings 86400).session
        q.newcomer (annMillis / 1000))) :=
    headerValue_ok_iff.2 (Http.headerValue?_eq_some (Cookie.isHeaderText_setting
      (show Http.IsHeaderText "awesession" by decide) (q.isDigitOrLower_of_mem_id hmillis _ _)))
  have hvisitor : Action.Runs (storedSite.currentUser r) [] none := hcurrent ▸ .done
  have hnobody : Entity.ofResult ⟨[], [], 0⟩ = .ok ([] : List User) := rfl
  have hinserted : (⟨[], [], 1⟩ : ResultSet).affected = 1 := rfl
  have hnewcomer : q.newcomer = (asked r).enrolled annMillis (List.replicate 16 7) annMillis := by
    rw [hasked, Registration.newcomer]
  have hemailed : q.email = (asked r).email := by rw [hasked]
  rw [← hasked] at hcheck
  rw [Registration.signup, hemailed]
  exact ⟨_, runs_serve_register (s := annSettings 86400) rfl hmethod hpath hgiven hcheck hvisitor
    hnobody hinserted hnewcomer hcookie⟩

theorem unended_signup (q : Registration) :
    unended q.signup = [emailSearch q.email, q.newcomer.insertion] := by
  have hsearch : (emailSearch q.email).IsSelect :=
    User.schema.isSelect_selectSql [.string q.email] " WHERE email = ?"
  have hinsert : q.newcomer.insertion.IsChange :=
    (User.schema.changes_insertSql q.newcomer.row).isChange
  have hsent : sentBy q.signup = [emailSearch q.email, q.newcomer.insertion] := rfl
  rw [unended, hsent, List.filter_cons_of_pos (by simpa using hsearch.not_isEnding),
    List.filter_cons_of_pos (by simpa using hinsert.not_isEnding), List.filter_nil]

theorem sends_texts_signups :
    (Sql.numbers none ann.insertion.sql.toList = List.range' 1 ann.insertion.args.length) ∧
      annRegistration.newcomer.insertion.sql = benRegistration.newcomer.insertion.sql := by
  have hrender : Renderer.Offline storedSite.render := fun _ _ => silent_pure _
  have hsite : storedSite = site (annSettings 86400) directory storedSite.render := rfl
  obtain ⟨response, hann⟩ := runs_signup (r := annForm "/api/users") rfl rfl rfl
    (carried?_annForm "/api/users") check_annRegistration
  obtain ⟨response', hben⟩ := runs_signup (r := benForm) rfl rfl rfl carried?_benForm (by rfl)
  obtain ⟨-, hknown, hsame⟩ := sends_texts (s := annSettings 86400) (r := annForm "/api/users") hrender
  rw [← hsite] at hknown hsame
  constructor
  · exact (hknown _ _ hann ann.insertion insertion_mem_annSignup).2
  · refine hsame benForm _ (served_register.matches rfl rfl).leadsTo
      (served_register.matches rfl rfl).leadsTo [] _ none response [] _ none response' .done hann
      .done hben 1 _ _ ?_ ?_
    · rw [unended_signup]
      rfl
    · rw [unended_signup]
      rfl

end Blog
end Weblog
