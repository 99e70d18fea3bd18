import Weblog.Proofs.Blog.Drafts

/-!
# Weblog.Proofs.Blog.Inserts

What the handlers of the blog insert, whatever they are called with.

* `each_save`: the one statement of a save is the insert of the entity as it was completed right
  before.
* `Writes`, `Inserts`: what holds of every write or insert of an action and of the exchanges before
  it.
* `Origin`: the three inserts of the blog, with the source of each of their values.
* `inserts_routes`: no route of the blog inserts anything else.
-/

namespace Weblog

open Fallible

/-- What a write asks before its statement. -/
def Database.opening (autocommit : Bool) : List Exchange :=
  ⟨.connect, .ok ()⟩ :: if autocommit then [] else [⟨.control .start, .ok ()⟩]

theorem EachAfter.of_unsent {Q : List Exchange → Statement → Prop} {es : List Exchange}
    (h : sentBy es = []) : EachAfter (fun before y => ∀ st, y.effect = .run st → Q before st) es := by
  rintro before y after rfl st hy
  have hsent : st ∈ sentBy (before ++ y :: after) :=
    mem_sentBy_of_run (List.mem_append_right before List.mem_cons_self) hy
  rw [h] at hsent
  cases hsent

namespace Draft

variable {α : Type} [Entity α] [Draft α] {v w : α} {ds : List Exchange}

theorem runs_timestamp_iff {t : Binary64} :
    Action.Runs Stamp.timestamp ds t ↔
      ∃ millis : Int, ds = [⟨.clock, millis⟩] ∧ t = Stamp.secondsOf millis := by
  constructor
  · intro h
    obtain ⟨millis, rest, rfl, hdone⟩ := Action.runs_ask_iff.1 h
    obtain ⟨rfl, rfl⟩ := Action.runs_done_iff.1 hdone
    exact ⟨millis, rfl, rfl⟩
  · rintro ⟨millis, rfl, rfl⟩
    exact .ask .done

/-- An entity without an id and a time of creation gets both, the time first. -/
theorem of_runs_complete (hid : id v = none) (hcreated : createdAt v = none)
    (h : Action.Runs (complete v) ds w) : ∃ (created millis : Int) (uuid : List UInt8),
      ds = [⟨.clock, created⟩, ⟨.clock, millis⟩, ⟨.uuid, uuid⟩] ∧
      w = stamped v (Stamp.idText millis uuid) (Stamp.secondsOf created) := by
  rw [complete, hid, hcreated] at h
  obtain ⟨_, _, t, rfl, htime, h⟩ := Action.runs_bind_iff.1 h
  obtain ⟨created, rfl, rfl⟩ := runs_timestamp_iff.1 htime
  obtain ⟨_, _, i, rfl, hdrawn, h⟩ := Action.runs_bind_iff.1 h
  obtain ⟨millis, uuid, rfl, rfl⟩ := Stamp.runs_newId_iff.1 hdrawn
  obtain ⟨rfl, rfl⟩ := Action.runs_done_iff.1 h
  exact ⟨created, millis, uuid, rfl, rfl⟩

/-- An entity that has an id gets the time of its creation. -/
theorem of_runs_complete_of_id {uid : String} (hid : id v = some uid) (hcreated : createdAt v = none)
    (h : Action.Runs (complete v) ds w) : ∃ created : Int,
      ds = [⟨.clock, created⟩] ∧ w = stamped v uid (Stamp.secondsOf created) := by
  rw [complete, hid, hcreated] at h
  obtain ⟨_, _, t, rfl, htime, h⟩ := Action.runs_bind_iff.1 h
  obtain ⟨created, rfl, rfl⟩ := runs_timestamp_iff.1 htime
  obtain ⟨_, _, i, rfl, hkept, h⟩ := Action.runs_bind_iff.1 h
  obtain ⟨rfl, rfl⟩ := Action.runs_done_iff.1 hkept
  obtain ⟨rfl, rfl⟩ := Action.runs_done_iff.1 h
  exact ⟨created, rfl, rfl⟩

/-- The one statement of a save is the insert of the entity as it was completed right before. -/
theorem each_save (autocommit : Bool) (v : α) :
    (Entity.save autocommit v).run.Each fun before y => ∀ st, y.effect = .run st →
      ∃ ds w, Action.Runs (complete v) ds w ∧ before = ds ++ Database.opening autocommit ∧
        st = insertion w := by
  intro es out h
  obtain ⟨ds, ws, w, written, rfl, hcomplete, hexecuted, -⟩ := runs_save_iff.1 h
  have hordered := Write.ordered_of_executed
    (w := ⟨autocommit, (model α).insertSql, values w⟩) hexecuted
  refine EachAfter.append_iff.2 ⟨.of_unsent (silent_complete v _ _ hcomplete),
    EachAfter.append_iff.2 ⟨?_, .of_unsent (Entity.sentBy_notes _ _)⟩⟩
  intro before y after hws st hy
  have hmay : Write.May _ before y.effect := hordered before y after hws
  rw [hy] at hmay
  exact ⟨ds, w, hcomplete, by rw [hmay.2]; rfl, hmay.1⟩

end Draft

/-! ## What holds of the inserts of an action -/

/-- What holds of every statement of an action that is no select, and of the exchanges before it. -/
def Action.Writes {α : Type} (Q : List Exchange → Statement → Prop) (x : Action α) : Prop :=
  x.Each fun before y => ∀ st, y.effect = .run st → ¬ st.IsSelect → Q before st

/-- What holds of every insert of an action and of the exchanges before it. -/
def Action.Inserts {α : Type} (Q : List Exchange → Statement → Prop) (x : Action α) : Prop :=
  x.Each fun before y => ∀ st, y.effect = .run st → ∀ table, st.Changes .insert table → Q before st

theorem Action.inserts_iff {α : Type} {Q : List Exchange → Statement → Prop} {x : Action α} :
    x.Inserts Q ↔ x.Writes fun before st => ∀ table, st.Changes .insert table → Q before st := by
  constructor
  · intro h es a hruns before y after hes st hy _
    exact h es a hruns before y after hes st hy
  · intro h es a hruns before y after hes st hy table hst
    exact h es a hruns before y after hes st hy (fun hs => hs.not_isChange hst.isChange) table hst

namespace Fallible

variable {ε δ α β : Type} {Q : List Exchange → Statement → Prop}

theorem writes_of_reads {x : Action α} (h : x.Reads) : x.Writes Q := by
  rintro es a hruns before y after rfl st hy hst
  have hsent : st ∈ sentBy (before ++ y :: after) :=
    mem_sentBy_of_run (List.mem_append_right before List.mem_cons_self) hy
  exact absurd (h _ a hruns st hsent) hst

/-- After a part that only reads, what it asked stands before each write. -/
theorem writes_after {x : Fallible ε α} {f : α → Fallible ε β} (hx : x.run.Reads)
    (hf : ∀ fs a, Action.Runs x.run fs (.ok a) →
      (f a).run.Writes fun before st => Q (fs ++ before) st) : (x >>= f).run.Writes Q :=
  each_bind (writes_of_reads hx) hf

theorem writes_then_reads {x : Fallible ε α} {f : α → Fallible ε β} (hx : x.run.Writes Q)
    (hf : ∀ a, (f a).run.Reads) : (x >>= f).run.Writes Q :=
  each_bind hx fun _ a _ => writes_of_reads (hf a)

theorem writes_mapError {x : Fallible ε α} (f : ε → δ) (hx : x.run.Writes Q) :
    (mapError f x).run.Writes Q := hx.map (Except.mapError f)

theorem inserts_of_sends {x : Action α}
    (h : x.Sends fun sts => ∀ st ∈ sts, ∀ table, ¬ st.Changes .insert table) : x.Inserts Q := by
  rintro es a hruns before y after rfl st hy table hst
  have hsent : st ∈ sentBy (before ++ y :: after) :=
    mem_sentBy_of_run (List.mem_append_right before List.mem_cons_self) hy
  exact absurd hst (h _ a hruns st hsent table)

theorem inserts_of_reads {x : Action α} (h : x.Reads) : x.Inserts Q :=
  Action.inserts_iff.2 (writes_of_reads h)

theorem inserts_after {x : Fallible ε α} {f : α → Fallible ε β} (hx : x.run.Reads)
    (hf : ∀ fs a, Action.Runs x.run fs (.ok a) →
      (f a).run.Inserts fun before st => Q (fs ++ before) st) : (x >>= f).run.Inserts Q :=
  Action.inserts_iff.2 (writes_after hx fun fs a h => Action.inserts_iff.1 (hf fs a h))

theorem inserts_then_reads {x : Fallible ε α} {f : α → Fallible ε β} (hx : x.run.Inserts Q)
    (hf : ∀ a, (f a).run.Reads) : (x >>= f).run.Inserts Q :=
  Action.inserts_iff.2 (writes_then_reads (Action.inserts_iff.1 hx) hf)

theorem inserts_mapError {x : Fallible ε α} (f : ε → δ) (hx : x.run.Inserts Q) :
    (mapError f x).run.Inserts Q := hx.map (Except.mapError f)

end Fallible

theorem Database.writes_execute (autocommit : Bool) (sql : String) (args : List Json) :
    (execute autocommit sql args).run.Writes fun _ st => st = statement sql args := by
  intro es out h before y after hes st hy _
  have hmay : Write.May ⟨autocommit, sql, args⟩ before y.effect :=
    Write.ordered_of_executed (w := ⟨autocommit, sql, args⟩) (runs_execute_iff.1 h) before y after hes
  rw [hy] at hmay
  exact hmay.1

theorem Draft.writes_update {α : Type} [Entity α] [Draft α] (autocommit : Bool) (v : α) :
    (Entity.update autocommit v).run.Writes fun _ st => st = revision v := by
  rw [Entity.update_eq (schema_eq.trans build_eq), updateArgs_eq]
  exact writes_then_reads (Database.writes_execute _ _ _) fun n =>
    (Entity.silent_expectOne _ n).reads

theorem Draft.writes_remove {α : Type} [Entity α] [Draft α] (autocommit : Bool) (v : α) :
    (Entity.remove autocommit v).run.Writes fun _ st => st = removal v := by
  rw [Entity.remove_eq (schema_eq.trans build_eq), keyValue_eq]
  exact writes_then_reads (Database.writes_execute _ _ _) fun n =>
    (Entity.silent_expectOne _ n).reads

theorem Draft.inserts_save {α : Type} [Entity α] [Draft α] {Q : List Exchange → Statement → Prop}
    {autocommit : Bool} {v : α}
    (h : ∀ ds w, Action.Runs (complete v) ds w →
      Q (ds ++ Database.opening autocommit) (insertion w)) :
    (Entity.save autocommit v).run.Inserts Q := by
  intro es out hruns before y after hes st hy table _
  obtain ⟨ds, w, hcomplete, rfl, rfl⟩ := each_save autocommit v es out hruns before y after hes st hy
  exact h ds w hcomplete

namespace Blog

variable {s : Settings} {c : Call} {es : List Exchange}

/-! ## Where the values of an insert come from -/

def newPost (user : SessionUser) (name summary content : String) : Post :=
  { userId := user.id, userName := user.name, userImage := user.image, name := name,
    summary := summary, content := content }

def newComment (user : SessionUser) (blogId content : String) : Comment :=
  { blogId := blogId, userId := user.id, userName := user.name, userImage := user.image,
    content := content }

/-- A post was found under an id. -/
def FindsPost (id : String) (post : Post) (es : List Exchange) : Prop :=
  ∃ rs row rows,
    ⟨.run (Database.statement Post.schema.selectByKeySql [.string id]), .ok rs⟩ ∈ es ∧
    rs.decode (some 1) = .ok (row :: rows) ∧ Entity.ofFields row = .ok post

/-- The inserts that a handler makes of what it is called with, by the exchanges before them. Among
`names` are the names that the handler declares. -/
inductive Origin (s : Settings) (names : List String) (c : Call) :
    List Exchange → Statement → Prop where
  | user (earlier : List Exchange) {millis created : Int} {uuid : List UInt8} :
      ["name", "email", "passwd"] ⊆ names → (registrationOf c).check = .ok () →
      Origin s names c
        (earlier ++ (⟨.clock, millis⟩ :: ⟨.uuid, uuid⟩ :: ⟨.clock, created⟩ ::
          Database.opening s.autocommit))
        (Draft.insertion ((registrationOf c).enrolled millis uuid created))
  | post (earlier : List Exchange) {created millis : Int} {uuid : List UInt8} {user : SessionUser}
      {name summary content : String} :
      ["name", "summary", "content"] ⊆ names → c.user = some user →
      name = Text.trim (c.textOr "name" "") → name ≠ "" →
      summary = Text.trim (c.textOr "summary" "") → summary ≠ "" →
      content = Text.trim (c.textOr "content" "") → content ≠ "" →
      Origin s names c
        (earlier ++ (⟨.clock, created⟩ :: ⟨.clock, millis⟩ :: ⟨.uuid, uuid⟩ ::
          Database.opening s.autocommit))
        (Draft.insertion (Draft.stamped (newPost user name summary content)
          (Stamp.idText millis uuid) (Stamp.secondsOf created)))
  | comment (earlier : List Exchange) {created millis : Int} {uuid : List UInt8}
      {user : SessionUser} {id content : String} {post : Post} :
      ["id", "content"] ⊆ names → c.user = some user → c.text "id" = some id →
      FindsPost id post earlier →
      content = Text.trim (c.textOr "content" "") → content ≠ "" →
      Origin s names c
        (earlier ++ (⟨.clock, created⟩ :: ⟨.clock, millis⟩ :: ⟨.uuid, uuid⟩ ::
          Database.opening s.autocommit))
        (Draft.insertion (Draft.stamped (newComment user (post.id.getD id) content)
          (Stamp.idText millis uuid) (Stamp.secondsOf created)))

variable {names : List String}

theorem FindsPost.mono {id : String} {post : Post} {fs : List Exchange} (h : FindsPost id post es)
    (hsub : es ⊆ fs) : FindsPost id post fs := by
  obtain ⟨rs, row, rows, hmem, hrows⟩ := h
  exact ⟨rs, row, rows, hsub hmem, hrows⟩

theorem runs_required_ok {name text : String}
    (h : Action.Runs (required c name).run es (.ok text)) : es = [] ∧ c.text name = some text := by
  obtain ⟨rfl, hrequired⟩ := Fallible.runs_ofExcept_iff.1 h
  refine ⟨rfl, ?_⟩
  unfold Call.required at hrequired
  split at hrequired
  · rename_i t htext
    cases hrequired
    exact htext
  · cases hrequired

theorem runs_nonBlank_ok {name text : String}
    (h : Action.Runs (nonBlank c name).run es (.ok text)) :
    es = [] ∧ text = Text.trim (c.textOr name "") ∧ text ≠ "" := by
  unfold nonBlank at h
  obtain ⟨fs, gs, t, rfl, hrequired, hend⟩ := Fallible.runs_bind_ok_iff.1 h
  obtain ⟨rfl, htext⟩ := runs_required_ok hrequired
  dsimp only at hend
  split at hend
  · cases (Fallible.runs_throw_iff.1 hend).2
  · rename_i hempty
    obtain ⟨rfl, hout⟩ := Fallible.runs_pure_iff.1 hend
    cases hout
    rw [Call.textOr, htext]
    exact ⟨rfl, rfl, by simpa using hempty⟩

theorem runs_requireAdmin_ok {user : SessionUser}
    (h : Action.Runs (requireAdmin c).run es (.ok user)) : es = [] ∧ c.user = some user := by
  unfold requireAdmin at h
  split at h
  · rename_i u hu
    split at h
    · obtain ⟨rfl, hout⟩ := Fallible.runs_pure_iff.1 h
      cases hout
      exact ⟨rfl, hu⟩
    · cases (Fallible.runs_throw_iff.1 h).2
  · cases (Fallible.runs_throw_iff.1 h).2

theorem runs_requireUser_ok {user : SessionUser}
    (h : Action.Runs (requireUser c).run es (.ok user)) : es = [] ∧ c.user = some user := by
  unfold requireUser at h
  split at h
  · rename_i u hu
    obtain ⟨rfl, hout⟩ := Fallible.runs_pure_iff.1 h
    cases hout
    exact ⟨rfl, hu⟩
  · cases (Fallible.runs_throw_iff.1 h).2

theorem runs_findPost_ok {id : String} {post : Post}
    (h : Action.Runs (findPost id).run es (.ok post)) : FindsPost id post es := by
  unfold findPost findNamed at h
  obtain ⟨fs, gs, found, rfl, hstored, hend⟩ := Fallible.runs_bind_ok_iff.1 h
  obtain ⟨o, hfind, ho⟩ := Fallible.runs_mapError_iff.1 hstored
  cases o with
  | error e => cases ho
  | ok o =>
    cases ho
    rw [Entity.find_eq Post.build_eq] at hfind
    obtain ⟨hs, is, rows, rfl, hselect, hrow⟩ := Fallible.runs_bind_ok_iff.1 hfind
    rcases (Database.runs_select_iff (by decide)).1 hselect with
      ⟨e, -, he⟩ | ⟨e, -, he⟩ | ⟨rs, rfl, hrows⟩
    · cases he
    · cases he
    · cases rows with
      | nil =>
        cases (Fallible.runs_pure_iff.1 hrow).2
        cases (Fallible.runs_throw_iff.1 hend).2
      | cons row rows =>
        obtain ⟨_, _, v, rfl, hread, hdone⟩ := Fallible.runs_bind_ok_iff.1 hrow
        cases (Fallible.runs_pure_iff.1 hdone).2
        cases (Fallible.runs_pure_iff.1 hend).2
        have hpost := (Fallible.runs_ofExcept_iff.1 hread).2
        exact ⟨rs, row, rows, by simp, hrows.symm, hpost.symm⟩

/-! ## The handlers -/

/-- A new entity is inserted with the id and the time of creation that are drawn for it. -/
theorem inserts_save_new {α : Type} [Entity α] [Draft α] {Q : List Exchange → Statement → Prop}
    {v : α} (hid : Draft.id v = none) (hcreated : Draft.createdAt v = none)
    (h : ∀ created millis uuid, Q (⟨.clock, created⟩ :: ⟨.clock, millis⟩ :: ⟨.uuid, uuid⟩ ::
      Database.opening s.autocommit)
      (Draft.insertion (Draft.stamped v (Stamp.idText millis uuid) (Stamp.secondsOf created)))) :
    (stored (Entity.save s.autocommit v)).run.Inserts Q := by
  refine inserts_mapError _ (Draft.inserts_save fun ds w hcomplete => ?_)
  obtain ⟨created, millis, uuid, rfl, rfl⟩ := Draft.of_runs_complete hid hcreated hcomplete
  exact h created millis uuid

theorem inserts_register (hnames : ["name", "email", "passwd"] ⊆ names) :
    (register s c).run.Inserts (Origin s names c) := by
  rw [register_eq]
  refine inserts_after (silent_ofExcept _).reads fun _ _ hcheck => ?_
  obtain ⟨rfl, hchecked⟩ := Fallible.runs_ofExcept_iff.1 hcheck
  refine inserts_after (reads_usersOfEmail _) fun earlier others _ => ?_
  split
  · refine inserts_after (silent_lift silent_newId).reads fun _ uid hdrawn => ?_
    obtain ⟨_, hid, huid⟩ := Fallible.runs_lift_iff.1 hdrawn
    cases huid
    obtain ⟨millis, uuid, rfl, rfl⟩ := Stamp.runs_newId_iff.1 hid
    refine inserts_then_reads ?_ fun user => (silent_signedIn _ user).reads
    refine inserts_mapError _ (Draft.inserts_save fun ds w hcomplete => ?_)
    obtain ⟨created, rfl, rfl⟩ := Draft.of_runs_complete_of_id rfl rfl hcomplete
    refine Origin.user _ hnames ?_
    cases hc : (registrationOf c).check with
    | ok u => rfl
    | error e =>
      rw [hc] at hchecked
      cases hchecked
  · exact inserts_of_reads (silent_refuse _).reads

theorem inserts_createPost (hnames : ["name", "summary", "content"] ⊆ names) :
    (createPost s c).run.Inserts (Origin s names c) := by
  refine inserts_after silent_requireAdmin.reads fun _ user hrun => ?_
  obtain ⟨rfl, huser⟩ := runs_requireAdmin_ok hrun
  refine inserts_after (silent_nonBlank c "name").reads fun _ name hrun => ?_
  obtain ⟨rfl, hname, hname'⟩ := runs_nonBlank_ok hrun
  refine inserts_after (silent_nonBlank c "summary").reads fun _ summary hrun => ?_
  obtain ⟨rfl, hsummary, hsummary'⟩ := runs_nonBlank_ok hrun
  refine inserts_after (silent_nonBlank c "content").reads fun _ content hrun => ?_
  obtain ⟨rfl, hcontent, hcontent'⟩ := runs_nonBlank_ok hrun
  refine inserts_then_reads ?_ fun _ => (silent_pure _).reads
  refine inserts_save_new rfl rfl fun created millis uuid => ?_
  exact Origin.post [] hnames huser hname hname' hsummary hsummary' hcontent hcontent'

theorem inserts_createComment (hnames : ["id", "content"] ⊆ names) :
    (createComment s c).run.Inserts (Origin s names c) := by
  refine inserts_after silent_requireUser.reads fun _ user hrun => ?_
  obtain ⟨rfl, huser⟩ := runs_requireUser_ok hrun
  dsimp only
  split
  · exact inserts_of_reads (silent_refuse _).reads
  · rename_i hcontent
    refine inserts_after (silent_required c "id").reads fun _ id hrun => ?_
    obtain ⟨rfl, hid⟩ := runs_required_ok hrun
    refine inserts_after (reads_findNamed _ _ _) fun earlier post hfound => ?_
    refine inserts_then_reads ?_ fun _ => (silent_pure _).reads
    refine inserts_save_new rfl rfl fun created millis uuid => ?_
    exact Origin.comment _ hnames huser hid (runs_findPost_ok hfound) rfl (by simpa using hcontent)

theorem inserts_of_accesses {α : Type} {x : Action α} {Q : List Exchange → Statement → Prop}
    {d : Change} {table : String} (hx : x.Accesses fun st => st.Changes d table)
    (hd : d ≠ .insert) : x.Inserts Q := by
  refine inserts_of_sends (hx.mono fun sts haccess st hst other hc => ?_)
  exact hd ((haccess.of_isChange hst hc.isChange).unique hc).1

variable {Q : List Exchange → Statement → Prop}

theorem inserts_updatePost : (updatePost s c).run.Inserts Q := by
  refine inserts_after silent_requireAdmin.reads fun _ _ _ => ?_
  refine inserts_after (silent_required c "id").reads fun _ _ _ => ?_
  refine inserts_after (reads_findNamed _ _ _) fun _ post _ => ?_
  refine inserts_after (silent_nonBlank c "name").reads fun _ name _ => ?_
  refine inserts_after (silent_nonBlank c "summary").reads fun _ summary _ => ?_
  refine inserts_after (silent_nonBlank c "content").reads fun _ content _ => ?_
  have hupdate : ∀ p : Post, (Entity.update s.autocommit p).run.Accesses fun st =>
      st.Changes .update Post.schema.table := by
    intro p
    refine Entity.accesses_update Post.build_eq ?_ _ p
    intro args
    exact Post.schema.changes_updateSql args
  refine inserts_then_reads (inserts_mapError _ ?_) fun _ => (silent_pure _).reads
  exact inserts_of_accesses (hupdate _) nofun

theorem inserts_deletePost : (deletePost s c).run.Inserts Q := by
  refine inserts_after silent_requireAdmin.reads fun _ _ _ => ?_
  refine inserts_after (silent_required c "id").reads fun _ id _ => ?_
  refine inserts_after (reads_findNamed _ _ _) fun _ post _ => ?_
  have hremove : (Entity.remove s.autocommit post).run.Accesses fun st =>
      st.Changes .delete Post.schema.table :=
    Entity.accesses_remove Post.build_eq Post.schema.changes_deleteSql _ _
  refine inserts_then_reads (inserts_mapError _ ?_) fun _ => (silent_pure _).reads
  exact inserts_of_accesses hremove nofun

theorem inserts_deleteComment : (deleteComment s c).run.Inserts Q := by
  refine inserts_after silent_requireAdmin.reads fun _ _ _ => ?_
  refine inserts_after (silent_required c "id").reads fun _ id _ => ?_
  refine inserts_after (reads_findNamed _ _ _) fun _ comment _ => ?_
  have hremove : (Entity.remove s.autocommit comment).run.Accesses fun st =>
      st.Changes .delete Comment.schema.table :=
    Entity.accesses_remove Comment.build_eq Comment.schema.changes_deleteSql _ _
  refine inserts_then_reads (inserts_mapError _ ?_) fun _ => (silent_pure _).reads
  exact inserts_of_accesses hremove nofun

/-- Every insert of a handler of the blog is one of the three. -/
theorem inserts_routes (s : Settings) : ∀ route ∈ routes s, ∀ c,
    (route.handler c).run.Inserts (Origin s (Signature.spec route.signature).named c) := by
  have hplain : ∀ {names c} (reply : Reply),
      (pure reply : Fallible AppError Reply).run.Inserts (Origin s names c) :=
    fun _ => inserts_of_reads (silent_pure _).reads
  have hregister : ["name", "email", "passwd"] ⊆ ["email", "name", "passwd"] := by decide
  have hpost : ["name", "summary", "content"] ⊆ ["name", "summary", "content"] := by decide
  have hcomment : ["id", "content"] ⊆ ["id", "content"] := by decide
  simp only [routes, List.forall_mem_cons]
  exact ⟨fun _ => inserts_of_reads reads_indexPage, fun _ => hplain _, fun _ => hplain _,
    fun _ => inserts_of_reads silent_signout.reads, fun _ => inserts_register hregister,
    fun _ => inserts_of_reads reads_authenticate,
    fun _ => inserts_of_reads reads_listUsers, fun _ => hplain _, fun _ => hplain _,
    fun _ => inserts_of_reads silent_updatePage.reads, fun _ => hplain _, fun _ => hplain _,
    fun _ => inserts_of_reads reads_listPosts, fun _ => inserts_createPost hpost,
    fun _ => inserts_of_reads reads_getPost, fun _ => inserts_updatePost,
    fun _ => inserts_deletePost, fun _ => inserts_of_reads reads_listComments,
    fun _ => inserts_createComment hcomment, fun _ => inserts_deleteComment,
    List.forall_mem_nil _⟩

end Blog
end Weblog
