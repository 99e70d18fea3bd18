import Weblog.Proofs.Blog.Inserts

/-!
# Weblog.Proofs.Blog.Writing

The handlers that write posts and comments, each as a decision and one write.

* `Writing`: a write that was decided on; `Writing.carryOut`: the write and what is replied to it.
* `runs_carryOut_iff`: its exchanges, and its outcome, which is that of the write.
* `runs_findNamed_iff`: the exchanges of a search for an entity, and what is made of the answer.
* `Decides`: a decision only reads, and what it decides on has a property.
* `createPost_eq` and the like: the handlers decide first, which only reads, and then carry out what
  they decided on.
-/

namespace Weblog

open Fallible

theorem Fallible.mapError_bind {ε δ α β : Type} (f : ε → δ) (x : Fallible ε α)
    (g : α → Fallible ε β) :
    mapError f (x >>= g) = mapError f x >>= fun a => mapError f (g a) := by
  refine ExceptT.ext ?_
  rw [run_mapError, ExceptT.run_bind, ExceptT.run_bind, run_mapError, map_bind, bind_map_left]
  refine congrArg (x.run >>= ·) (funext fun o => ?_)
  cases o with
  | error e => rfl
  | ok a => rfl

/-- What is made of a value without the world: nothing more is asked. -/
theorem Fallible.runs_bind_ofExcept_iff {ε α β : Type} {x : Fallible ε α} {f : α → Except ε β}
    {es : List Exchange} {out : Except ε β} :
    Action.Runs (x >>= fun a => ofExcept (f a)).run es out ↔
      ∃ o, Action.Runs x.run es o ∧ out = o.bind f := by
  rw [Fallible.runs_bind_iff]
  constructor
  · rintro (⟨e, hx, rfl⟩ | ⟨fs, gs, a, rfl, hx, hmade⟩)
    · exact ⟨_, hx, rfl⟩
    · obtain ⟨rfl, rfl⟩ := Fallible.runs_ofExcept_iff.1 hmade
      exact ⟨_, by rwa [List.append_nil], rfl⟩
  · rintro ⟨o, hx, rfl⟩
    cases o with
    | error e => exact .inl ⟨e, hx, rfl⟩
    | ok a =>
      exact .inr ⟨es, [], a, (List.append_nil es).symm, hx, Fallible.runs_ofExcept_iff.2 ⟨rfl, rfl⟩⟩

theorem Fallible.runs_bind_pure_iff {ε α β : Type} {x : Fallible ε α} {f : α → β}
    {es : List Exchange} {out : Except ε β} :
    Action.Runs (x >>= fun a => (pure (f a) : Fallible ε β)).run es out ↔
      ∃ o, Action.Runs x.run es o ∧ out = o.map f := by
  refine (runs_bind_ofExcept_iff (f := fun a => .ok (f a))).trans ?_
  refine exists_congr fun o => and_congr_right fun _ => ?_
  cases o <;> rfl

namespace Entity

variable {es : List Exchange} {autocommit : Bool} {sql : String} {args : List Json}

/-- The runs of a write that is noted: only the write can fail. -/
theorem runs_noted_iff {entry : LogEntry} {out : Except StoreError Unit} :
    Action.Runs (Database.execute autocommit sql args >>= expectOne entry).run es out ↔
      ∃ ws written, es = ws ++ notes entry written ∧
        Database.Executed (Database.statement sql args) autocommit ws written ∧
        out = written.map fun _ => () := by
  rw [Fallible.runs_bind_iff]
  constructor
  · rintro (⟨e, hexecute, rfl⟩ | ⟨ws, ns, n, rfl, hexecute, hnote⟩)
    · exact ⟨es, .error e, by rw [notes, List.append_nil], Database.runs_execute_iff.1 hexecute, rfl⟩
    · obtain ⟨rfl, rfl⟩ := runs_expectOne_iff.1 hnote
      exact ⟨ws, .ok n, rfl, Database.runs_execute_iff.1 hexecute, rfl⟩
  · rintro ⟨ws, written, rfl, hexecuted, rfl⟩
    have hexecute := Database.runs_execute_iff.2 hexecuted
    cases written with
    | error e =>
      rw [notes, List.append_nil]
      exact .inl ⟨e, hexecute, rfl⟩
    | ok n => exact .inr ⟨ws, _, n, rfl, hexecute, runs_expectOne_iff.2 ⟨rfl, rfl⟩⟩

end Entity

namespace Blog

/-- What is made of the outcome of a write is its outcome. -/
theorem runs_stored_iff {β γ : Type} {x : Fallible StoreError β} {f : β → γ} {es : List Exchange}
    {out : Except AppError γ} :
    Action.Runs (stored x >>= fun b => pure (f b)).run es out ↔
      ∃ a, Action.Runs x.run es a ∧ out = (a.map f).mapError .store := by
  rw [Fallible.runs_bind_pure_iff]
  constructor
  · rintro ⟨o, hstored, rfl⟩
    obtain ⟨a, hx, rfl⟩ := Fallible.runs_mapError_iff.1 hstored
    exact ⟨a, hx, by cases a <;> rfl⟩
  · rintro ⟨a, hx, rfl⟩
    exact ⟨_, Fallible.runs_mapError_iff.2 ⟨a, hx, rfl⟩, by cases a <;> rfl⟩

theorem runs_stored_noted_iff {autocommit : Bool} {entry : LogEntry} {sql : String}
    {args : List Json} {reply : Reply} {es : List Exchange} {out : Except AppError Reply} :
    Action.Runs (stored (Database.execute autocommit sql args >>= Entity.expectOne entry) >>=
        fun _ => (pure reply : Fallible AppError Reply)).run es out ↔
      ∃ ws written, es = ws ++ Entity.notes entry written ∧
        Database.Executed (Database.statement sql args) autocommit ws written ∧
        out = (written.map fun _ => reply).mapError .store := by
  rw [runs_stored_iff]
  constructor
  · rintro ⟨a, hx, rfl⟩
    obtain ⟨ws, written, rfl, hexecuted, rfl⟩ := Entity.runs_noted_iff.1 hx
    refine ⟨ws, written, rfl, hexecuted, ?_⟩
    cases written <;> rfl
  · rintro ⟨ws, written, rfl, hexecuted, rfl⟩
    refine ⟨_, Entity.runs_noted_iff.2 ⟨ws, written, rfl, hexecuted, rfl⟩, ?_⟩
    cases written <;> rfl

/-! ## A write and its reply -/

end Blog

/-- What is noted where a change does not affect one row. -/
def Change.missed : Change → LogEntry
  | .insert => .insertMissed
  | .update => .updateMissed
  | .delete => .removeMissed

namespace Blog

/-- A write that a handler has decided on. A row is deleted under the id that it was asked for. -/
inductive Writing (α : Type) where
  | insert (v : α)
  | update (v : α)
  | delete (id : String) (v : α)

namespace Writing

variable {α : Type}

def change : Writing α → Change
  | insert _ => .insert
  | update _ => .update
  | delete _ _ => .delete

/-- What is noted where the write does not affect one row. -/
def missed (w : Writing α) : LogEntry := w.change.missed

variable [Entity α]

/-- What is replied when the entity was written: the entity itself, or the id of the deleted one. -/
def report : Writing α → α → Fields
  | insert _, v => Entity.encode v
  | update _, v => Entity.encode v
  | delete id _, _ => [("id", .string id)]

/-- What becomes of a handler by what becomes of its write. -/
def outcome (w : Writing α) (v : α) (written : Except StoreError Nat) : Except AppError Fields :=
  (written.map fun _ => w.report v).mapError .store

theorem map_fields_outcome (w : Writing α) (v : α) (written : Except StoreError Nat) :
    (w.outcome v written).map Reply.fields =
      (written.map fun _ => Reply.fields (w.report v)).mapError .store := by
  cases written <;> rfl

/-- Carries out the write and replies. -/
def carryOut (s : Settings) : Writing α → Fallible AppError Reply
  | insert v => do
    let v ← stored (Entity.save s.autocommit v)
    return .ofJson (entityJson v)
  | update v => do
    stored (Entity.update s.autocommit v)
    return .ofJson (entityJson v)
  | delete id v => do
    stored (Entity.remove s.autocommit v)
    return deleted id

variable [Draft α]

/-- The entity as it is written: a new one gets an id and a time of creation. -/
def completed : Writing α → Action α
  | insert v => Draft.complete v
  | update v => .done v
  | delete _ v => .done v

def statement : Writing α → α → Statement
  | insert _, v => Draft.insertion v
  | update _, v => Draft.revision v
  | delete _ _, v => Draft.removal v

theorem changes_statement (w : Writing α) (v : α) :
    (w.statement v).Changes w.change (Draft.model α).table := by
  cases w with
  | insert _ => exact (Draft.model α).changes_insertSql _
  | update _ => exact (Draft.model α).changes_updateSql _
  | delete _ _ => exact (Draft.model α).changes_deleteSql _

theorem silent_completed (w : Writing α) : w.completed.Silent := by
  cases w with
  | insert v => exact Draft.silent_complete v
  | update v => exact Action.silent_done v
  | delete _ v => exact Action.silent_done v

/-- The exchanges of a write complete the entity, send its statement and note it. The outcome is that
of the write: nothing before it and nothing after it can fail. -/
theorem runs_carryOut_iff {s : Settings} {w : Writing α} {es : List Exchange}
    {out : Except AppError Reply} :
    Action.Runs (w.carryOut s).run es out ↔
      ∃ ds ws v written, es = ds ++ (ws ++ Entity.notes w.missed written) ∧
        Action.Runs w.completed ds v ∧
        Database.Executed (w.statement v) s.autocommit ws written ∧
        out = (w.outcome v written).map .fields := by
  simp only [map_fields_outcome]
  cases w with
  | insert v =>
    refine runs_stored_iff.trans ?_
    constructor
    · rintro ⟨a, hx, rfl⟩
      obtain ⟨ds, ws, w, written, rfl, hcomplete, hexecuted, rfl⟩ := Draft.runs_save_iff.1 hx
      refine ⟨ds, ws, w, written, rfl, hcomplete, hexecuted, ?_⟩
      cases written <;> rfl
    · rintro ⟨ds, ws, w, written, rfl, hcomplete, hexecuted, rfl⟩
      refine ⟨_, Draft.runs_save_iff.2 ⟨ds, ws, w, written, rfl, hcomplete, hexecuted, rfl⟩, ?_⟩
      cases written <;> rfl
  | update v =>
    have hcarry : carryOut s (.update v) = stored (Database.execute s.autocommit
        (Draft.model α).updateSql (Draft.values v) >>= Entity.expectOne .updateMissed) >>=
          fun _ => pure (.fields (Entity.encode v)) := by
      rw [carryOut, Entity.update_eq (Draft.schema_eq.trans Draft.build_eq), Draft.updateArgs_eq]
      rfl
    rw [hcarry, runs_stored_noted_iff]
    constructor
    · rintro ⟨ws, written, rfl, hexecuted, rfl⟩
      exact ⟨[], ws, v, written, rfl, .done, hexecuted, rfl⟩
    · rintro ⟨ds, ws, v', written, rfl, hdone, hexecuted, rfl⟩
      obtain ⟨rfl, rfl⟩ := Action.runs_done_iff.1 hdone
      exact ⟨ws, written, rfl, hexecuted, rfl⟩
  | delete id v =>
    have hcarry : carryOut s (.delete id v) = stored (Database.execute s.autocommit
        (Draft.model α).deleteSql [((Draft.id v).map Json.string).getD .null] >>=
          Entity.expectOne .removeMissed) >>= fun _ => pure (.fields [("id", .string id)]) := by
      rw [carryOut, Entity.remove_eq (Draft.schema_eq.trans Draft.build_eq), Draft.keyValue_eq]
      rfl
    rw [hcarry, runs_stored_noted_iff]
    constructor
    · rintro ⟨ws, written, rfl, hexecuted, rfl⟩
      exact ⟨[], ws, v, written, rfl, .done, hexecuted, rfl⟩
    · rintro ⟨ds, ws, v', written, rfl, hdone, hexecuted, rfl⟩
      obtain ⟨rfl, rfl⟩ := Action.runs_done_iff.1 hdone
      exact ⟨ws, written, rfl, hexecuted, rfl⟩

end Writing

/-! ## The handlers -/

/-- An action reads, and what it decides on has a property. -/
structure Decides {α : Type} (Q : Writing α → Prop) (x : Fallible AppError (Writing α)) : Prop where
  reads : x.run.Reads
  holds : ∀ es p, Action.Runs x.run es (.ok p) → Q p

namespace Decides

variable {α β : Type} {Q : Writing α → Prop}

theorem pure {p : Writing α} (h : Q p) : Decides Q (Pure.pure p) where
  reads := (silent_pure p).reads
  holds es q hq := by
    cases (Fallible.runs_pure_iff.1 hq).2
    exact h

theorem refuse (e : ApiError) : Decides Q (Blog.refuse e) where
  reads := (silent_refuse e).reads
  holds es q hq := by cases (Fallible.runs_throw_iff.1 hq).2

theorem bind {x : Fallible AppError β} {f : β → Fallible AppError (Writing α)} (hx : x.run.Reads)
    (hf : ∀ es b, Action.Runs x.run es (.ok b) → Decides Q (f b)) : Decides Q (x >>= f) where
  reads es out h := by
    rcases Fallible.runs_bind_iff.1 h with ⟨e, hfirst, -⟩ | ⟨fs, gs, b, rfl, hfirst, hrest⟩
    · exact hx es _ hfirst
    · rw [sentBy_append]
      exact List.forall_mem_append.2 ⟨hx fs _ hfirst, (hf fs b hfirst).reads gs _ hrest⟩
  holds es p h := by
    obtain ⟨fs, gs, b, rfl, hfirst, hrest⟩ := Fallible.runs_bind_ok_iff.1 h
    exact (hf fs b hfirst).holds gs p hrest

end Decides

/-- A write is of a kind; a row is deleted under the id that a handler is called with. -/
def Writing.Fits {α : Type} (change : Change) (c : Call) (p : Writing α) : Prop :=
  p.change = change ∧ ∀ id v, p = .delete id v → c.text "id" = some id

section Handlers

variable {s : Settings} {c : Call} {es : List Exchange}

/-- What is made of the rows that were found for an id. -/
def pick (α : Type) [Entity α] (resource label id : String) : List Fields → Except AppError α
  | [] => .error (.api (.notFound resource (label ++ " " ++ id ++ " not found")))
  | row :: _ => (Entity.ofFields row).mapError .store

theorem findNamed_eq {α : Type} [Entity α] {m : Schema} (hm : Entity.schema α = .ok m)
    (resource label id : String) :
    findNamed α resource label id =
      stored (Database.select m.selectByKeySql [.string id] (some 1)) >>= fun rows =>
        Fallible.ofExcept (pick α resource label id rows) := by
  rw [findNamed, Entity.find_eq hm, stored, Fallible.mapError_bind, bind_assoc]
  refine congrArg (stored (Database.select m.selectByKeySql [.string id] (some 1)) >>= ·) ?_
  funext rows
  cases rows with
  | nil => rfl
  | cons row rows =>
    cases hrow : Entity.ofFields (α := α) row with
    | error e =>
      dsimp only
      rw [pick, hrow]
      rfl
    | ok v =>
      dsimp only
      rw [pick, hrow]
      rfl

/-- A search for an entity asks for a connection and sends one statement; its outcome is what is
made of the rows. -/
theorem runs_findNamed_iff {α : Type} [Entity α] {m : Schema} (hm : Entity.schema α = .ok m)
    {resource label id : String} {out : Except AppError α} :
    Action.Runs (findNamed α resource label id).run es out ↔
      (∃ e : DbError, es = [⟨.connect, .error e⟩] ∧ out = .error (.store (.database e))) ∨
      (∃ e : DbError, es = [⟨.connect, .ok ()⟩,
          ⟨.run (Database.statement m.selectByKeySql [.string id]), .error e⟩] ∧
        out = .error (.store (.database e))) ∨
      ∃ rs : ResultSet, es = [⟨.connect, .ok ()⟩,
          ⟨.run (Database.statement m.selectByKeySql [.string id]), .ok rs⟩] ∧
        out = ((rs.decode (some 1)).mapError .store).bind (pick α resource label id) := by
  rw [findNamed_eq hm, Fallible.runs_bind_ofExcept_iff]
  constructor
  · rintro ⟨o, hstored, rfl⟩
    obtain ⟨rows, hselect, rfl⟩ := Fallible.runs_mapError_iff.1 hstored
    rcases (Database.runs_select_iff (by decide)).1 hselect with
      ⟨e, rfl, rfl⟩ | ⟨e, rfl, rfl⟩ | ⟨rs, rfl, rfl⟩
    · exact .inl ⟨e, rfl, rfl⟩
    · exact .inr (.inl ⟨e, rfl, rfl⟩)
    · exact .inr (.inr ⟨rs, rfl, rfl⟩)
  · have hselect := fun {fs} (rows : Except StoreError (List Fields)) =>
      (@Database.runs_select_iff fs m.selectByKeySql [.string id] (some 1) (by decide) rows).2
    rintro (⟨e, rfl, rfl⟩ | ⟨e, rfl, rfl⟩ | ⟨rs, rfl, rfl⟩)
    · exact ⟨_, Fallible.runs_mapError_iff.2 ⟨_, hselect _ (.inl ⟨e, rfl, rfl⟩), rfl⟩, rfl⟩
    · exact ⟨_, Fallible.runs_mapError_iff.2 ⟨_, hselect _ (.inr (.inl ⟨e, rfl, rfl⟩)), rfl⟩, rfl⟩
    · exact ⟨_, Fallible.runs_mapError_iff.2 ⟨_, hselect _ (.inr (.inr ⟨rs, rfl, rfl⟩)), rfl⟩, rfl⟩

/-- What an administrator decides to create. -/
def decideCreatePost (c : Call) : Fallible AppError (Writing Post) := do
  let user ← requireAdmin c
  let name ← nonBlank c "name"
  let summary ← nonBlank c "summary"
  let content ← nonBlank c "content"
  return .insert (newPost user name summary content)

def decideUpdatePost (c : Call) : Fallible AppError (Writing Post) := do
  let _ ← requireAdmin c
  let post ← findPost (← required c "id")
  let name ← nonBlank c "name"
  let summary ← nonBlank c "summary"
  let content ← nonBlank c "content"
  return .update { post with name := name, summary := summary, content := content }

def decideDeletePost (c : Call) : Fallible AppError (Writing Post) := do
  let _ ← requireAdmin c
  let id ← required c "id"
  let post ← findPost id
  return .delete id post

def decideCreateComment (c : Call) : Fallible AppError (Writing Comment) := do
  let user ← requireUser c
  let content := Text.trim (c.textOr "content" "")
  if content.isEmpty then refuse (.value "content" "content cannot be empty.")
  else
    let id ← required c "id"
    let post ← findPost id
    return .insert (newComment user (post.id.getD id) content)

def decideDeleteComment (c : Call) : Fallible AppError (Writing Comment) := do
  let _ ← requireAdmin c
  let id ← required c "id"
  let comment ← findNamed Comment "Comment" "comment" id
  return .delete id comment

theorem createPost_eq : createPost s c = decideCreatePost c >>= Writing.carryOut s := by
  simp only [createPost, decideCreatePost, bind_assoc, pure_bind, Writing.carryOut, newPost]

theorem updatePost_eq : updatePost s c = decideUpdatePost c >>= Writing.carryOut s := by
  simp only [updatePost, decideUpdatePost, bind_assoc, pure_bind, Writing.carryOut]

theorem deletePost_eq : deletePost s c = decideDeletePost c >>= Writing.carryOut s := by
  simp only [deletePost, decideDeletePost, bind_assoc, pure_bind, Writing.carryOut]

theorem createComment_eq : createComment s c = decideCreateComment c >>= Writing.carryOut s := by
  rw [createComment, decideCreateComment, bind_assoc]
  refine congrArg (requireUser c >>= ·) (funext fun user => ?_)
  dsimp only
  split
  · rfl
  · simp only [bind_assoc, pure_bind, Writing.carryOut, newComment]

theorem deleteComment_eq : deleteComment s c = decideDeleteComment c >>= Writing.carryOut s := by
  simp only [deleteComment, decideDeleteComment, bind_assoc, pure_bind, Writing.carryOut]

theorem decides_createPost (c : Call) : Decides (Writing.Fits .insert c) (decideCreatePost c) := by
  refine .bind silent_requireAdmin.reads fun _ user _ => ?_
  refine .bind (silent_nonBlank c "name").reads fun _ name _ => ?_
  refine .bind (silent_nonBlank c "summary").reads fun _ summary _ => ?_
  refine .bind (silent_nonBlank c "content").reads fun _ content _ => ?_
  exact .pure ⟨rfl, nofun⟩

theorem decides_updatePost (c : Call) : Decides (Writing.Fits .update c) (decideUpdatePost c) := by
  refine .bind silent_requireAdmin.reads fun _ _ _ => ?_
  refine .bind (silent_required c "id").reads fun _ id _ => ?_
  refine .bind (reads_findNamed _ _ _) fun _ post _ => ?_
  refine .bind (silent_nonBlank c "name").reads fun _ name _ => ?_
  refine .bind (silent_nonBlank c "summary").reads fun _ summary _ => ?_
  refine .bind (silent_nonBlank c "content").reads fun _ content _ => ?_
  exact .pure ⟨rfl, nofun⟩

theorem Writing.fits_delete {α : Type} {id : String} {v : α}
    (h : Action.Runs (required c "id").run es (.ok id)) :
    Writing.Fits .delete c (.delete id v) := by
  refine ⟨rfl, fun id' v' hdelete => ?_⟩
  cases hdelete
  exact (runs_required_ok h).2

theorem decides_deletePost (c : Call) : Decides (Writing.Fits .delete c) (decideDeletePost c) := by
  refine .bind silent_requireAdmin.reads fun _ _ _ => ?_
  refine .bind (silent_required c "id").reads fun _ id hid => ?_
  refine .bind (reads_findNamed _ _ _) fun _ post _ => ?_
  exact .pure (Writing.fits_delete hid)

theorem decides_createComment (c : Call) :
    Decides (Writing.Fits .insert c) (decideCreateComment c) := by
  refine .bind silent_requireUser.reads fun _ user _ => ?_
  dsimp only
  split
  · exact .refuse _
  · refine .bind (silent_required c "id").reads fun _ id _ => ?_
    refine .bind (reads_findNamed _ _ _) fun _ post _ => ?_
    exact .pure ⟨rfl, nofun⟩

theorem decides_deleteComment (c : Call) :
    Decides (Writing.Fits .delete c) (decideDeleteComment c) := by
  refine .bind silent_requireAdmin.reads fun _ _ _ => ?_
  refine .bind (silent_required c "id").reads fun _ id hid => ?_
  refine .bind (reads_findNamed _ _ _) fun _ comment _ => ?_
  exact .pure (Writing.fits_delete hid)

end Handlers
end Blog
end Weblog
