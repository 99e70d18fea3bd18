import Weblog.Proofs.Sql.Native
import Weblog.Proofs.Store.Database

/-!
# Weblog.Proofs.Store.Entity

Reading and saving entities.

* `head?_insertSql`, `head?_selectSql`: an insert and a select begin differently.
* `ofFields_eq_ok_iff`: the entities that are read of fields are the ones that decode.
* `ofResult`: the entities of a result.
* `find_eq`, `findAll_eq`, `findNumber_eq`, `save_eq`, `update_eq`, `remove_eq`: the reads and writes
  of a model whose declaration was checked.
* `runs_findAll_iff`: the exchanges of a query over all entities and its outcome.
* `runs_save_iff`: the runs of a save that completes an entity and writes it.
* `runs_save_ok`: a save that succeeds resolved the arguments of its insert, sent it, and yields the
  entity that the record then holds.
-/

namespace Weblog

theorem Schema.head?_insertSql (s : Schema) :
    (Sql.native s.insertSql).toList.head? = some 'I' := by
  refine Sql.head?_native ?_ (by decide)
  unfold insertSql
  simp only [String.toList_append, List.append_assoc]
  rfl

theorem Schema.head?_selectSql (s : Schema) (clauses : String) :
    (Sql.native (s.selectSql ++ clauses)).toList.head? = some 'S' := by
  refine Sql.head?_native ?_ (by decide)
  unfold selectSql
  simp only [String.toList_append, List.append_assoc]
  rfl

namespace Entity

variable {α : Type} [Entity α] {s : Schema} {es : List Exchange}

def ofResult (rs : ResultSet) : Except StoreError (List α) := (rs.decode none).bind ofRows

theorem ofFields_eq_ok_iff {fs : Fields} {v : α} :
    ofFields fs = .ok v ↔ Entity.decode (.object fs) = some v := by
  rw [ofFields]
  cases Entity.decode (α := α) (.object fs) <;> simp

/-! What is done with a model whose declaration was checked. -/

theorem find_eq (hs : Entity.schema α = .ok s) (key : Json) :
    find α key = Database.select s.selectByKeySql [key] (some 1) >>= fun rows =>
      match rows with
      | [] => pure none
      | row :: _ => Fallible.ofExcept (ofFields row) >>= fun v => pure (some v) := by
  rw [find, schemaOf, hs]
  rfl

theorem findAll_eq (hs : Entity.schema α = .ok s) (q : FindAll) :
    findAll α q = Database.select (q.query s).sql (q.query s).params none >>= fun rows =>
      Fallible.ofExcept (ofRows rows) := by
  rw [findAll, schemaOf, hs]
  rfl

theorem findNumber_eq (hs : Entity.schema α = .ok s) (expr : String) (filter : Option String)
    (args : List Json) :
    findNumber α expr filter args =
      Database.select (s.numberSql expr filter) args (some 1) >>= fun rows =>
        match rows with
        | [] => pure none
        | row :: _ => pure (Fields.get? numberLabel row) := by
  rw [findNumber, schemaOf, hs]
  rfl

theorem save_eq (hs : Entity.schema α = .ok s) (autocommit : Bool) (v : α) :
    save autocommit v = Fallible.lift (toRecord s v).insertArgs >>= fun p =>
      Fallible.ofExcept p.1 >>= fun args =>
        Database.execute autocommit s.insertSql args >>= fun affected =>
          expectOne .insertMissed affected >>= fun _ =>
            Fallible.ofExcept (ofFields p.2.values) := by
  rw [save, schemaOf, hs]
  rfl

theorem update_eq (hs : Entity.schema α = .ok s) (autocommit : Bool) (v : α) :
    update autocommit v =
      Database.execute autocommit s.updateSql (toRecord s v).updateArgs >>=
        expectOne .updateMissed := by
  rw [update, schemaOf, hs]
  rfl

theorem remove_eq (hs : Entity.schema α = .ok s) (autocommit : Bool) (v : α) :
    remove autocommit v =
      Database.execute autocommit s.deleteSql [(toRecord s v).keyValue] >>=
        expectOne .removeMissed := by
  rw [remove, schemaOf, hs]
  rfl

theorem runs_findAll_iff (hs : Entity.schema α = .ok s) {q : FindAll}
    {out : Except StoreError (List α)} :
    Action.Runs (findAll α q).run es out ↔
      (∃ e : DbError, es = [⟨.connect, .error e⟩] ∧ out = .error (.database e)) ∨
      (∃ e : DbError, es = [⟨.connect, .ok ()⟩,
          ⟨.run (Database.statement (q.query s).sql (q.query s).params), .error e⟩] ∧
        out = .error (.database e)) ∨
      ∃ rs : ResultSet, es = [⟨.connect, .ok ()⟩,
          ⟨.run (Database.statement (q.query s).sql (q.query s).params), .ok rs⟩] ∧
        out = ofResult rs := by
  have hall : (none : Option Nat) ≠ some 0 := nofun
  rw [findAll_eq hs]
  constructor
  · intro h
    rcases Fallible.runs_bind_iff.1 h with ⟨e, hselect, rfl⟩ | ⟨fs, gs, rows, rfl, hselect, hrest⟩
    · rcases (Database.runs_select_iff hall).1 hselect with
        ⟨d, rfl, he⟩ | ⟨d, rfl, he⟩ | ⟨rs, rfl, he⟩
      · cases he
        exact .inl ⟨d, rfl, rfl⟩
      · cases he
        exact .inr (.inl ⟨d, rfl, rfl⟩)
      · refine .inr (.inr ⟨rs, rfl, ?_⟩)
        rw [ofResult, ← he]
        rfl
    · obtain ⟨rfl, rfl⟩ := Fallible.runs_ofExcept_iff.1 hrest
      rcases (Database.runs_select_iff hall).1 hselect with
        ⟨d, rfl, he⟩ | ⟨d, rfl, he⟩ | ⟨rs, rfl, he⟩
      · cases he
      · cases he
      · refine .inr (.inr ⟨rs, rfl, ?_⟩)
        rw [ofResult, ← he]
        rfl
  · rintro (⟨d, rfl, rfl⟩ | ⟨d, rfl, rfl⟩ | ⟨rs, rfl, rfl⟩)
    · exact Fallible.runs_bind_iff.2
        (.inl ⟨_, (Database.runs_select_iff hall).2 (.inl ⟨d, rfl, rfl⟩), rfl⟩)
    · exact Fallible.runs_bind_iff.2
        (.inl ⟨_, (Database.runs_select_iff hall).2 (.inr (.inl ⟨d, rfl, rfl⟩)), rfl⟩)
    · cases hrows : rs.decode none with
      | error e =>
        refine Fallible.runs_bind_iff.2 (.inl ⟨e, ?_, ?_⟩)
        · exact (Database.runs_select_iff hall).2 (.inr (.inr ⟨rs, rfl, hrows.symm⟩))
        · rw [ofResult, hrows]
          rfl
      | ok rows =>
        refine Fallible.runs_bind_iff.2 (.inr ⟨_, [], rows, (List.append_nil _).symm, ?_, ?_⟩)
        · exact (Database.runs_select_iff hall).2 (.inr (.inr ⟨rs, rfl, hrows.symm⟩))
        · refine Fallible.runs_ofExcept_iff.2 ⟨rfl, ?_⟩
          rw [ofResult, hrows]
          rfl

/-- What is noted of a write: that it did not affect one row. -/
def notes (entry : LogEntry) : Except StoreError Nat → List Exchange
  | .ok n => if n = 1 then [] else [⟨.log entry, ()⟩]
  | .error _ => []

theorem sentBy_notes (entry : LogEntry) (written : Except StoreError Nat) :
    sentBy (notes entry written) = [] := by
  cases written with
  | error e => rfl
  | ok n =>
    unfold notes
    dsimp only
    split <;> rfl

theorem runs_expectOne_iff {entry : LogEntry} {n : Nat} {out : Except StoreError Unit} :
    Action.Runs (expectOne entry n).run es out ↔ es = notes entry (.ok n) ∧ out = .ok () := by
  unfold expectOne notes
  dsimp only
  split
  · exact Fallible.runs_pure_iff
  · rw [Fallible.runs_lift_iff]
    constructor
    · rintro ⟨u, hlog, rfl⟩
      exact ⟨Action.runs_perform_iff.1 hlog, rfl⟩
    · rintro ⟨rfl, rfl⟩
      exact ⟨(), .ask .done, rfl⟩

/-- A save that succeeds resolves the arguments of its insert, sends it, and yields what the record
then holds. -/
theorem runs_save_ok (hs : Entity.schema α = .ok s) {autocommit : Bool} {v v' : α}
    (h : Action.Runs (save autocommit v).run es (.ok v')) :
    ∃ fs gs args record, es = fs ++ gs ∧
      Action.Runs (toRecord s v).insertArgs fs (.ok args, record) ∧
      (sentBy gs = if autocommit then [Database.statement s.insertSql args]
        else [⟨TransactionControl.start.sql, []⟩, Database.statement s.insertSql args,
          ⟨TransactionControl.commit.sql, []⟩]) ∧
      ofFields record.values = .ok v' := by
  rw [save_eq hs] at h
  obtain ⟨fs, gs, ⟨out, record⟩, rfl, hargs, hbound⟩ := Fallible.runs_bind_ok_iff.1 h
  obtain ⟨p, hargs, hp⟩ := Fallible.runs_lift_iff.1 hargs
  cases hp
  obtain ⟨_, hs, args, rfl, hout, hwrite⟩ := Fallible.runs_bind_ok_iff.1 hbound
  obtain ⟨rfl, rfl⟩ := Fallible.runs_ofExcept_iff.1 hout
  obtain ⟨is, js, n, rfl, hexecute, hnote⟩ := Fallible.runs_bind_ok_iff.1 hwrite
  obtain ⟨ks, ls, u, rfl, hexpect, hdone⟩ := Fallible.runs_bind_ok_iff.1 hnote
  obtain ⟨rfl, hv⟩ := Fallible.runs_ofExcept_iff.1 hdone
  obtain ⟨rfl, -⟩ := runs_expectOne_iff.1 hexpect
  refine ⟨fs, _, args, record, rfl, hargs, ?_, hv.symm⟩
  rw [List.nil_append, sentBy_append, sentBy_append, sentBy_notes, sentBy_nil, List.append_nil,
    List.append_nil]
  exact Database.sentBy_of_runs_execute hexecute

section Complete

variable {autocommit : Bool} {v : α} {complete : Action α} {values : α → List Json}

/-- Where the arguments of the insert are those of an entity that the record then holds, a save
completes the entity and writes it, and yields it as it was written. -/
theorem save_eq_complete (hs : Entity.schema α = .ok s)
    (hargs : (toRecord s v).insertArgs = (fun w => (.ok (values w), toRecord s w)) <$> complete)
    (hread : ∀ w : α, ofFields (Entity.encode w) = .ok w) :
    save autocommit v = Fallible.lift complete >>= fun w =>
      Database.execute autocommit s.insertSql (values w) >>= fun affected =>
        expectOne .insertMissed affected >>= fun _ => pure w := by
  have hlift : ∀ f : α → Except StoreError (List Json) × Record,
      (Fallible.lift (f <$> complete) : Fallible StoreError _) =
        Fallible.lift complete >>= fun w => pure (f w) := by
    intro f
    refine ExceptT.ext ?_
    rw [Fallible.run_lift, ExceptT.run_bind, Fallible.run_lift, map_eq_pure_bind, map_eq_pure_bind,
      map_eq_pure_bind, bind_assoc, bind_assoc]
    rfl
  rw [save_eq hs, hargs, hlift, bind_assoc]
  refine congrArg (Fallible.lift complete >>= ·) (funext fun w => ?_)
  have hheld : ofFields (toRecord s w).values = .ok w := hread w
  rw [pure_bind, hheld]
  rfl

/-- The runs of such a save complete the entity, write it and note the write, and only the write can
fail. -/
theorem runs_save_iff (hs : Entity.schema α = .ok s)
    (hargs : (toRecord s v).insertArgs = (fun w => (.ok (values w), toRecord s w)) <$> complete)
    (hread : ∀ w : α, ofFields (Entity.encode w) = .ok w) {out : Except StoreError α} :
    Action.Runs (save autocommit v).run es out ↔
      ∃ ds ws w written, es = ds ++ (ws ++ notes .insertMissed written) ∧
        Action.Runs complete ds w ∧
        Database.Executed (Database.statement s.insertSql (values w)) autocommit ws written ∧
        out = written.map fun _ => w := by
  rw [save_eq_complete hs hargs hread]
  constructor
  · intro h
    rcases Fallible.runs_bind_iff.1 h with ⟨e, hlift, -⟩ | ⟨ds, es, w, rfl, hlift, h⟩
    · obtain ⟨_, -, he⟩ := Fallible.runs_lift_iff.1 hlift
      cases he
    · obtain ⟨_, hcomplete, hw⟩ := Fallible.runs_lift_iff.1 hlift
      cases hw
      rcases Fallible.runs_bind_iff.1 h with ⟨e, hexecute, rfl⟩ | ⟨ws, ns, n, rfl, hexecute, h⟩
      · exact ⟨ds, es, w, .error e, by rw [notes, List.append_nil], hcomplete,
          Database.runs_execute_iff.1 hexecute, rfl⟩
      · rcases Fallible.runs_bind_iff.1 h with ⟨e, hnote, -⟩ | ⟨ns, rest, u, rfl, hnote, h⟩
        · cases (runs_expectOne_iff.1 hnote).2
        · obtain ⟨rfl, rfl⟩ := Fallible.runs_pure_iff.1 h
          obtain ⟨rfl, -⟩ := runs_expectOne_iff.1 hnote
          exact ⟨ds, ws, w, .ok n, by rw [List.append_nil], hcomplete,
            Database.runs_execute_iff.1 hexecute, rfl⟩
  · rintro ⟨ds, ws, w, written, rfl, hcomplete, hexecuted, rfl⟩
    have hexecute := Database.runs_execute_iff.2 hexecuted
    refine Fallible.runs_bind_iff.2
      (.inr ⟨ds, _, w, rfl, Fallible.runs_lift_iff.2 ⟨w, hcomplete, rfl⟩, ?_⟩)
    cases written with
    | error e =>
      rw [notes, List.append_nil]
      exact Fallible.runs_bind_iff.2 (.inl ⟨e, hexecute, rfl⟩)
    | ok n =>
      refine Fallible.runs_bind_iff.2 (.inr ⟨ws, _, n, rfl, hexecute, ?_⟩)
      refine Fallible.runs_bind_iff.2 (.inr ⟨_, [], (), (List.append_nil _).symm,
        runs_expectOne_iff.2 ⟨rfl, rfl⟩, ?_⟩)
      exact Fallible.runs_pure_iff.2 ⟨rfl, rfl⟩

end Complete

/-- A save whose insert affects one row succeeds. -/
theorem runs_save (hs : Entity.schema α = .ok s) {autocommit : Bool} {v v' : α} {args : List Json}
    {record : Record} {fs gs : List Exchange}
    (hargs : Action.Runs (toRecord s v).insertArgs fs (.ok args, record))
    (hwrite : Action.Runs (Database.execute autocommit s.insertSql args).run gs (.ok 1))
    (hv : ofFields record.values = .ok v') :
    Action.Runs (save autocommit v).run (fs ++ gs) (.ok v') := by
  rw [save_eq hs]
  refine Fallible.runs_bind_ok_iff.2 ⟨fs, gs, _, rfl, Fallible.runs_lift_iff.2 ⟨_, hargs, rfl⟩, ?_⟩
  refine Fallible.runs_bind_ok_iff.2 ⟨[], gs, args, rfl, .done, ?_⟩
  refine Fallible.runs_bind_ok_iff.2 ⟨gs, [], 1, (List.append_nil gs).symm, hwrite, ?_⟩
  exact Fallible.runs_bind_ok_iff.2 ⟨[], [], (), rfl, .done, hv ▸ .done⟩

end Entity
end Weblog
