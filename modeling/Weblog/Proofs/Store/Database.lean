import Weblog.Proofs.Fallible
import Weblog.Store.Entity

/-!
# Weblog.Proofs.Store.Database

What the database is asked, and what becomes of its answers.

* `runs_select_iff`: the exchanges of a read and its outcome.
* `Transacted`, `Executed`: the ways in which a write may go, with its exchanges and its outcome.
* `runs_execute_iff`: they are the runs of a write.
* `sentBy_of_runs_execute`: the statements of a write that succeeds.
-/

namespace Weblog

theorem Fallible.runs_database_iff {α : Type} {x : Action (Except DbError α)} {es : List Exchange}
    {out : Except StoreError α} :
    Action.Runs (database x).run es out ↔
      ∃ a, Action.Runs x es a ∧ out = Except.mapError .database a :=
  runs_mapError_iff

theorem decodeRows_take {columns : List Column} {rows : List (List Cell)} {found : List Fields}
    (h : decodeRows columns rows = .ok found) (n : Nat) :
    decodeRows columns (rows.take n) = .ok (found.take n) := by
  induction rows generalizing found n with
  | nil =>
    cases h
    rw [List.take_nil, List.take_nil]
    rfl
  | cons row rows ih =>
    rw [decodeRows] at h
    split at h
    · cases h
    · rename_i fields hfields
      cases hrest : decodeRows columns rows with
      | error e =>
        rw [hrest] at h
        cases h
      | ok rest =>
        rw [hrest] at h
        cases h
        cases n with
        | zero => rfl
        | succ n =>
          rw [List.take_succ_cons, List.take_succ_cons, decodeRows, hfields]
          dsimp only
          rw [ih hrest n]
          rfl

/-- Where all rows can be decoded, a limit takes the first of them. -/
theorem ResultSet.decode_some {rs : ResultSet} {found : List Fields} (h : rs.decode none = .ok found)
    (n : Nat) : rs.decode (some n) = .ok (found.take n) := decodeRows_take h n

namespace Database

/-- The ways in which a write in its own transaction may go. -/
inductive Transacted (s : Statement) : List Exchange → Except StoreError Nat → Prop where
  | refused (e : DbError) :
      Transacted s [⟨.control .start, .error e⟩] (.error (.database e))
  | committed (rs : ResultSet) :
      Transacted s [⟨.control .start, .ok ()⟩, ⟨.run s, .ok rs⟩, ⟨.control .commit, .ok ()⟩]
        (.ok rs.affected)
  | uncommitted (rs : ResultSet) (e : DbError) :
      Transacted s [⟨.control .start, .ok ()⟩, ⟨.run s, .ok rs⟩, ⟨.control .commit, .error e⟩]
        (.error (.database e))
  | rolledBack (e : DbError) :
      Transacted s [⟨.control .start, .ok ()⟩, ⟨.run s, .error e⟩, ⟨.control .rollback, .ok ()⟩]
        (.error (.database e))
  | leftOpen (e d : DbError) :
      Transacted s [⟨.control .start, .ok ()⟩, ⟨.run s, .error e⟩, ⟨.control .rollback, .error d⟩,
        ⟨.log .rollbackFailed, ()⟩] (.error (.database e))

/-- The ways in which a write may go. -/
inductive Executed (s : Statement) : Bool → List Exchange → Except StoreError Nat → Prop where
  | unconnected (autocommit : Bool) (e : DbError) :
      Executed s autocommit [⟨.connect, .error e⟩] (.error (.database e))
  | alone (rs : ResultSet) :
      Executed s true [⟨.connect, .ok ()⟩, ⟨.run s, .ok rs⟩] (.ok rs.affected)
  | failed (e : DbError) :
      Executed s true [⟨.connect, .ok ()⟩, ⟨.run s, .error e⟩] (.error (.database e))
  | transacted {es : List Exchange} {out : Except StoreError Nat} :
      Transacted s es out → Executed s false (⟨.connect, .ok ()⟩ :: es) out

variable {es : List Exchange}

theorem runs_connect_iff {out : Except StoreError Unit} :
    Action.Runs connect.run es out ↔
      ∃ a : Except DbError Unit, es = [⟨.connect, a⟩] ∧ out = a.mapError .database := by
  refine Fallible.runs_database_iff.trans (exists_congr fun a => and_congr_left fun _ => ?_)
  exact Action.runs_perform_iff

theorem runs_run_iff {s : Statement} {out : Except StoreError ResultSet} :
    Action.Runs (run s).run es out ↔
      ∃ a : Except DbError ResultSet, es = [⟨.run s, a⟩] ∧ out = a.mapError .database := by
  refine Fallible.runs_database_iff.trans (exists_congr fun a => and_congr_left fun _ => ?_)
  exact Action.runs_perform_iff

/-- A read asks for a connection and sends one statement; its outcome is what the rows decode to. -/
theorem runs_select_iff {sql : String} {args : List Json} {limit : Option Nat}
    (hlimit : limit ≠ some 0) {out : Except StoreError (List Fields)} :
    Action.Runs (select sql args limit).run es out ↔
      (∃ e : DbError, es = [⟨.connect, .error e⟩] ∧ out = .error (.database e)) ∨
      (∃ e : DbError, es = [⟨.connect, .ok ()⟩, ⟨.run (statement sql args), .error e⟩] ∧
        out = .error (.database e)) ∨
      ∃ rs : ResultSet, es = [⟨.connect, .ok ()⟩, ⟨.run (statement sql args), .ok rs⟩] ∧
        out = rs.decode limit := by
  have hselect : select sql args limit = connect >>= fun _ =>
      run (statement sql args) >>= fun rs => Fallible.ofExcept (rs.decode limit) := by
    rw [select]
    exact congrArg (connect >>= ·) (funext fun _ => if_neg hlimit)
  rw [hselect]
  constructor
  · intro h
    rcases Fallible.runs_bind_iff.1 h with ⟨e, hconnect, rfl⟩ | ⟨fs, gs, u, rfl, hconnect, hrest⟩
    · obtain ⟨a, rfl, ha⟩ := runs_connect_iff.1 hconnect
      cases a with
      | ok _ => cases ha
      | error e =>
        cases ha
        exact .inl ⟨e, rfl, rfl⟩
    · obtain ⟨a, rfl, ha⟩ := runs_connect_iff.1 hconnect
      cases a with
      | error e => cases ha
      | ok _ =>
        rcases Fallible.runs_bind_iff.1 hrest with ⟨e, hrun, rfl⟩ | ⟨hs, is, rs, rfl, hrun, hdecode⟩
        · obtain ⟨b, rfl, hb⟩ := runs_run_iff.1 hrun
          cases b with
          | ok _ => cases hb
          | error e =>
            cases hb
            exact .inr (.inl ⟨e, rfl, rfl⟩)
        · obtain ⟨b, rfl, hb⟩ := runs_run_iff.1 hrun
          obtain ⟨rfl, rfl⟩ := Fallible.runs_ofExcept_iff.1 hdecode
          cases b with
          | error e => cases hb
          | ok rs' =>
            cases hb
            exact .inr (.inr ⟨rs, rfl, rfl⟩)
  · have hconnected : Action.Runs connect.run [⟨.connect, .ok ()⟩] (.ok ()) :=
      runs_connect_iff.2 ⟨.ok (), rfl, rfl⟩
    rintro (⟨e, rfl, rfl⟩ | ⟨e, rfl, rfl⟩ | ⟨rs, rfl, rfl⟩)
    · exact Fallible.runs_bind_iff.2 (.inl ⟨_, runs_connect_iff.2 ⟨.error e, rfl, rfl⟩, rfl⟩)
    · refine Fallible.runs_bind_iff.2 (.inr ⟨[_], [_], (), rfl, hconnected, ?_⟩)
      exact Fallible.runs_bind_iff.2 (.inl ⟨_, runs_run_iff.2 ⟨.error e, rfl, rfl⟩, rfl⟩)
    · refine Fallible.runs_bind_iff.2 (.inr ⟨[_], [_], (), rfl, hconnected, ?_⟩)
      refine Fallible.runs_bind_iff.2
        (.inr ⟨[_], [], rs, rfl, runs_run_iff.2 ⟨.ok rs, rfl, rfl⟩, ?_⟩)
      exact Fallible.runs_ofExcept_iff.2 ⟨rfl, rfl⟩

theorem runs_executeInTransaction_iff {s : Statement} {out : Except StoreError Nat} :
    Action.Runs (executeInTransaction s).run es out ↔ Transacted s es out := by
  constructor
  · intro h
    obtain ⟨begun, es, rfl, hbegun⟩ := Action.runs_ask_iff.1 h
    clear h
    cases begun with
    | error e =>
      obtain ⟨rfl, rfl⟩ := Action.runs_done_iff.1 hbegun
      exact .refused e
    | ok _ =>
      obtain ⟨written, es, rfl, hwritten⟩ := Action.runs_ask_iff.1 hbegun
      clear hbegun
      cases written with
      | ok rs =>
        obtain ⟨ended, es, rfl, hended⟩ := Action.runs_ask_iff.1 hwritten
        clear hwritten
        cases ended with
        | ok _ =>
          obtain ⟨rfl, rfl⟩ := Action.runs_done_iff.1 hended
          exact .committed rs
        | error e =>
          obtain ⟨rfl, rfl⟩ := Action.runs_done_iff.1 hended
          exact .uncommitted rs e
      | error e =>
        obtain ⟨ended, es, rfl, hended⟩ := Action.runs_ask_iff.1 hwritten
        clear hwritten
        cases ended with
        | ok _ =>
          obtain ⟨rfl, rfl⟩ := Action.runs_done_iff.1 hended
          exact .rolledBack e
        | error d =>
          obtain ⟨_, es, rfl, hlogged⟩ := Action.runs_ask_iff.1 hended
          obtain ⟨rfl, rfl⟩ := Action.runs_done_iff.1 hlogged
          exact .leftOpen e d
  · intro h
    cases h with
    | refused e => exact .ask .done
    | committed rs => exact .ask (.ask (.ask .done))
    | uncommitted rs e => exact .ask (.ask (.ask .done))
    | rolledBack e => exact .ask (.ask (.ask .done))
    | leftOpen e d => exact .ask (.ask (.ask (.ask .done)))

theorem runs_execute_iff {autocommit : Bool} {sql : String} {args : List Json}
    {out : Except StoreError Nat} :
    Action.Runs (execute autocommit sql args).run es out ↔
      Executed (statement sql args) autocommit es out := by
  constructor
  · intro h
    obtain ⟨connected, es, rfl, hconnected⟩ := Action.runs_ask_iff.1 h
    clear h
    cases connected with
    | error e =>
      obtain ⟨rfl, rfl⟩ := Action.runs_done_iff.1 hconnected
      exact .unconnected autocommit e
    | ok _ =>
      cases autocommit with
      | false => exact .transacted (runs_executeInTransaction_iff.1 hconnected)
      | true =>
        obtain ⟨written, es, rfl, hwritten⟩ := Action.runs_ask_iff.1 hconnected
        clear hconnected
        cases written with
        | ok rs =>
          obtain ⟨rfl, rfl⟩ := Action.runs_done_iff.1 hwritten
          exact .alone rs
        | error e =>
          obtain ⟨rfl, rfl⟩ := Action.runs_done_iff.1 hwritten
          exact .failed e
  · intro h
    cases h with
    | unconnected autocommit e => exact .ask .done
    | alone rs => exact .ask (.ask .done)
    | failed e => exact .ask (.ask .done)
    | transacted h => exact .ask (runs_executeInTransaction_iff.2 h)

/-- A write that succeeds has sent its statement, and around it what begins and ends the transaction
that it has without autocommit. -/
theorem sentBy_of_runs_execute {autocommit : Bool} {sql : String} {args : List Json} {n : Nat}
    (h : Action.Runs (execute autocommit sql args).run es (.ok n)) :
    sentBy es = if autocommit then [statement sql args]
      else [⟨TransactionControl.start.sql, []⟩, statement sql args,
        ⟨TransactionControl.commit.sql, []⟩] := by
  cases runs_execute_iff.1 h with
  | alone rs => rfl
  | transacted h =>
    cases h with
    | committed rs => rfl

theorem runs_execute_autocommit (sql : String) (args : List Json) (rs : ResultSet) :
    Action.Runs (execute true sql args).run
      [⟨.connect, .ok ()⟩, ⟨.run (statement sql args), .ok rs⟩] (.ok rs.affected) :=
  .ask (.ask .done)

end Database
end Weblog
