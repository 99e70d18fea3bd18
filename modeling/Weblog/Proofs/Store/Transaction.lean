import Weblog.Proofs.Action
import Weblog.Proofs.Store.Database

/-!
# Weblog.Proofs.Store.Transaction

The discipline of writes and of their transactions.

* `Executed.ok_iff`, `Executed.of_failed`: when a write succeeds, and the error of one that fails.
* `Executed.of_answered`: nothing fails after the statement and its commit.
* `Write.May`: when a write may ask an effect, by the exchanges before it.
* `Write.Disciplined`: the order of what a write asks, and what its outcome tells of it.
* `runAll_disciplined`: for every sequence of writes and all answers of the database, each write
  keeps this discipline.
-/

namespace Weblog

/-- The error that the database answered. -/
def Exchange.failure? : Exchange → Option DbError
  | ⟨.connect, .error e⟩ => some e
  | ⟨.run _, .error e⟩ => some e
  | ⟨.control _, .error e⟩ => some e
  | _ => none

namespace Database

variable {es : List Exchange} {out : Except StoreError Nat} {s : Statement} {autocommit : Bool}
  {n : Nat} {e : DbError}

theorem Executed.ok_iff (h : Executed s autocommit es out) :
    (∃ n, out = .ok n) ↔ ∀ x ∈ es, x.failure? = none := by
  cases h with
  | unconnected _ e => simp [Exchange.failure?]
  | alone rs => simp [Exchange.failure?]
  | failed e => simp [Exchange.failure?]
  | transacted h => cases h <;> simp [Exchange.failure?]

theorem Executed.of_ok (h : Executed s autocommit es (.ok n)) :
    (∃ rs : ResultSet, ⟨.run s, .ok rs⟩ ∈ es ∧ n = rs.affected) ∧
      (autocommit = false → ⟨.control .commit, .ok ()⟩ ∈ es) := by
  cases h with
  | alone rs => exact ⟨⟨rs, .tail _ (.head _), rfl⟩, nofun⟩
  | transacted h =>
    cases h with
    | committed rs =>
      exact ⟨⟨rs, .tail _ (.tail _ (.head _)), rfl⟩, fun _ => .tail _ (.tail _ (.tail _ (.head _)))⟩

theorem Executed.of_failed (h : Executed s autocommit es out)
    (hfailed : ⟨.run s, .error e⟩ ∈ es) : out = .error (.database e) := by
  cases h with
  | unconnected _ d =>
    cases List.mem_singleton.1 hfailed
  | alone rs =>
    simp only [List.mem_cons, List.not_mem_nil, or_false] at hfailed
    rcases hfailed with h | h <;> cases h
  | failed d =>
    simp only [List.mem_cons, List.not_mem_nil, or_false] at hfailed
    rcases hfailed with h | h <;> cases h
    rfl
  | transacted h =>
    cases h <;> simp only [List.mem_cons, List.not_mem_nil, or_false] at hfailed
    case refused d => rcases hfailed with h | h <;> cases h
    case committed rs => rcases hfailed with h | h | h | h <;> cases h
    case uncommitted rs d => rcases hfailed with h | h | h | h <;> cases h
    case rolledBack d =>
      rcases hfailed with h | h | h | h <;> cases h
      rfl
    case leftOpen d d' =>
      rcases hfailed with h | h | h | h | h <;> cases h
      rfl

/-- A write whose statement was answered and, where it has a transaction, committed succeeds. -/
theorem Executed.of_answered {st : Statement} {rs : ResultSet} (h : Executed s autocommit es out)
    (hrun : ⟨.run st, .ok rs⟩ ∈ es)
    (hcommit : autocommit = false → ⟨.control .commit, .ok ()⟩ ∈ es) :
    st = s ∧ out = .ok rs.affected := by
  cases h with
  | unconnected _ d =>
    cases List.mem_singleton.1 hrun
  | alone rs' =>
    simp only [List.mem_cons, List.not_mem_nil, or_false] at hrun
    rcases hrun with h | h <;> cases h
    exact ⟨rfl, rfl⟩
  | failed d =>
    simp only [List.mem_cons, List.not_mem_nil, or_false] at hrun
    rcases hrun with h | h <;> cases h
  | transacted h =>
    have hcommit := hcommit rfl
    cases h <;> simp only [List.mem_cons, List.not_mem_nil, or_false] at hrun hcommit
    case refused d => rcases hrun with h | h <;> cases h
    case committed rs' =>
      rcases hrun with h | h | h | h <;> cases h
      exact ⟨rfl, rfl⟩
    case uncommitted rs' d => rcases hcommit with h | h | h | h <;> cases h
    case rolledBack d => rcases hrun with h | h | h | h <;> cases h
    case leftOpen d d' => rcases hrun with h | h | h | h | h <;> cases h

end Database

/-- A write that is asked for: its text with neutral markers, its arguments, and whether it stands
outside of a transaction of its own. -/
structure Write where
  autocommit : Bool
  sql : String
  args : List Json

namespace Write

def statement (w : Write) : Statement := Database.statement w.sql w.args

def run (w : Write) : Fallible StoreError Nat := Database.execute w.autocommit w.sql w.args

/-- Runs writes one after another, whatever becomes of each, and yields their outcomes. -/
def runAll : List Write → Action (List (Except StoreError Nat))
  | [] => .done []
  | w :: rest => do
    let outcome ← w.run.run
    return outcome :: (← runAll rest)

/-- When a write may ask an effect, by the exchanges of it that went before: first for a connection,
then for its statement, with autocommit at once and otherwise after its transaction was begun. It
commits when the statement succeeded, and rolls back when it failed. -/
def May (w : Write) (before : List Exchange) : Effect → Prop
  | .connect => before = []
  | .control .start => w.autocommit = false ∧ before = [⟨.connect, .ok ()⟩]
  | .run s => s = w.statement ∧
      before = ⟨.connect, .ok ()⟩ :: if w.autocommit then [] else [⟨.control .start, .ok ()⟩]
  | .control .commit => w.autocommit = false ∧ ∃ rs : ResultSet,
      before = [⟨.connect, .ok ()⟩, ⟨.control .start, .ok ()⟩, ⟨.run w.statement, .ok rs⟩]
  | .control .rollback => w.autocommit = false ∧ ∃ e : DbError,
      before = [⟨.connect, .ok ()⟩, ⟨.control .start, .ok ()⟩, ⟨.run w.statement, .error e⟩]
  | .log entry => entry = .rollbackFailed ∧ ∃ (d : DbError) (earlier : List Exchange),
      before = earlier ++ [⟨.control .rollback, .error d⟩]
  | _ => False

/-- The exchanges of a write and its outcome. -/
structure Disciplined (w : Write) (es : List Exchange) (out : Except StoreError Nat) : Prop where
  /-- Everything that it asks is asked in its time. -/
  ordered : EachAfter (fun before x => w.May before x.effect) es
  /-- It succeeds exactly if nothing that it asked failed. -/
  ok_iff : (∃ n, out = .ok n) ↔ ∀ x ∈ es, x.failure? = none
  /-- It yields how many rows the statement affected. -/
  affected : ∀ n, out = .ok n → ∃ rs : ResultSet, ⟨.run w.statement, .ok rs⟩ ∈ es ∧ n = rs.affected
  /-- It is committed where it succeeds. -/
  committed : ∀ n, out = .ok n → w.autocommit = false → ⟨.control .commit, .ok ()⟩ ∈ es
  /-- Where the statement fails its error is the one of the write. -/
  failed : ∀ e : DbError, ⟨.run w.statement, .error e⟩ ∈ es → out = .error (.database e)

/-- The exchanges and outcomes of writes that are run one after another. -/
inductive InTurn (P : Write → List Exchange → Except StoreError Nat → Prop) :
    List Write → List Exchange → List (Except StoreError Nat) → Prop where
  | nil : InTurn P [] [] []
  | cons {w : Write} {ws : List Write} {es fs : List Exchange} {out : Except StoreError Nat}
      {outs : List (Except StoreError Nat)} :
      P w es out → InTurn P ws fs outs → InTurn P (w :: ws) (es ++ fs) (out :: outs)

variable {w : Write} {es : List Exchange} {out : Except StoreError Nat}

theorem ordered_of_executed (h : Database.Executed w.statement w.autocommit es out) :
    EachAfter (fun before x => w.May before x.effect) es := by
  obtain ⟨autocommit, sql, args⟩ := w
  cases h with
  | unconnected _ e => exact EachAfter.cons_iff.2 ⟨rfl, .nil⟩
  | alone rs => simpa using ⟨rfl, rfl, rfl⟩
  | failed e => simpa using ⟨rfl, rfl, rfl⟩
  | transacted h =>
    cases h with
    | refused e => simpa using ⟨rfl, rfl, rfl⟩
    | committed rs => simpa using ⟨rfl, ⟨rfl, rfl⟩, ⟨rfl, rfl⟩, rfl, rs, rfl⟩
    | uncommitted rs e => simpa using ⟨rfl, ⟨rfl, rfl⟩, ⟨rfl, rfl⟩, rfl, rs, rfl⟩
    | rolledBack e => simpa using ⟨rfl, ⟨rfl, rfl⟩, ⟨rfl, rfl⟩, rfl, e, rfl⟩
    | leftOpen e d =>
      simpa using ⟨rfl, ⟨rfl, rfl⟩, ⟨rfl, rfl⟩, ⟨rfl, e, rfl⟩, rfl, d, [_, _, _], rfl⟩

theorem disciplined_of_runs (h : Action.Runs w.run.run es out) : w.Disciplined es out := by
  have hexecuted : Database.Executed w.statement w.autocommit es out :=
    Database.runs_execute_iff.1 h
  refine ⟨ordered_of_executed hexecuted, hexecuted.ok_iff, ?_, ?_, fun e => hexecuted.of_failed⟩
  · rintro n rfl
    exact hexecuted.of_ok.1
  · rintro n rfl
    exact hexecuted.of_ok.2

/-- Writes that are run one after another keep what each of them keeps. -/
theorem inTurn_of_runs {P : Write → List Exchange → Except StoreError Nat → Prop}
    (hP : ∀ {w es out}, Action.Runs w.run.run es out → P w es out) {ws : List Write}
    {outs : List (Except StoreError Nat)} (h : Action.Runs (runAll ws) es outs) :
    InTurn P ws es outs := by
  induction ws generalizing es outs with
  | nil =>
    obtain ⟨rfl, rfl⟩ := Action.runs_done_iff.1 h
    exact .nil
  | cons w ws ih =>
    obtain ⟨fs, gs, out, rfl, hfirst, hrest⟩ := Action.runs_bind_iff.1 h
    obtain ⟨gs, hs, outs, rfl, hothers, hdone⟩ := Action.runs_bind_iff.1 hrest
    obtain ⟨rfl, rfl⟩ := Action.runs_done_iff.1 hdone
    rw [List.append_nil]
    exact .cons (hP hfirst) (ih hothers)

/-- For every sequence of writes, of any text and arguments, with autocommit and without: whatever
the database answers, the writes come to their end, and each of them asks for a connection first,
then for what begins its transaction, for its statement and for what ends the transaction, each in
its time, and tells the truth of them: it succeeds exactly if nothing failed, a transaction was
committed if it succeeds, and where the statement failed its error is that of the statement. -/
theorem runAll_disciplined (ws : List Write) :
    (∀ world : List Exchange → (e : Effect) → e.Answer, ∃ es outs,
      Action.Runs (runAll ws) es outs ∧
        EachAfter (fun before x => x.answer = world before x.effect) es) ∧
    ∀ es outs, Action.Runs (runAll ws) es outs → InTurn Disciplined ws es outs :=
  ⟨(runAll ws).exists_runs_answered, fun _ _ => inTurn_of_runs disciplined_of_runs⟩

/-- A change of all rows, in a transaction of its own. -/
def signing : Write := ⟨false, "UPDATE notes SET author = ?", [.string "ann"]⟩

/-- The change fails first, and rolling it back as well, and then it is committed. -/
def signingTwice : List Exchange :=
  [⟨.connect, .ok ()⟩, ⟨.control .start, .ok ()⟩,
    ⟨.run signing.statement, .error (.reported "locked")⟩, ⟨.control .rollback, .error .withheld⟩,
    ⟨.log .rollbackFailed, ()⟩, ⟨.connect, .ok ()⟩, ⟨.control .start, .ok ()⟩,
    ⟨.run signing.statement, .ok ⟨[], [], 3⟩⟩, ⟨.control .commit, .ok ()⟩]

theorem runAll_disciplined_signingTwice :
    Action.Runs (runAll [signing, signing]) signingTwice
        [.error (.database (.reported "locked")), .ok 3] ∧
      InTurn Disciplined [signing, signing] signingTwice
        [.error (.database (.reported "locked")), .ok 3] := by
  have hruns : Action.Runs (runAll [signing, signing]) signingTwice
      [.error (.database (.reported "locked")), .ok 3] :=
    .ask (.ask (.ask (.ask (.ask (.ask (.ask (.ask (.ask .done))))))))
  exact ⟨hruns, (runAll_disciplined [signing, signing]).2 _ _ hruns⟩

end Write
end Weblog
