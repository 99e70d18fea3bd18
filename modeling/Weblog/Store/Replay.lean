import Weblog.Action.Trace

/-!
# Weblog.Store.Replay

Running actions against recorded answers.

* `Recorded`: a recorded answer of the database.
* `World`: the answers still to come, the clock, and what was sent and logged so far.
* `Action.replay`: runs an action in a world.

A statement takes the next recorded answer, and one that affects nothing when there is none left. A
recorded failure of a transaction statement is taken only when that statement is run. A transaction
whose end failed stays open, and is rolled back before the connection is taken again.
-/

namespace Weblog

/-- A recorded answer of the database. -/
inductive Recorded where
  | result (r : ResultSet)
  | failure (text : String)
  | controlFailure (t : TransactionControl)
  deriving Repr

/-- The world that answers from a record. -/
structure World where
  /-- The recorded answers still to come. -/
  replies : List Recorded
  /-- No connection can be made. -/
  down : Bool := false
  /-- The pool was closed. -/
  closed : Bool := false
  /-- A connection was attempted. -/
  contacted : Bool := false
  /-- A transaction whose end failed is open on the connection. -/
  unfinished : Bool := false
  /-- The clock, in milliseconds since the epoch. -/
  now : Int := 0
  /-- How many UUIDs were drawn. -/
  uuids : Nat := 0
  /-- How many values were drawn from sources outside. -/
  draws : Nat := 0
  /-- The statements that reached the database, last first. -/
  sent : List Statement := []
  /-- The log, last line first. -/
  logged : List LogEntry := []
  deriving Repr

namespace World

/-- The text of the error when no connection can be made. -/
def downText : String := "database is down"

def markedUuid (b : UInt8) : List UInt8 :=
  List.replicate 6 b ++ [(b &&& 0x0f) ||| 0x40, b, (b &&& 0x3f) ||| 0x80] ++ List.replicate 7 b

/-- A result without columns that affects no rows. -/
def nothing : ResultSet := ⟨[], [], 0⟩

def run (s : Statement) (w : World) : Except DbError ResultSet × World :=
  let w := { w with sent := s :: w.sent }
  match w.replies with
  | [] => (.ok nothing, w)
  | .result r :: rest => (.ok r, { w with replies := rest })
  | .failure text :: rest => (.error (.reported text), { w with replies := rest })
  | .controlFailure _ :: rest => (.ok nothing, { w with replies := rest })

/-- A statement that begins or ends a transaction. -/
def control (t : TransactionControl) (w : World) : Except DbError Unit × World :=
  let w := { w with sent := ⟨t.sql, []⟩ :: w.sent }
  match w.replies with
  | .controlFailure u :: rest =>
    if t = u then
      (.error (.reported (t.sql ++ " failed")),
        { w with replies := rest, unfinished := decide (t ≠ .start) })
    else (.ok (), w)
  | _ => (.ok (), w)

/-- Rolls back a transaction whose end failed. -/
def settle (w : World) : World :=
  if w.unfinished then { (w.control .rollback).2 with unfinished := false } else w

def connect (w : World) : Except DbError Unit × World :=
  if w.closed then (.error .withheld, w)
  else if w.down then (.error (.reported downText), { w with contacted := true })
  else (.ok (), { w.settle with contacted := true })

def answer (w : World) : (e : Effect) → e.Answer × World
  | .connect => w.connect
  | .run s => w.run s
  | .control t => w.control t
  | .close => ((), { w with closed := true })
  | .isClosed => (w.closed, w)
  | .clock => (w.now, w)
  | .uuid =>
    let n := w.uuids + 1
    (markedUuid (UInt8.ofNat n), { w with uuids := n })
  | .draw _ =>
    let n := w.draws + 1
    (Json.string ("gen-" ++ toString n), { w with draws := n })
  | .log entry => ((), { w with logged := entry :: w.logged })

end World

def Action.replay {α : Type} : Action α → World → α × World
  | .done a, w => (a, w)
  | .ask e next, w => replay (next (w.answer e).1) (w.answer e).2

@[simp] theorem Action.replay_done {α : Type} (a : α) (w : World) :
    (Action.done a).replay w = (a, w) := rfl

/-- An action that goes on is run to its value, and then the rest in the world after it. -/
theorem Action.replay_bind {α β : Type} (x : Action α) (f : α → Action β) (w : World) :
    (x >>= f).replay w = (f (x.replay w).1).replay (x.replay w).2 := by
  induction x generalizing w with
  | done a => rfl
  | ask e next ih => exact ih (w.answer e).1 (w.answer e).2

/-- A transaction statement is sent whether it fails or not. -/
theorem World.sent_control (w : World) (t : TransactionControl) :
    (w.control t).2.sent = ⟨t.sql, []⟩ :: w.sent := by
  simp only [World.control]
  split
  · split <;> rfl
  · rfl

theorem World.sublist_sent_settle (w : World) : w.sent.Sublist w.settle.sent := by
  unfold World.settle
  split
  · rw [World.sent_control]
    exact List.sublist_cons_self _ _
  · exact List.Sublist.refl _

theorem World.sublist_sent_answer (w : World) (e : Effect) :
    ((sentBy [⟨e, (w.answer e).1⟩]).reverse ++ w.sent).Sublist (w.answer e).2.sent := by
  cases e with
  | connect =>
    simp only [World.answer, World.connect]
    split
    · exact List.Sublist.refl _
    · split
      · exact List.Sublist.refl _
      · exact w.sublist_sent_settle
  | run s =>
    simp only [World.answer, World.run]
    split <;> exact List.Sublist.refl _
  | control t =>
    rw [World.answer, World.sent_control]
    exact List.Sublist.refl _
  | close => exact List.Sublist.refl _
  | isClosed => exact List.Sublist.refl _
  | clock => exact List.Sublist.refl _
  | uuid => exact List.Sublist.refl _
  | draw _ => exact List.Sublist.refl _
  | log _ => exact List.Sublist.refl _

/-- What is replayed is a run, and the world was sent its statements in order. -/
theorem Action.exists_runs_replay {α : Type} (x : Action α) (w : World) :
    ∃ es, Action.Runs x es (x.replay w).1 ∧
      ((sentBy es).reverse ++ w.sent).Sublist (x.replay w).2.sent := by
  induction x generalizing w with
  | done a => exact ⟨[], .done, List.Sublist.refl _⟩
  | ask e next ih =>
    obtain ⟨es, hr, hs⟩ := ih (w.answer e).1 (w.answer e).2
    refine ⟨⟨e, (w.answer e).1⟩ :: es, .ask hr, ?_⟩
    have hcons : sentBy (⟨e, (w.answer e).1⟩ :: es) =
        sentBy [⟨e, (w.answer e).1⟩] ++ sentBy es := sentBy_append [_] es
    rw [hcons, List.reverse_append, List.append_assoc]
    exact ((w.sublist_sent_answer e).append_left _).trans hs

end Weblog
