import Weblog.Proofs.Interleaving

/-!
# Weblog.Proofs.Sql.Shared

What several tasks read and change at the same time, with single statements and in transactions.

* `Shared`: what is there for all, and what the open transactions will make of it.
* `Dialect`: what statements mean to it.
* `Shared.Admits`: what the database does in a turn. A statement may fail at any time.
* `exists_change_of_evolves`: where all changes that are asked for are of one kind, so is what has
  become of the whole; `Admits.exists_change` for one turn.
-/

namespace Weblog
namespace Sql

variable {ι ρ : Type}

/-- What is there for all, and what is to become of it when the transaction that a task has begun is
committed. -/
structure Shared (ι ρ : Type) where
  rows : ρ
  pending : ι → Option (ρ → ρ)

/-- What statements mean: how one may be answered that changes nothing, and the changes that one may
make. -/
structure Dialect (ι ρ : Type) where
  Reads : Shared ι ρ → ι → Statement → ResultSet → Prop
  Alters : Shared ι ρ → Statement → (ρ → ρ) → Prop

/-- Changes of one kind: to do nothing is one, and so are two of them one after the other. -/
structure Composes (ok : (ρ → ρ) → Prop) : Prop where
  id : ok id
  comp : ∀ {f g}, ok f → ok g → ok (f ∘ g)

namespace Shared

def idle (rows : ρ) : Shared ι ρ := ⟨rows, fun _ => none⟩

/-- What is there for a task: also what it has changed in a transaction that is still open. -/
def view (t : Shared ι ρ) (i : ι) : ρ := (t.pending i).getD id t.rows

/-- All open transactions make changes of one kind. -/
def Pends (ok : (ρ → ρ) → Prop) (t : Shared ι ρ) : Prop := ∀ i f, t.pending i = some f → ok f

variable {ok : (ρ → ρ) → Prop} {d : Dialect ι ρ} {t t' : Shared ι ρ} {f : ρ → ρ}

theorem pends_idle (rows : ρ) : (idle rows : Shared ι ρ).Pends ok := nofun

theorem Pends.getD (hok : Composes ok) (h : t.Pends ok) (i : ι) : ok ((t.pending i).getD id) := by
  cases hi : t.pending i with
  | none => exact hok.id
  | some f => exact h i f hi

variable [DecidableEq ι]

def hold (t : Shared ι ρ) (i : ι) (f : Option (ρ → ρ)) : Shared ι ρ :=
  { t with pending := fun j => if j = i then f else t.pending j }

/-- A change is there for all at once, unless the task has begun a transaction. -/
def put (t : Shared ι ρ) (i : ι) (f : ρ → ρ) : Shared ι ρ :=
  match t.pending i with
  | none => { t with rows := f t.rows }
  | some g => t.hold i (some (f ∘ g))

/-- The transaction of a task ends, and its changes are there for all. -/
def publish (t : Shared ι ρ) (i : ι) : Shared ι ρ :=
  { t.hold i none with rows := t.view i }

/-- What becomes of a statement. Where it fails, its change may be there or not. -/
inductive Answers (d : Dialect ι ρ) (t : Shared ι ρ) (i : ι) (st : Statement) :
    Except DbError ResultSet → Shared ι ρ → Prop
  | read {rs : ResultSet} : d.Reads t i st rs → Answers d t i st (.ok rs) t
  | changed (answer : Except DbError ResultSet) {f : ρ → ρ} :
      d.Alters t st f → Answers d t i st answer (t.put i f)
  | failed (e : DbError) : Answers d t i st (.error e) t

/-- What beginning and ending a transaction does. Where the end fails, the changes may be there or
not. -/
inductive Controls (t : Shared ι ρ) (i : ι) (c : TransactionControl)
    (answer : Except DbError Unit) : Shared ι ρ → Prop
  | begun : c = .start → answer = .ok () → Controls t i c answer (t.hold i (some id))
  | refused : c = .start → answer ≠ .ok () → Controls t i c answer t
  | committed : c = .commit → Controls t i c answer (t.publish i)
  | dropped : c = .rollback ∨ c = .commit ∧ answer ≠ .ok () → Controls t i c answer (t.hold i none)

def admits (d : Dialect ι ρ) (t : Shared ι ρ) (i : ι) : (e : Effect) → e.Answer → Shared ι ρ → Prop
  | .run st => t.Answers d i st
  | .control c => t.Controls i c
  | _ => fun _ t' => t' = t

/-- What the database does in a turn. -/
def Admits (d : Dialect ι ρ) (t : Shared ι ρ) (turn : Turn ι) (t' : Shared ι ρ) : Prop :=
  t.admits d turn.task turn.exchange.effect turn.exchange.answer t'

theorem Pends.hold (h : t.Pends ok) (i : ι) {o : Option (ρ → ρ)} (ho : ∀ f, o = some f → ok f) :
    (t.hold i o).Pends ok := by
  intro j f hf
  rw [Shared.hold] at hf
  dsimp only at hf
  split at hf
  · exact ho f hf
  · exact h j f hf

theorem Pends.put (hok : Composes ok) (h : t.Pends ok) (i : ι) (hf : ok f) :
    (t.put i f).Pends ok ∧ ∃ g, ok g ∧ (t.put i f).rows = g t.rows := by
  unfold Shared.put
  split
  · exact ⟨h, f, hf, rfl⟩
  · rename_i g hg
    refine ⟨h.hold i fun f' hf' => ?_, id, hok.id, rfl⟩
    cases hf'
    exact hok.comp hf (h i g hg)

/-- In a turn something of the kind happens, if the statement of the turn asks for it. -/
theorem Admits.exists_change (hok : Composes ok) {turn : Turn ι} (h : t.Admits d turn t')
    (hpends : t.Pends ok)
    (halters : ∀ st f, turn.exchange.effect = .run st → d.Alters t st f → ok f) :
    t'.Pends ok ∧ ∃ f, ok f ∧ t'.rows = f t.rows := by
  obtain ⟨i, e, answer⟩ := turn
  have hsame : t.Pends ok ∧ ∃ f, ok f ∧ t.rows = f t.rows := ⟨hpends, id, hok.id, rfl⟩
  cases e with
  | run st =>
    have h : t.Answers d i st answer t' := h
    cases h with
    | read _ => exact hsame
    | changed _ hf => exact hpends.put hok i (halters st _ rfl hf)
    | failed _ => exact hsame
  | control c =>
    have h : t.Controls i c answer t' := h
    cases h with
    | begun _ _ =>
      refine ⟨hpends.hold i fun f hf => ?_, id, hok.id, rfl⟩
      cases hf
      exact hok.id
    | refused _ _ => exact hsame
    | committed _ => exact ⟨hpends.hold i nofun, _, hpends.getD hok i, rfl⟩
    | dropped _ => exact ⟨hpends.hold i nofun, id, hok.id, rfl⟩
  | connect | close | isClosed | clock | uuid | draw | log =>
    obtain rfl : t' = t := h
    exact hsame

/-- Where all statements ask for changes of one kind, one such change has been made. -/
theorem exists_change_of_evolves (hok : Composes ok) {ts : List (Turn ι)}
    (h : Evolves (Admits d) t ts t') (hpends : t.Pends ok)
    (halters : ∀ turn ∈ ts, ∀ t st f, turn.exchange.effect = .run st → d.Alters t st f → ok f) :
    t'.Pends ok ∧ ∃ f, ok f ∧ t'.rows = f t.rows := by
  induction h with
  | nil t => exact ⟨hpends, id, hok.id, rfl⟩
  | @turn t t₁ t' turn ts hturn _ ih =>
    obtain ⟨hnow, hlater⟩ := List.forall_mem_cons.1 halters
    obtain ⟨hpends₁, f, hf, hrows⟩ := hturn.exists_change hok hpends (hnow t)
    obtain ⟨hpends', g, hg, hrows'⟩ := ih hpends₁ hlater
    exact ⟨hpends', g ∘ f, hok.comp hg hf, by rw [hrows', hrows]; rfl⟩

end Shared
end Sql
end Weblog
