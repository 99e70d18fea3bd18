import Weblog.Proofs.Sql.Rows
import Weblog.Proofs.Sql.Shared

/-!
# Weblog.Proofs.Sql.Table

A table that several tasks read and change at the same time, each with single statements.

* `Table.dialect`: what statements mean to the rows of a table. A select may show what is not
  committed.
* `Table.Sound`: good rows, which no open transaction spoils. `Admits.sound` for one turn and
  `sound_of_evolves` for all: where tasks are `Careful`, and ask for nothing that would spoil good
  rows as long as they were told of good rows alone, no row is spoilt.
* `follows_of_evolves`: the rows at the end follow those at any time before.
-/

namespace Weblog
namespace Sql

variable {ι : Type}

/-- The rows of a table that tasks share. -/
abbrev Table (ι : Type) : Type := Shared ι (List Tuple)

namespace Table

/-- What a select may see: the rows that are there for all, and changes of open transactions, its
own among them or not. -/
def Shows (t : Table ι) (seen : List Tuple) : Prop :=
  ∃ js : List ι, seen = js.foldl (fun rows j => (t.pending j).getD id rows) t.rows

/-- How a statement that changes nothing is answered, by the name of the table. -/
inductive Reads (name : String) (t : Table ι) (st : Statement) (rs : ResultSet) : Prop
  | found {q : KeySelect} {seen : List Tuple} {fields : List Fields} :
      KeySelect.read? st.sql = some q → q.selection.table = name → t.Shows seen →
      q.found? st.args seen = some fields → rs.decode none = .ok fields → Reads name t st rs
  | other : st.IsSelect → (∀ q, KeySelect.read? st.sql = some q → q.selection.table ≠ name) →
      Reads name t st rs

/-- What statements mean to the table of a name. -/
def dialect (name : String) : Dialect ι (List Tuple) where
  Reads t _ st rs := Reads name t st rs
  Alters _ st f := Alters st name f

/-- The rows are good, and no open transaction spoils good rows. -/
structure Sound (good : Tuple → Prop) (key : String) (t : Table ι) : Prop where
  rows : ∀ row ∈ t.rows, good row
  pending : t.Pends (Preserves good key)

variable {name key : String} {good : Tuple → Prop} {t t' : Table ι}

theorem sound_idle {rows : List Tuple} (h : ∀ row ∈ rows, good row) :
    Sound good key (.idle rows : Table ι) := ⟨h, Shared.pends_idle rows⟩

theorem composes_preserves : Composes (Preserves good key) := ⟨.id, .comp⟩

theorem Sound.shows (h : Sound good key t) {seen : List Tuple} (hseen : t.Shows seen) :
    ∀ row ∈ seen, good row := by
  obtain ⟨js, rfl⟩ := hseen
  generalize hrows : t.rows = rows
  have hgood : ∀ row ∈ rows, good row := hrows ▸ h.rows
  clear hrows
  induction js generalizing rows with
  | nil => exact hgood
  | cons j js ih => exact ih _ ((h.pending.getD composes_preserves j rows).good hgood)

variable [DecidableEq ι]

/-- What the database does in a turn. -/
def Admits (name : String) : Table ι → Turn ι → Table ι → Prop := Shared.Admits (dialect name)

theorem Admits.sound {turn : Turn ι} (h : Admits name t turn t') (hsound : t.Sound good key)
    (halters : ∀ st f, turn.exchange.effect = .run st → Alters st name f → Preserves good key f) :
    t'.Sound good key ∧ Follows good key t.rows t'.rows := by
  obtain ⟨hpending, f, hf, hrows⟩ :=
    Shared.Admits.exists_change composes_preserves h hsound.pending halters
  have hfollows : Follows good key t.rows t'.rows := hrows ▸ hf t.rows
  exact ⟨⟨hfollows.good hsound.rows, hpending⟩, hfollows⟩

/-- After a task was `told` things alone, it asks for no change that spoils good rows. -/
def Careful (told : Exchange → Prop) (name key : String) (good : Tuple → Prop)
    (es : List Exchange) : Prop :=
  EachAfter (fun earlier x => (∀ y ∈ earlier, told y) → ∀ st f, x.effect = .run st →
    Alters st name f → Preserves good key f) es

section Evolves

variable {told : Exchange → Prop} {before after : List (Turn ι)} {t₁ : Table ι}

/-- What a sound table answers is `told`. Where every change that a task asks for, after it was
`told` things alone, spoils no good rows, the table stays sound, and its rows follow each other. -/
theorem sound_of_evolves
    (htold : ∀ {t t' : Table ι} {turn}, t.Sound good key → t.Admits name turn t' →
      told turn.exchange)
    (hbefore : ∀ turn ∈ before, told turn.exchange)
    (hasks : ∀ i, Careful told name key good (ownTurns i (before ++ after)))
    (hsound : t.Sound good key) (h : Evolves (Admits name) t after t') :
    (∀ turn ∈ before ++ after, told turn.exchange) ∧ t'.Sound good key ∧
      Follows good key t.rows t'.rows := by
  induction h generalizing before with
  | nil t =>
    rw [List.append_nil]
    exact ⟨hbefore, hsound, .refl good key t.rows⟩
  | @turn t t₁ t' turn after hturn _ ih =>
    have hown : ∀ y ∈ ownTurns turn.task before, told y := fun y hy =>
      hbefore _ (mem_ownTurns_iff.1 hy)
    have hasked := hasks turn.task (ownTurns turn.task before) turn.exchange
      (ownTurns turn.task after) (by rw [ownTurns_append, ownTurns_cons_self]) hown
    obtain ⟨hsound₁, hfollows⟩ := hturn.sound hsound hasked
    rw [List.append_cons] at hasks ⊢
    have hnow : ∀ u ∈ before ++ [turn], told u.exchange := List.forall_mem_append.2
      ⟨hbefore, List.forall_mem_singleton.2 (htold hsound hturn)⟩
    obtain ⟨hall, hsound', hlater⟩ := ih hnow hasks hsound₁
    exact ⟨hall, hsound', hfollows.trans hlater⟩

/-- The rows at the end follow those at any time before. -/
theorem follows_of_evolves
    (htold : ∀ {t t' : Table ι} {turn}, t.Sound good key → t.Admits name turn t' →
      told turn.exchange)
    (hasks : ∀ i, Careful told name key good (ownTurns i (before ++ after)))
    (hsound : t.Sound good key) (hbefore : Evolves (Admits name) t before t₁)
    (hafter : Evolves (Admits name) t₁ after t') :
    t'.Sound good key ∧ Follows good key t₁.rows t'.rows := by
  have hfirst : ∀ i, Careful told name key good (ownTurns i ([] ++ before)) := by
    intro i
    have hi := hasks i
    rw [ownTurns_append] at hi
    exact (EachAfter.append_iff.1 hi).1
  obtain ⟨hall, hsound₁, -⟩ := sound_of_evolves htold (List.forall_mem_nil _) hfirst hsound hbefore
  obtain ⟨-, hsound', hfollows⟩ := sound_of_evolves htold hall hasks hsound₁ hafter
  exact ⟨hsound', hfollows⟩

end Evolves

end Table
end Sql
end Weblog
