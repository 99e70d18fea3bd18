import Weblog.Proofs.Action

/-!
# Weblog.Proofs.Interleaving

Several actions that run at the same time.

* `Action.Leads x es y`: with the exchanges `es` the action `x` comes as far as `y`. Every beginning
  of this kind belongs to a run (`Leads.exists_runs`).
* `Turn`, `Evolves`: turns of several tasks, one exchange each, and a world that admits them and
  changes with them.
* `Interleaves`: tasks that take turns in any order.
* `interleaves_iff`: the turns of a task lead from its beginning to where it stands, and the world
  evolves by all turns.
-/

namespace Weblog

/-- An effect that was asked can have been answered somehow. -/
def Effect.anyAnswer : (e : Effect) → e.Answer
  | .connect => (.ok () : Except DbError Unit)
  | .run _ => (.ok ⟨[], [], 0⟩ : Except DbError ResultSet)
  | .control _ => (.ok () : Except DbError Unit)
  | .close => ()
  | .isClosed => false
  | .clock => (0 : Int)
  | .uuid => ([] : List UInt8)
  | .draw _ => Json.null
  | .log _ => ()

namespace Action

variable {α : Type}

/-- With these exchanges an action comes as far as another one. -/
inductive Leads : Action α → List Exchange → Action α → Prop where
  | here (x : Action α) : Leads x [] x
  | ask {e : Effect} {next : e.Answer → Action α} {answer : e.Answer} {es : List Exchange}
      {y : Action α} : Leads (next answer) es y → Leads (.ask e next) (⟨e, answer⟩ :: es) y

variable {x y : Action α} {es fs : List Exchange}

theorem leads_nil_iff : Leads x [] y ↔ x = y := by
  constructor
  · intro h
    cases h
    rfl
  · rintro rfl
    exact .here x

theorem leads_cons_iff {z : Exchange} :
    Leads x (z :: es) y ↔ ∃ next, x = .ask z.effect next ∧ Leads (next z.answer) es y := by
  constructor
  · intro h
    cases h with
    | ask h => exact ⟨_, rfl, h⟩
  · rintro ⟨next, rfl, h⟩
    exact .ask h

theorem Leads.runs {a : α} (h : Leads x es y) (hy : Runs y fs a) : Runs x (es ++ fs) a := by
  induction h with
  | here x => exact hy
  | ask _ ih => exact .ask (ih hy)

theorem Runs.leads {a : α} (h : Runs x es a) : Leads x es (.done a) := by
  induction h with
  | done => exact .here _
  | ask _ ih => exact .ask ih

/-- However far an action has come, it can come to its end from there. -/
theorem Leads.exists_runs (h : Leads x es y) : ∃ fs a, Runs x (es ++ fs) a := by
  obtain ⟨fs, a, hruns, -⟩ := y.exists_runs_answered fun _ => Effect.anyAnswer
  exact ⟨fs, a, h.runs hruns⟩

end Action

/-- One exchange of one of several tasks. -/
structure Turn (ι : Type) where
  task : ι
  exchange : Exchange

variable {ι α σ : Type}

/-- How the world changes with turns. -/
inductive Evolves (world : σ → Turn ι → σ → Prop) : σ → List (Turn ι) → σ → Prop where
  | nil (s : σ) : Evolves world s [] s
  | turn {s s' s'' : σ} {t : Turn ι} {ts : List (Turn ι)} :
      world s t s' → Evolves world s' ts s'' → Evolves world s (t :: ts) s''

variable {world : σ → Turn ι → σ → Prop} {s s' : σ} {xs ys : ι → Action α} {ts us : List (Turn ι)}

theorem Evolves.append_iff :
    Evolves world s (ts ++ us) s' ↔ ∃ t, Evolves world s ts t ∧ Evolves world t us s' := by
  induction ts generalizing s with
  | nil =>
    constructor
    · exact fun h => ⟨s, .nil s, h⟩
    · rintro ⟨t, h, hus⟩
      cases h
      exact hus
  | cons t ts ih =>
    constructor
    · intro h
      cases h with
      | turn ht hrest =>
        obtain ⟨u, hts, hus⟩ := ih.1 hrest
        exact ⟨u, .turn ht hts, hus⟩
    · rintro ⟨u, h, hus⟩
      cases h with
      | turn ht hts => exact .turn ht (ih.2 ⟨u, hts, hus⟩)

variable [DecidableEq ι]

/-- The exchanges of one task among all turns. -/
def ownTurns (i : ι) (ts : List (Turn ι)) : List Exchange :=
  ts.filterMap fun t => if t.task = i then some t.exchange else none

/-- The tasks after one of them has gone on. -/
def proceed (xs : ι → Action α) (i : ι) (x : Action α) : ι → Action α :=
  fun j => if j = i then x else xs j

/-- Tasks take turns in any order. In each turn one of them asks an effect and has it answered, and
the world admits that and changes with it. -/
inductive Interleaves (world : σ → Turn ι → σ → Prop) :
    σ → (ι → Action α) → List (Turn ι) → σ → (ι → Action α) → Prop where
  | nil (s : σ) (xs : ι → Action α) : Interleaves world s xs [] s xs
  | turn {s s' s'' : σ} {xs ys : ι → Action α} {ts : List (Turn ι)} {i : ι} {e : Effect}
      {next : e.Answer → Action α} {answer : e.Answer} :
      xs i = .ask e next → world s ⟨i, e, answer⟩ s' →
      Interleaves world s' (proceed xs i (next answer)) ts s'' ys →
      Interleaves world s xs (⟨i, e, answer⟩ :: ts) s'' ys

theorem ownTurns_append (i : ι) (ts us : List (Turn ι)) :
    ownTurns i (ts ++ us) = ownTurns i ts ++ ownTurns i us := List.filterMap_append

theorem mem_ownTurns_iff {i : ι} {ts : List (Turn ι)} {x : Exchange} :
    x ∈ ownTurns i ts ↔ ⟨i, x⟩ ∈ ts := by
  rw [ownTurns, List.mem_filterMap]
  constructor
  · rintro ⟨⟨j, y⟩, hmem, hsome⟩
    split at hsome
    · rename_i hj
      cases hj
      cases hsome
      exact hmem
    · cases hsome
  · intro hmem
    exact ⟨⟨i, x⟩, hmem, if_pos rfl⟩

theorem ownTurns_cons_self (t : Turn ι) (ts : List (Turn ι)) :
    ownTurns t.task (t :: ts) = t.exchange :: ownTurns t.task ts := by
  simp [ownTurns]

theorem ownTurns_cons_of_ne {t : Turn ι} {i : ι} (h : i ≠ t.task) (ts : List (Turn ι)) :
    ownTurns i (t :: ts) = ownTurns i ts := by
  simp [ownTurns, Ne.symm h]

theorem interleaves_iff :
    Interleaves world s xs ts s' ys ↔
      Evolves world s ts s' ∧ ∀ i, Action.Leads (xs i) (ownTurns i ts) (ys i) := by
  constructor
  · intro h
    induction h with
    | nil s xs => exact ⟨.nil s, fun i => .here (xs i)⟩
    | @turn s s' s'' xs ys ts i e next answer hask hworld _ ih =>
      refine ⟨.turn hworld ih.1, fun j => ?_⟩
      have hleads := ih.2 j
      by_cases hj : j = i
      · subst hj
        rw [proceed, if_pos rfl] at hleads
        rw [hask, ownTurns_cons_self ⟨j, e, answer⟩ ts]
        exact .ask hleads
      · rw [proceed, if_neg hj] at hleads
        rwa [ownTurns_cons_of_ne hj]
  · rintro ⟨hevolves, hleads⟩
    induction hevolves generalizing xs with
    | nil s =>
      obtain rfl : xs = ys := funext fun i => Action.leads_nil_iff.1 (hleads i)
      exact .nil s xs
    | @turn s s' s'' t ts hworld _ ih =>
      have hself := hleads t.task
      rw [ownTurns_cons_self, Action.leads_cons_iff] at hself
      obtain ⟨next, hask, hnext⟩ := hself
      refine .turn hask hworld (ih fun j => ?_)
      by_cases hj : j = t.task
      · subst hj
        rwa [proceed, if_pos rfl]
      · have hother := hleads j
        rw [ownTurns_cons_of_ne hj] at hother
        rwa [proceed, if_neg hj]

end Weblog
