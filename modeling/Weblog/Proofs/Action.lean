import Weblog.Action.Trace

/-!
# Weblog.Proofs.Action

The order of the exchanges in a run.

* `EachAfter P es`: every exchange stands in the relation `P` to those before it.
* `Action.Each P x`: so do the exchanges of every run of `x`; `each_bind` for a sequence.
* `exists_runs_answered`: whatever a world answers, an action comes to its end in it.
-/

namespace Weblog

/-- Every exchange of a run stands in a relation to those before it. -/
def EachAfter (P : List Exchange → Exchange → Prop) (es : List Exchange) : Prop :=
  ∀ before x after, es = before ++ x :: after → P before x

namespace EachAfter

variable {P Q : List Exchange → Exchange → Prop} {es fs : List Exchange}

@[simp] theorem nil : EachAfter P [] := by
  intro before x after h
  cases before <;> cases h

@[simp] theorem cons_iff {y : Exchange} :
    EachAfter P (y :: es) ↔ P [] y ∧ EachAfter (fun before x => P (y :: before) x) es := by
  constructor
  · intro h
    exact ⟨h [] y es rfl, fun before x after hes => h (y :: before) x after (by rw [hes]; rfl)⟩
  · rintro ⟨hfirst, hrest⟩ before x after hes
    cases before with
    | nil =>
      cases hes
      exact hfirst
    | cons z before =>
      cases hes
      exact hrest before x after rfl

theorem append_iff :
    EachAfter P (es ++ fs) ↔
      EachAfter P es ∧ EachAfter (fun before x => P (es ++ before) x) fs := by
  induction es generalizing P with
  | nil => simp
  | cons y es ih => rw [List.cons_append, cons_iff, cons_iff, ih, and_assoc]; rfl

end EachAfter

/-- Whatever a world answers, knowing all that was asked before, an action comes to its end. -/
theorem Action.exists_runs_answered {α : Type} (x : Action α)
    (world : List Exchange → (e : Effect) → e.Answer) :
    ∃ es a, Runs x es a ∧ EachAfter (fun before y => y.answer = world before y.effect) es := by
  induction x generalizing world with
  | done a => exact ⟨[], a, .done, .nil⟩
  | ask e next ih =>
    obtain ⟨es, a, hruns, hworld⟩ :=
      ih (world [] e) fun before f => world (⟨e, world [] e⟩ :: before) f
    exact ⟨⟨e, world [] e⟩ :: es, a, .ask hruns, EachAfter.cons_iff.2 ⟨rfl, hworld⟩⟩

namespace Action

variable {α β : Type} {P : List Exchange → Exchange → Prop}

/-- Every exchange of every run stands in a relation to those before it. -/
def Each (P : List Exchange → Exchange → Prop) (x : Action α) : Prop :=
  ∀ es a, Runs x es a → EachAfter P es

theorem each_done (a : α) : (Action.done a).Each P := by
  intro es b h
  rw [(runs_done_iff.1 h).1]
  exact .nil

/-- Before the exchanges of the second part of a sequence there are those of the first. -/
theorem each_bind {x : Action α} {f : α → Action β} (hx : x.Each P)
    (hf : ∀ fs a, Runs x fs a → (f a).Each fun before y => P (fs ++ before) y) :
    (x >>= f).Each P := by
  intro es b h
  obtain ⟨fs, gs, a, rfl, hfirst, hsecond⟩ := runs_bind_iff.1 h
  exact EachAfter.append_iff.2 ⟨hx fs a hfirst, hf fs a hfirst gs b hsecond⟩

theorem Each.map {x : Action α} (f : α → β) (hx : x.Each P) : (f <$> x).Each P := by
  intro es b h
  obtain ⟨a, ha, -⟩ := runs_map_iff.1 h
  exact hx es a ha

end Action

theorem Fallible.each_bind {ε α β : Type} {P : List Exchange → Exchange → Prop}
    {x : Fallible ε α} {f : α → Fallible ε β} (hx : x.run.Each P)
    (hf : ∀ fs a, Action.Runs x.run fs (.ok a) → (f a).run.Each fun before y => P (fs ++ before) y) :
    (x >>= f).run.Each P := by
  refine Action.each_bind hx ?_
  intro fs o h
  cases o with
  | ok a => exact hf fs a h
  | error e => exact Action.each_done _

end Weblog
