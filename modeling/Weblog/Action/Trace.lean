import Weblog.Fallible

/-!
# Weblog.Action.Trace

Runs of actions against any world.

* `Exchange`: an effect that was asked and the answer it got.
* `Action.Runs x es a`: asking the effects of `x` in order and getting the answers in `es` ends in
  `a`. The world is not fixed: a statement about all runs holds whatever the database, the clock and
  the directory say.
* `runs_bind_iff`: a run of a sequence is a run of the first part followed by one of the second.
* `sentBy`: the statements of a run that were sent to the database.
-/

namespace Weblog

/-- An effect that was asked and the answer it got. -/
structure Exchange where
  effect : Effect
  answer : effect.Answer

namespace Action

/-- The action asks the effects of the exchanges in order, and with their answers ends in the
value. -/
inductive Runs {α : Type} : Action α → List Exchange → α → Prop where
  | done {a : α} : Runs (.done a) [] a
  | ask {e : Effect} {next : e.Answer → Action α} {answer : e.Answer} {es : List Exchange} {a : α} :
      Runs (next answer) es a → Runs (.ask e next) (⟨e, answer⟩ :: es) a

theorem runs_done_iff {α : Type} {a b : α} {es : List Exchange} :
    Runs (.done a) es b ↔ es = [] ∧ b = a := by
  constructor
  · intro h
    cases h
    exact ⟨rfl, rfl⟩
  · rintro ⟨rfl, rfl⟩
    exact .done

theorem runs_ask_iff {α : Type} {e : Effect} {next : e.Answer → Action α} {es : List Exchange}
    {a : α} :
    Runs (.ask e next) es a ↔ ∃ answer rest, es = ⟨e, answer⟩ :: rest ∧ Runs (next answer) rest a := by
  constructor
  · intro h
    cases h with
    | ask h => exact ⟨_, _, rfl, h⟩
  · rintro ⟨answer, rest, rfl, h⟩
    exact .ask h

theorem Runs.bind {α β : Type} {x : Action α} {f : α → Action β} {es fs : List Exchange} {a : α}
    {b : β} (hx : Runs x es a) (hf : Runs (f a) fs b) : Runs (x >>= f) (es ++ fs) b := by
  induction hx with
  | done => exact hf
  | ask _ ih => exact .ask (ih hf)

/-- A run of a sequence is a run of the first part followed by one of the second. -/
theorem runs_bind_iff {α β : Type} {x : Action α} {f : α → Action β} {es : List Exchange} {b : β} :
    Runs (x >>= f) es b ↔ ∃ fs gs a, es = fs ++ gs ∧ Runs x fs a ∧ Runs (f a) gs b := by
  constructor
  · intro h
    induction x generalizing es with
    | done a => exact ⟨[], es, a, rfl, .done, h⟩
    | ask e next ih =>
      obtain ⟨answer, rest, rfl, hr⟩ := runs_ask_iff.1 h
      obtain ⟨fs, gs, a, rfl, hx, hf⟩ := ih answer hr
      exact ⟨⟨e, answer⟩ :: fs, gs, a, rfl, .ask hx, hf⟩
  · rintro ⟨fs, gs, a, rfl, hx, hf⟩
    exact hx.bind hf

theorem runs_map_iff {α β : Type} {f : α → β} {x : Action α} {es : List Exchange} {b : β} :
    Runs (f <$> x) es b ↔ ∃ a, Runs x es a ∧ b = f a := by
  rw [map_eq_pure_bind, runs_bind_iff]
  constructor
  · rintro ⟨fs, gs, a, rfl, hx, hf⟩
    obtain ⟨rfl, rfl⟩ := runs_done_iff.1 hf
    exact ⟨a, by simpa using hx, rfl⟩
  · rintro ⟨a, hx, rfl⟩
    exact ⟨es, [], a, by simp, hx, .done⟩

theorem Runs.value_unique {α : Type} {x : Action α} {es : List Exchange} {a b : α}
    (ha : Runs x es a) (hb : Runs x es b) : a = b := by
  induction ha with
  | done =>
    cases hb
    rfl
  | ask _ ih =>
    cases hb with
    | ask hb => exact ih hb

end Action

/-- A run of a sequence that may fail: the first part fails and ends it, or goes on to the second. -/
theorem Fallible.runs_bind_iff {ε α β : Type} {x : Fallible ε α} {f : α → Fallible ε β}
    {es : List Exchange} {r : Except ε β} :
    Action.Runs (x >>= f).run es r ↔
      (∃ e, Action.Runs x.run es (.error e) ∧ r = .error e) ∨
        ∃ fs gs a, es = fs ++ gs ∧ Action.Runs x.run fs (.ok a) ∧ Action.Runs (f a).run gs r := by
  have hrun : (x >>= f).run = x.run >>= fun o =>
      match o with
      | .ok a => (f a).run
      | .error e => .done (.error e) := by
    rfl
  rw [hrun, Action.runs_bind_iff]
  constructor
  · rintro ⟨fs, gs, o, rfl, hx, hf⟩
    cases o with
    | error e =>
      obtain ⟨rfl, rfl⟩ := Action.runs_done_iff.1 hf
      exact .inl ⟨e, by simpa using hx, rfl⟩
    | ok a => exact .inr ⟨fs, gs, a, rfl, hx, hf⟩
  · rintro (⟨e, hx, rfl⟩ | ⟨fs, gs, a, rfl, hx, hf⟩)
    · exact ⟨es, [], .error e, by simp, hx, .done⟩
    · exact ⟨fs, gs, .ok a, rfl, hx, hf⟩

def Exchange.sent? (x : Exchange) : Option Statement :=
  match x.effect with
  | .run s => some s
  | .control t => some ⟨t.sql, []⟩
  | _ => none

/-- The statements of a run that were sent to the database, in order. -/
def sentBy (es : List Exchange) : List Statement := es.filterMap Exchange.sent?

@[simp] theorem sentBy_nil : sentBy [] = [] := rfl

theorem sentBy_append (xs ys : List Exchange) : sentBy (xs ++ ys) = sentBy xs ++ sentBy ys := by
  simp [sentBy]

theorem mem_sentBy {x : Exchange} {st : Statement} {es : List Exchange} (hx : x ∈ es)
    (h : x.sent? = some st) : st ∈ sentBy es :=
  List.mem_filterMap.2 ⟨x, hx, h⟩

theorem mem_sentBy_of_run {x : Exchange} {st : Statement} {es : List Exchange} (hx : x ∈ es)
    (h : x.effect = .run st) : st ∈ sentBy es :=
  mem_sentBy hx (by rw [Exchange.sent?, h])

end Weblog
