import Weblog.Action.Trace

/-!
# Weblog.Proofs.Fallible

Runs of actions that may fail, by what they are made of.

* `runs_perform_iff`: one effect is one exchange.
* `runs_bind_ok_iff`: a sequence that does not fail is one whose parts do not.
* `append_inj`, `bind_iff`: the exchanges of a run are not the beginning of those of another one, so
  that a run of two parts is cut where a run of the first ends.
-/

namespace Weblog

theorem Action.runs_perform_iff {e : Effect} {a : e.Answer} {es : List Exchange} :
    Runs (perform e) es a ↔ es = [⟨e, a⟩] := by
  constructor
  · intro h
    obtain ⟨answer, rest, rfl, hrest⟩ := runs_ask_iff.1 h
    obtain ⟨rfl, rfl⟩ := runs_done_iff.1 hrest
    rfl
  · rintro rfl
    exact .ask .done

/-- An action that comes to its end without asking for anything is at its end. -/
theorem Action.eq_done_of_runs {α : Type} {x : Action α} {a : α} (h : Runs x [] a) :
    x = .done a := by
  cases h
  rfl

theorem Action.runs_seconds_iff {n : Int} {es : List Exchange} :
    Runs seconds es n ↔ ∃ millis : Int, es = [⟨.clock, millis⟩] ∧ n = millis / 1000 := by
  constructor
  · intro h
    obtain ⟨millis, rest, rfl, hdone⟩ := runs_ask_iff.1 h
    obtain ⟨rfl, rfl⟩ := runs_done_iff.1 hdone
    exact ⟨millis, rfl, rfl⟩
  · rintro ⟨millis, rfl, rfl⟩
    exact .ask .done

namespace Fallible

variable {ε δ α β : Type} {es : List Exchange}

theorem runs_pure_iff {a : α} {out : Except ε α} :
    Action.Runs (pure a : Fallible ε α).run es out ↔ es = [] ∧ out = .ok a :=
  Action.runs_done_iff

theorem runs_throw_iff {e : ε} {out : Except ε α} :
    Action.Runs (throw e : Fallible ε α).run es out ↔ es = [] ∧ out = .error e :=
  Action.runs_done_iff

theorem runs_ofExcept_iff {x out : Except ε α} :
    Action.Runs (ofExcept x : Fallible ε α).run es out ↔ es = [] ∧ out = x :=
  Action.runs_done_iff

theorem runs_lift_iff {x : Action α} {out : Except ε α} :
    Action.Runs (lift x : Fallible ε α).run es out ↔ ∃ a, Action.Runs x es a ∧ out = .ok a := by
  rw [run_lift, Action.runs_map_iff]

theorem runs_mapError_iff {f : ε → δ} {x : Fallible ε α} {out : Except δ α} :
    Action.Runs (mapError f x).run es out ↔
      ∃ r, Action.Runs x.run es r ∧ out = Except.mapError f r := by
  rw [run_mapError, Action.runs_map_iff]

/-- A sequence that does not fail is one whose parts do not. -/
theorem runs_bind_ok_iff {x : Fallible ε α} {f : α → Fallible ε β} {b : β} :
    Action.Runs (x >>= f).run es (.ok b) ↔
      ∃ fs gs a, es = fs ++ gs ∧ Action.Runs x.run fs (.ok a) ∧ Action.Runs (f a).run gs (.ok b) := by
  rw [runs_bind_iff]
  constructor
  · rintro (⟨e, -, he⟩ | h)
    · cases he
    · exact h
  · exact .inr

end Fallible

/-- The exchanges of a run are not the beginning of those of another one. -/
theorem Action.Runs.append_inj {α : Type} {x : Action α} {es fs es' fs' : List Exchange} {a a' : α}
    (h : Runs x es a) (h' : Runs x es' a') (he : es ++ fs = es' ++ fs') : es = es' ∧ fs = fs' := by
  induction h generalizing es' with
  | done =>
    obtain ⟨rfl, -⟩ := runs_done_iff.1 h'
    exact ⟨rfl, he⟩
  | ask hnext ih =>
    obtain ⟨answer, rest, rfl, hrest⟩ := runs_ask_iff.1 h'
    rw [List.cons_append, List.cons_append] at he
    injection he with hx he
    cases hx
    obtain ⟨rfl, hfs⟩ := ih hrest he
    exact ⟨rfl, hfs⟩

/-- After a run of the first part, a run of both is one of the second. -/
theorem Action.Runs.bind_iff {α β : Type} {x : Action α} {f : α → Action β} {es fs : List Exchange}
    {a : α} (h : Runs x es a) {b : β} : Runs (x >>= f) (es ++ fs) b ↔ Runs (f a) fs b := by
  constructor
  · intro hboth
    obtain ⟨gs, hs, a', he, hx, hf⟩ := runs_bind_iff.1 hboth
    obtain ⟨rfl, rfl⟩ := h.append_inj hx he
    rwa [h.value_unique hx]
  · exact h.bind

end Weblog
