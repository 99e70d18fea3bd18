import Mathlib.Data.List.Forall2
import Weblog.Proofs.Action
import Weblog.Proofs.Store.Access

/-!
# Weblog.Proofs.Alike

Two runs side by side.

* `Action.Alike`: two actions ask the same and, after answers that are alike, go on alike, to values
  that stand in a relation. Which answers are alike is a parameter.
* `Alike.of_runs`: as long as the answers are alike, their runs ask the same and end in such values.
* `SameOutcome`, `Fallible.Alike`: the same of actions that may fail, which then fail alike.
* `alike_self`: what sends nothing is alike itself, where answers to all but statements are alike
  only if they are the same.
-/

namespace Weblog

/-- Which answers to an effect are alike. -/
abbrev Likeness : Type := (e : Effect) → e.Answer → e.Answer → Prop

/-- The same was asked, and the answers are alike. -/
inductive Exchange.Alike (A : Likeness) : Exchange → Exchange → Prop where
  | mk {e : Effect} {answer answer' : e.Answer} : A e answer answer' →
      Exchange.Alike A ⟨e, answer⟩ ⟨e, answer'⟩

/-- As long as two runs ask the same, they get answers that are alike. -/
def AnswersAlike (A : Likeness) : List Exchange → List Exchange → Prop
  | x :: es, y :: fs => x.effect = y.effect → x.Alike A y ∧ AnswersAlike A es fs
  | _, _ => True

theorem AnswersAlike.refl {A : Likeness} (hA : ∀ e answer, A e answer answer) (es : List Exchange) :
    AnswersAlike A es es := by
  induction es with
  | nil => trivial
  | cons x es ih => exact fun _ => ⟨.mk (hA x.effect x.answer), ih⟩

/-- The statement that is sent where an effect is asked. -/
def Effect.sent? : Effect → Option Statement
  | .run st => some st
  | .control t => some ⟨t.sql, []⟩
  | _ => none

theorem sentBy_eq (es : List Exchange) :
    sentBy es = (es.map Exchange.effect).filterMap Effect.sent? := by
  rw [List.filterMap_map]
  rfl

/-- What a run sends shows in what it asks. -/
theorem sentBy_congr {es fs : List Exchange}
    (h : es.map Exchange.effect = fs.map Exchange.effect) : sentBy es = sentBy fs := by
  rw [sentBy_eq, sentBy_eq, h]

namespace Action

variable {A : Likeness} {α β γ δ : Type} {R : α → β → Prop} {S : γ → δ → Prop}

/-- Two actions ask the same, and after answers that are alike they go on alike. -/
inductive Alike (A : Likeness) {α β : Type} (R : α → β → Prop) : Action α → Action β → Prop where
  | done {a : α} {b : β} : R a b → Alike A R (.done a) (.done b)
  | ask {e : Effect} {next : e.Answer → Action α} {next' : e.Answer → Action β} :
      (∀ answer answer', A e answer answer' → Alike A R (next answer) (next' answer')) →
      Alike A R (.ask e next) (.ask e next')

/-- As long as the answers are alike, two runs ask the same and end in values that stand in the
relation. -/
theorem Alike.of_runs {x : Action α} {y : Action β} {es fs : List Exchange} {a : α} {b : β}
    (h : Alike A R x y) (hx : Runs x es a) (hy : Runs y fs b) (hanswers : AnswersAlike A es fs) :
    es.map Exchange.effect = fs.map Exchange.effect ∧ R a b := by
  -- both runs are taken apart at once: they ask the same first, so the answers are alike
  induction h generalizing es fs with
  | done hab =>
    obtain ⟨rfl, rfl⟩ := runs_done_iff.1 hx
    obtain ⟨rfl, rfl⟩ := runs_done_iff.1 hy
    exact ⟨rfl, hab⟩
  | @ask e _ _ _ ih =>
    obtain ⟨answer, es, rfl, hnext⟩ := runs_ask_iff.1 hx
    obtain ⟨answer', fs, rfl, hnext'⟩ := runs_ask_iff.1 hy
    obtain ⟨halike, hrest⟩ := hanswers rfl
    cases halike with
    | mk hA =>
      obtain ⟨heffects, hab⟩ := ih answer answer' hA hnext hnext' hrest
      exact ⟨congrArg (List.cons e) heffects, hab⟩

theorem Alike.bind {x : Action α} {y : Action β} {f : α → Action γ} {g : β → Action δ}
    (h : Alike A R x y) (hf : ∀ a b, R a b → Alike A S (f a) (g b)) :
    Alike A S (x >>= f) (y >>= g) := by
  induction h with
  | done hab => exact hf _ _ hab
  | ask _ ih => exact .ask ih

theorem Alike.mono {x : Action α} {y : Action β} {T : α → β → Prop} (h : Alike A R x y)
    (hR : ∀ a b, R a b → T a b) : Alike A T x y := by
  induction h with
  | done hab => exact .done (hR _ _ hab)
  | ask _ ih => exact .ask ih

theorem Alike.map {x : Action α} {y : Action β} {f : α → γ} {g : β → δ} (h : Alike A R x y)
    (hf : ∀ a b, R a b → S (f a) (g b)) : Alike A S (f <$> x) (g <$> y) := by
  rw [map_eq_pure_bind, map_eq_pure_bind]
  exact h.bind fun a b hab => .done (hf a b hab)

/-- The values are those of runs. -/
theorem Alike.reached {x : Action α} {y : Action β} (h : Alike A R x y) :
    Alike A (fun a b => R a b ∧ ∃ es, Runs x es a) x y := by
  induction h with
  | done hab => exact .done ⟨hab, [], .done⟩
  | ask _ ih =>
    refine .ask fun answer answer' hA => (ih answer answer' hA).mono ?_
    rintro a b ⟨hab, es, hruns⟩
    exact ⟨hab, _, .ask hruns⟩

/-- An answer that says nothing. -/
def emptyAnswer : (e : Effect) → e.Answer
  | .connect | .run _ | .control _ => .error .withheld
  | .close | .log _ => ()
  | .isClosed => false
  | .clock => (0 : Int)
  | .uuid => []
  | .draw _ => .null

theorem Silent.of_ask {e : Effect} {next : e.Answer → Action α} (h : (Action.ask e next).Silent) :
    (∀ st, e ≠ .run st) ∧ ∀ answer, (next answer).Silent := by
  constructor
  · rintro st rfl
    -- some run of the rest shows that the statement is sent
    obtain ⟨es, a, hrun, -⟩ := (next (.error .withheld)).exists_runs_answered fun _ => emptyAnswer
    cases h _ a (.ask hrun)
  · intro answer es a hrun
    have hnone := List.filterMap_eq_nil_iff.1 (h _ a (.ask hrun))
    exact List.filterMap_eq_nil_iff.2 fun x hx => hnone x (List.mem_cons_of_mem _ hx)

/-- What sends nothing is alike itself, where the answers to all but statements are alike only if
they are the same. -/
theorem alike_self (hA : ∀ e answer answer', (∀ st, e ≠ .run st) → A e answer answer' →
    answer = answer') {x : Action α} (hx : x.Silent) : Alike A Eq x x := by
  induction x with
  | done a => exact .done rfl
  | ask e next ih =>
    obtain ⟨hrun, hnext⟩ := hx.of_ask
    refine .ask fun answer answer' halike => ?_
    obtain rfl := hA e answer answer' hrun halike
    exact ih answer (hnext answer)

end Action

/-- Both fail with the same error, or both yield values that stand in a relation. -/
inductive SameOutcome {ε α β : Type} (R : α → β → Prop) : Except ε α → Except ε β → Prop where
  | error (e : ε) : SameOutcome R (.error e) (.error e)
  | ok {a : α} {b : β} : R a b → SameOutcome R (.ok a) (.ok b)

namespace SameOutcome

variable {ε α β γ δ : Type} {R : α → β → Prop} {S : γ → δ → Prop}

theorem of_eq {R : α → α → Prop} (hR : ∀ a, R a a) {x y : Except ε α} (h : x = y) :
    SameOutcome R x y := by
  subst h
  cases x with
  | error e => exact .error e
  | ok a => exact .ok (hR a)

theorem mono {T : α → β → Prop} {x : Except ε α} {y : Except ε β} (h : SameOutcome R x y)
    (hR : ∀ a b, R a b → T a b) : SameOutcome T x y := by
  cases h with
  | error e => exact .error e
  | ok hab => exact .ok (hR _ _ hab)

theorem with_values {x : Except ε α} {y : Except ε β} (h : SameOutcome R x y) :
    SameOutcome (fun a b => R a b ∧ x = .ok a ∧ y = .ok b) x y := by
  cases h with
  | error e => exact .error e
  | ok hab => exact .ok ⟨hab, rfl, rfl⟩

/-- Of two lists that are read item by item. -/
theorem cons {x : Except ε α} {y : Except ε β} {xs : Except ε (List α)} {ys : Except ε (List β)}
    (h : SameOutcome R x y) (hrest : SameOutcome (List.Forall₂ R) xs ys) :
    SameOutcome (List.Forall₂ R) (x >>= fun a => xs.map (a :: ·))
      (y >>= fun b => ys.map (b :: ·)) := by
  cases h with
  | error e => exact .error e
  | ok hab =>
    cases hrest with
    | error e => exact .error e
    | ok habs => exact .ok (.cons hab habs)

end SameOutcome

namespace Fallible

variable {A : Likeness} {ε ε' α β γ δ : Type} {R : α → β → Prop} {S : γ → δ → Prop}

/-- Two actions ask the same, go on alike after answers that are alike, and end alike. -/
def Alike (A : Likeness) (R : α → β → Prop) (x : Fallible ε α) (y : Fallible ε β) : Prop :=
  Action.Alike A (SameOutcome R) x.run y.run

theorem alike_ofExcept {x : Except ε α} {y : Except ε β} (h : SameOutcome R x y) :
    Alike A R (ofExcept x) (ofExcept y) := .done h

theorem alike_pure {a : α} {b : β} (h : R a b) :
    Alike A R (pure a : Fallible ε α) (pure b) := .done (.ok h)

theorem alike_throw (e : ε) : Alike A R (throw e : Fallible ε α) (throw e : Fallible ε β) :=
  .done (.error e)

theorem alike_lift {x : Action α} {y : Action β} (h : Action.Alike A R x y) :
    Alike A R (lift x : Fallible ε α) (lift y) :=
  Action.Alike.map h fun _ _ hab => .ok hab

theorem Alike.mapError {x : Fallible ε α} {y : Fallible ε β} (h : Alike A R x y) (f : ε → ε') :
    Alike A R (mapError f x) (mapError f y) := by
  refine Action.Alike.map h fun out out' hout => ?_
  cases hout with
  | error e => exact .error (f e)
  | ok hab => exact .ok hab

theorem Alike.bind {x : Fallible ε α} {y : Fallible ε β} {f : α → Fallible ε γ}
    {g : β → Fallible ε δ} (h : Alike A R x y) (hf : ∀ a b, R a b → Alike A S (f a) (g b)) :
    Alike A S (x >>= f) (y >>= g) := by
  refine Action.Alike.bind h fun out out' hout => ?_
  cases hout with
  | error e => exact .done (.error e)
  | ok hab => exact hf _ _ hab

theorem Alike.bind_same {x y : Fallible ε α} {f : α → Fallible ε γ} {g : α → Fallible ε δ}
    (h : Alike A Eq x y) (hf : ∀ a, Alike A S (f a) (g a)) : Alike A S (x >>= f) (y >>= g) :=
  h.bind fun a _ hab => hab ▸ hf a

theorem Alike.mono {x : Fallible ε α} {y : Fallible ε β} {T : α → β → Prop} (h : Alike A R x y)
    (hR : ∀ a b, R a b → T a b) : Alike A T x y :=
  Action.Alike.mono h fun _ _ hout => hout.mono hR

end Fallible
end Weblog
