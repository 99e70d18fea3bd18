import Weblog.Proofs.Route.Dispatch
import Weblog.Proofs.Store.Access
import Weblog.Template.Pages

/-!
# Weblog.Proofs.Route.Access

Which statements the dispatch of a request sends: those of its handler and no others.

* `silent_arguments`, `AppError.silent_respond`, `Reply.silent_respond`: what stands before the
  handler and after it sends nothing, where the renderer does not.
* `Entry.of_runs_dispatch`: the part of a dispatch in which its handler is called.
* `Entry.sends_dispatch`: what holds of the statements of the handler holds of those of the dispatch.
* `Template.offline_renderer`: the renderer of the pages sends nothing.
-/

namespace Weblog

open Fallible

/-- The renderer asks nothing of the database. -/
def Renderer.Offline (render : Renderer) : Prop :=
  ∀ name context, (render name context).run.Silent

theorem Template.offline_renderer : Renderer.Offline Template.renderer := fun _ _ =>
  silent_bind (silent_lift Action.silent_seconds) fun _ => silent_ofExcept _

theorem Arguments.silent_overlay (values : List (String × Json)) (fs : Fields) :
    (overlay values fs).Silent := by
  induction values generalizing fs with
  | nil => exact Action.silent_done fs
  | cons p rest ih =>
    have hrest := ih (Fields.set p.1 p.2 fs)
    unfold overlay
    split
    · exact (Action.silent_log _).before fun _ => hrest
    · exact hrest

theorem ArgSpec.silent_arguments (spec : ArgSpec) (path : List (String × String))
    (r : Http.Request) : (spec.arguments path r).run.Silent := by
  refine silent_bind (silent_ofExcept _) fun input => ?_
  refine silent_bind (silent_lift ?_) fun args => ?_
  · cases input with
    | none => exact Action.silent_done _
    | some fs => exact Arguments.silent_overlay _ _
  · split
    · exact silent_throw _
    · exact silent_pure _

theorem AppError.silent_respond (e : AppError) : e.respond.Silent := by
  unfold respond
  split
  · exact (Action.silent_log _).before fun _ => Action.silent_done _
  · exact Action.silent_done _

theorem Reply.silent_respond {render : Renderer} (hrender : render.Offline)
    (user : Option SessionUser) (reply : Reply) : (reply.respond user render).run.Silent := by
  cases reply with
  | fields fs =>
    simp only [respond]
    split
    · exact silent_bind (hrender _ _) fun _ => silent_pure _
    · exact silent_pure _
  | text s => exact silent_ofExcept _
  | _ => exact silent_pure _

namespace Entry

variable {e : Entry} {render : Renderer} {R : List Statement → Prop}

theorem of_runs_answer (hrender : render.Offline) {user : Option SessionUser} {r : Http.Request}
    {args : Fields} {es : List Exchange} {response : Http.Response}
    (h : Action.Runs (e.answer user render r args) es response) :
    ∃ fs gs outcome, es = fs ++ gs ∧
      Action.Runs (e.handler (e.call user r args)).run fs outcome ∧ sentBy gs = [] := by
  unfold answer at h
  obtain ⟨fs, gs, outcome, rfl, hhandler, hrest⟩ := Action.runs_bind_iff.1 h
  refine ⟨fs, gs, outcome, rfl, hhandler, ?_⟩
  refine (?_ : Action.Silent _) gs response hrest
  cases Reply.ofOutcome outcome with
  | error err => exact err.silent_respond
  | ok reply =>
    refine (reply.silent_respond hrender user).before fun out => ?_
    cases out with
    | ok response => exact Action.silent_done response
    | error err => exact err.silent_respond

/-- A dispatch sends nothing, or it calls the handler with the arguments that it gathered and sends
nothing before and after that. -/
theorem of_runs_dispatch (hrender : render.Offline) {user : Option SessionUser}
    {r : Http.Request} {path : List (String × String)} {es : List Exchange}
    {response : Http.Response} (h : Action.Runs (e.dispatch user render path r) es response) :
    sentBy es = [] ∨ ∃ before fs after args outcome, es = before ++ fs ++ after ∧
      Action.Runs (e.spec.arguments path r).run before (.ok args) ∧ sentBy before = [] ∧
      Action.Runs (e.handler (e.call user r args)).run fs outcome ∧ sentBy after = [] := by
  rw [dispatch_eq] at h
  obtain ⟨before, rest, outcome, rfl, harguments, hrest⟩ := Action.runs_bind_iff.1 h
  have hbefore := e.spec.silent_arguments path r before outcome harguments
  cases outcome with
  | error err =>
    refine .inl ?_
    rw [sentBy_append, hbefore, err.silent_respond rest response hrest]
    rfl
  | ok args =>
    obtain ⟨fs, after, out, rfl, hhandler, hafter⟩ := of_runs_answer hrender hrest
    exact .inr ⟨before, fs, after, args, out, (List.append_assoc _ _ _).symm, harguments, hbefore,
      hhandler, hafter⟩

/-- What holds of the statements of a handler, whatever it is called with, holds of those of the
dispatch. -/
theorem sends_dispatch (hrender : render.Offline) (hnil : R []) {user : Option SessionUser}
    {r : Http.Request} (h : ∀ args, (e.handler (e.call user r args)).run.Sends R)
    (path : List (String × String)) : (e.dispatch user render path r).Sends R := by
  intro es response hruns
  rcases of_runs_dispatch hrender hruns with
    hnone | ⟨before, fs, after, args, outcome, rfl, -, hbefore, hhandler, hafter⟩
  · rwa [hnone]
  · rw [sentBy_append, sentBy_append, hbefore, hafter, List.nil_append, List.append_nil]
    exact h args fs outcome hhandler

end Entry
end Weblog
