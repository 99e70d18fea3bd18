import Weblog.Proofs.Fallible
import Weblog.Proofs.Route.Dispatch

/-!
# Weblog.Proofs.Route.Answer

What stands behind a response with status 200.

* `of_runs_arguments`: what arguments are, where they were gathered.
* `runs_answer_ok`: the handler gave a reply, or an error of the domain.
* `runs_dispatch_ok`: the input was decoded and every required name was there.
* `dispatch_eq_answer`: where they are, the handler is called with what it may see of the input.
-/

namespace Weblog

theorem AppError.status_ne_ok (e : AppError) : e.status ≠ 200 := by
  cases e <;> exact Nat.ne_of_beq_eq_false rfl

theorem AppError.runs_respond {e : AppError} {es : List Exchange} {response : Http.Response}
    (h : Action.Runs e.respond es response) : response = e.response := by
  unfold respond at h
  split at h
  · obtain ⟨fs, gs, u, rfl, -, hdone⟩ := Action.runs_bind_iff.1 h
    exact (Action.runs_done_iff.1 hdone).2
  · exact (Action.runs_done_iff.1 h).2

theorem AppError.status_of_runs_respond {e : AppError} {es : List Exchange}
    {response : Http.Response} (h : Action.Runs e.respond es response) : response.status ≠ 200 := by
  obtain rfl := e.runs_respond h
  exact e.status_ne_ok

theorem ApiError.template?_payload (e : ApiError) : Reply.template? e.payload = none := by
  simp [Reply.template?, payload, Fields.ofList, Reply.templateKey, Fields.get?_set]

theorem Reply.of_ofOutcome {outcome : Except AppError Reply} {reply : Reply}
    (h : ofOutcome outcome = .ok reply) :
    outcome = .ok reply ∨ ∃ err, outcome = .error (.api err) ∧ reply = .fields err.payload := by
  unfold ofOutcome at h
  split at h
  · cases h
    exact .inr ⟨_, rfl, rfl⟩
  · exact .inl h

theorem Arguments.of_runs_overlay {values fs gs : Fields} {es : List Exchange}
    (h : Action.Runs (overlay values fs) es gs) : gs = Fields.laid values fs := by
  induction values generalizing fs es with
  | nil => exact (Action.runs_done_iff.1 h).2
  | cons p rest ih =>
    rw [overlay] at h
    split at h
    · obtain ⟨xs, ys, u, rfl, -, hrest⟩ := Action.runs_bind_iff.1 h
      exact ih hrest
    · exact ih h

/-- Where arguments were gathered, the input was decoded, and they are what the handler may see of
it with the parameters of the path laid over. -/
theorem ArgSpec.of_runs_arguments {s : Signature} {pattern : String} {spec : ArgSpec}
    (hspec : s.inspect pattern = .ok spec) {path : List (String × String)} {r : Http.Request}
    {es : List Exchange} {args : Fields}
    (h : Action.Runs (spec.arguments path r).run es (.ok args)) :
    ∃ fs, s.decoded r = .ok fs ∧ args = Arguments.overlaid path (s.admitted fs) := by
  unfold arguments at h
  obtain ⟨xs, ys, input, rfl, hinput, hrest⟩ := Fallible.runs_bind_ok_iff.1 h
  obtain ⟨-, hinput⟩ := Fallible.runs_ofExcept_iff.1 hinput
  obtain ⟨zs, ws, merged, rfl, hmerge, hend⟩ := Fallible.runs_bind_ok_iff.1 hrest
  obtain ⟨gs, hmerge, hgs⟩ := Fallible.runs_lift_iff.1 hmerge
  cases hgs
  have hargs : args = merged := by
    split at hend
    · cases (Fallible.runs_throw_iff.1 hend).2
    · cases (Fallible.runs_pure_iff.1 hend).2
      rfl
  subst hargs
  have hread : spec.input r = .ok input := by
    cases hi : spec.input r with
    | error err =>
      rw [hi] at hinput
      cases hinput
    | ok i =>
      rw [hi] at hinput
      cases hinput
      rfl
  rw [ArgSpec.input, Signature.readsInput_of_inspect hspec] at hread
  cases hreads : s.readsInput with
  | false =>
    rw [hreads] at hread
    cases hread
    refine ⟨[], by rw [Signature.decoded, hreads]; rfl, ?_⟩
    rw [(Action.runs_done_iff.1 hmerge).2, Arguments.ofList_ofPath, Signature.admitted_nil]
  | true =>
    rw [hreads, if_pos rfl] at hread
    refine ⟨input.getD [], by rw [Signature.decoded, hreads, if_pos rfl, hread]; rfl, ?_⟩
    cases input with
    | none =>
      rw [(Action.runs_done_iff.1 hmerge).2, Arguments.ofList_ofPath, Option.getD_none,
        Signature.admitted_nil]
    | some fs =>
      rw [merge, Signature.keep_of_inspect hspec hreads] at hmerge
      have hsorted := Signature.sorted_admitted (Arguments.sorted_of_inputFields hread) s
      exact (Arguments.of_runs_overlay hmerge).trans (Arguments.laid_ofList_ofPath hsorted path)

namespace Entry

variable {e : Entry} {user : Option SessionUser} {render : Renderer} {r : Http.Request}
  {args : Fields} {es : List Exchange} {response : Http.Response}

/-- Behind a response with status 200 there is a reply of the handler, or an error of the domain
that is answered with its payload. -/
theorem runs_answer_ok (h : Action.Runs (e.answer user render r args) es response)
    (hok : response.status = 200) :
    ∃ fs gs, es = fs ++ gs ∧
      ((∃ err : ApiError, gs = [] ∧
          Action.Runs (e.handler (e.call user r args)).run fs (.error (.api err))) ∨
        ∃ reply, Action.Runs (e.handler (e.call user r args)).run fs (.ok reply) ∧
          Action.Runs (reply.respond user render).run gs (.ok response)) := by
  unfold answer at h
  obtain ⟨fs, gs, outcome, rfl, hhandler, hrest⟩ := Action.runs_bind_iff.1 h
  refine ⟨fs, gs, rfl, ?_⟩
  cases hout : Reply.ofOutcome outcome with
  | error err =>
    simp only [hout] at hrest
    exact absurd hok (AppError.status_of_runs_respond hrest)
  | ok reply =>
    simp only [hout] at hrest
    have hrespond : Action.Runs (reply.respond user render).run gs (.ok response) := by
      obtain ⟨gs, hs, out, rfl, hrespond, hlast⟩ := Action.runs_bind_iff.1 hrest
      cases out with
      | error err => exact absurd hok (AppError.status_of_runs_respond hlast)
      | ok result =>
        obtain ⟨rfl, rfl⟩ := Action.runs_done_iff.1 hlast
        rw [List.append_nil]
        exact hrespond
    rcases Reply.of_ofOutcome hout with rfl | ⟨err, rfl, rfl⟩
    · exact .inr ⟨reply, hhandler, hrespond⟩
    · rw [Reply.respond, ApiError.template?_payload] at hrespond
      exact .inl ⟨err, (Fallible.runs_pure_iff.1 hrespond).1, hhandler⟩

/-- A finished response of the handler is the response, and nothing more is asked. -/
theorem runs_answer (h : Action.Runs (e.answer user render r args) es response) :
    ∃ fs gs outcome, es = fs ++ gs ∧
      Action.Runs (e.handler (e.call user r args)).run fs outcome ∧
      ∀ finished, outcome = .ok (.response finished) → gs = [] ∧ response = finished := by
  unfold answer at h
  obtain ⟨fs, gs, outcome, rfl, hhandler, hrest⟩ := Action.runs_bind_iff.1 h
  refine ⟨fs, gs, outcome, rfl, hhandler, ?_⟩
  rintro finished rfl
  exact Action.runs_done_iff.1 hrest

theorem runs_answer_of_response
    (h : Action.Runs (e.handler (e.call user r args)).run es (.ok (.response response))) :
    Action.Runs (e.answer user render r args) es response := by
  rw [← List.append_nil es]
  exact h.bind .done

theorem runs_answer_of_refusal {err : ApiError}
    (h : Action.Runs (e.handler (e.call user r args)).run es (.error (.api err))) :
    Action.Runs (e.answer user render r args) es
      (.text 200 Reply.jsonType (Json.object err.payload).compact) := by
  have hrespond : (Reply.fields err.payload).respond user render =
      pure (.text 200 Reply.jsonType (Json.object err.payload).compact) := by
    simp only [Reply.respond, err.template?_payload]
  rw [← List.append_nil es]
  refine h.bind ?_
  simp only [Reply.ofOutcome, hrespond]
  exact .done

theorem run_arguments_nil {s : Signature} {pattern : String} {spec : ArgSpec}
    (hspec : s.inspect pattern = .ok spec) (r : Http.Request) :
    (spec.arguments [] r).run = .done (match s.decoded r with
      | .error err => .error (.body err)
      | .ok fs =>
        match s.missing? (s.admitted fs) with
        | some name => .error (.missingArgument name)
        | none => .ok (s.admitted fs)) := by
  have hpath : (([] : List (String × String)).map Prod.fst).Nodup := List.nodup_nil
  rw [ArgSpec.run_arguments hspec hpath]
  cases s.decoded r with
  | error err => rfl
  | ok fs => rfl

/-- Where the input is decoded and every required name is in it, the handler of a path without
parameters is called with what it may see of it. -/
theorem dispatch_eq_answer {s : Signature} {pattern : String}
    (hspec : s.inspect pattern = .ok e.spec) {fs : Fields} (hdecoded : s.decoded r = .ok fs)
    (hpresent : s.missing? (s.admitted fs) = none) :
    e.dispatch user render [] r = e.answer user render r (s.admitted fs) := by
  rw [dispatch_eq, run_arguments_nil hspec, hdecoded]
  simp only [hpresent]
  rfl

theorem runs_dispatch_ok {s : Signature} {pattern : String}
    (hspec : s.inspect pattern = .ok e.spec)
    (h : Action.Runs (e.dispatch user render [] r) es response) (hok : response.status = 200) :
    ∃ fs, s.decoded r = .ok fs ∧ Action.Runs (e.answer user render r (s.admitted fs)) es response := by
  rw [dispatch_eq, run_arguments_nil hspec] at h
  cases hdecoded : s.decoded r with
  | error err =>
    simp only [hdecoded, Action.done_bind] at h
    exact absurd hok (AppError.status_of_runs_respond h)
  | ok fs =>
    simp only [hdecoded, Action.done_bind] at h
    cases hmissing : s.missing? (s.admitted fs) with
    | some name =>
      rw [hmissing] at h
      exact absurd hok (AppError.status_of_runs_respond h)
    | none =>
      rw [hmissing] at h
      exact ⟨fs, rfl, h⟩

end Entry
end Weblog
