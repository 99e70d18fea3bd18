import Weblog.Proofs.Route.Arguments
import Weblog.Route.Dispatch

/-!
# Weblog.Proofs.Route.Dispatch

When a handler is called, and with what.

* `Entry.answer`: the call of a handler with arguments, and the response made of its outcome.
* `dispatch_eq`: a dispatch gathers the arguments, and then answers their error or calls the handler.
* `Entry.receive`, `exists_dispatch_eq`: what is made of arguments, and of a request whose input is
  decoded.
* `dispatch_arguments`: for every signature and request, whether the handler is called, its
  arguments, the lines of the log, and the response where it is not called.
-/

namespace Weblog
namespace Entry

/-- Calls the handler with arguments and makes the response of its outcome. -/
def answer (e : Entry) (user : Option SessionUser) (render : Renderer) (r : Http.Request)
    (args : Fields) : Action Http.Response := do
  match Reply.ofOutcome (← (e.handler (e.call user r args)).run) with
  | .error err => err.respond
  | .ok reply =>
    match ← (reply.respond user render).run with
    | .ok response => return response
    | .error err => err.respond

/-- A dispatch gathers the arguments, and then answers their error or calls the handler. -/
theorem dispatch_eq (e : Entry) (user : Option SessionUser) (render : Renderer)
    (path : List (String × String)) (r : Http.Request) :
    e.dispatch user render path r = (e.spec.arguments path r).run >>= fun outcome =>
      match outcome with
      | .error err => err.respond
      | .ok args => e.answer user render r args := by
  have hrun : (e.run user render path r).run = (e.spec.arguments path r).run >>= fun outcome =>
      match outcome with
      | .error err => .done (.error err)
      | .ok args => (e.handler (e.call user r args)).run >>= fun replied =>
          match Reply.ofOutcome replied with
          | .error err => .done (.error err)
          | .ok reply => (reply.respond user render).run := by
    rw [run, ExceptT.run_bind]
    congr 1
    funext outcome
    cases outcome with
    | error err => rfl
    | ok args =>
      refine (ExceptT.run_bind_lift _ _).trans ?_
      congr 1
      funext replied
      cases Reply.ofOutcome replied with
      | error err => rfl
      | ok reply => rfl
  rw [dispatch, hrun, bind_assoc]
  congr 1
  funext outcome
  cases outcome with
  | error err => rfl
  | ok args =>
    simp only [bind_assoc, answer]
    congr 1
    funext replied
    cases Reply.ofOutcome replied with
    | error err => rfl
    | ok reply => rfl

/-- What an entry makes of arguments: the first required name that is not among them is the error,
and where there is none the handler is called. -/
def receive (e : Entry) (user : Option SessionUser) (render : Renderer) (r : Http.Request)
    (args : Fields) : Action Http.Response :=
  match e.spec.missing? args with
  | some name => (AppError.missingArgument name).respond
  | none => e.answer user render r args

/-- Where the input is decoded, some parameters of the path are noted, and the entry receives them
laid over what is kept of it. -/
theorem exists_dispatch_eq {e : Entry} {r : Http.Request} {input : Option Fields}
    (h : e.spec.input r = .ok input) (path : List (String × String)) :
    ∃ noted : List (String × String), noted.Sublist path ∧ ∀ user render,
      e.dispatch user render path r =
        noted.forM (fun _ => Action.log .duplicateArgument) >>= fun _ =>
          e.receive user render r (Arguments.overlaid path (e.spec.keep (input.getD []))) := by
  obtain ⟨noted, hsub, hrun⟩ := ArgSpec.run_arguments_of_input h path
  refine ⟨noted, hsub, ?_⟩
  intro user render
  rw [dispatch_eq, hrun, bind_assoc]
  congr 1
  funext _
  rw [Action.done_bind, ArgSpec.settle, receive]
  cases e.spec.missing? (Arguments.overlaid path (e.spec.keep (input.getD []))) <;> rfl

theorem arguments_congr {s : Signature} {pattern : String} {spec : ArgSpec}
    (hspec : s.inspect pattern = .ok spec) {path : List (String × String)}
    (hpath : (path.map Prod.fst).Nodup) {r r' : Http.Request} {fs fs' : Fields}
    (hfs : s.decoded r = .ok fs) (hfs' : s.decoded r' = .ok fs')
    (h : s.admitted fs = s.admitted fs') : spec.arguments path r = spec.arguments path r' := by
  have hrun : (spec.arguments path r).run = (spec.arguments path r').run := by
    rw [ArgSpec.run_arguments hspec hpath, ArgSpec.run_arguments hspec hpath, hfs, hfs']
    simp only [ArgSpec.outcome, h]
  exact hrun

/-- For every signature that is accepted, every request and all parameters of a path with distinct
names: where the input cannot be decoded, the response says so and the handler is not called.
Otherwise the parameters are noted whose names what the handler may see of the input has as well,
and its arguments are that input with the parameters in place. The handler is called with them
unless a required name is missing, of which the response names the first. A handler that declares
no names gets the parameters alone, and one that does not take every name cannot tell two requests
apart whose input agrees on the names it declares. -/
theorem dispatch_arguments {s : Signature} {pattern : String} {e : Entry}
    (hspec : s.inspect pattern = .ok e.spec) {path : List (String × String)}
    (hpath : (path.map Prod.fst).Nodup) (user : Option SessionUser) (render : Renderer)
    (r : Http.Request) :
    (∀ err, s.decoded r = .error err →
      e.dispatch user render path r = .done (.json 400 (.ofFields [("error", .string "bad_request"),
        ("data", .string ""), ("message", .string ("bad request: " ++ err.message))]))) ∧
    (∀ fs, s.decoded r = .ok fs →
      ∃ args : Fields, args.Sorted ∧
        (∀ name, Fields.get? name args =
          ((path.lookup name).map Json.string).or (Fields.get? name (s.admitted fs))) ∧
        e.dispatch user render path r =
          (path.filter fun p => Fields.has p.1 (s.admitted fs)).forM
              (fun _ => Action.log .duplicateArgument) >>= fun _ =>
            match s.required.find? fun name => !Fields.has name args with
            | some name =>
              .done (.json 400 (.ofFields [("error", .string "value:missing"),
                ("data", .string name), ("message", .string ("Missing argument: " ++ name))]))
            | none => e.answer user render r args) ∧
    (s.readsInput = false → e.dispatch user render path r =
      e.answer user render r (Fields.ofList (Arguments.ofPath path))) ∧
    (∀ r' fs fs', s.takesAll = false → s.decoded r = .ok fs → s.decoded r' = .ok fs' →
      (∀ name ∈ s.named, Fields.get? name fs = Fields.get? name fs') →
      e.spec.arguments path r = e.spec.arguments path r') := by
  have hrun := ArgSpec.run_arguments hspec hpath r
  refine ⟨?undecoded, ?decoded, ?unread, ?agreeing⟩
  case undecoded =>
    intro err hdecoded
    rw [dispatch_eq, hrun, hdecoded]
    rfl
  case decoded =>
    intro fs hdecoded
    have hsorted := Signature.sorted_admitted (Signature.sorted_of_decoded hdecoded) s
    refine ⟨Arguments.overlaid path (s.admitted fs), Arguments.sorted_overlaid hsorted path,
      Arguments.get?_overlaid hpath (s.admitted fs), ?_⟩
    rw [dispatch_eq, hrun, hdecoded]
    simp only [bind_assoc, Action.done_bind, ArgSpec.outcome, Signature.missing?]
    congr 1
    funext _
    cases s.required.find? fun name =>
        !Fields.has name (Arguments.overlaid path (s.admitted fs)) with
    | none => rfl
    | some name => rfl
  case unread =>
    intro hreads
    have hdecoded : s.decoded r = .ok [] := by
      rw [Signature.decoded, hreads]
      rfl
    have houtcome : ArgSpec.outcome s path [] = .ok (Arguments.overlaid path []) := by
      rw [ArgSpec.outcome, Signature.missing?, Signature.required_eq_nil hreads,
        Signature.admitted_nil]
      rfl
    rw [dispatch_eq, hrun, hdecoded]
    simp only [Signature.admitted_nil, Arguments.noteRepeated, Arguments.repeated_nil, houtcome,
      Arguments.ofList_ofPath]
    rfl
  case agreeing =>
    intro r' fs fs' htakes hfs hfs' hagree
    exact arguments_congr hspec hpath hfs hfs' (Signature.admitted_congr
      (Signature.sorted_of_decoded hfs) (Signature.sorted_of_decoded hfs') htakes hagree)

/-- A route with a parameter in its path that is required, and an optional one. -/
def pagedSignature : Signature := [⟨"id", .keyword true⟩, ⟨"page", .keyword false⟩]

def paged : Entry := ⟨.get, "/:id", pagedSignature.spec, fun _ => pure (.status 204)⟩

/-- A request whose query names the parameter of the path, the other one and one more. -/
def pagedRequest : Http.Request :=
  .make .get ⟨"", "/7", some "id=1&page=2&other=3"⟩ [] .empty

theorem dispatch_arguments_paged :
    ∃ args : Fields,
      Fields.get? "id" args = some (.string "7") ∧ Fields.get? "page" args = some (.string "2") ∧
      Fields.get? "other" args = none ∧
      paged.dispatch none (fun _ _ => pure "") [("id", "7")] pagedRequest =
        Action.log .duplicateArgument >>= fun _ =>
          paged.answer none (fun _ _ => pure "") pagedRequest args := by
  have hdecoded : pagedSignature.decoded pagedRequest =
      .ok [("id", .string "1"), ("other", .string "3"), ("page", .string "2")] := rfl
  have hspec : pagedSignature.inspect "/:id" = .ok paged.spec := rfl
  have hpath : ([("id", "7")].map Prod.fst).Nodup := by decide
  obtain ⟨-, hread, -, -⟩ :=
    dispatch_arguments (e := paged) hspec hpath none (fun _ _ => pure "") pagedRequest
  obtain ⟨args, -, hargs, hdispatch⟩ := hread _ hdecoded
  have hid : Fields.get? "id" args = some (.string "7") := hargs "id"
  have hfound : (pagedSignature.required.find? fun name => !Fields.has name args) = none := by
    simp [Signature.required, pagedSignature, Param.required?, Fields.has, hid]
  refine ⟨args, hid, hargs "page", hargs "other", hdispatch.trans ?_⟩
  rw [hfound]
  rfl

end Entry
end Weblog
