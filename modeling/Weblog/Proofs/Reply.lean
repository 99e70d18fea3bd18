import Weblog.Proofs.Fallible
import Weblog.Proofs.Http.HeaderText
import Weblog.Proofs.Json.Fields
import Weblog.Reply

/-!
# Weblog.Proofs.Reply

What responses are made of replies.

* `Reply.AsksFor`: fields that name a page by a string.
* `IsContext`: the context of a page: the fields with the user of the session.
* `Renderer.marked`: a renderer that announces each of its calls to the world.
* `run_respond_of_template?`, `run_respond_of_not_asksFor`: what is asked of the world for a response
  is what one call of the renderer asks for, or nothing.
* `respond_normalized`: when the renderer is called and with what, when there is no response, and
  what the response is.
-/

namespace Weblog

/-- A renderer that asks something of the world at each call, before it renders. -/
def Renderer.marked (mark : String → Json → Effect) (render : Renderer) : Renderer :=
  fun name context => do
    let _ ← Fallible.lift (Action.perform (mark name context))
    render name context

theorem Renderer.runs_marked_iff {mark : String → Json → Effect} {render : Renderer}
    {name : String} {context : Json} {es : List Exchange} {out : Except AppError String} :
    Action.Runs (render.marked mark name context).run es out ↔
      ∃ answer rest, es = ⟨mark name context, answer⟩ :: rest ∧
        Action.Runs (render name context).run rest out := by
  have hrun : (render.marked mark name context).run =
      Action.perform (mark name context) >>= fun _ => (render name context).run :=
    ExceptT.run_bind_lift _ _
  rw [hrun]
  exact Action.runs_ask_iff

/-- The context of a page: the user of the session under its key, null where there is none, and all
other fields as they are. -/
structure IsContext (user : Option SessionUser) (fs context : Fields) : Prop where
  user_eq : Fields.get? "__user__" context =
    some (match user with | some u => u.toJson | none => .null)
  other_eq : ∀ key, key ≠ "__user__" → Fields.get? key context = Fields.get? key fs
  sorted : fs.Sorted → context.Sorted

theorem isContext_set (user : Option SessionUser) (fs : Fields) :
    IsContext user fs (Fields.set Reply.userKey (Reply.userValue user) fs) where
  user_eq := by
    cases user <;> exact Fields.get?_set_self _ _ _
  other_eq := fun _ hne => Fields.get?_set_of_ne hne _ _
  sorted := fun h => h.set _ _

namespace Reply

variable {user : Option SessionUser} {render : Renderer} {reply : Reply} {name : String}
  {fs : Fields} {es : List Exchange}

/-- The reply is fields that name a page by a string. -/
def AsksFor (reply : Reply) (name : String) (fs : Fields) : Prop :=
  reply = .fields fs ∧ Fields.get? "__template__" fs = some (.string name)

theorem template?_eq_some_iff :
    template? fs = some name ↔ Fields.get? "__template__" fs = some (.string name) := by
  rw [template?, Option.bind_eq_some_iff]
  constructor
  · rintro ⟨v, hv, hname⟩
    cases v <;> simp_all [Json.text?, templateKey]
  · intro h
    exact ⟨_, h, rfl⟩

theorem redirectTarget?_eq_some_iff {s location : String} :
    redirectTarget? s = some location ↔ s = "redirect:" ++ location := by
  have htext : ∀ rest : String, ("redirect:" ++ rest).toList = redirectMark.toList ++ rest.toList :=
    fun rest => String.toList_append
  have hdrop : ∀ rest : List Char, (redirectMark.toList ++ rest).drop redirectMark.length = rest :=
    fun rest => List.drop_left' String.length_toList
  unfold redirectTarget?
  constructor
  · intro h
    split at h
    · rename_i hmark
      obtain ⟨rest, hrest⟩ := List.isPrefixOf_iff_prefix.1 hmark
      rw [← hrest, hdrop] at h
      rw [← Option.some.inj h, ← String.toList_inj, htext, ← hrest, String.toList_ofList]
    · cases h
  · rintro rfl
    rw [if_pos (List.isPrefixOf_iff_prefix.2 (htext location ▸ List.prefix_append _ _)), htext,
      hdrop, String.ofList_toList]

/-- What becomes of a page. -/
def ofRendered (page : Except AppError String) : Except AppError Http.Response :=
  page.map (.text 200 "text/html;charset=utf-8")

/-- For a page the world is asked what one call of the renderer asks. -/
theorem run_respond_of_template? (h : template? fs = some name) (user : Option SessionUser)
    (render : Renderer) : ((Reply.fields fs).respond user render).run =
      ofRendered <$> (render name (pageContext user fs)).run := by
  simp only [respond, h]
  rw [pageResponse, ExceptT.run_bind, map_eq_pure_bind]
  congr 1
  funext page
  cases page <;> rfl

theorem template?_eq_none (h : ∀ name fs', ¬ (Reply.fields fs).AsksFor name fs') :
    template? fs = none :=
  Option.eq_none_iff_forall_ne_some.2 fun name hname =>
    h name fs ⟨rfl, template?_eq_some_iff.1 hname⟩

/-- For everything else nothing is asked, and the outcome is the same for all renderers. -/
theorem run_respond_of_not_asksFor (h : ∀ name fs, ¬ reply.AsksFor name fs)
    (user : Option SessionUser) :
    ∃ out, ∀ render, (reply.respond user render).run = .done out := by
  cases reply with
  | fields fs =>
    refine ⟨.ok (.text 200 jsonType (Json.object fs).compact), fun render => ?_⟩
    simp only [respond, template?_eq_none h]
    rfl
  | response | bytes | text | status | statusMessage | value => exact ⟨_, fun _ => rfl⟩

/-- A redirection is refused unless a header may hold its location. -/
theorem run_respond_redirect (location : String) (user : Option SessionUser) (render : Renderer) :
    ((Reply.text ("redirect:" ++ location)).respond user render).run =
      .done (if Http.IsHeaderText location
        then .ok ⟨302, [⟨"location", Text.Utf8.bytesOf location⟩], []⟩
        else .error (.badRequest ("invalid redirect target: " ++ location))) := by
  simp only [respond, textResponse, redirectTarget?_eq_some_iff.2 rfl]
  by_cases h : Http.IsHeaderText location
  · simp only [Http.headerValue?_eq_some h, if_pos h]
    rfl
  · have hnone : Http.headerValue? location = none := Option.eq_none_iff_forall_ne_some.2
      fun octets hsome => h (Http.headerValue?_eq_some_iff.1 hsome).1
    simp only [hnone, if_neg h]
    rfl

theorem isStatus_iff {code : Nat} : isStatus code = true ↔ 100 ≤ code ∧ code ≤ 599 := by
  simp [isStatus]
  omega

theorem rendered_of_asksFor (h : reply.AsksFor name fs) (user : Option SessionUser)
    (render : Renderer) : ∃ context, IsContext user fs context ∧
      (∀ es out, Action.Runs (reply.respond user render).run es out ↔
        ∃ page, Action.Runs (render name (.object context)).run es page ∧ out = ofRendered page) ∧
      ∀ mark es out, Action.Runs (reply.respond user (render.marked mark)).run es out ↔
        ∃ answer rest, es = ⟨mark name (.object context), answer⟩ :: rest ∧
          Action.Runs (reply.respond user render).run rest out := by
  obtain ⟨rfl, htemplate⟩ := h
  have hcalled := run_respond_of_template? (template?_eq_some_iff.2 htemplate) user
  refine ⟨_, isContext_set user fs, ?_, ?_⟩
  · intro es out
    rw [hcalled render, Action.runs_map_iff]
    rfl
  · intro mark es out
    rw [hcalled (render.marked mark), hcalled render, Action.runs_map_iff]
    simp only [Renderer.runs_marked_iff, Action.runs_map_iff]
    constructor
    · rintro ⟨page, ⟨answer, rest, rfl, hpage⟩, rfl⟩
      exact ⟨answer, rest, rfl, page, hpage, rfl⟩
    · rintro ⟨answer, rest, rfl, page, hpage, rfl⟩
      exact ⟨page, ⟨answer, rest, rfl, hpage⟩, rfl⟩

theorem ofRendered_eq_error_iff {page : Except AppError String} {err : AppError} :
    ofRendered page = .error err ↔ page = .error err := by
  cases page <;> simp [ofRendered, Except.map]

/-- There is no response only where the renderer fails, or where a header may not hold the location
of a redirection. -/
theorem of_runs_respond_error {err : AppError}
    (h : Action.Runs (reply.respond user render).run es (.error err)) :
    (∃ name fs context, reply.AsksFor name fs ∧ IsContext user fs context ∧
      Action.Runs (render name (.object context)).run es (.error err)) ∨
    ∃ location, reply = .text ("redirect:" ++ location) ∧ ¬ Http.IsHeaderText location ∧
      es = [] ∧ err = .badRequest ("invalid redirect target: " ++ location) := by
  by_cases hasks : ∃ name fs, reply.AsksFor name fs
  · obtain ⟨name, fs, hasks⟩ := hasks
    obtain ⟨context, hcontext, hruns, -⟩ := rendered_of_asksFor hasks user render
    obtain ⟨page, hpage, hout⟩ := (hruns es _).1 h
    obtain rfl := ofRendered_eq_error_iff.1 hout.symm
    exact .inl ⟨name, fs, context, hasks, hcontext, hpage⟩
  · simp only [not_exists] at hasks
    cases reply with
    | text s =>
      cases htarget : redirectTarget? s with
      | none =>
        simp only [respond, textResponse, htarget] at h
        cases (Fallible.runs_ofExcept_iff.1 h).2
      | some location =>
        obtain rfl := redirectTarget?_eq_some_iff.1 htarget
        rw [run_respond_redirect] at h
        obtain ⟨hes, hout⟩ := Action.runs_done_iff.1 h
        split at hout
        · cases hout
        · rename_i hlocation
          exact .inr ⟨location, rfl, hlocation, hes, Except.error.inj hout⟩
    | fields fs =>
      simp only [respond, template?_eq_none hasks] at h
      cases (Fallible.runs_pure_iff.1 h).2
    | response | bytes | status | statusMessage | value => cases (Fallible.runs_pure_iff.1 h).2

/-- What a reply has become, whatever the renderer makes of a page. -/
structure Normalized (reply : Reply) (user : Option SessionUser) (render : Renderer) : Prop where
  /-- For fields that ask for a page the renderer is called once, with their context. -/
  rendered : ∀ name fs, reply.AsksFor name fs → ∃ context, IsContext user fs context ∧
    (∀ es out, Action.Runs (reply.respond user render).run es out ↔
      ∃ page, Action.Runs (render name (.object context)).run es page ∧ out = ofRendered page) ∧
    ∀ mark es out, Action.Runs (reply.respond user (render.marked mark)).run es out ↔
      ∃ answer rest, es = ⟨mark name (.object context), answer⟩ :: rest ∧
        Action.Runs (reply.respond user render).run rest out
  /-- For every other reply no renderer is called. -/
  unrendered : (∀ name fs, ¬ reply.AsksFor name fs) →
    ∃ out, ∀ render, (reply.respond user render).run = .done out
  fails : ∀ es err, Action.Runs (reply.respond user render).run es (.error err) →
    (∃ name fs context, reply.AsksFor name fs ∧ IsContext user fs context ∧
      Action.Runs (render name (.object context)).run es (.error err)) ∨
    ∃ location, reply = .text ("redirect:" ++ location) ∧ ¬ Http.IsHeaderText location ∧ es = [] ∧
      err = .badRequest ("invalid redirect target: " ++ location)
  /-- A text that is a redirection is never shown as a page. -/
  redirected : ∀ location, reply = .text ("redirect:" ++ location) →
    (reply.respond user render).run = .done (if Http.IsHeaderText location
      then .ok ⟨302, [⟨"location", Text.Utf8.bytesOf location⟩], []⟩
      else .error (.badRequest ("invalid redirect target: " ++ location)))
  status : ∀ code, reply = .status code →
    (reply.respond user render).run = .done (.ok (if 100 ≤ code ∧ code ≤ 599 then .empty code
      else .text 200 "text/plain;charset=utf-8" (toString code)))
  statusMessage : ∀ code message, reply = .statusMessage code message →
    (reply.respond user render).run = .done (.ok (if 100 ≤ code ∧ code ≤ 599
      then .text code "text/plain;charset=utf-8" message
      else .text 200 "text/plain;charset=utf-8" ("(" ++ toString code ++ ", " ++ message ++ ")")))
  /-- Fields that do not name a page by a string are shown as they are. -/
  json : ∀ fs, reply = .fields fs →
    (∀ name, Fields.get? "__template__" fs ≠ some (.string name)) →
    (reply.respond user render).run =
      .done (.ok (.text 200 "application/json;charset=utf-8" (Json.object fs).compact))

theorem respond_normalized (reply : Reply) (user : Option SessionUser) (render : Renderer) :
    Normalized reply user render where
  rendered := fun _ _ h => rendered_of_asksFor h user render
  unrendered := fun h => run_respond_of_not_asksFor h user
  fails := fun _ _ => of_runs_respond_error
  redirected := by
    rintro location rfl
    exact run_respond_redirect location user render
  status := by
    rintro code rfl
    simp only [respond, statusResponse, isStatus_iff]
    rfl
  statusMessage := by
    rintro code message rfl
    simp only [respond, statusMessageResponse, isStatus_iff]
    rfl
  json := by
    rintro fs rfl h
    have hasks : ∀ name fs', ¬ (Reply.fields fs).AsksFor name fs' := by
      rintro name fs' ⟨heq, htemplate⟩
      cases heq
      exact h name htemplate
    simp only [respond, template?_eq_none hasks]
    rfl

end Reply
end Weblog
