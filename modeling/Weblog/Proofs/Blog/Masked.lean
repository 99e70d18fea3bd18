import Weblog.Blog.Routes
import Weblog.Proofs.Gate
import Weblog.Proofs.Json.Fields
import Weblog.Proofs.Route.Access
import Weblog.Proofs.Route.Answer
import Weblog.Proofs.Store.Hidden

/-!
# Weblog.Proofs.Blog.Masked

What responses show of password hashes.

* `Json.Masked`: wherever an object has a password, the mask stands there.
* `Http.Response.Masked`: a body of JSON is empty or the text of such a value.
* `Reply.Masked`: a reply of which only such responses are made.
* `Entry.alike_dispatch`: a handler that goes on alike to masked replies makes responses that are
  alike.
-/

namespace Weblog

open Fallible

/-- Wherever an object has a password, the mask stands there. -/
inductive Json.Masked : Json → Prop where
  | null : Json.Masked .null
  | bool (b : Bool) : Json.Masked (.bool b)
  | number (n : Number) : Json.Masked (.number n)
  | string (s : String) : Json.Masked (.string s)
  | array {items : List Json} : (∀ v ∈ items, v.Masked) → Json.Masked (.array items)
  | object {fs : Fields} : (∀ p ∈ fs, p.2.Masked) →
      (∀ p ∈ fs, p.1 = "passwd" → p.2 = .string User.mask) → Json.Masked (.object fs)

namespace Json

attribute [simp] Masked.null Masked.bool Masked.number Masked.string

/-- A member of an object that shows no password. -/
def MaskedMember (p : String × Json) : Prop :=
  p.2.Masked ∧ (p.1 = "passwd" → p.2 = .string User.mask)

theorem masked_object {fs : Fields} (h : ∀ p ∈ fs, MaskedMember p) : (Json.object fs).Masked :=
  .object (fun p hp => (h p hp).1) fun p hp => (h p hp).2

theorem masked_ofFields {pairs : List (String × Json)} (h : ∀ p ∈ pairs, MaskedMember p) :
    (Json.ofFields pairs).Masked :=
  masked_object fun p hp => h p (Fields.mem_ofList hp)

end Json

theorem ApiError.masked_payload (e : ApiError) : (Json.object e.payload).Masked := by
  refine Json.masked_ofFields ?_
  simp [Json.MaskedMember]

/-! ## Responses -/

namespace Http

/-- The header of a response says that its body is JSON. -/
def Response.IsJson (x : Response) : Prop :=
  ∃ type, header? "content-type" x.headers = some type ∧
    Text.Utf8.bytesOf "application/json" <+: type

/-- A body of JSON is empty or the text of a value in which every password is masked. -/
def Response.Masked (x : Response) : Prop :=
  x.IsJson → x.body = [] ∨ ∃ v : Json, x.body = Text.Utf8.bytesOf v.compact ∧ v.Masked

namespace Response

theorem masked_of_body {x : Response} (h : x.body = []) : x.Masked := fun _ => .inl h

theorem masked_typed {status : Nat} {contentType : String} {body : List UInt8}
    (h : ¬ Text.Utf8.bytesOf "application/json" <+: Text.Utf8.bytesOf contentType) :
    (typed status contentType body).Masked := by
  rintro ⟨type, htype, hjson⟩
  cases htype
  exact absurd hjson h

theorem masked_json {status : Nat} {v : Json} (h : v.Masked) (contentType : String) :
    (text status contentType v.compact).Masked := fun _ => .inr ⟨v, rfl, h⟩

theorem Masked.forMethod {x : Response} (h : x.Masked) (m : Method) : (x.forMethod m).Masked := by
  unfold Response.forMethod
  split
  · exact masked_of_body rfl
  · exact h

theorem Masked.withHeader {x : Response} (h : x.Masked) {name : String}
    (hname : name ≠ "content-type") (value : List UInt8) : (x.withHeader name value).Masked := by
  rintro ⟨type, htype, hjson⟩
  refine h ⟨type, ?_, hjson⟩
  rw [Response.withHeader, header?, List.find?_append] at htype
  have hother :
      [(⟨name, value⟩ : Header)].find? (fun h => h.name = lower "content-type") = none := by
    have hlower : lower "content-type" = "content-type" := by decide
    simp [hlower, hname]
  rwa [hother, Option.or_none] at htype

end Response
end Http

theorem AppError.masked_response (e : AppError) : e.response.Masked := by
  refine Http.Response.masked_json (Json.masked_ofFields ?_) _
  simp [Json.MaskedMember]

theorem Files.masked_response (method : Http.Method) (target : Http.Uri) :
    (Files.response method target).Masked := by
  -- only a file has a body, and none of the files is JSON
  have hat : ∀ path, (responseAt target path).Masked := by
    intro path
    unfold responseAt
    split
    · exact Http.Response.masked_of_body rfl
    · split
      · dsimp only
        split <;> exact Http.Response.masked_of_body rfl
      · split
        · rename_i f hf
          obtain rfl := List.mem_singleton.1 (List.mem_of_find?_eq_some hf)
          exact Http.Response.masked_typed (by decide)
        · exact Http.Response.masked_of_body rfl
  unfold response
  split
  · split
    · exact (hat _).forMethod _
    · exact Http.Response.masked_of_body rfl
  · split
    · exact (hat _).forMethod _
    · exact Http.Response.masked_of_body rfl
  · exact Http.Response.masked_of_body rfl

namespace Site

variable {s : Site} {r : Http.Request} {x y : Http.Response}

theorem masked_finish (h : x.Masked) (s : Site) (r : Http.Request) : (s.finish r x).Masked := by
  unfold finish
  split
  · exact h
  · exact h
  · split
    · exact h.forMethod _
    · exact h.withHeader (by decide) _

theorem body_finish_congr (h : x.body = y.body) (s : Site) (r : Http.Request) :
    (s.finish r x).body = (s.finish r y).body := by
  unfold finish
  split
  · exact h
  · exact h
  · split
    · unfold Http.Response.forMethod
      split
      · rfl
      · exact h
    · exact h

end Site

/-! ## Replies -/

namespace Reply

/-- A reply of which only masked responses are made. -/
def Masked : Reply → Prop
  | .response x => x.Masked
  | .fields fs => template? fs = none → (Json.object fs).Masked
  | _ => True

theorem masked_page (name : String) (context : Json) : (Reply.page name context).Masked := by
  intro hnone
  rw [template?, Fields.get?_set_self] at hnone
  cases hnone

theorem masked_ofFields {pairs : List (String × Json)} (h : ∀ p ∈ pairs, Json.MaskedMember p) :
    (Reply.ofJson (Json.ofFields pairs)).Masked := fun _ => Json.masked_ofFields h

theorem masked_textResponse {s : String} {x : Http.Response} (h : textResponse s = .ok x) :
    x.Masked := by
  unfold textResponse at h
  split at h
  · cases h
    exact Http.Response.masked_typed (by decide)
  · split at h
    · cases h
      exact Http.Response.masked_of_body rfl
    · cases h

theorem masked_statusResponse (code : Nat) : (statusResponse code).Masked := by
  unfold statusResponse
  split
  · exact Http.Response.masked_of_body rfl
  · exact Http.Response.masked_typed (by decide)

theorem masked_statusMessageResponse (code : Nat) (message : String) :
    (statusMessageResponse code message).Masked := by
  unfold statusMessageResponse
  split
  · exact Http.Response.masked_typed (by decide)
  · exact Http.Response.masked_typed (by decide)

variable {render : Renderer} {Q : ResultSet → ResultSet → Prop}

theorem alike_respond (hrender : render.Offline) (user : Option SessionUser) {reply : Reply}
    (h : reply.Masked) :
    Alike (apartFrom "passwd" Q) (fun x y => x = y ∧ x.Masked) (reply.respond user render)
      (reply.respond user render) := by
  have hshown : ∀ x : Http.Response, x.Masked →
      Alike (apartFrom "passwd" Q) (fun x y => x = y ∧ x.Masked)
      (pure x : Fallible AppError _) (pure x) := fun x hx => alike_pure ⟨rfl, hx⟩
  cases reply with
  | response x => exact hshown x h
  | bytes octets => exact hshown _ (Http.Response.masked_typed (by decide))
  | text s =>
    refine alike_ofExcept ((SameOutcome.of_eq (R := Eq) (fun _ => rfl) rfl).with_values.mono ?_)
    rintro x _ ⟨rfl, hx, -⟩
    exact ⟨rfl, masked_textResponse hx⟩
  | fields fs =>
    simp only [respond]
    split
    · refine (alike_of_silent (hrender _ _)).bind_same fun html => ?_
      exact hshown _ (Http.Response.masked_typed (by decide))
    · rename_i hnone
      exact hshown _ (Http.Response.masked_json (h hnone) _)
  | status code => exact hshown _ (masked_statusResponse code)
  | statusMessage code message => exact hshown _ (masked_statusMessageResponse code message)
  | value v => exact hshown _ (Http.Response.masked_typed (by decide))

/-- Two replies are the same and masked, or responses that stand in a relation. -/
inductive Alike (T : Http.Response → Http.Response → Prop) : Reply → Reply → Prop where
  | same {reply : Reply} : reply.Masked → Alike T reply reply
  | responses {x y : Http.Response} : T x y → Alike T (.response x) (.response y)

end Reply

theorem Json.masked_entityFields {id : Option String} {created : Option Binary64}
    {rest : List (String × Json)} (h : ∀ p ∈ rest, Json.MaskedMember p) :
    (Json.object (Blog.entityFields id created rest)).Masked := by
  refine Json.masked_ofFields (List.forall_mem_append.2 ⟨List.forall_mem_append.2 ⟨?_, h⟩, ?_⟩)
  · cases id <;> simp [Json.MaskedMember]
  · cases created <;> simp [Json.MaskedMember, Json.ofFloat]

namespace Blog

theorem masked_userJson (u : User) : (entityJson u.masked).Masked := by
  refine Json.masked_entityFields ?_
  simp [Json.MaskedMember, User.masked]

theorem masked_postJson (p : Post) : (entityJson p).Masked := by
  refine Json.masked_entityFields ?_
  simp [Json.MaskedMember]

theorem masked_commentJson (c : Comment) : (entityJson c).Masked := by
  refine Json.masked_entityFields ?_
  simp [Json.MaskedMember]

theorem masked_pageJson (p : Page) : p.toJson.Masked := by
  refine Json.masked_ofFields ?_
  simp [Json.MaskedMember, Json.ofInt]

theorem masked_listing {α : Type} [Entity α] {name : String} (hname : name ≠ "passwd") (page : Page)
    {items : List α} (h : ∀ v ∈ items, (entityJson v).Masked) :
    (Reply.ofJson (listingJson name page items)).Masked := by
  have hitems : (Json.array (items.map entityJson)).Masked := .array (List.forall_mem_map.2 h)
  refine Reply.masked_ofFields ?_
  simp [Json.MaskedMember, masked_pageJson, hitems, hname]

end Blog

section Dispatch

variable {Q : ResultSet → ResultSet → Prop} {T : Http.Response → Http.Response → Prop}

theorem AppError.alike_respond (hT : ∀ x : Http.Response, x.Masked → T x x) (e : AppError) :
    Action.Alike (apartFrom "passwd" Q) T e.respond e.respond := by
  refine (Action.alike_self eq_of_apartFrom e.silent_respond).reached.mono ?_
  rintro x _ ⟨rfl, es, hruns⟩
  rw [e.runs_respond hruns]
  exact hT _ e.masked_response

theorem Reply.alike_rendered {render : Renderer} (hrender : render.Offline)
    (hT : ∀ x : Http.Response, x.Masked → T x x) (user : Option SessionUser) (reply : Reply)
    (h : reply.Masked) :
    Action.Alike (apartFrom "passwd" Q) T
      ((reply.respond user render).run >>= fun out =>
        match out with
        | .ok x => return x
        | .error err => err.respond)
      ((reply.respond user render).run >>= fun out =>
        match out with
        | .ok x => return x
        | .error err => err.respond) := by
  refine Action.Alike.bind (reply.alike_respond hrender user h) fun out out' hout => ?_
  cases hout with
  | error err => exact err.alike_respond hT
  | ok hx =>
    obtain ⟨rfl, hmasked⟩ := hx
    exact .done (hT _ hmasked)

theorem Entry.alike_dispatch {render : Renderer} (hrender : render.Offline)
    (hT : ∀ x : Http.Response, x.Masked → T x x) {e : Entry} {user : Option SessionUser}
    {path : List (String × String)} {r : Http.Request}
    (h : ∀ es args, Action.Runs (e.spec.arguments path r).run es (.ok args) →
      Alike (apartFrom "passwd" Q) (Reply.Alike T) (e.handler (e.call user r args))
        (e.handler (e.call user r args))) :
    Action.Alike (apartFrom "passwd" Q) T (e.dispatch user render path r)
      (e.dispatch user render path r) := by
  rw [dispatch_eq]
  refine (Action.alike_self eq_of_apartFrom (e.spec.silent_arguments path r)).reached.bind ?_
  rintro outcome _ ⟨rfl, es, hruns⟩
  cases outcome with
  | error err => exact err.alike_respond hT
  | ok args =>
    refine Action.Alike.bind (h es args hruns) fun out out' hout => ?_
    cases hout with
    | error err =>
      -- an error of the interface is a reply of its own, others have a response
      cases err with
      | api e => exact Reply.alike_rendered hrender hT user _ fun _ => e.masked_payload
      | _ => exact AppError.alike_respond hT _
    | ok hreplies =>
      cases hreplies with
      | same hmasked => exact Reply.alike_rendered hrender hT user _ hmasked
      | responses hxy => exact .done hxy

end Dispatch
end Weblog
