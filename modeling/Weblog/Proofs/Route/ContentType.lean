import Weblog.Proofs.Http.MediaType
import Weblog.Proofs.Route.Answer

/-!
# Weblog.Proofs.Route.ContentType

Which bodies are decoded.

* `Format.Announced`: no white space stands in front of a content type, and its media type begins
  with the mark of a format; `ofContentType?_lower_eq_some_iff`.
* `announced?`: the format that a body is decoded in.
* `dispatch_of_undecoded`: where the input cannot be decoded, the handler is not called.
* `dispatch_contentType`: for every content type of a POST, the format that the body is decoded in,
  or the response that refuses it.
-/

namespace Weblog
namespace Arguments

/-- A content type announces a format: no white space stands in front of it, and its media type
begins with the mark of the format. -/
structure Format.Announced (f : Format) (contentType : String) : Prop where
  flush : Http.IsFlush contentType
  marked : f.mark.toList <+: (Http.mediaType contentType).toList

namespace Format

theorem mark_ne_empty (f : Format) : f.mark ≠ "" := by
  cases f <;> decide

theorem not_blank_of_mem_mark (f : Format) :
    ∀ c ∈ f.mark.toList, Text.isBlank c = false ∧ c ≠ ';' := by
  have hall : (f.mark.toList.all fun c => !Text.isBlank c && c != ';') = true := by
    cases f <;> decide
  simpa using hall

theorem eq_of_mark_begins {f g : Format} (h : f.mark.toList <+: g.mark.toList) : f = g := by
  rw [← List.isPrefixOf_iff_prefix] at h
  revert h
  cases f <;> cases g <;> decide

theorem announced_iff_begins {f : Format} {contentType : String} :
    f.Announced contentType ↔ f.mark.toList <+: (Http.lower contentType).toList := by
  rw [Http.prefix_lower_iff f.mark_ne_empty f.not_blank_of_mem_mark]
  exact ⟨fun h => ⟨h.flush, h.marked⟩, fun h => ⟨h.1, h.2⟩⟩

instance (f : Format) (contentType : String) : Decidable (f.Announced contentType) :=
  decidable_of_iff (f.mark.toList.isPrefixOf (Http.lower contentType).toList = true)
    (List.isPrefixOf_iff_prefix.trans announced_iff_begins.symm)

theorem Announced.unique {f g : Format} {contentType : String} (hf : f.Announced contentType)
    (hg : g.Announced contentType) : f = g := by
  rcases List.prefix_or_prefix_of_prefix hf.marked hg.marked with h | h
  · exact eq_of_mark_begins h
  · exact (eq_of_mark_begins h).symm

theorem announced_of_ofContentType? {f : Format} {contentType : String}
    (h : ofContentType? (Http.lower contentType) = some f) : f.Announced contentType := by
  have hmark : f.mark.toList.isPrefixOf (Http.lower contentType).toList = true :=
    List.find?_some (p := fun f : Format =>
      f.mark.toList.isPrefixOf (Http.lower contentType).toList) h
  exact announced_iff_begins.2 (List.isPrefixOf_iff_prefix.1 hmark)

theorem ofContentType?_lower_eq_some_iff {f : Format} {contentType : String} :
    ofContentType? (Http.lower contentType) = some f ↔ f.Announced contentType := by
  refine ⟨announced_of_ofContentType?, ?_⟩
  intro h
  cases hfound : ofContentType? (Http.lower contentType) with
  | none =>
    have hmem : f ∈ [Format.json, .form, .multipart] := by cases f <;> decide
    have hnone := List.find?_eq_none.1 hfound f hmem
    exact absurd (List.isPrefixOf_iff_prefix.2 (announced_iff_begins.1 h)) hnone
  | some g => rw [(announced_of_ofContentType? hfound).unique h]

end Format

variable {r : Http.Request}

theorem contentType?_of_headerText? {text : String}
    (h : Http.headerText? "content-type" r.headers = some text) :
    contentType? r = if text = "" then none else some (Http.lower text) := by
  have hempty : (Http.lower text).isEmpty = decide (text = "") := by
    rw [Bool.eq_iff_iff, String.isEmpty_iff, decide_eq_true_eq, ← String.toList_eq_nil_iff,
      Http.toList_lower, List.map_eq_nil_iff, String.toList_eq_nil_iff]
  rw [contentType?, h, Option.map_some]
  by_cases htext : text = ""
  · rw [if_pos htext]
    exact Option.filter_some_neg (by rw [hempty]; simp [htext])
  · rw [if_neg htext]
    exact Option.filter_some_pos (by rw [hempty]; simp [htext])

/-- The format that the content type of a request announces. -/
def announced? (r : Http.Request) : Option Format := (contentType? r).bind Format.ofContentType?

theorem bodyFields_of_announced? {f : Format} (h : announced? r = some f) :
    bodyFields r = f.fields r := by
  obtain ⟨contentType, hcontent, hformat⟩ := Option.bind_eq_some_iff.1 h
  unfold bodyFields
  simp only [hcontent, hformat]

theorem announced?_of_headerText? {text : String}
    (h : Http.headerText? "content-type" r.headers = some text) (hne : text ≠ "") {f : Format}
    (hf : f.Announced text) : announced? r = some f := by
  rw [announced?, contentType?_of_headerText? h, if_neg hne]
  exact Format.ofContentType?_lower_eq_some_iff.2 hf

theorem bodyFields_of_announced {text : String}
    (h : Http.headerText? "content-type" r.headers = some text) (hne : text ≠ "") {f : Format}
    (hf : f.Announced text) : bodyFields r = f.fields r :=
  bodyFields_of_announced? (announced?_of_headerText? h hne hf)

theorem bodyFields_of_not_announced {text : String}
    (h : Http.headerText? "content-type" r.headers = some text) (hne : text ≠ "")
    (hf : ∀ f : Format, ¬ f.Announced text) :
    bodyFields r = .error (.unsupportedContentType (Http.lower text)) := by
  have hnone : Format.ofContentType? (Http.lower text) = none :=
    Option.eq_none_iff_forall_ne_some.2
      (fun f hsome => hf f (Format.ofContentType?_lower_eq_some_iff.1 hsome))
  unfold bodyFields
  rw [contentType?_of_headerText? h, if_neg hne]
  simp only [hnone]

theorem bodyFields_of_missing
    (h : ∀ text, Http.headerText? "content-type" r.headers = some text → text = "") :
    bodyFields r = .error .missingContentType := by
  have hnone : contentType? r = none := by
    cases htext : Http.headerText? "content-type" r.headers with
    | none =>
      rw [contentType?, htext]
      rfl
    | some text => rw [contentType?_of_headerText? htext, if_pos (h text htext)]
  unfold bodyFields
  rw [hnone]

/-- A body of several parts is read only where its media type is that of such bodies, with a suffix
behind a plus or without. -/
theorem mediaType_of_multipartFields {text : String}
    (h : Http.headerText? "content-type" r.headers = some text) {fs : Fields}
    (hfields : multipartFields r = .ok fs) :
    ∃ suffix, (Http.mediaType text).toList = Format.multipart.mark.toList ++ suffix ∧
      ∀ c ∈ suffix.head?, c = '+' := by
  unfold multipartFields at hfields
  rw [h, Option.bind_some] at hfields
  cases hboundary : Http.Multipart.boundary? text with
  | none =>
    rw [hboundary] at hfields
    cases hfields
  | some boundary => exact Http.mediaType_of_boundary? hboundary

/-- The response to a body that cannot be decoded. -/
def refusal (err : BodyError) : Http.Response :=
  .json 400 (.ofFields [("error", .string "bad_request"), ("data", .string ""),
    ("message", .string ("bad request: " ++ err.message))])

end Arguments

namespace Entry

variable {s : Signature} {pattern : String} {e : Entry} {r : Http.Request}

/-- Where the input cannot be decoded, the response says so and the handler is not called. -/
theorem dispatch_of_undecoded (hspec : s.inspect pattern = .ok e.spec) {err : BodyError}
    (h : s.decoded r = .error err) (user : Option SessionUser) (render : Renderer)
    (path : List (String × String)) :
    e.dispatch user render path r = .done (Arguments.refusal err) := by
  rw [Signature.decoded] at h
  split at h
  · rename_i hreads
    have hinput : e.spec.input r = .error err := by
      rw [ArgSpec.input, Signature.readsInput_of_inspect hspec, if_pos hreads]
      cases hfields : Arguments.inputFields r with
      | error err' =>
        rw [hfields] at h
        cases h
        rfl
      | ok fs =>
        rw [hfields] at h
        cases h
    rw [dispatch_eq, ArgSpec.arguments, hinput]
    rfl
  · cases h

/-- For every signature that reads its input and every POST: a body without a content type, or with
an empty or unreadable one, is refused. So is every other one whose content type announces no
format: white space stands in front of it, or its media type begins with no mark. A body whose
content type announces a format is decoded in that format, and refused where it cannot be; a body of
several parts is decoded only where the media type is the mark itself, with a suffix behind a plus
or without. A body that is refused does not reach the handler. -/
theorem dispatch_contentType (hspec : s.inspect pattern = .ok e.spec)
    (hreads : s.readsInput = true) (hmethod : r.method = .post) (user : Option SessionUser)
    (render : Renderer) (path : List (String × String)) :
    ((∀ text, Http.headerText? "content-type" r.headers = some text → text = "") →
      e.dispatch user render path r = .done (Arguments.refusal .missingContentType)) ∧
    ∀ text, Http.headerText? "content-type" r.headers = some text → text ≠ "" →
      ((∀ f : Arguments.Format, ¬ f.Announced text) →
        e.dispatch user render path r =
          .done (Arguments.refusal (.unsupportedContentType (Http.lower text)))) ∧
      ∀ f : Arguments.Format, f.Announced text →
        s.decoded r = f.fields r ∧
        (∀ err, f.fields r = .error err →
          e.dispatch user render path r = .done (Arguments.refusal err)) ∧
        ∀ fs, f = .multipart → f.fields r = .ok fs →
          ∃ suffix, (Http.mediaType text).toList = f.mark.toList ++ suffix ∧
            ∀ c ∈ suffix.head?, c = '+' := by
  have hdecoded := Signature.decoded_post hmethod hreads
  refine ⟨?missing, ?given⟩
  case missing =>
    intro h
    exact dispatch_of_undecoded hspec (hdecoded.trans (Arguments.bodyFields_of_missing h))
      user render path
  case given =>
    intro text htext hne
    refine ⟨?unannounced, ?announced⟩
    case unannounced =>
      intro hf
      exact dispatch_of_undecoded hspec
        (hdecoded.trans (Arguments.bodyFields_of_not_announced htext hne hf)) user render path
    case announced =>
      intro f hf
      have hfields := hdecoded.trans (Arguments.bodyFields_of_announced htext hne hf)
      refine ⟨hfields, ?refused, ?parts⟩
      case refused =>
        intro err herr
        exact dispatch_of_undecoded hspec (hfields.trans herr) user render path
      case parts =>
        rintro fs rfl hok
        exact Arguments.mediaType_of_multipartFields htext hok

def greetingSignature : Signature := [⟨"name", .keyword true⟩]

def greeting : Entry := ⟨.post, "/", greetingSignature.spec, fun _ => pure (.status 204)⟩

def nameBody : String := "\x7b\"name\":\"a\"\x7d"

/-- A POST of a JSON body that is announced as something. -/
def greetingRequest (contentType : String) : Http.Request :=
  .make .post ⟨"", "/", none⟩ [⟨"content-type", Text.Utf8.bytesOf contentType⟩]
    ⟨(Text.Utf8.bytesOf nameBody).toArray⟩

theorem inspect_greeting : greetingSignature.inspect "/" = .ok greeting.spec := rfl

theorem jsonFields_greeting (contentType : String) :
    Arguments.jsonFields (greetingRequest contentType) = .ok [("name", .string "a")] :=
  have hsize : (Text.Utf8.bytesOf nameBody).toArray.size ≤ Arguments.bodyLimit := by decide +kernel
  Arguments.jsonFields_eq (Nat.le_min.2 ⟨hsize, Nat.le_refl _⟩)
    (by decide +kernel : Json.parseBytes? (Text.Utf8.bytesOf nameBody) =
      some (.object [("name", .string "a")]))

theorem dispatch_contentType_greeting :
    greeting.dispatch none (fun _ _ => pure "") [] (greetingRequest "Text/Plain; charset=utf-8") =
      .done (Arguments.refusal (.unsupportedContentType "text/plain; charset=utf-8")) ∧
    greetingSignature.decoded (greetingRequest "Application/JSON ; charset=utf-8") =
      .ok [("name", .string "a")] := by
  refine ⟨?plain, ?json⟩
  case plain =>
    obtain ⟨-, hgiven⟩ := dispatch_contentType inspect_greeting rfl
      (r := greetingRequest "Text/Plain; charset=utf-8") rfl none (fun _ _ => pure "") []
    refine (hgiven "Text/Plain; charset=utf-8" (by decide +kernel) (by decide)).1 ?_
    intro f
    cases f <;> decide +kernel
  case json =>
    obtain ⟨-, hgiven⟩ := dispatch_contentType inspect_greeting rfl
      (r := greetingRequest "Application/JSON ; charset=utf-8") rfl none (fun _ _ => pure "") []
    obtain ⟨-, hannounced⟩ :=
      hgiven "Application/JSON ; charset=utf-8" (by decide +kernel) (by decide)
    exact (hannounced .json (by decide +kernel)).1.trans (jsonFields_greeting _)

/-- A body of another media type, which begins with the mark of JSON, reaches the handler. -/
theorem called_for_json_patch :
    (∀ f : Arguments.Format, Http.mediaType "application/json-patch+json" ≠ f.mark) ∧
    Http.headerText? "content-type" (greetingRequest "application/json-patch+json").headers =
      some "application/json-patch+json" ∧
    greeting.dispatch none (fun _ _ => pure "") []
        (greetingRequest "application/json-patch+json") =
      greeting.answer none (fun _ _ => pure "") (greetingRequest "application/json-patch+json")
        [("name", .string "a")] := by
  have htext : Http.headerText? "content-type"
      (greetingRequest "application/json-patch+json").headers =
        some "application/json-patch+json" := by decide +kernel
  refine ⟨?other, htext, ?called⟩
  case other =>
    intro f
    cases f <;> decide +kernel
  case called =>
    have hdecoded : greetingSignature.decoded (greetingRequest "application/json-patch+json") =
        .ok [("name", .string "a")] := by
      rw [Signature.decoded_post rfl rfl,
        Arguments.bodyFields_of_announced htext (by decide) (f := .json) (by decide +kernel)]
      exact jsonFields_greeting _
    exact dispatch_eq_answer inspect_greeting hdecoded rfl

end Entry
end Weblog
