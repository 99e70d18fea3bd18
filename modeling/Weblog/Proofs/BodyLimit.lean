import Weblog.Proofs.Gate
import Weblog.Proofs.Http.Multipart
import Weblog.Proofs.Route.Body

/-!
# Weblog.Proofs.BodyLimit

How long a body may be.

* `serve_of_fitting`: a well-formed body that is within what the request announces and within the
  limit of its format is received by the entry.
* `serve_of_oversized`, `serve_of_overlong`: one that is longer is refused, and nothing that is
  longer than the common limit gets to an entry.
* `bodies_limited`: all of it, for every POST to an entry that reads its input.
* `oversized_upload`: a body of several parts is refused far below the common limit.
-/

namespace Weblog

open Arguments (Format bodyLimit)

namespace Site

variable {s : Site} {r : Http.Request} {e : Entry} {captured : List (List Char)} {f : Format}
  {fs : Fields}

theorem serve_of_post (h : s.Matches r e captured) (hmethod : r.method = .post) :
    s.serve r =
      s.passing r fun user => e.dispatch user s.render (e.parameters captured) (clipped r) := by
  rw [h.serve_eq, Http.Response.forMethod_eq_id (by simp [hmethod]), id_map]

/-- Where the input is not read, the entry is not called, whoever passes the gate. -/
theorem serve_of_input_error (h : s.Matches r e captured) (hmethod : r.method = .post)
    (hallowed : allowance r ≤ bodyLimit) {err : BodyError}
    (hinput : e.spec.input (clipped r) = .error err) :
    s.serve r = s.gate r fun _ => .done (Arguments.refusal err) := by
  rw [serve_of_post h hmethod, passing, if_neg (Nat.not_lt.2 hallowed)]
  congr 1
  funext user
  rw [Entry.dispatch_eq, ArgSpec.arguments, hinput]
  rfl

theorem input_of_post (hreads : e.spec.readsInput = true) (hmethod : r.method = .post) :
    e.spec.input (clipped r) = (Arguments.bodyFields (clipped r)).map some := by
  rw [ArgSpec.input, if_pos hreads]
  exact Arguments.inputFields_post hmethod

theorem input_of_announced (hreads : e.spec.readsInput = true) (hmethod : r.method = .post)
    (hformat : Arguments.announced? r = some f) :
    e.spec.input (clipped r) = (f.fields (clipped r)).map some := by
  rw [input_of_post hreads hmethod]
  exact congrArg _ (Arguments.bodyFields_of_announced? hformat)

theorem holds_clipped (h : f.Holds r fs) : f.Holds (clipped r) fs := by
  cases h with
  | json hparse => exact .json hparse
  | form => exact .form
  | multipart hboundary hpairs => exact .multipart hboundary hpairs

theorem serve_of_fitting (h : s.Matches r e captured) (hmethod : r.method = .post)
    (hreads : e.spec.readsInput = true) (hwhole : r.body.size ≤ r.limit)
    (hformat : Arguments.announced? r = some f) (hholds : f.Holds r fs)
    (hallowed : allowance r ≤ bodyLimit) (hsize : r.body.size ≤ min f.limit (allowance r)) :
    ∃ noted : List (String × String), noted.Sublist (e.parameters captured) ∧
      s.serve r = s.gate r fun user =>
        noted.forM (fun _ => Action.log .duplicateArgument) >>= fun _ =>
          e.receive user s.render r
            (Arguments.overlaid (e.parameters captured) (e.spec.keep fs)) := by
  have hread : f.fields (clipped r) = .ok fs := by
    refine f.fields_of_holds (holds_clipped hholds) ?_
    simp only [clipped]
    omega
  have hinput : e.spec.input (clipped r) = .ok (some fs) := by
    rw [input_of_announced hreads hmethod hformat, hread]
    rfl
  obtain ⟨noted, hsub, hdispatch⟩ := Entry.exists_dispatch_eq hinput (e.parameters captured)
  refine ⟨noted, hsub, ?_⟩
  rw [serve_of_post h hmethod, passing, if_neg (Nat.not_lt.2 hallowed)]
  congr 1
  funext user
  exact hdispatch user s.render

theorem serve_of_oversized (h : s.Matches r e captured) (hmethod : r.method = .post)
    (hreads : e.spec.readsInput = true) (hformat : Arguments.announced? r = some f)
    (hholds : f.Holds r fs) (hallowed : allowance r ≤ bodyLimit)
    (hsize : min f.limit (allowance r) < r.body.size) :
    s.serve r = s.gate r fun _ => .done (Arguments.refusal f.sizeError) := by
  have hread : f.fields (clipped r) = .error f.sizeError := by
    refine f.fields_of_holds_long (holds_clipped hholds) ?_
    simp only [clipped]
    omega
  refine serve_of_input_error h hmethod hallowed ?_
  rw [input_of_announced hreads hmethod hformat, hread]
  rfl

/-- A body that is longer than the common limit does not get to an entry that reads it. -/
theorem serve_of_overlong (h : s.Matches r e captured) (hmethod : r.method = .post)
    (hreads : e.spec.readsInput = true) (hsize : bodyLimit < r.body.size) :
    s.serve r = .done tooLarge ∨
      ∃ err, s.serve r = s.gate r fun _ => .done (Arguments.refusal err) := by
  by_cases hallowed : allowance r ≤ bodyLimit
  · obtain ⟨err, hread⟩ : ∃ err, Arguments.bodyFields (clipped r) = .error err := by
      refine Arguments.bodyFields_of_long ?_
      simp only [clipped]
      omega
    refine .inr ⟨err, serve_of_input_error h hmethod hallowed ?_⟩
    rw [input_of_post hreads hmethod, hread]
    rfl
  · refine .inl ?_
    rw [serve_of_post h hmethod, passing, if_pos (Nat.lt_of_not_le hallowed)]

/-- For every site, every entry that reads its input and every POST that is matched to it: of a body
in one of the three formats so much is read as the request announces and the format admits. A
well-formed body that is no longer is received by the entry, with the fields that it holds; a longer
one is refused for its length. A request that announces more than the common limit is refused as
well, and no body that is longer than this limit gets to the entry, well formed or not. -/
theorem bodies_limited (h : s.Matches r e captured) (hmethod : r.method = .post)
    (hreads : e.spec.readsInput = true) (hwhole : r.body.size ≤ r.limit) :
    (∀ f fs, Arguments.announced? r = some f → Format.Holds r f fs → allowance r ≤ bodyLimit →
      (r.body.size ≤ min f.limit (allowance r) →
        ∃ noted : List (String × String), noted.Sublist (e.parameters captured) ∧
          s.serve r = s.gate r fun user =>
            noted.forM (fun _ => Action.log .duplicateArgument) >>= fun _ =>
              e.receive user s.render r
                (Arguments.overlaid (e.parameters captured) (e.spec.keep fs))) ∧
      (min f.limit (allowance r) < r.body.size →
        s.serve r = s.gate r fun _ => .done (Arguments.refusal f.sizeError))) ∧
    (bodyLimit < allowance r → s.serve r = .done tooLarge) ∧
    (bodyLimit < r.body.size → s.serve r = .done tooLarge ∨
      ∃ err, s.serve r = s.gate r fun _ => .done (Arguments.refusal err)) := by
  refine ⟨?wellFormed, ?announced, serve_of_overlong h hmethod hreads⟩
  case wellFormed =>
    intro f fs hformat hholds hallowed
    exact ⟨serve_of_fitting h hmethod hreads hwhole hformat hholds hallowed,
      serve_of_oversized h hmethod hreads hformat hholds hallowed⟩
  case announced =>
    intro hlong
    rw [serve_of_post h hmethod, passing, if_pos hlong]

end Site

/-- A route that reads a name. -/
def uploadRoute : Route := (Route.post "/h" fun _ => pure (.text "read")).keyword "name"

def uploadEntry : Entry := ⟨.post, "/h", uploadRoute.signature.spec, uploadRoute.handler⟩

def upload (contentType : String) (body : List UInt8) : Http.Request :=
  .make .post ⟨"", "/h", none⟩ [⟨"content-type", Text.Utf8.bytesOf contentType⟩] ⟨body.toArray⟩

theorem matches_upload (contentType : String) (body : List UInt8) :
    (Site.only uploadRoute).Matches (upload contentType body) uploadEntry [] := by
  refine Site.matches_only ⟨rfl, rfl, by decide +kernel, rfl⟩ (by decide) (.inr ⟨rfl, rfl⟩) ?_
  have hpath : (upload contentType body).uri.path = "/h" := rfl
  rw [hpath]
  decide +kernel

theorem gate_upload (contentType : String) (body : List UInt8)
    (inner : Option SessionUser → Action Http.Response) :
    (Site.only uploadRoute).gate (upload contentType body) inner = inner none :=
  Site.gate_of_anonymous rfl (by decide +kernel : Site.isGated "/h" = false) inner

def nameForm : List UInt8 := Text.Utf8.bytesOf "name=a"

theorem bodies_limited_upload :
    (Site.only uploadRoute).serve (upload "application/x-www-form-urlencoded" nameForm) =
      .done (.text 200 "text/html;charset=utf-8" "read") := by
  obtain ⟨hread, -, -⟩ := Site.bodies_limited
    (matches_upload "application/x-www-form-urlencoded" nameForm) rfl rfl (Nat.le_refl _)
  have hformat : Arguments.announced? (upload "application/x-www-form-urlencoded" nameForm) =
      some .form := by decide +kernel
  obtain ⟨noted, hnoted, hserve⟩ := (hread .form _ hformat .form (by decide)).1 (by decide +kernel)
  obtain rfl := List.sublist_nil.1 hnoted
  rw [hserve, gate_upload]
  rfl

/-- A part that holds as many octets as are read of a body of several parts. -/
def longPart : Http.Multipart.Part :=
  ⟨Text.Utf8.bytesOf "Content-Disposition: form-data; name=\"name\"",
    List.replicate Arguments.multipartLimit 97⟩

def longBody : List UInt8 := Http.Multipart.bodyOf (Text.Utf8.bytesOf "XYZ") [longPart]

def longUpload : Http.Request := upload "multipart/form-data; boundary=XYZ" longBody

theorem size_longUpload : longUpload.body.size = Arguments.multipartLimit + 65 := by
  have hlines : longPart.lines.length = 43 := by decide +kernel
  have hmark : (Text.Utf8.bytesOf "XYZ").length = 3 := by decide +kernel
  have hcontent : longPart.content.length = Arguments.multipartLimit := by
    rw [longPart, List.length_replicate]
  have hlength := Http.Multipart.length_bodyOf_singleton (Text.Utf8.bytesOf "XYZ") longPart
  rw [hlines, hmark, hcontent] at hlength
  have hbody : longUpload.body.size = longBody.length := rfl
  rw [hbody, longBody, hlength]
  omega

/-- A well-formed body of several parts is refused for its length, which is far below the common
limit. -/
theorem oversized_upload :
    (Site.only uploadRoute).Matches longUpload uploadEntry [] ∧
      uploadEntry.spec.readsInput = true ∧
      Arguments.announced? longUpload = some .multipart ∧
      (∃ fs, Format.multipart.Holds longUpload fs) ∧ longUpload.body.size ≤ bodyLimit ∧
      (Site.only uploadRoute).serve longUpload = .done (Arguments.refusal .multipart) := by
  have hmatched : (Site.only uploadRoute).Matches longUpload uploadEntry [] := matches_upload _ _
  have hformat : Arguments.announced? longUpload = some .multipart := by decide +kernel
  have hreads : ∀ p ∈ [(longPart, [Http.Header.make "Content-Disposition"
      (Text.Utf8.bytesOf "form-data; name=\"name\"")])], p.1.Reads p.2 :=
    List.forall_mem_singleton.2 ⟨by decide +kernel, by decide +kernel, by simp [longPart]⟩
  have hboundary : (Http.headerText? "content-type" longUpload.headers).bind
      Http.Multipart.boundary? = some (Text.Utf8.bytesOf "XYZ") := by decide +kernel
  have hpairs := Http.Multipart.pairs?_bodyOf (Text.Utf8.bytesOf "XYZ") hreads
  have hholds : Format.multipart.Holds longUpload _ := .multipart hboundary hpairs
  refine ⟨hmatched, rfl, hformat, ⟨_, hholds⟩, ?short, ?refused⟩
  case short =>
    rw [size_longUpload]
    decide
  case refused =>
    have hallowed : Site.allowance longUpload = bodyLimit := rfl
    have hlong : min Format.multipart.limit (Site.allowance longUpload) < longUpload.body.size := by
      rw [hallowed, size_longUpload]
      decide
    rw [Site.serve_of_oversized hmatched rfl rfl hformat hholds (Nat.le_of_eq hallowed) hlong,
      longUpload, gate_upload]
    rfl

end Weblog
