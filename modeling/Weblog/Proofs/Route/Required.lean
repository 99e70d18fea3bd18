import Weblog.Proofs.Route.Answer

/-!
# Weblog.Proofs.Route.Required

What a handler reads of the arguments that it requires.

* `GivesNull`: a JSON body gives null under a name that is no parameter of the path.
* `null_of_decoded`: no other format brings null, and no query does.
* `missing?_of_runs_arguments`: where arguments were gathered, every required name is among them.
* `readable_of_called`: a handler that is called reads a text under every required name, unless the
  request gives null there.
-/

namespace Weblog

theorem Json.argumentText_eq_none_iff {v : Json} : v.argumentText = none ↔ v = .null := by
  cases v <;> simp [argumentText]

namespace Arguments

/-- A JSON body gives null under a name that is no parameter of the path. -/
structure GivesNull (path : List (String × String)) (r : Http.Request) (name : String) : Prop where
  apart : name ∉ path.map Prod.fst
  posted : r.method = .post
  announced : (contentType? r).bind Format.ofContentType? = some .json
  null : ∃ fs, jsonFields r = .ok fs ∧ Fields.get? name fs = some .null

theorem string_of_get?_ofPairs {pairs : List (String × String)} {name : String} {v : Json}
    (h : Fields.get? name (ofPairs pairs) = some v) : ∃ text, v = .string text := by
  have hfold : ∀ fs : Fields, (∀ v, Fields.get? name fs = some v → ∃ text, v = .string text) →
      ∀ v, Fields.get? name (pairs.foldl (fun fs p => Fields.setNew p.1 (.string p.2) fs) fs) =
        some v → ∃ text, v = .string text := by
    clear h
    induction pairs with
    | nil => exact fun fs hfs => hfs
    | cons p rest ih =>
      intro fs hfs
      rw [List.foldl_cons]
      refine ih _ ?_
      intro v hv
      rw [Fields.setNew] at hv
      split at hv
      · exact hfs v hv
      · rw [Fields.get?_set] at hv
        split at hv
        · exact ⟨p.2, (Option.some.inj hv).symm⟩
        · exact hfs v hv
  refine hfold [] ?_ v h
  intro w hw
  cases hw

theorem not_null_ofPairs (pairs : List (String × String)) (name : String) :
    Fields.get? name (ofPairs pairs) ≠ some .null := by
  intro h
  obtain ⟨text, htext⟩ := string_of_get?_ofPairs h
  cases htext

/-- Null comes out of a JSON body only. -/
theorem null_of_inputFields {r : Http.Request} {fs : Fields} (h : inputFields r = .ok (some fs))
    {name : String} (hnull : Fields.get? name fs = some .null) :
    r.method = .post ∧ (contentType? r).bind Format.ofContentType? = some .json ∧
      jsonFields r = .ok fs := by
  unfold inputFields at h
  split at h
  · rename_i hmethod
    cases hbody : bodyFields r with
    | error e =>
      rw [hbody] at h
      cases h
    | ok gs =>
      rw [hbody] at h
      cases h
      obtain ⟨contentType, format, hcontent, hformat, hfields⟩ := exists_format_of_bodyFields hbody
      by_cases hjson : format = .json
      · subst hjson
        exact ⟨hmethod, by rw [hcontent, Option.bind_some, hformat], hfields⟩
      · obtain ⟨pairs, rfl⟩ := format.exists_pairs hjson hfields
        exact absurd hnull (not_null_ofPairs pairs name)
  · obtain ⟨pairs, rfl⟩ := exists_pairs_of_queryFields (Except.ok.inj h)
    exact absurd hnull (not_null_ofPairs pairs name)
  · cases h

theorem string_of_overlaid {path : List (String × String)} {name : String}
    (h : name ∈ path.map Prod.fst) (fs : Fields) :
    ∃ text, Fields.get? name (overlaid path fs) = some (.string text) := by
  induction path generalizing fs with
  | nil => cases h
  | cons p rest ih =>
    by_cases hrest : name ∈ rest.map Prod.fst
    · exact ih hrest _
    · obtain rfl : name = p.1 := by simpa [hrest] using h
      exact ⟨p.2, (get?_overlaid_of_not_mem hrest _).trans (Fields.get?_set_self p.1 _ fs)⟩

end Arguments

namespace Signature

variable {s : Signature} {r : Http.Request} {fs : Fields}

theorem mem_named_of_required {name : String} (h : name ∈ s.required) : name ∈ s.named := by
  obtain ⟨p, hp, hname⟩ := List.mem_filterMap.1 h
  refine List.mem_filterMap.2 ⟨p, hp, ?_⟩
  unfold Param.required? at hname
  split at hname
  · rename_i hkind
    simpa [Param.keyword?, hkind] using hname
  · cases hname

theorem readsInput_of_required {name : String} (h : name ∈ s.required) : s.readsInput = true := by
  cases hreads : s.readsInput with
  | true => rfl
  | false =>
    rw [required_eq_nil hreads] at h
    cases h

theorem null_of_decoded (h : s.decoded r = .ok fs) {name : String}
    (hnull : Fields.get? name fs = some .null) :
    r.method = .post ∧
      (Arguments.contentType? r).bind Arguments.Format.ofContentType? = some .json ∧
      Arguments.jsonFields r = .ok fs := by
  rw [decoded] at h
  split at h
  · cases hinput : Arguments.inputFields r with
    | error e =>
      rw [hinput] at h
      cases h
    | ok input =>
      rw [hinput] at h
      cases h
      cases input with
      | none => cases hnull
      | some gs => exact Arguments.null_of_inputFields hinput hnull
  · cases h
    cases hnull

theorem decoded_of_json (hreads : s.readsInput = true) (hmethod : r.method = .post)
    (hformat : (Arguments.contentType? r).bind Arguments.Format.ofContentType? = some .json)
    (hjson : Arguments.jsonFields r = .ok fs) : s.decoded r = .ok fs := by
  obtain ⟨contentType, hcontent, hformat⟩ := Option.bind_eq_some_iff.1 hformat
  rw [decoded_post hmethod hreads]
  unfold Arguments.bodyFields
  rw [hcontent]
  simp only [hformat]
  exact hjson

end Signature

theorem ArgSpec.missing?_of_runs_arguments {s : Signature} {pattern : String} {spec : ArgSpec}
    (hspec : s.inspect pattern = .ok spec) {path : List (String × String)} {r : Http.Request}
    {es : List Exchange} {args : Fields}
    (h : Action.Runs (spec.arguments path r).run es (.ok args)) : s.missing? args = none := by
  unfold arguments at h
  obtain ⟨_, _, input, rfl, -, hrest⟩ := Fallible.runs_bind_ok_iff.1 h
  obtain ⟨_, _, merged, rfl, -, hend⟩ := Fallible.runs_bind_ok_iff.1 hrest
  cases hmissing : spec.missing? merged with
  | some name =>
    rw [hmissing] at hend
    cases (Fallible.runs_throw_iff.1 hend).2
  | none =>
    rw [hmissing] at hend
    cases (Fallible.runs_pure_iff.1 hend).2
    rw [← Signature.missing?_of_inspect hspec, hmissing]

/-- Where arguments were gathered, a required name has the value null if and only if a JSON body
gives it. -/
theorem ArgSpec.null_iff_givesNull {s : Signature} {pattern : String} {spec : ArgSpec}
    (hspec : s.inspect pattern = .ok spec) {path : List (String × String)} {r : Http.Request}
    {es : List Exchange} {args : Fields}
    (h : Action.Runs (spec.arguments path r).run es (.ok args)) {name : String}
    (hname : name ∈ s.required) :
    Fields.get? name args = some .null ↔ Arguments.GivesNull path r name := by
  obtain ⟨fs, hdecoded, rfl⟩ := of_runs_arguments hspec h
  have hreads := Signature.readsInput_of_required hname
  have hadmitted : Fields.get? name (s.admitted fs) = Fields.get? name fs :=
    Signature.get?_admitted (Signature.mem_named_of_required hname)
  constructor
  · intro hnull
    have hapart : name ∉ path.map Prod.fst := by
      intro hmem
      obtain ⟨text, htext⟩ := Arguments.string_of_overlaid hmem (s.admitted fs)
      cases htext.symm.trans hnull
    rw [Arguments.get?_overlaid_of_not_mem hapart, hadmitted] at hnull
    obtain ⟨hposted, hannounced, hfields⟩ := Signature.null_of_decoded hdecoded hnull
    exact ⟨hapart, hposted, hannounced, fs, hfields, hnull⟩
  · rintro ⟨hapart, hposted, hannounced, gs, hfields, hnull⟩
    obtain rfl : gs = fs := Except.ok.inj
      ((Signature.decoded_of_json hreads hposted hannounced hfields).symm.trans hdecoded)
    rw [Arguments.get?_overlaid_of_not_mem hapart, hadmitted, hnull]

namespace Entry

/-- For every signature that is accepted and every request: the handler is called with the arguments
that are gathered, and not otherwise. Where they are, it reads a text under a required name unless a
JSON body gives null there; then the name counts as missing. -/
theorem readable_of_called {s : Signature} {pattern : String} {e : Entry}
    (hspec : s.inspect pattern = .ok e.spec) (user : Option SessionUser) (render : Renderer)
    (path : List (String × String)) (r : Http.Request) :
    (e.dispatch user render path r = (e.spec.arguments path r).run >>= fun outcome =>
      match outcome with
      | .error err => err.respond
      | .ok args => e.answer user render r args) ∧
    ∀ es args, Action.Runs (e.spec.arguments path r).run es (.ok args) → ∀ name ∈ s.required,
      (¬ Arguments.GivesNull path r name →
        ∃ text, (e.call user r args).required name = .ok text) ∧
      (Arguments.GivesNull path r name →
        (e.call user r args).required name = .error (.missingArgument name)) := by
  refine ⟨dispatch_eq e user render path r, ?_⟩
  intro es args hargs name hname
  have hnull := ArgSpec.null_iff_givesNull hspec hargs hname
  have hpresent := ArgSpec.missing?_of_runs_arguments hspec hargs
  have hhas : Fields.has name args = true := by
    simpa using List.find?_eq_none.1 hpresent name hname
  obtain ⟨v, hv⟩ := Option.isSome_iff_exists.1 hhas
  have htext : (e.call user r args).text name = v.argumentText := by
    rw [Call.text, Call.arg, Entry.call, hv]
    rfl
  rw [hv, Option.some.injEq, ← Json.argumentText_eq_none_iff] at hnull
  rw [Call.required, htext]
  refine ⟨?readable, ?null⟩
  case readable =>
    intro hgiven
    obtain ⟨text, heq⟩ := Option.ne_none_iff_exists'.1 (fun hnone => hgiven (hnull.1 hnone))
    exact ⟨text, by rw [heq]⟩
  case null =>
    intro hgiven
    rw [hnull.2 hgiven]

def namingSignature : Signature := [⟨"id", .keyword true⟩, ⟨"name", .keyword true⟩]

def naming : Entry := ⟨.post, "/:id", namingSignature.spec, fun _ => pure (.status 204)⟩

def namingRequest (body : String) : Http.Request :=
  .make .post ⟨"", "/7", none⟩ [⟨"content-type", Text.Utf8.bytesOf "application/json"⟩]
    ⟨(Text.Utf8.bytesOf body).toArray⟩

def mixedBody : String := "\x7b\"id\":null,\"name\":5\x7d"

def nullBody : String := "\x7b\"name\":null\x7d"

theorem inspect_naming : namingSignature.inspect "/\x7bid\x7d" = .ok naming.spec := rfl

theorem decoded_naming (body : String) (fs : Fields)
    (hsize : (Text.Utf8.bytesOf body).toArray.size ≤ Arguments.bodyLimit)
    (hparse : Json.parseBytes? (Text.Utf8.bytesOf body) = some (.object fs)) :
    namingSignature.decoded (namingRequest body) = .ok fs :=
  have hannounced : Arguments.contentType? (namingRequest body) = some "application/json" := rfl
  Signature.decoded_of_json rfl rfl (by rw [hannounced]; decide +kernel)
    (Arguments.jsonFields_eq (Nat.le_min.2 ⟨hsize, Nat.le_refl _⟩) hparse)

def namingArgs : Fields := [("id", .string "7"), ("name", .number (.integer 5))]

theorem runs_arguments_naming :
    Action.Runs (naming.spec.arguments [("id", "7")] (namingRequest mixedBody)).run
      [⟨.log .duplicateArgument, ()⟩] (.ok namingArgs) := by
  have hpath : ([("id", "7")].map Prod.fst).Nodup := by decide
  have hdecoded := decoded_naming mixedBody
    [("id", .null), ("name", .number (.integer 5))] (by decide +kernel) (by decide +kernel)
  rw [ArgSpec.run_arguments inspect_naming hpath, hdecoded]
  exact .ask .done

theorem readable_of_called_naming :
    Action.Runs (naming.spec.arguments [("id", "7")] (namingRequest mixedBody)).run
      [⟨.log .duplicateArgument, ()⟩] (.ok namingArgs) ∧
    ∀ name ∈ namingSignature.required, ∃ text,
      (naming.call none (namingRequest mixedBody) namingArgs).required name = .ok text := by
  refine ⟨runs_arguments_naming, ?_⟩
  intro name hname
  obtain ⟨-, hread⟩ := readable_of_called inspect_naming none (fun _ _ => pure "") [("id", "7")]
    (namingRequest mixedBody)
  refine (hread _ _ runs_arguments_naming name hname).1 ?_
  intro hgiven
  have hnull := (ArgSpec.null_iff_givesNull inspect_naming runs_arguments_naming hname).2 hgiven
  have hnames : name = "id" ∨ name = "name" := by
    simpa [namingSignature, Signature.required, Param.required?] using hname
  rcases hnames with rfl | rfl
  · cases hnull
  · cases hnull

/-- A handler is called with null under a name that it requires, and cannot read it. -/
theorem unreadable_null :
    naming.dispatch none (fun _ _ => pure "") [("id", "7")] (namingRequest nullBody) =
      naming.answer none (fun _ _ => pure "") (namingRequest nullBody)
        [("id", .string "7"), ("name", .null)] ∧
    "name" ∈ namingSignature.required ∧
    (naming.call none (namingRequest nullBody)
        [("id", .string "7"), ("name", .null)]).required "name" =
      .error (.missingArgument "name") := by
  have hpath : ([("id", "7")].map Prod.fst).Nodup := by decide
  have hdecoded := decoded_naming nullBody [("name", .null)]
    (by decide +kernel) (by decide +kernel)
  refine ⟨?_, by decide, rfl⟩
  rw [dispatch_eq, ArgSpec.run_arguments inspect_naming hpath, hdecoded]
  rfl

end Entry
end Weblog
