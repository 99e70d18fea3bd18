import Weblog.Proofs.Http.Form
import Weblog.Proofs.Route.Body

/-!
# Weblog.Proofs.Route.Formats

The same texts under the same names, in whatever format they are sent.

* `get?_ofPairs`: of a repeated name the first text counts.
* `Carries`: a query, a form, a body of several parts and a JSON object that hold such texts.
* `Carries.of_query`, `Carries.of_form`, `exists_carries`: what is encoded is carried.
* `input_of_carries`: what is read of each of them.
* `formats_agree`: they lead to the same arguments, or to the same name that is missing.
-/

namespace Weblog
namespace Arguments

variable {pairs : List (String × String)} {r : Http.Request}

theorem get?_ofPairs (pairs : List (String × String)) (name : String) :
    Fields.get? name (ofPairs pairs) = (pairs.lookup name).map Json.string := by
  have hfold : ∀ fs : Fields,
      Fields.get? name (pairs.foldl (fun fs p => Fields.setNew p.1 (.string p.2) fs) fs) =
        (Fields.get? name fs).or ((pairs.lookup name).map Json.string) := by
    induction pairs with
    | nil => simp
    | cons p rest ih =>
      intro fs
      rw [List.foldl_cons, ih, Fields.setNew, lookup_cons_eq]
      by_cases hname : name = p.1
      · subst hname
        cases hhas : Fields.get? p.1 fs <;> simp [Fields.has, hhas]
      · split <;> simp [Fields.get?_set_of_ne hname]
  exact hfold []

theorem get?_ofPath (path : List (String × String)) (name : String) :
    Fields.get? name (ofPath path) = (path.lookup name).map Json.string := by
  induction path with
  | nil => rfl
  | cons p rest ih =>
    have hcons : ofPath (p :: rest) = (p.1, .string p.2) :: ofPath rest := rfl
    rw [hcons, Fields.get?_cons, ih, lookup_cons_eq]
    by_cases hname : name = p.1
    · simp [hname]
    · simp [hname, Ne.symm hname]

/-- Under distinct names the first text is the last. -/
theorem ofList_eq_ofPairs (h : (pairs.map Prod.fst).Nodup) :
    Fields.ofList (ofPath pairs) = ofPairs pairs := by
  have hkeys : (ofPath pairs).map Prod.fst = pairs.map Prod.fst := by simp [ofPath]
  refine (Fields.sorted_ofList _).ext (sorted_ofPairs pairs) ?_
  intro name
  rw [Fields.get?_ofList (hkeys ▸ h), get?_ofPath, get?_ofPairs]

/-- A request carries texts under names in one of the formats, in a body that is not too long. -/
inductive Carries (pairs : List (String × String)) (r : Http.Request) : Prop where
  | query : r.method = .get →
      Http.Form.pairs (Text.Utf8.bytesOf (r.uri.query.getD "")) = pairs → Carries pairs r
  | form : r.method = .post → announced? r = some .form →
      r.body.size ≤ min bodyLimit r.limit →
      Http.Form.pairs r.body.data.toList = pairs → Carries pairs r
  | multipart {boundary : List UInt8} : r.method = .post → announced? r = some .multipart →
      (Http.headerText? "content-type" r.headers).bind Http.Multipart.boundary? = some boundary →
      r.body.size ≤ min multipartLimit r.limit →
      Http.Multipart.pairs? boundary r.body.data.toList = some pairs → Carries pairs r
  /-- The names of a JSON object are distinct. -/
  | json : r.method = .post → announced? r = some .json →
      r.body.size ≤ min bodyLimit r.limit → (pairs.map Prod.fst).Nodup →
      Json.parseBytes? r.body.data.toList =
        some (.ofFields (pairs.map fun p => (p.1, .string p.2))) →
      Carries pairs r

/-- A query carries what it encodes, whatever it escapes. -/
theorem Carries.of_query {pieces : List (List UInt8)} (hmethod : r.method = .get)
    (h : List.Forall₂ Http.Form.EncodesPair pieces pairs)
    (hquery : Text.Utf8.bytesOf (r.uri.query.getD "") = [0x26].intercalate pieces) :
    Carries pairs r := by
  refine .query hmethod ?_
  rw [hquery, Http.Form.pairs_intercalate h]

/-- So does a form. -/
theorem Carries.of_form {pieces : List (List UInt8)} (hmethod : r.method = .post)
    (hformat : announced? r = some .form) (hsize : r.body.size ≤ min bodyLimit r.limit)
    (h : List.Forall₂ Http.Form.EncodesPair pieces pairs)
    (hbody : r.body.data.toList = [0x26].intercalate pieces) : Carries pairs r := by
  refine .form hmethod hformat hsize ?_
  rw [hbody, Http.Form.pairs_intercalate h]

/-- All texts under all names are carried by some query. -/
theorem exists_carries (pairs : List (String × String)) : ∃ r, Carries pairs r :=
  ⟨.make .get ⟨"", "/", some (Http.Form.query pairs)⟩ [] .empty,
    .query rfl (Http.Form.pairs_query pairs)⟩

theorem inputFields_of_holds {f : Format} {fs : Fields} (hmethod : r.method = .post)
    (hformat : announced? r = some f) (hsize : r.body.size ≤ min f.limit r.limit)
    (h : f.Holds r fs) : inputFields r = .ok (some fs) := by
  rw [inputFields_post hmethod, bodyFields_of_announced? hformat, f.fields_of_holds h hsize]
  rfl

theorem queryFields_getD (query : Option String) :
    (queryFields query).getD [] =
      ofPairs (Http.Form.pairs (Text.Utf8.bytesOf (query.getD ""))) := by
  cases query with
  | none => rfl
  | some q =>
    rw [queryFields]
    split
    · rename_i hempty
      rw [Option.getD_some, String.isEmpty_iff.1 hempty]
      rfl
    · rfl

/-- Whatever the format, what is read are the texts under their names; an empty query is read as no
fields at all. -/
theorem inputFields_of_carries (h : Carries pairs r) :
    ∃ input, inputFields r = .ok input ∧ input.getD [] = ofPairs pairs := by
  cases h with
  | query hmethod hpairs =>
    refine ⟨queryFields r.uri.query, ?_, hpairs ▸ queryFields_getD _⟩
    rw [inputFields, hmethod]
  | form hmethod hformat hsize hpairs =>
    exact ⟨_, inputFields_of_holds hmethod hformat hsize (hpairs ▸ .form), rfl⟩
  | multipart hmethod hformat hboundary hsize hpairs =>
    exact ⟨_, inputFields_of_holds hmethod hformat hsize (.multipart hboundary hpairs), rfl⟩
  | json hmethod hformat hsize hdistinct hparse =>
    refine ⟨_, inputFields_of_holds hmethod hformat hsize (.json hparse), ?_⟩
    exact ofList_eq_ofPairs hdistinct

end Arguments

theorem ArgSpec.input_of_carries {spec : ArgSpec} (hreads : spec.readsInput = true)
    {pairs : List (String × String)} {r : Http.Request} (h : Arguments.Carries pairs r) :
    ∃ input, spec.input r = .ok input ∧ input.getD [] = Arguments.ofPairs pairs := by
  rw [input, if_pos hreads]
  exact Arguments.inputFields_of_carries h

theorem ArgSpec.get?_keep {spec : ArgSpec} (hreads : spec.readsInput = true) (fs : Fields)
    (name : String) : Fields.get? name (spec.keep fs) =
      if spec.takesAll || spec.named.contains name then Fields.get? name fs else none := by
  rw [keep]
  cases htakes : spec.takesAll with
  | true => rfl
  | false =>
    have hnamed : spec.named.isEmpty = false := by simpa [readsInput, htakes] using hreads
    simp only [hnamed, Bool.or_self, Bool.false_eq_true, if_false, Bool.false_or]
    exact Fields.get?_filterKeys _ name fs

namespace Entry

/-- For every declaration that reads its input, all texts under names and all parameters of a path:
there are arguments such that every request that carries the texts, in whatever format, leads to
them, or to the first required name that is not among them. Under a name they have the text of the
last parameter of this name, and else, where the name is declared, the first text that was sent. -/
theorem formats_agree {e : Entry} (hreads : e.spec.readsInput = true)
    (pairs path : List (String × String)) (user : Option SessionUser) (render : Renderer) :
    ∃ args : Fields, args.Sorted ∧
      (∀ name, Fields.get? name args = ((path.reverse.lookup name).or
        (if e.spec.takesAll || e.spec.named.contains name then pairs.lookup name
          else none)).map Json.string) ∧
      ∀ r, Arguments.Carries pairs r → ∃ noted : List (String × String), noted.Sublist path ∧
        e.dispatch user render path r =
          noted.forM (fun _ => Action.log .duplicateArgument) >>= fun _ =>
            match e.spec.required.find? fun name => !Fields.has name args with
            | some name =>
              .done (.json 400 (.ofFields [("error", .string "value:missing"),
                ("data", .string name), ("message", .string ("Missing argument: " ++ name))]))
            | none => e.answer user render r args := by
  refine ⟨Arguments.overlaid path (e.spec.keep (Arguments.ofPairs pairs)), ?sorted, ?texts, ?calls⟩
  case sorted =>
    exact Arguments.sorted_overlaid (e.spec.sorted_keep (Arguments.sorted_ofPairs pairs)) path
  case texts =>
    intro name
    rw [Arguments.get?_overlaid_reverse, ArgSpec.get?_keep hreads, Arguments.get?_ofPairs]
    cases path.reverse.lookup name with
    | some text => rfl
    | none => split <;> rfl
  case calls =>
    intro r hcarries
    obtain ⟨input, hinput, hfields⟩ := ArgSpec.input_of_carries hreads hcarries
    obtain ⟨noted, hsub, hdispatch⟩ := exists_dispatch_eq hinput path
    refine ⟨noted, hsub, (hdispatch user render).trans ?_⟩
    rw [hfields]
    rfl

def revisionSignature : Signature :=
  [⟨"id", .keyword true⟩, ⟨"name", .keyword true⟩, ⟨"page", .keyword false⟩]

def revision : Entry := ⟨.post, "/:id", revisionSignature.spec, fun _ => pure (.status 204)⟩

def postOf (contentType body : String) : Http.Request :=
  .make .post ⟨"", "/7", none⟩ [⟨"content-type", Text.Utf8.bytesOf contentType⟩]
    ⟨(Text.Utf8.bytesOf body).toArray⟩

/-- A name that is repeated, in the three formats that admit this. -/
def queried : Http.Request := .make .get ⟨"", "/7", some "name=a+b&name=c"⟩ [] .empty

def formed : Http.Request := postOf "application/x-www-form-urlencoded" "name=a%20b&name=c"

def parted : Http.Request := postOf "multipart/form-data; boundary=XYZ"
  ("--XYZ\r\nContent-Disposition: form-data; name=\"name\"\r\n\r\na b\r\n" ++
    "--XYZ\r\nContent-Disposition: form-data; name=name\r\n\r\nc\r\n--XYZ--\r\n")

def objected : Http.Request := postOf "application/json" "\x7b\"name\":\"a b\"\x7d"

theorem formats_agree_revision :
    ∃ args : Fields, Fields.get? "id" args = some (.string "7") ∧
      Fields.get? "name" args = some (.string "a b") ∧
      ∀ r ∈ [queried, formed, parted, objected], ∃ noted : List (String × String),
        revision.dispatch none (fun _ _ => pure "") [("id", "7")] r =
          noted.forM (fun _ => Action.log .duplicateArgument) >>= fun _ =>
            revision.answer none (fun _ _ => pure "") r args := by
  obtain ⟨args, hsorted, hargs, hrepeated⟩ := formats_agree (e := revision) rfl
    [("name", "a b"), ("name", "c")] [("id", "7")] none (fun _ _ => pure "")
  obtain ⟨args', hsorted', hargs', hdistinct⟩ := formats_agree (e := revision) rfl
    [("name", "a b")] [("id", "7")] none (fun _ _ => pure "")
  -- the repetition that an object cannot hold makes no difference
  obtain rfl : args' = args := by
    refine hsorted'.ext hsorted fun name => ?_
    rw [hargs, hargs']
    by_cases hname : name = "name" <;> simp [Arguments.lookup_cons_eq, hname]
  have hid : Fields.get? "id" args' = some (.string "7") := hargs "id"
  have hname : Fields.get? "name" args' = some (.string "a b") := hargs "name"
  have hfound : (revision.spec.required.find? fun name => !Fields.has name args') = none := by
    simp [revision, Signature.spec, revisionSignature, Param.required?, Fields.has, hid, hname]
  refine ⟨args', hid, hname, ?_⟩
  intro r hr
  have hcarries : Arguments.Carries [("name", "a b"), ("name", "c")] r ∨
      Arguments.Carries [("name", "a b")] r := by
    simp only [List.mem_cons, List.not_mem_nil, or_false] at hr
    rcases hr with rfl | rfl | rfl | rfl
    · exact .inl (.query rfl (by decide +kernel))
    · exact .inl (.form rfl (by decide +kernel) (by decide +kernel) (by decide +kernel))
    · have hboundary : (Http.headerText? "content-type" parted.headers).bind
          Http.Multipart.boundary? = some (Text.Utf8.bytesOf "XYZ") := by decide +kernel
      exact .inl (.multipart rfl (by decide +kernel) hboundary (by decide +kernel)
        (by decide +kernel))
    · exact .inr (.json rfl (by decide +kernel) (by decide +kernel) (by decide)
        (by decide +kernel))
  obtain ⟨noted, -, hdispatch⟩ := hcarries.elim (hrepeated r) (hdistinct r)
  refine ⟨noted, hdispatch.trans ?_⟩
  rw [hfound]

end Entry
end Weblog
