import Weblog.Proofs.Json.Fields
import Weblog.Proofs.Route.Signature
import Weblog.Route.Arguments

/-!
# Weblog.Proofs.Route.Arguments

What the arguments of a handler are, from its signature on.

* `sorted_of_inputFields`: what is read of a query or a body has its keys in order.
* `Signature.decoded`, `Signature.admitted`: the input of a request, none where the handler declares
  no names, and what is left of it.
* `overlay_ofPath`: the parameters of a path, whose names are distinct, are noted once each where the
  input has their name, and take its place.
* `run_arguments`: the arguments of a handler with a signature.
-/

namespace Weblog
namespace Arguments

theorem lookup_cons_eq (name : String) (p : String × String) (rest : List (String × String)) :
    (p :: rest).lookup name = if name = p.1 then some p.2 else rest.lookup name := by
  rw [List.lookup_cons]
  by_cases h : name = p.1
  · simp [h]
  · have hne : (name == p.1) = false := beq_false_of_ne h
    simp [h, hne]

theorem sorted_ofPairs (pairs : List (String × String)) : (ofPairs pairs).Sorted :=
  Fields.sorted_foldl (fun _ p h => h.setNew p.1 (.string p.2)) pairs Fields.sorted_nil

theorem jsonFields_eq {r : Http.Request} {fs : Fields} (hsize : r.body.size ≤ min bodyLimit r.limit)
    (hparse : Json.parseBytes? r.body.data.toList = some (.object fs)) :
    jsonFields r = .ok fs := by
  have hread : readBody bodyLimit .tooLong r = .ok r.body.data.toList :=
    if_neg (Nat.not_lt.2 hsize)
  unfold jsonFields
  rw [hread]
  simp only [bind, Except.bind, hparse]

theorem sorted_of_jsonFields {r : Http.Request} {fs : Fields} (h : jsonFields r = .ok fs) :
    fs.Sorted := by
  unfold jsonFields at h
  cases hbody : readBody bodyLimit .tooLong r with
  | error e =>
    rw [hbody] at h
    cases h
  | ok octets =>
    rw [hbody] at h
    cases hparse : Json.parseBytes? octets with
    | none =>
      simp only [hparse, bind, Except.bind] at h
      cases h
    | some v =>
      cases v with
      | object gs =>
        simp only [hparse, bind, Except.bind] at h
        cases h
        exact Json.sorted_of_parseBytes? hparse
      | null | bool | number | string | array =>
        simp only [hparse, bind, Except.bind] at h
        cases h

theorem exists_pairs_of_formFields {r : Http.Request} {fs : Fields} (h : formFields r = .ok fs) :
    ∃ pairs, fs = ofPairs pairs := by
  unfold formFields at h
  cases hbody : readBody bodyLimit .tooLong r with
  | error e =>
    rw [hbody] at h
    cases h
  | ok octets =>
    rw [hbody] at h
    cases h
    exact ⟨_, rfl⟩

theorem exists_pairs_of_multipartFields {r : Http.Request} {fs : Fields}
    (h : multipartFields r = .ok fs) : ∃ pairs, fs = ofPairs pairs := by
  unfold multipartFields at h
  split at h
  · cases h
  · rename_i boundary _
    cases hbody : readBody multipartLimit .multipart r with
    | error e =>
      rw [hbody] at h
      cases h
    | ok octets =>
      rw [hbody] at h
      cases hpairs : Http.Multipart.pairs? boundary octets with
      | none =>
        simp only [hpairs, bind, Except.bind] at h
        cases h
      | some pairs =>
        simp only [hpairs, bind, Except.bind] at h
        cases h
        exact ⟨pairs, rfl⟩

/-- What a format other than JSON brings are texts under names. -/
theorem Format.exists_pairs {f : Format} (hf : f ≠ .json) {r : Http.Request} {fs : Fields}
    (h : f.fields r = .ok fs) : ∃ pairs, fs = ofPairs pairs := by
  cases f with
  | json => exact absurd rfl hf
  | form => exact exists_pairs_of_formFields h
  | multipart => exact exists_pairs_of_multipartFields h

theorem Format.sorted_fields {f : Format} {r : Http.Request} {fs : Fields}
    (h : f.fields r = .ok fs) : fs.Sorted := by
  by_cases hf : f = .json
  · subst hf
    exact sorted_of_jsonFields h
  · obtain ⟨pairs, rfl⟩ := f.exists_pairs hf h
    exact sorted_ofPairs pairs

theorem exists_pairs_of_queryFields {query : Option String} {fs : Fields}
    (h : queryFields query = some fs) : ∃ pairs, fs = ofPairs pairs := by
  unfold queryFields at h
  split at h
  · cases h
  · split at h
    · cases h
    · cases h
      exact ⟨_, rfl⟩

/-- What is read of a body is read in the format that its content type announces. -/
theorem exists_format_of_bodyFields {r : Http.Request} {fs : Fields} (h : bodyFields r = .ok fs) :
    ∃ contentType format, contentType? r = some contentType ∧
      Format.ofContentType? contentType = some format ∧ format.fields r = .ok fs := by
  unfold bodyFields at h
  split at h
  · cases h
  · rename_i contentType hcontent
    split at h
    · rename_i format hformat
      exact ⟨contentType, format, hcontent, hformat, h⟩
    · cases h

/-- What is read of a query or a body has its keys in order. -/
theorem sorted_of_inputFields {r : Http.Request} {fs : Fields}
    (h : inputFields r = .ok (some fs)) : fs.Sorted := by
  unfold inputFields at h
  split at h
  · cases hbody : bodyFields r with
    | error e =>
      rw [hbody] at h
      cases h
    | ok gs =>
      rw [hbody] at h
      cases h
      obtain ⟨_, format, -, -, hfields⟩ := exists_format_of_bodyFields hbody
      exact format.sorted_fields hfields
  · obtain ⟨pairs, rfl⟩ := exists_pairs_of_queryFields (Except.ok.inj h)
    exact sorted_ofPairs pairs
  · cases h

def overlaid (path : List (String × String)) (fs : Fields) : Fields :=
  path.foldl (fun fs p => Fields.set p.1 (.string p.2) fs) fs

/-- The parameters of a path whose names fields have as well. -/
def repeated (path : List (String × String)) (fs : Fields) : List (String × String) :=
  path.filter fun p => Fields.has p.1 fs

/-- One line of the log for each parameter of a path whose name fields have as well. -/
def noteRepeated (path : List (String × String)) (fs : Fields) : Action Unit :=
  (repeated path fs).forM fun _ => Action.log .duplicateArgument

theorem sorted_overlaid {fs : Fields} (h : fs.Sorted) (path : List (String × String)) :
    (overlaid path fs).Sorted :=
  Fields.sorted_foldl (fun _ p hgs => hgs.set p.1 (.string p.2)) path h

theorem get?_overlaid_of_not_mem {path : List (String × String)} {name : String}
    (h : name ∉ path.map Prod.fst) (fs : Fields) :
    Fields.get? name (overlaid path fs) = Fields.get? name fs := by
  induction path generalizing fs with
  | nil => rfl
  | cons p rest ih =>
    rw [List.map_cons, List.mem_cons, not_or] at h
    exact (ih h.2 _).trans (Fields.get?_set_of_ne h.1 _ fs)

/-- A name has the text of the last of its parameters. -/
theorem get?_overlaid_last {after : List (String × String)} {name : String}
    (h : name ∉ after.map Prod.fst) (before : List (String × String)) (text : String)
    (fs : Fields) :
    Fields.get? name (overlaid (before ++ (name, text) :: after) fs) = some (.string text) := by
  have hsplit : overlaid (before ++ (name, text) :: after) fs =
      overlaid after (Fields.set name (.string text) (overlaid before fs)) := List.foldl_append
  rw [hsplit, get?_overlaid_of_not_mem h]
  exact Fields.get?_set_self name _ _

/-- A name has the text of its parameter, and where it is no parameter the value of its field. -/
theorem get?_overlaid {path : List (String × String)} (hpath : (path.map Prod.fst).Nodup)
    (fs : Fields) (name : String) :
    Fields.get? name (overlaid path fs) =
      ((path.lookup name).map Json.string).or (Fields.get? name fs) := by
  induction path generalizing fs with
  | nil => rfl
  | cons p rest ih =>
    obtain ⟨k, v⟩ := p
    rw [List.map_cons, List.nodup_cons] at hpath
    rw [List.lookup_cons]
    by_cases h : name = k
    · subst h
      have hkept := get?_overlaid_of_not_mem hpath.1 (Fields.set name (.string v) fs)
      rw [beq_self_eq_true]
      exact hkept.trans (Fields.get?_set_self name _ fs)
    · rw [beq_false_of_ne h]
      refine (ih hpath.2 _).trans ?_
      rw [Fields.get?_set_of_ne h]

theorem repeated_nil (path : List (String × String)) : repeated path [] = [] :=
  List.filter_eq_nil_iff.2 fun _ _ => nofun

theorem filter_has_set {values : Fields} {key : String} (h : key ∉ values.map Prod.fst) (v : Json)
    (fs : Fields) :
    values.filter (fun p => Fields.has p.1 (Fields.set key v fs)) =
      values.filter fun p => Fields.has p.1 fs := by
  refine List.filter_congr ?_
  intro p hp
  have hne : p.1 ≠ key := fun he => h (he ▸ List.mem_map_of_mem hp)
  simp [Fields.has_set, hne]

/-- Values under distinct names are noted once each where fields have their name, and take the place
of these fields. -/
theorem overlay_eq {values : Fields} (h : (values.map Prod.fst).Nodup) (fs : Fields) :
    overlay values fs =
      (values.filter fun p => Fields.has p.1 fs).forM (fun _ => Action.log .duplicateArgument) >>=
        fun _ => .done (Fields.laid values fs) := by
  induction values generalizing fs with
  | nil => rfl
  | cons p rest ih =>
    obtain ⟨k, v⟩ := p
    rw [List.map_cons, List.nodup_cons] at h
    have hrest := ih h.2 (Fields.set k v fs)
    rw [filter_has_set h.1] at hrest
    rw [overlay, hrest]
    by_cases hk : Fields.has k fs = true
    · have hfirst : List.filter (fun p => Fields.has p.1 fs) ((k, v) :: rest) =
          (k, v) :: rest.filter fun p => Fields.has p.1 fs := List.filter_cons_of_pos hk
      rw [hfirst, if_pos hk]
      rfl
    · have hfirst : List.filter (fun p => Fields.has p.1 fs) ((k, v) :: rest) =
          rest.filter fun p => Fields.has p.1 fs := List.filter_cons_of_neg hk
      rw [hfirst, if_neg hk]
      rfl

theorem laid_ofPath (path : List (String × String)) (fs : Fields) :
    Fields.laid (ofPath path) fs = overlaid path fs := by
  rw [Fields.laid, ofPath, List.foldl_map]
  rfl

theorem ofList_ofPath (path : List (String × String)) :
    Fields.ofList (ofPath path) = overlaid path [] :=
  laid_ofPath path []

/-- The parameters of a path that are collected first have the same effect. -/
theorem laid_ofList_ofPath {fs : Fields} (h : fs.Sorted) (path : List (String × String)) :
    Fields.laid (Fields.ofList (ofPath path)) fs = overlaid path fs := by
  rw [Fields.laid_ofList h, laid_ofPath]

/-- Only the number of the lines matters. -/
theorem forM_log_congr {α β : Type} {xs : List α} {ys : List β} (h : xs.length = ys.length)
    (entry : LogEntry) :
    (xs.forM fun _ => Action.log entry) = ys.forM fun _ => Action.log entry := by
  induction xs generalizing ys with
  | nil =>
    obtain rfl := List.length_eq_zero_iff.1 h.symm
    rfl
  | cons x xs ih =>
    cases ys with
    | nil => cases h
    | cons y ys => exact congrArg (Action.log entry >>= fun _ => ·) (ih (Nat.succ.inj h))

/-- Parameters with distinct names are noted once each where fields have their name, and take the
place of these fields. -/
theorem overlay_ofPath {path : List (String × String)} (hpath : (path.map Prod.fst).Nodup)
    {fs : Fields} (hfs : fs.Sorted) :
    overlay (Fields.ofList (ofPath path)) fs =
      noteRepeated path fs >>= fun _ => .done (overlaid path fs) := by
  have hnames : (ofPath path).map Prod.fst = path.map Prod.fst := by
    rw [ofPath, List.map_map]
    rfl
  have hrepeated : (ofPath path).filter (fun p => Fields.has p.1 fs) = ofPath (repeated path fs) :=
    List.filter_map
  have hlength : ((Fields.ofList (ofPath path)).filter fun p => Fields.has p.1 fs).length =
      (repeated path fs).length := by
    rw [((Fields.perm_ofList (hnames ▸ hpath)).filter _).length_eq, hrepeated, ofPath,
      List.length_map]
  rw [overlay_eq (Fields.sorted_ofList _).nodup, laid_ofList_ofPath hfs, forM_log_congr hlength,
    noteRepeated]

/-- Whatever their names are, some parameters are noted and all are laid over. -/
theorem exists_overlay_eq (path : List (String × String)) {fs : Fields} (hfs : fs.Sorted) :
    ∃ noted : List (String × String), noted.Sublist path ∧
      overlay (Fields.ofList (ofPath path)) fs =
        noted.forM (fun _ => Action.log .duplicateArgument) >>= fun _ => .done (overlaid path fs) := by
  rw [overlay_eq (Fields.sorted_ofList _).nodup, laid_ofList_ofPath hfs]
  have hle : ((Fields.ofList (ofPath path)).filter fun p => Fields.has p.1 fs).length ≤
      path.length := by
    have hall := Fields.length_ofList_le (ofPath path)
    rw [ofPath, List.length_map] at hall
    exact Nat.le_trans (List.length_filter_le _ _) hall
  generalize (Fields.ofList (ofPath path)).filter (fun p => Fields.has p.1 fs) = laid at hle ⊢
  refine ⟨path.take laid.length, List.take_sublist _ path, ?_⟩
  rw [forM_log_congr (List.length_take_of_le hle).symm]

/-- A name has the text of the last of its parameters, and where it is no parameter the value of its
field. -/
theorem get?_overlaid_reverse (path : List (String × String)) (fs : Fields) (name : String) :
    Fields.get? name (overlaid path fs) =
      ((path.reverse.lookup name).map Json.string).or (Fields.get? name fs) := by
  induction path generalizing fs with
  | nil => rfl
  | cons p rest ih =>
    have hcons : overlaid (p :: rest) fs = overlaid rest (Fields.set p.1 (.string p.2) fs) := rfl
    rw [hcons, ih, List.reverse_cons, List.lookup_append, Fields.get?_set]
    by_cases h : name = p.1 <;> cases rest.reverse.lookup name <;> simp [lookup_cons_eq, h]

end Arguments

def ParamKind.readsInput : ParamKind → Bool
  | .keyword _ | .varKeyword => true
  | _ => false

namespace Signature

/-- Some parameter is filled from the input. -/
def readsInput (s : Signature) : Bool := s.any fun p => p.kind.readsInput

/-- Some parameter takes every name. -/
def takesAll (s : Signature) : Bool := s.any fun p => p.kind == .varKeyword

def named (s : Signature) : List String := s.filterMap Param.keyword?

/-- The names that must be given, in order. -/
def required (s : Signature) : List String := s.filterMap Param.required?

/-- The input of a request: the fields of its query or body, none where there is nothing to read
or nothing is read. -/
def decoded (s : Signature) (r : Http.Request) : Except BodyError Fields :=
  if s.readsInput then (Arguments.inputFields r).map (·.getD []) else .ok []

/-- What a handler may see of the input. -/
def admitted (s : Signature) (fs : Fields) : Fields :=
  if s.takesAll then fs else fs.filter fun f => s.named.contains f.1

/-- The first name that must be given and is not. -/
def missing? (s : Signature) (args : Fields) : Option String :=
  s.required.find? fun name => !Fields.has name args

theorem readsInput_eq (s : Signature) : s.readsInput = (s.takesAll || !s.named.isEmpty) := by
  induction s with
  | nil => rfl
  | cons p rest ih =>
    obtain ⟨name, kind⟩ := p
    rw [readsInput, takesAll, named] at ih ⊢
    rw [List.any_cons, List.any_cons, ih]
    cases kind with
    | request => rfl
    | positional => rfl
    | varPositional => rfl
    | keyword required => simp [ParamKind.readsInput, Param.keyword?]
    | varKeyword => rfl

/-- Where nothing is read, nothing is required. -/
theorem required_eq_nil {s : Signature} (h : s.readsInput = false) : s.required = [] := by
  refine List.filterMap_eq_nil_iff.2 ?_
  intro p hp
  have hkind : p.kind.readsInput = false := by simpa using List.any_eq_false.1 h p hp
  obtain ⟨name, kind⟩ := p
  cases kind with
  | keyword needed => cases hkind
  | request | positional | varPositional | varKeyword => rfl

variable {s : Signature} {pattern : String} {spec : ArgSpec}

theorem spec_of_inspect (h : s.inspect pattern = .ok spec) : spec = s.spec := by
  rw [inspect_eq] at h
  split at h
  · cases h
  · exact (Except.ok.inj h).symm

theorem readsInput_of_inspect (h : s.inspect pattern = .ok spec) :
    spec.readsInput = s.readsInput := by
  rw [spec_of_inspect h, readsInput_eq]
  rfl

theorem missing?_of_inspect (h : s.inspect pattern = .ok spec) (args : Fields) :
    spec.missing? args = s.missing? args := by
  rw [spec_of_inspect h]
  rfl

/-- Where something is read, what is kept is what the handler may see. -/
theorem keep_of_inspect (h : s.inspect pattern = .ok spec) (hreads : s.readsInput = true)
    (fs : Fields) : spec.keep fs = s.admitted fs := by
  have hkeep : spec.keep fs = if s.takesAll || s.named.isEmpty then fs else
      fs.filter fun f => s.named.contains f.1 := by
    rw [spec_of_inspect h]
    rfl
  rw [hkeep, admitted]
  rw [readsInput_eq] at hreads
  cases htakes : s.takesAll with
  | true => rfl
  | false =>
    have hnamed : s.named.isEmpty = false := by simpa [htakes] using hreads
    rw [hnamed]
    rfl

theorem admitted_nil (s : Signature) : s.admitted [] = [] := by
  rw [admitted]
  split <;> rfl

theorem sorted_of_decoded {r : Http.Request} {fs : Fields} (h : s.decoded r = .ok fs) :
    fs.Sorted := by
  unfold decoded at h
  split at h
  · cases hinput : Arguments.inputFields r with
    | error e =>
      rw [hinput] at h
      cases h
    | ok input =>
      rw [hinput] at h
      cases h
      cases input with
      | none => exact Fields.sorted_nil
      | some gs => exact Arguments.sorted_of_inputFields hinput
  · cases h
    exact Fields.sorted_nil

theorem sorted_admitted {fs : Fields} (h : fs.Sorted) (s : Signature) : (s.admitted fs).Sorted := by
  rw [admitted]
  split
  · exact h
  · exact h.filter _

/-- Input that agrees on the declared names is the same to a handler that does not take all. -/
theorem admitted_congr {fs gs : Fields} (hfs : fs.Sorted) (hgs : gs.Sorted)
    (htakes : s.takesAll = false) (h : ∀ name ∈ s.named, Fields.get? name fs = Fields.get? name gs) :
    s.admitted fs = s.admitted gs := by
  refine (sorted_admitted hfs s).ext (sorted_admitted hgs s) ?_
  intro name
  rw [admitted, admitted, htakes]
  simp only [Bool.false_eq_true, if_false]
  rw [Fields.get?_filterKeys, Fields.get?_filterKeys]
  by_cases hname : s.named.contains name = true
  · rw [if_pos hname, if_pos hname, h name (by simpa using hname)]
  · rw [if_neg hname, if_neg hname]

/-- What a handler declares by name it sees as it is in the input. -/
theorem get?_admitted {fs : Fields} {name : String} (h : name ∈ s.named) :
    Fields.get? name (s.admitted fs) = Fields.get? name fs := by
  rw [admitted]
  split
  · rfl
  · rw [Fields.get?_filterKeys, if_pos (by simpa using h)]

theorem missing?_eq_none {args : Fields}
    (h : ∀ name ∈ s.required, (Fields.get? name args).isSome) : s.missing? args = none := by
  refine List.find?_eq_none.2 ?_
  intro name hname
  simp [Fields.has, h name hname]

/-- The input of a POST is its body, where the handler reads any. -/
theorem decoded_post {r : Http.Request} (hmethod : r.method = .post)
    (hreads : s.readsInput = true) : s.decoded r = Arguments.bodyFields r := by
  rw [decoded, hreads, if_pos rfl, Arguments.inputFields, hmethod]
  cases Arguments.bodyFields r <;> rfl

end Signature

namespace ArgSpec

variable {s : Signature} {pattern : String} {spec : ArgSpec}

theorem keep_nil (spec : ArgSpec) : spec.keep [] = [] := by
  rw [keep]
  split <;> rfl

theorem sorted_of_input {r : Http.Request} {fs : Fields} (h : spec.input r = .ok (some fs)) :
    fs.Sorted := by
  rw [input] at h
  split at h
  · exact Arguments.sorted_of_inputFields h
  · cases h

theorem sorted_keep {fs : Fields} (h : fs.Sorted) (spec : ArgSpec) : (spec.keep fs).Sorted := by
  rw [keep]
  split
  · exact h
  · exact h.filter _

/-- A request without input is like one whose input is empty. -/
theorem merge_none {path : List (String × String)} (hpath : (path.map Prod.fst).Nodup)
    (spec : ArgSpec) : spec.merge path none = spec.merge path (some []) := by
  rw [merge, merge, keep_nil, Arguments.overlay_ofPath hpath Fields.sorted_nil,
    Arguments.noteRepeated, Arguments.repeated_nil, Arguments.ofList_ofPath]
  rfl

/-- What becomes of arguments: the first missing name is the error. -/
def settle (spec : ArgSpec) (args : Fields) : Except AppError Fields :=
  match spec.missing? args with
  | some name => .error (.missingArgument name)
  | none => .ok args

/-- Where the input is decoded, the arguments are merged with the parameters of the path. -/
theorem run_arguments_eq_merge {spec : ArgSpec} {r : Http.Request} {input : Option Fields}
    (h : spec.input r = .ok input) (path : List (String × String)) :
    (spec.arguments path r).run =
      spec.merge path input >>= fun args => .done (spec.settle args) := by
  rw [arguments, h]
  refine (ExceptT.run_bind_lift _ _).trans ?_
  congr 1
  funext args
  rw [settle]
  cases spec.missing? args <;> rfl

/-- Where nothing is read, the parameters of the path are all there is. -/
theorem run_arguments_of_none {spec : ArgSpec} {r : Http.Request} (h : spec.input r = .ok none)
    (path : List (String × String)) :
    (spec.arguments path r).run = .done (spec.settle (Arguments.overlaid path [])) := by
  rw [run_arguments_eq_merge h, merge, Arguments.ofList_ofPath]
  rfl

/-- The outcome of gathering arguments out of what a handler may see of the input. -/
def outcome (s : Signature) (path : List (String × String)) (fs : Fields) :
    Except AppError Fields :=
  let args := Arguments.overlaid path (s.admitted fs)
  match s.missing? args with
  | some name => .error (.missingArgument name)
  | none => .ok args

/-- The arguments of a handler: the input is decoded, the parameters of the path are noted where
they take the place of a field, and the first missing name is the error. -/
theorem run_arguments (hspec : s.inspect pattern = .ok spec) {path : List (String × String)}
    (hpath : (path.map Prod.fst).Nodup) (r : Http.Request) :
    (spec.arguments path r).run =
      match s.decoded r with
      | .error e => .done (.error (.body e))
      | .ok fs => Arguments.noteRepeated path (s.admitted fs) >>= fun _ =>
          .done (outcome s path fs) := by
  have hmerge : ∀ input : Option Fields, spec.input r = .ok input →
      (s.readsInput = true ∨ input = none) →
      spec.merge path input = Arguments.noteRepeated path (s.admitted (input.getD [])) >>=
        fun _ => .done (Arguments.overlaid path (s.admitted (input.getD []))) := by
    intro input hinput hreads
    cases input with
    | none =>
      rw [merge_none hpath, merge, keep_nil, Arguments.overlay_ofPath hpath Fields.sorted_nil,
        Option.getD_none, Signature.admitted_nil]
    | some fs =>
      have hreads : s.readsInput = true := by simpa using hreads
      rw [merge, Arguments.overlay_ofPath hpath (sorted_keep (sorted_of_input hinput) spec),
        Signature.keep_of_inspect hspec hreads, Option.getD_some]
  have hrun : ∀ input : Option Fields, spec.input r = .ok input →
      (s.readsInput = true ∨ input = none) →
      (spec.arguments path r).run =
        Arguments.noteRepeated path (s.admitted (input.getD [])) >>= fun _ =>
          .done (outcome s path (input.getD [])) := by
    intro input hinput hreads
    rw [run_arguments_eq_merge hinput, hmerge input hinput hreads, bind_assoc]
    congr 1
    funext _
    rw [Action.done_bind, outcome, settle, Signature.missing?_of_inspect hspec]
  cases hreads : s.readsInput with
  | false =>
    have hinput : spec.input r = .ok none := by
      rw [input, Signature.readsInput_of_inspect hspec, hreads]
      rfl
    rw [Signature.decoded, hreads, hrun none hinput (.inr rfl)]
    rfl
  | true =>
    have hinput : spec.input r = Arguments.inputFields r := by
      rw [input, Signature.readsInput_of_inspect hspec, hreads]
      rfl
    rw [Signature.decoded, hreads]
    cases hfields : Arguments.inputFields r with
    | error e =>
      rw [arguments, hinput, hfields]
      rfl
    | ok input =>
      rw [hrun input (hinput.trans hfields) (.inl hreads)]
      rfl

/-- Where the input is decoded, some parameters of the path are noted, and all are laid over what is
kept of it. -/
theorem run_arguments_of_input {spec : ArgSpec} {r : Http.Request} {input : Option Fields}
    (h : spec.input r = .ok input) (path : List (String × String)) :
    ∃ noted : List (String × String), noted.Sublist path ∧
      (spec.arguments path r).run = noted.forM (fun _ => Action.log .duplicateArgument) >>= fun _ =>
        .done (spec.settle (Arguments.overlaid path (spec.keep (input.getD [])))) := by
  cases input with
  | none =>
    refine ⟨[], List.nil_sublist path, ?_⟩
    rw [run_arguments_of_none h, Option.getD_none, keep_nil]
    rfl
  | some fs =>
    obtain ⟨noted, hsub, hoverlay⟩ :=
      Arguments.exists_overlay_eq path (sorted_keep (sorted_of_input h) spec)
    refine ⟨noted, hsub, ?_⟩
    rw [run_arguments_eq_merge h, merge, hoverlay, bind_assoc]
    rfl

end ArgSpec
end Weblog
