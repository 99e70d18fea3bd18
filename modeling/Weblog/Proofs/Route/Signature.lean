import Mathlib.Data.List.Basic
import Mathlib.Data.List.Pairwise
import Weblog.Route.Signature

/-!
# Weblog.Proofs.Route.Signature

What one pass over the parameters of a handler finds out.

* `inspectFrom_eq`: the pass from any point on: the first fault of the parameters to come, or what
  is known joined with their classification. `inspect_eq`: the whole pass.
* `Signature.Disordered`: a request or a positional parameter comes after a request.
* `Signature.FirstMisplaced`: the first such parameter after the first request.
* `ArgSpec.Classifies`: what is known of a signature when the pass is over.
* `inspect_eq_error_iff`, `inspect_eq_ok_iff`: the two outcomes of the pass.
* `inspect_exact`: which signatures are refused, for which parameter, and what is known of the
  others.
-/

namespace Weblog
namespace ArgSpec

/-- What is known of parameters and of others that follow them. -/
def join (known rest : ArgSpec) : ArgSpec where
  takesRequest := known.takesRequest || rest.takesRequest
  takesAll := known.takesAll || rest.takesAll
  named := known.named ++ rest.named
  required := known.required ++ rest.required

theorem join_assoc (a b c : ArgSpec) : (a.join b).join c = a.join (b.join c) := by
  simp only [join, Bool.or_assoc, List.append_assoc]

theorem join_spec_nil (known : ArgSpec) : known.join (Signature.spec []) = known := by
  simp [join, Signature.spec]

theorem take_eq_join (known : ArgSpec) (p : Param) : known.take p = known.join (empty.take p) := by
  obtain ⟨name, kind⟩ := p
  cases kind with
  | keyword required => cases required <;> simp [take, join, empty]
  | request | positional | varPositional | varKeyword => simp [take, join, empty]

theorem spec_cons (p : Param) (rest : List Param) :
    Signature.spec (p :: rest) = (empty.take p).join (Signature.spec rest) := by
  obtain ⟨name, kind⟩ := p
  cases kind with
  | keyword required => cases required <;> rfl
  | request | positional | varPositional | varKeyword => rfl

/-- One step of the pass: a parameter goes over from those to come to those that are known. -/
theorem take_join_spec (known : ArgSpec) (p : Param) (rest : List Param) :
    (known.take p).join (Signature.spec rest) = known.join (Signature.spec (p :: rest)) := by
  rw [take_eq_join, join_assoc, spec_cons]

theorem takesRequest_take (known : ArgSpec) (p : Param) :
    (known.take p).takesRequest = (known.takesRequest || p.kind == .request) := by
  rw [take_eq_join]
  obtain ⟨name, kind⟩ := p
  cases kind <;> rfl

end ArgSpec

namespace Signature

/-- The pass from any point on: a fault among the parameters to come is reported, and without one
their classification is joined to what is known. -/
theorem inspectFrom_eq (path : String) (known : ArgSpec) (rest : List Param) :
    inspectFrom path known rest = match misplaced? known.takesRequest rest with
      | some p => .error (.requestParamNotLast path p.name)
      | none => .ok (known.join (spec rest)) := by
  induction rest generalizing known with
  | nil => rw [inspectFrom, misplaced?, ArgSpec.join_spec_nil]
  | cons p rest ih =>
    rw [inspectFrom, misplaced?]
    by_cases h : (known.takesRequest && p.kind.precedesRequest) = true
    · rw [if_pos h, if_pos h]
    · rw [if_neg h, if_neg h, ih, ArgSpec.takesRequest_take, ArgSpec.take_join_spec]

theorem inspect_eq (s : Signature) (path : String) :
    s.inspect path = match misplaced? false s with
      | some p => .error (.requestParamNotLast path p.name)
      | none => .ok s.spec := inspectFrom_eq path .empty s

/-! ## The order of the parameters -/

theorem precedesRequest_iff {k : ParamKind} :
    k.precedesRequest = true ↔ k = .request ∨ k = .positional := by
  cases k <;> simp [ParamKind.precedesRequest]

/-- A request or a positional parameter comes after a request. -/
def Disordered (s : Signature) : Prop :=
  ∃ p q, [p, q].Sublist s ∧ p.kind = .request ∧ (q.kind = .request ∨ q.kind = .positional)

/-- A parameter is the first after the first request that is a request or positional. -/
def FirstMisplaced (s : Signature) (p : Param) : Prop :=
  ∃ before request between after, s = before ++ request :: (between ++ p :: after) ∧
    (∀ q ∈ before, q.kind ≠ .request) ∧ request.kind = .request ∧
    (∀ q ∈ between, q.kind ≠ .request ∧ q.kind ≠ .positional) ∧
    (p.kind = .request ∨ p.kind = .positional)

/-- Once the request was passed, the first parameter of the two kinds is at fault. -/
theorem misplaced?_true (ps : List Param) :
    misplaced? true ps = ps.find? fun p => p.kind.precedesRequest := by
  induction ps with
  | nil => rfl
  | cons p rest ih =>
    rw [misplaced?, Bool.true_and, Bool.true_or, ih, List.find?_cons]
    cases p.kind.precedesRequest <;> rfl

theorem misplaced?_cons_request {p : Param} (h : p.kind = .request) (rest : List Param) :
    misplaced? false (p :: rest) = misplaced? true rest := by
  rw [misplaced?, h]
  rfl

/-- Up to the first request nothing is at fault. -/
theorem misplaced?_cons_of_ne {p : Param} (h : p.kind ≠ .request) (rest : List Param) :
    misplaced? false (p :: rest) = misplaced? false rest := by
  rw [misplaced?, beq_false_of_ne h]
  rfl

theorem misplaced?_append {before : List Param} (h : ∀ q ∈ before, q.kind ≠ .request)
    (rest : List Param) : misplaced? false (before ++ rest) = misplaced? false rest := by
  induction before with
  | nil => rfl
  | cons q before ih =>
    obtain ⟨hq, hbefore⟩ := List.forall_mem_cons.1 h
    rw [List.cons_append, misplaced?_cons_of_ne hq, ih hbefore]

theorem misplaced?_true_eq_some_iff {ps : List Param} {p : Param} :
    misplaced? true ps = some p ↔ (p.kind = .request ∨ p.kind = .positional) ∧
      ∃ between after, ps = between ++ p :: after ∧
        ∀ q ∈ between, q.kind ≠ .request ∧ q.kind ≠ .positional := by
  rw [misplaced?_true, List.find?_eq_some_iff_append, precedesRequest_iff]
  simp only [Bool.not_eq_true', Bool.eq_false_iff, ne_eq, precedesRequest_iff, not_or]

theorem misplaced?_eq_some_iff {s : Signature} {p : Param} :
    misplaced? false s = some p ↔ s.FirstMisplaced p := by
  constructor
  · intro h
    induction s with
    | nil => cases h
    | cons q rest ih =>
      by_cases hq : q.kind = .request
      · rw [misplaced?_cons_request hq, misplaced?_true_eq_some_iff] at h
        obtain ⟨hp, between, after, rfl, hbetween⟩ := h
        exact ⟨[], q, between, after, rfl, List.forall_mem_nil _, hq, hbetween, hp⟩
      · rw [misplaced?_cons_of_ne hq] at h
        obtain ⟨before, request, between, after, rfl, hbefore, hfault⟩ := ih h
        exact ⟨q :: before, request, between, after, rfl, List.forall_mem_cons.2 ⟨hq, hbefore⟩,
          hfault⟩
  · rintro ⟨before, request, between, after, rfl, hbefore, hrequest, hbetween, hp⟩
    rw [misplaced?_append hbefore, misplaced?_cons_request hrequest, misplaced?_true_eq_some_iff]
    exact ⟨hp, between, after, rfl, hbetween⟩

theorem not_disordered_iff {s : Signature} :
    ¬ s.Disordered ↔
      s.Pairwise fun p q => p.kind = .request → q.kind ≠ .request ∧ q.kind ≠ .positional := by
  rw [List.pairwise_iff_forall_sublist]
  constructor
  · intro h p q hpq hp
    exact not_or.1 fun hq => h ⟨p, q, hpq, hp, hq⟩
  · rintro h ⟨p, q, hpq, hp, hq⟩
    exact not_or.2 (h hpq hp) hq

theorem misplaced?_eq_none_iff {s : Signature} : misplaced? false s = none ↔ ¬ s.Disordered := by
  rw [not_disordered_iff]
  induction s with
  | nil => simp [misplaced?]
  | cons p rest ih =>
    rw [List.pairwise_cons]
    by_cases hp : p.kind = .request
    · rw [misplaced?_cons_request hp, misplaced?_true, List.find?_eq_none]
      simp only [precedesRequest_iff, not_or, hp, true_imp_iff]
      refine ⟨fun h => ⟨h, ?_⟩, And.left⟩
      -- no further request follows, so that the rest is in order by itself
      exact List.pairwise_of_forall_mem_list fun q hq r _ hrequest => absurd hrequest (h q hq).1
    · rw [misplaced?_cons_of_ne hp, ih]
      simp [hp]

end Signature

/-! ## What is known of the parameters -/

/-- A specification says of every parameter what it is: whether there is a request, whether one
takes every name, the names that are given by name, and those of them that must be given. -/
structure ArgSpec.Classifies (spec : ArgSpec) (s : Signature) : Prop where
  takesRequest_iff : spec.takesRequest = true ↔ ∃ p ∈ s, p.kind = .request
  takesAll_iff : spec.takesAll = true ↔ ∃ p ∈ s, p.kind = .varKeyword
  named_eq : spec.named =
    (s.filter fun p => p.kind = .keyword true ∨ p.kind = .keyword false).map Param.name
  required_eq : spec.required = (s.filter fun p => p.kind = .keyword true).map Param.name
  required_sublist : spec.required.Sublist spec.named

namespace Signature

theorem filterMap_name {name? : Param → Option String} {chosen : Param → Bool}
    (h : ∀ p, name? p = if chosen p then some p.name else none) (s : Signature) :
    s.filterMap name? = (s.filter chosen).map Param.name := by
  induction s with
  | nil => rfl
  | cons p rest ih =>
    rw [List.filterMap_cons, List.filter_cons, h p, ih]
    cases chosen p <;> rfl

theorem named_spec (s : Signature) : s.spec.named =
    (s.filter fun p => p.kind = .keyword true ∨ p.kind = .keyword false).map Param.name := by
  refine filterMap_name (fun p => ?_) s
  obtain ⟨name, kind⟩ := p
  cases kind with
  | keyword required => cases required <;> rfl
  | request | positional | varPositional | varKeyword => rfl

theorem required_spec (s : Signature) :
    s.spec.required = (s.filter fun p => p.kind = .keyword true).map Param.name := by
  refine filterMap_name (fun p => ?_) s
  obtain ⟨name, kind⟩ := p
  cases kind with
  | keyword required => cases required <;> rfl
  | request | positional | varPositional | varKeyword => rfl

theorem classifies_iff {s : Signature} {spec : ArgSpec} : spec.Classifies s ↔ spec = s.spec := by
  have hrequest : s.spec.takesRequest = true ↔ ∃ p ∈ s, p.kind = .request := by
    simp [Signature.spec]
  have hall : s.spec.takesAll = true ↔ ∃ p ∈ s, p.kind = .varKeyword := by
    simp [Signature.spec]
  constructor
  · intro h
    have htakesRequest : spec.takesRequest = s.spec.takesRequest :=
      Bool.eq_iff_iff.2 (h.takesRequest_iff.trans hrequest.symm)
    have htakesAll : spec.takesAll = s.spec.takesAll :=
      Bool.eq_iff_iff.2 (h.takesAll_iff.trans hall.symm)
    have hnamed : spec.named = s.spec.named := h.named_eq.trans (named_spec s).symm
    have hrequired : spec.required = s.spec.required := h.required_eq.trans (required_spec s).symm
    calc spec = ⟨spec.takesRequest, spec.takesAll, spec.named, spec.required⟩ := rfl
      _ = s.spec := by rw [htakesRequest, htakesAll, hnamed, hrequired]
  · rintro rfl
    refine ⟨hrequest, hall, named_spec s, required_spec s, ?_⟩
    rw [named_spec, required_spec]
    refine List.Sublist.map _ (List.monotone_filter_right s fun p hp => ?_)
    simpa using .inl (of_decide_eq_true hp)

/-! ## The outcome of the pass -/

theorem disordered_iff {s : Signature} : s.Disordered ↔ ∃ p, s.FirstMisplaced p := by
  rw [← not_iff_not, ← misplaced?_eq_none_iff, Option.eq_none_iff_forall_ne_some]
  simp only [ne_eq, misplaced?_eq_some_iff, not_exists]

theorem inspect_eq_error_iff {s : Signature} {path : String} {err : RouteError} :
    s.inspect path = .error err ↔
      ∃ p, s.FirstMisplaced p ∧ err = .requestParamNotLast path p.name := by
  rw [inspect_eq]
  constructor
  · intro h
    cases hfault : misplaced? false s with
    | none =>
      rw [hfault] at h
      cases h
    | some p =>
      rw [hfault] at h
      exact ⟨p, misplaced?_eq_some_iff.1 hfault, (Except.error.inj h).symm⟩
  · rintro ⟨p, hp, rfl⟩
    rw [misplaced?_eq_some_iff.2 hp]

theorem inspect_eq_ok_iff {s : Signature} {path : String} {spec : ArgSpec} :
    s.inspect path = .ok spec ↔ ¬ s.Disordered ∧ spec.Classifies s := by
  rw [inspect_eq, classifies_iff, ← misplaced?_eq_none_iff]
  constructor
  · intro h
    cases hfault : misplaced? false s with
    | none =>
      rw [hfault] at h
      exact ⟨rfl, (Except.ok.inj h).symm⟩
    | some p =>
      rw [hfault] at h
      cases h
  · rintro ⟨hfault, rfl⟩
    rw [hfault]

/-- For every signature: it is refused exactly if a request or a positional parameter comes after a
request; the error names the first such parameter after the first request. Otherwise what is known
of it classifies all of its parameters. -/
theorem inspect_exact (s : Signature) (path : String) :
    ((∃ err, s.inspect path = .error err) ↔ s.Disordered) ∧
    (∀ err, s.inspect path = .error err ↔
      ∃ p, s.FirstMisplaced p ∧ err = .requestParamNotLast path p.name) ∧
    ∀ spec, s.inspect path = .ok spec ↔ ¬ s.Disordered ∧ spec.Classifies s := by
  refine ⟨?_, fun err => inspect_eq_error_iff, fun spec => inspect_eq_ok_iff⟩
  rw [disordered_iff]
  constructor
  · rintro ⟨err, h⟩
    obtain ⟨p, hp, -⟩ := inspect_eq_error_iff.1 h
    exact ⟨p, hp⟩
  · rintro ⟨p, hp⟩
    exact ⟨_, inspect_eq_error_iff.2 ⟨p, hp, rfl⟩⟩

/-- After the request variadic parameters may follow, and of the others the first is named. -/
example : inspect [⟨"id", .positional⟩, ⟨"request", .request⟩, ⟨"args", .varPositional⟩,
    ⟨"page", .positional⟩, ⟨"again", .request⟩] "/:id" =
      .error (.requestParamNotLast "/:id" "page") := rfl

end Signature
end Weblog
