import Weblog.Proofs.Session.Header

/-!
# Weblog.Proofs.Session.Token

Where in its headers a request carries the cookie of a session.

* `Gives`: a segment of a header gives a value under a name; `pair?_eq_some_iff`.
* `Offers`: the segments of the readable cookie headers, one after the other; `offers_iff`.
* `FirstGives`: the first of the segments that has a name gives a value.
* `Yields`: what is made of the segments under a name; `tokenIn?_eq`.
* `first_segment_decides`: the first segment of the name decides, whatever the others are.
-/

namespace Weblog
namespace Cookie

variable {name segment value : List Char}

/-! ## One segment -/

/-- A segment gives a value under a name: apart from white space around it, it is the name, an
equals sign and the value. The name ends at the first equals sign. -/
structure Gives (segment name value : List Char) : Prop where
  text : Text.Trims segment (name ++ '=' :: value)
  no_equals : '=' ∉ name

theorem pair?_eq_some_iff : pair? segment = some (name, value) ↔ Gives segment name value := by
  rw [pair?, Text.splitOnce_eq_some_iff, ← Text.trims_iff]
  constructor
  · rintro ⟨htext, hname⟩
    exact ⟨htext, hname⟩
  · rintro ⟨htext, hname⟩
    exact ⟨htext, hname⟩

theorem Gives.unique {other value' : List Char} (h : Gives segment name value)
    (h' : Gives segment other value') : name = other ∧ value = value' := by
  have hpair := (pair?_eq_some_iff.2 h).symm.trans (pair?_eq_some_iff.2 h')
  exact Prod.mk.inj (Option.some.inj hpair)

/-- The value that a segment gives under a name. -/
def given? (name segment : List Char) : Option (List Char) :=
  (pair? segment).bind fun p => if p.1 = name then some p.2 else none

theorem given?_eq_some_iff : given? name segment = some value ↔ Gives segment name value := by
  rw [given?, Option.bind_eq_some_iff]
  constructor
  · rintro ⟨⟨k, v⟩, hpair, hvalue⟩
    split at hvalue
    · rename_i hname
      cases hvalue
      obtain rfl : k = name := hname
      exact pair?_eq_some_iff.1 hpair
    · cases hvalue
  · intro h
    exact ⟨(name, value), pair?_eq_some_iff.2 h, if_pos rfl⟩

theorem given?_eq_none_iff : given? name segment = none ↔ ∀ value, ¬ Gives segment name value := by
  rw [Option.eq_none_iff_forall_ne_some]
  exact forall_congr' fun value => not_congr given?_eq_some_iff

/-- A segment whose name only holds the name that is sought gives nothing under it. -/
theorem Gives.not_of_longer {front back : List Char} (hlonger : front ++ back ≠ [])
    (h : Gives segment (front ++ name ++ back) value) (v : List Char) : ¬ Gives segment name v := by
  intro hname
  have hsame := congrArg List.length (h.unique hname).1
  rw [List.length_append, List.length_append] at hsame
  have hlength : (front ++ back).length = 0 := by
    rw [List.length_append]
    omega
  exact hlonger (List.eq_nil_of_length_eq_zero hlength)

/-! ## The segments of a request -/

/-- The segments of the cookie headers that are readable as text, one after the other: each holds
segments with semicolons between them. Other headers are passed over, and unreadable ones. -/
inductive Offers : List Http.Header → List (List Char) → Prop where
  | nil : Offers [] []
  | skip {h : Http.Header} {headers : List Http.Header} {segments : List (List Char)} :
      h.name ≠ "cookie" ∨ Http.readable? h.value = none → Offers headers segments →
      Offers (h :: headers) segments
  | read {h : Http.Header} {headers : List Http.Header} {text : String}
      {pieces segments : List (List Char)} : h.name = "cookie" →
      Http.readable? h.value = some text → text.toList = [';'].intercalate pieces →
      pieces ≠ [] → (∀ piece ∈ pieces, ';' ∉ piece) → Offers headers segments →
      Offers (h :: headers) (pieces ++ segments)

/-- The texts of the readable cookie headers. -/
def texts (headers : List Http.Header) : List String :=
  (headers.filter fun h => h.name = "cookie").filterMap fun h => Http.readable? h.value

def segmentsOf (headers : List Http.Header) : List (List Char) :=
  (texts headers).flatMap fun text => Text.splitAll ';' text.toList

theorem texts_cons_of_skipped {h : Http.Header}
    (hskip : h.name ≠ "cookie" ∨ Http.readable? h.value = none) (headers : List Http.Header) :
    texts (h :: headers) = texts headers := by
  rw [texts, List.filter_cons]
  split
  · rename_i hname
    have hnone := hskip.resolve_left (not_not_intro (of_decide_eq_true hname))
    rw [List.filterMap_cons_none (f := fun h : Http.Header => Http.readable? h.value) hnone, texts]
  · rfl

theorem texts_cons_of_readable {h : Http.Header} {text : String} (hname : h.name = "cookie")
    (hread : Http.readable? h.value = some text) (headers : List Http.Header) :
    texts (h :: headers) = text :: texts headers := by
  rw [texts, List.filter_cons_of_pos (by simpa using hname),
    List.filterMap_cons_some (f := fun h : Http.Header => Http.readable? h.value) hread, texts]

/-- What a request offers is taken apart at the semicolons of its headers, and in one way only. -/
theorem offers_iff {headers : List Http.Header} {segments : List (List Char)} :
    Offers headers segments ↔ segments = segmentsOf headers := by
  constructor
  · intro h
    induction h with
    | nil => rfl
    | skip hskip _ ih => rw [segmentsOf, texts_cons_of_skipped hskip, ← segmentsOf, ih]
    | read hname hread htext hne hnone _ ih =>
      rw [segmentsOf, texts_cons_of_readable hname hread, List.flatMap_cons, ← segmentsOf, ih,
        htext, Text.splitAll_intercalate hnone hne]
  · rintro rfl
    induction headers with
    | nil => exact .nil
    | cons h headers ih =>
      by_cases hskip : h.name ≠ "cookie" ∨ Http.readable? h.value = none
      · rw [segmentsOf, texts_cons_of_skipped hskip]
        exact .skip hskip ih
      · obtain ⟨hname, hsome⟩ := not_or.1 hskip
        have hname := not_not.1 hname
        obtain ⟨text, hread⟩ := Option.ne_none_iff_exists'.1 hsome
        rw [segmentsOf, texts_cons_of_readable hname hread, List.flatMap_cons]
        exact .read hname hread (Text.intercalate_splitAll ';' _).symm (Text.splitAll_ne_nil ';' _)
          (fun piece hpiece => Text.not_mem_of_mem_splitAll hpiece) ih

/-! ## The search -/

theorem valueOf?_eq (name : List Char) (segments : List (List Char)) :
    valueOf? name segments = segments.findSome? (given? name) := by
  induction segments with
  | nil => rfl
  | cons segment rest ih =>
    rw [valueOf?, List.findSome?_cons, given?]
    cases pair? segment with
    | none => exact ih
    | some p =>
      by_cases hname : p.1 = name
      · simp [hname]
      · simp [hname, ih]

/-- Header after header and in each of them segment after segment is segment after segment. -/
theorem findSome?_valueIn? (texts : List String) (name : String) :
    (texts.findSome? fun text => valueIn? text name) =
      ((texts.flatMap fun text => Text.splitAll ';' text.toList).findSome?
        (given? name.toList)).map String.ofList := by
  induction texts with
  | nil => rfl
  | cons text rest ih =>
    rw [List.findSome?_cons, List.flatMap_cons, List.findSome?_append, ih, valueIn?, valueOf?_eq]
    cases (Text.splitAll ';' text.toList).findSome? (given? name.toList) <;> rfl

theorem tokenIn?_eq (headers : List Http.Header) (name : String) :
    tokenIn? headers name = ((segmentsOf headers).findSome? (given? name.toList)).bind fun value =>
      if Text.trimChars value = [] then none else some (String.ofList (Text.trimChars value)) := by
  rw [tokenIn?, segmentsOf, ← texts, findSome?_valueIn?]
  cases ((texts headers).flatMap fun text => Text.splitAll ';' text.toList).findSome?
    (given? name.toList) with
  | none => rfl
  | some value => simp [Text.trim]

/-! ## What a request yields -/

/-- The first of the segments that has a name gives a value. -/
def FirstGives (name : List Char) (segments : List (List Char)) (value : List Char) : Prop :=
  ∃ before segment after, segments = before ++ segment :: after ∧ Gives segment name value ∧
    ∀ passed ∈ before, ∀ v, ¬ Gives passed name v

theorem firstGives_iff {segments : List (List Char)} :
    FirstGives name segments value ↔ segments.findSome? (given? name) = some value := by
  simp only [FirstGives, List.findSome?_eq_some_iff, given?_eq_some_iff, given?_eq_none_iff]

/-- What segments yield under a name: the value of the first one that has it, without white space at
its ends. Nothing but white space counts as none. -/
inductive Yields (name : List Char) (segments : List (List Char)) : Option String → Prop where
  | absent : (∀ segment ∈ segments, ∀ value, ¬ Gives segment name value) →
      Yields name segments none
  | blank {value : List Char} : FirstGives name segments value → Text.Trims value [] →
      Yields name segments none
  | token {value : List Char} {token : String} : FirstGives name segments value →
      Text.Trims value token.toList → token ≠ "" → Yields name segments (some token)

theorem yields_iff {segments : List (List Char)} {token : Option String} :
    Yields name segments token ↔ token = (segments.findSome? (given? name)).bind fun value =>
      if Text.trimChars value = [] then none else some (String.ofList (Text.trimChars value)) := by
  constructor
  · intro h
    cases h with
    | absent habsent =>
      have hnone : segments.findSome? (given? name) = none :=
        List.findSome?_eq_none_iff.2 fun segment hs => given?_eq_none_iff.2 (habsent segment hs)
      rw [hnone, Option.bind_none]
    | blank hfirst hblank =>
      rw [firstGives_iff.1 hfirst, Option.bind_some, if_pos (Text.trims_iff.1 hblank)]
    | token hfirst htrims hne =>
      rw [firstGives_iff.1 hfirst, Option.bind_some, Text.trims_iff.1 htrims,
        if_neg (by simpa using hne), String.ofList_toList]
  · rintro rfl
    cases hfound : segments.findSome? (given? name) with
    | none =>
      refine .absent fun segment hs => given?_eq_none_iff.1 ?_
      exact List.findSome?_eq_none_iff.1 hfound segment hs
    | some value =>
      have hfirst := firstGives_iff.2 hfound
      rw [Option.bind_some]
      split
      · rename_i hblank
        exact .blank hfirst (Text.trims_iff.2 hblank)
      · rename_i hne
        refine .token hfirst (Text.trims_iff.2 ?_) ?_
        · rw [String.toList_ofList]
        · simpa [← String.toList_inj] using hne

/-- White space, a name, an equals sign, a value and white space are a segment that gives the value
under the name, and the value may hold further equals signs. -/
theorem gives_of_parts {left right : List Char} (hequals : '=' ∉ name) (hname : Text.IsTrimmed name)
    (hvalue : Text.IsTrimmed value) (hne : value ≠ [])
    (hblank : ∀ c ∈ left ++ right, Text.isBlank c = true) :
    Gives (left ++ (name ++ '=' :: value) ++ right) name value := by
  obtain ⟨hleft, hright⟩ := List.forall_mem_append.1 hblank
  refine ⟨⟨⟨?front, ?back⟩, left, right, rfl, hleft, hright⟩, hequals⟩
  case front =>
    intro c hc
    cases name with
    | nil =>
      obtain rfl : '=' = c := Option.some.inj hc
      decide
    | cons d rest => exact hname.front c hc
  case back =>
    intro c hc
    rw [List.getLast?_append_of_ne_nil _ (List.cons_ne_nil _ _),
      List.getLast?_cons_of_ne_nil hne] at hc
    exact hvalue.back c hc

/-- For every request and every name: what the readable cookie headers offer, segment after segment,
is fixed, and the request yields what its segments yield. In particular a value that is trimmed is
returned as it is, with all equals signs in it, if its segment is the first of the name, and a
segment whose name only holds the name that is sought never counts. -/
theorem first_segment_decides (headers : List Http.Header) (name : String) :
    (∃! segments, Offers headers segments) ∧ ∀ segments, Offers headers segments →
      (∀ token, tokenIn? headers name = token ↔ Yields name.toList segments token) ∧
      (∀ before left value right after,
        segments = before ++ (left ++ (name.toList ++ '=' :: value) ++ right) :: after →
        (∀ passed ∈ before, ∀ v, ¬ Gives passed name.toList v) →
        '=' ∉ name.toList → Text.IsTrimmed name.toList → Text.IsTrimmed value → value ≠ [] →
        (∀ c ∈ left ++ right, Text.isBlank c = true) →
        tokenIn? headers name = some (String.ofList value)) ∧
      ∀ segment front back value, front ++ back ≠ [] →
        Gives segment (front ++ name.toList ++ back) value →
          ∀ v, ¬ Gives segment name.toList v := by
  refine ⟨⟨segmentsOf headers, offers_iff.2 rfl, fun other hother => offers_iff.1 hother⟩, ?_⟩
  intro segments hsegments
  have hyields : ∀ token, tokenIn? headers name = token ↔ Yields name.toList segments token := by
    intro token
    rw [tokenIn?_eq, ← offers_iff.1 hsegments, yields_iff, eq_comm]
  refine ⟨hyields, ?_, fun segment front back value hlonger h v => h.not_of_longer hlonger v⟩
  intro before left value right after hsplit hbefore hequals hname hvalue hne hblank
  have hgives := gives_of_parts hequals hname hvalue hne hblank
  refine (hyields _).2 (.token ⟨before, _, after, hsplit, hgives, hbefore⟩ ?_ ?_)
  · rw [String.toList_ofList]
    exact ⟨hvalue, [], [], by simp, List.forall_mem_nil _, List.forall_mem_nil _⟩
  · simpa [← String.toList_inj] using hne

/-- A header of another name, one that is not readable, and two with several segments. -/
def mixedHeaders : List Http.Header :=
  [⟨"accept", Text.Utf8.bytesOf "sid=other"⟩, ⟨"cookie", Text.Utf8.bytesOf "sid=é"⟩,
    ⟨"cookie", Text.Utf8.bytesOf "theme; xsid=1; sidx=2;\tsid=a=b== ; sid=late"⟩,
    ⟨"cookie", Text.Utf8.bytesOf "sid=later"⟩]

def passedSegments : List (List Char) :=
  ["theme".toList, " xsid=1".toList, " sidx=2".toList]

theorem offers_mixedHeaders : Offers mixedHeaders (passedSegments ++
    (['\t'] ++ ("sid".toList ++ '=' :: "a=b==".toList) ++ [' ']) ::
      [" sid=late".toList, "sid=later".toList]) :=
  offers_iff.2 (by decide +kernel)

theorem first_segment_decides_mixed :
    tokenIn? mixedHeaders "sid" = some "a=b==" ∧ ∀ v, ¬ Gives " sidx=2".toList "sid".toList v := by
  obtain ⟨-, hdecides⟩ := first_segment_decides mixedHeaders "sid"
  obtain ⟨-, hreturned, hlonger⟩ := hdecides _ offers_mixedHeaders
  have hpassed : ∀ passed ∈ passedSegments, given? "sid".toList passed = none := by decide +kernel
  have hgives : Gives " sidx=2".toList ([] ++ "sid".toList ++ ['x']) ['2'] :=
    pair?_eq_some_iff.1 (by decide +kernel)
  refine ⟨?_, hlonger _ [] ['x'] ['2'] (by simp) hgives⟩
  have hname : Text.IsTrimmed "sid".toList := Text.isTrimmed_trimChars "sid".toList
  have hvalue : Text.IsTrimmed "a=b==".toList := Text.isTrimmed_trimChars "a=b==".toList
  have hblank : ∀ c ∈ ['\t'] ++ [' '], Text.isBlank c = true :=
    List.forall_mem_cons.2 ⟨rfl, List.forall_mem_singleton.2 rfl⟩
  refine hreturned passedSegments ['\t'] "a=b==".toList [' '] _ rfl ?_ (by simp) hname hvalue
    (by simp) hblank
  intro passed hp
  exact given?_eq_none_iff.1 (hpassed passed hp)

end Cookie
end Weblog
