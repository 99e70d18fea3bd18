import Weblog.Proofs.Http.HeaderText
import Weblog.Proofs.Session.Cookie
import Weblog.Proofs.Text.Blank

/-!
# Weblog.Proofs.Session.Header

Cookies on their way to a client and back.

* `kept?`: what a client keeps of a header that sets a cookie; `kept?_setting`.
* `sentBack`: a header of a client with one cookie after others; `valueIn?_sentBack`.
* `IsSentBack`: a request with such a header; `tokenIn?_of_isSentBack`.
-/

namespace Weblog
namespace Cookie

/-- A name that can be sent in front of a value: it holds no white space and no separator. -/
structure IsName (name : String) : Prop where
  not_blank : ∀ c ∈ name.toList, Text.isBlank c = false
  no_equals : '=' ∉ name.toList
  no_semicolon : ';' ∉ name.toList

/-- A value that is sent as it is. -/
structure IsToken (value : String) : Prop where
  nonempty : value.toList ≠ []
  not_blank : ∀ c ∈ value.toList, Text.isBlank c = false
  no_semicolon : ';' ∉ value.toList

/-- Where the characters of ids and digests stand among all characters. -/
theorem toNat_of_digitOrLower {c : Char} (h : c.isDigit = true ∨ c.isLower = true) :
    (48 ≤ c.toNat ∧ c.toNat ≤ 57) ∨ (97 ≤ c.toNat ∧ c.toNat ≤ 122) := by
  rcases h with h | h
  · exact .inl (Char.isDigit_iff_toNat.1 h)
  · obtain ⟨hleast, hgreatest⟩ := Bool.and_eq_true_iff.1 h
    exact .inr ⟨of_decide_eq_true hleast, of_decide_eq_true hgreatest⟩

theorem mem_issue {uid passwd secret : String} {maxAge now : Int} {c : Char}
    (huid : ∀ c ∈ uid.toList, c.isDigit = true ∨ c.isLower = true)
    (hc : c ∈ (issue uid passwd maxAge secret now).toList) :
    c = '-' ∨ c.isDigit = true ∨ c.isLower = true := by
  rw [issue, toList_write] at hc
  rcases List.mem_append.1 hc with hc | hc
  · exact .inr (huid c hc)
  · rcases List.mem_cons.1 hc with rfl | hc
    · exact .inl rfl
    · rcases List.mem_append.1 hc with hc | hc
      · rcases Text.mem_intChars hc with rfl | hdigit
        · exact .inl rfl
        · exact .inr (.inl hdigit)
      · rcases List.mem_cons.1 hc with rfl | hc
        · exact .inl rfl
        · exact .inr (Sha256.isDigitOrLower_of_mem_hexDigest hc)

/-- The characters of a cookie that was issued are visible, and none is a separator. -/
theorem visible_of_mem_issue {uid passwd secret : String} {maxAge now : Int} {c : Char}
    (huid : ∀ c ∈ uid.toList, c.isDigit = true ∨ c.isLower = true)
    (hc : c ∈ (issue uid passwd maxAge secret now).toList) :
    45 ≤ c.toNat ∧ c.toNat ≤ 122 ∧ c.toNat ≠ 59 := by
  rcases mem_issue huid hc with rfl | hplain
  · decide
  · have := toNat_of_digitOrLower hplain
    omega

theorem isToken_issue {uid passwd secret : String} {maxAge now : Int}
    (huid : ∀ c ∈ uid.toList, c.isDigit = true ∨ c.isLower = true) :
    IsToken (issue uid passwd maxAge secret now) where
  nonempty := by
    rw [issue, toList_write]
    simp
  not_blank := by
    intro c hc
    have := visible_of_mem_issue huid hc
    exact Text.isBlank_of_visible (by omega)
  no_semicolon := by
    intro hc
    exact (visible_of_mem_issue huid hc).2.2 rfl

/-- The header that sets a cookie that was issued may be sent if the name of the cookie and the id
may stand in one: the other parts always may. -/
theorem isHeaderText_setting_issue_iff {name uid passwd secret : String} {maxAge now : Int} :
    Http.IsHeaderText (setting name (issue uid passwd maxAge secret now) maxAge) ↔
      Http.IsHeaderText name ∧ Http.IsHeaderText uid := by
  have hnumeral : ∀ n : Int, Http.IsHeaderText (Text.ofInt n) := by
    intro n
    refine Http.isHeaderText_of_visible fun c hc => ?_
    rw [Text.toList_ofInt] at hc
    rcases Text.mem_intChars hc with rfl | hdigit
    · decide
    · have := toNat_of_digitOrLower (.inl hdigit)
      omega
  have hdigest : Http.IsHeaderText (digest uid passwd (expiry now maxAge) secret) := by
    refine Http.isHeaderText_of_visible fun c hc => ?_
    have := toNat_of_digitOrLower (Sha256.isDigitOrLower_of_mem_hexDigest hc)
    omega
  have hdash : Http.IsHeaderText "-" := by decide
  have hequals : Http.IsHeaderText "=" := by decide
  have hmaxAge : Http.IsHeaderText "; Max-Age=" := by decide
  have hpath : Http.IsHeaderText "; Path=/; HttpOnly" := by decide
  simp only [setting, issue, write, Http.isHeaderText_append, hnumeral, hdigest, hdash, hequals,
    hmaxAge, hpath, and_true]

/-- Whether the header that sets a cookie may be sent does not depend on the digest in it. -/
theorem isHeaderText_setting_iff {name uid passwd passwd' secret : String} {maxAge now : Int} :
    Http.IsHeaderText (setting name (issue uid passwd maxAge secret now) maxAge) ↔
      Http.IsHeaderText (setting name (issue uid passwd' maxAge secret now) maxAge) :=
  isHeaderText_setting_issue_iff.trans isHeaderText_setting_issue_iff.symm

/-- The header that sets a cookie that was issued may be sent, if the name of the cookie may. -/
theorem isHeaderText_setting {name uid passwd secret : String} {maxAge now : Int}
    (hname : Http.IsHeaderText name)
    (huid : ∀ c ∈ uid.toList, c.isDigit = true ∨ c.isLower = true) :
    Http.IsHeaderText (setting name (issue uid passwd maxAge secret now) maxAge) := by
  refine isHeaderText_setting_issue_iff.2 ⟨hname, Http.isHeaderText_of_visible fun c hc => ?_⟩
  have := toNat_of_digitOrLower (huid c hc)
  omega

/-- The name and the value that a client keeps of a header that sets a cookie. -/
def kept? (setting : String) : Option (String × String) :=
  (Text.splitAll ';' setting.toList).head?.bind fun pair =>
    (Text.splitOnce '=' pair).map fun p => (String.ofList p.1, String.ofList p.2)

theorem toList_setting (name value : String) (maxAge : Int) :
    (setting name value maxAge).toList = (name.toList ++ '=' :: value.toList) ++
      ';' :: (" Max-Age=".toList ++ (Text.intChars maxAge ++ "; Path=/; HttpOnly".toList)) := by
  simp only [setting, String.toList_append, Text.toList_ofInt, List.append_assoc, List.cons_append]
  rfl

/-- A client keeps the cookie that is set. -/
theorem kept?_setting {name value : String} (hname : IsName name) (hvalue : IsToken value)
    (maxAge : Int) : kept? (setting name value maxAge) = some (name, value) := by
  have hpair : ';' ∉ name.toList ++ '=' :: value.toList := by
    simp [hname.no_semicolon, hvalue.no_semicolon]
  rw [kept?, toList_setting, Text.splitAll_append_cons hpair, List.head?_cons, Option.bind_some,
    Text.splitOnce_append_cons hname.no_equals, Option.map_some, String.ofList_toList,
    String.ofList_toList]

def pairText (name value : String) : String := name ++ "=" ++ value

/-- The header of a client that sends other cookies and, after white space, one more. -/
def sentBack (others : List (String × String)) (blank name value : String) : String :=
  ";".intercalate ((others.map fun p => pairText p.1 p.2) ++ [blank ++ pairText name value])

/-- A pair of a header that stands for a cookie with another name. -/
structure IsOther (name : String) (p : String × String) : Prop where
  no_equals : '=' ∉ p.1.toList
  no_semicolon : ';' ∉ p.1.toList ∧ ';' ∉ p.2.toList
  other : Text.trim p.1 ≠ name

theorem toList_pairText (name value : String) :
    (pairText name value).toList = name.toList ++ '=' :: value.toList := by
  simp only [pairText, String.toList_append, List.append_assoc]
  rfl

theorem pair?_append_cons {k : List Char} (hk : '=' ∉ k) (v : List Char) :
    pair? (k ++ '=' :: v) =
      some (k.dropWhile Text.isBlank, (v.reverse.dropWhile Text.isBlank).reverse) := by
  have hdropped : '=' ∉ k.dropWhile Text.isBlank := by
    intro h
    exact hk ((List.dropWhile_suffix _).subset h)
  rw [pair?, Text.trimChars_append_cons (by decide), Text.splitOnce_append_cons hdropped]

theorem IsOther.pair?_ne {name : String} {p : String × String} (hname : IsName name)
    (h : IsOther name p) (v : List Char) :
    pair? (pairText p.1 p.2).toList ≠ some (name.toList, v) := by
  rw [toList_pairText, pair?_append_cons h.no_equals]
  intro heq
  have hdropped : p.1.toList.dropWhile Text.isBlank = name.toList := by
    simpa using congrArg (Option.map Prod.fst) heq
  have hreverse : ∀ c ∈ name.toList.reverse, Text.isBlank c = false := by
    intro c hc
    exact hname.not_blank c (List.mem_reverse.1 hc)
  refine h.other ?_
  rw [Text.trim, Text.trimChars, hdropped, Text.dropWhile_eq_self hreverse, List.reverse_reverse,
    String.ofList_toList]

theorem valueOf?_append {name : List Char} {before : List (List Char)}
    (h : ∀ segment ∈ before, ∀ v, pair? segment ≠ some (name, v)) (rest : List (List Char)) :
    valueOf? name (before ++ rest) = valueOf? name rest := by
  induction before with
  | nil => rfl
  | cons segment before ih =>
    have hrest := ih fun s hs => h s (List.mem_cons_of_mem _ hs)
    rw [List.cons_append, valueOf?]
    split
    · rename_i k v hpair
      have hk : k ≠ name := by
        rintro rfl
        exact h segment List.mem_cons_self v hpair
      rw [if_neg hk, hrest]
    · exact hrest

/-- A cookie is read out of the header that sends it back after others. -/
theorem valueIn?_sentBack {others : List (String × String)} {blank name value : String}
    (hothers : ∀ p ∈ others, IsOther name p) (hblank : ∀ c ∈ blank.toList, Text.isBlank c = true)
    (hname : IsName name) (hvalue : IsToken value) :
    valueIn? (sentBack others blank name value) name = some value := by
  have hlast : (blank ++ pairText name value).toList =
      (blank.toList ++ name.toList) ++ '=' :: value.toList := by
    rw [String.toList_append, toList_pairText, List.append_assoc]
  have hsegments : Text.splitAll ';' (sentBack others blank name value).toList =
      others.map (fun p => (pairText p.1 p.2).toList) ++
        [(blank ++ pairText name value).toList] := by
    have hnone : ∀ segment ∈ others.map (fun p => (pairText p.1 p.2).toList) ++
        [(blank ++ pairText name value).toList], ';' ∉ segment := by
      intro segment hs
      rcases List.mem_append.1 hs with hs | hs
      · obtain ⟨p, hp, rfl⟩ := List.mem_map.1 hs
        rw [toList_pairText]
        simp [(hothers p hp).no_semicolon.1, (hothers p hp).no_semicolon.2]
      · obtain rfl := List.mem_singleton.1 hs
        have hb : ';' ∉ blank.toList := fun hc => absurd (hblank ';' hc) (by decide)
        rw [hlast]
        simp [hb, hname.no_semicolon, hvalue.no_semicolon]
    have htext : (sentBack others blank name value).toList = [';'].intercalate
        (others.map (fun p => (pairText p.1 p.2).toList) ++
          [(blank ++ pairText name value).toList]) := by
      rw [sentBack, String.toList_intercalate, List.map_append, List.map_map]
      rfl
    rw [htext, Text.splitAll_intercalate hnone (by simp)]
  have hpair : pair? (blank ++ pairText name value).toList = some (name.toList, value.toList) := by
    have hnone : '=' ∉ blank.toList ++ name.toList := by
      have hb : '=' ∉ blank.toList := fun hc => absurd (hblank '=' hc) (by decide)
      simp [hb, hname.no_equals]
    have hreverse : ∀ c ∈ value.toList.reverse, Text.isBlank c = false := by
      intro c hc
      exact hvalue.not_blank c (List.mem_reverse.1 hc)
    rw [hlast, pair?_append_cons hnone, List.dropWhile_append_of_pos hblank,
      Text.dropWhile_eq_self hname.not_blank, Text.dropWhile_eq_self hreverse,
      List.reverse_reverse]
  have hbefore : ∀ segment ∈ others.map (fun p => (pairText p.1 p.2).toList),
      ∀ v, pair? segment ≠ some (name.toList, v) := by
    intro segment hs v
    obtain ⟨p, hp, rfl⟩ := List.mem_map.1 hs
    exact (hothers p hp).pair?_ne hname v
  rw [valueIn?, hsegments, valueOf?_append hbefore, valueOf?, hpair]
  simp

/-- The headers of a request send a cookie back: the first cookie header is readable and holds it,
after cookies of other names. -/
def IsSentBack (name value : String) (headers : List Http.Header) : Prop :=
  ∃ (before after : List Http.Header) (octets : List UInt8) (others : List (String × String))
      (blank : String),
    headers = before ++ ⟨"cookie", octets⟩ :: after ∧ (∀ h ∈ before, h.name ≠ "cookie") ∧
    Http.readable? octets = some (sentBack others blank name value) ∧
    (∀ p ∈ others, IsOther name p) ∧ ∀ c ∈ blank.toList, Text.isBlank c = true

theorem tokenIn?_of_isSentBack {name value : String} {headers : List Http.Header}
    (hname : IsName name) (hvalue : IsToken value) (h : IsSentBack name value headers) :
    tokenIn? headers name = some value := by
  obtain ⟨before, after, octets, others, blank, rfl, hbefore, hreadable, hothers, hblank⟩ := h
  have hnone : before.filter (fun h => h.name = "cookie") = [] := by
    refine List.filter_eq_nil_iff.2 ?_
    intro h hh
    simpa using hbefore h hh
  have hfirst : (((before ++ ⟨"cookie", octets⟩ :: after).filter fun h => h.name = "cookie").filterMap
      fun h => Http.readable? h.value) = sentBack others blank name value ::
        ((after.filter fun h => h.name = "cookie").filterMap fun h => Http.readable? h.value) := by
    rw [List.filter_append, hnone, List.nil_append, List.filter_cons_of_pos (by simp),
      List.filterMap_cons_some (f := fun h : Http.Header => Http.readable? h.value) hreadable]
  have htrim : Text.trim value = value := by
    rw [Text.trim, Text.trimChars_eq_self hvalue.not_blank, String.ofList_toList]
  have hnonempty : value ≠ "" := by
    rintro rfl
    exact hvalue.nonempty rfl
  rw [tokenIn?, hfirst, List.findSome?_cons, valueIn?_sentBack hothers hblank hname hvalue]
  simp [htrim, hnonempty]

theorem isSentBack_alone {name value : String}
    (h : ∀ c ∈ (pairText name value).toList, 32 ≤ c.toNat ∧ c.toNat < 127) :
    IsSentBack name value [⟨"cookie", Text.Utf8.bytesOf (pairText name value)⟩] := by
  have hreadable : Http.readable? (Text.Utf8.bytesOf (pairText name value)) =
      some (sentBack [] "" name value) := by
    rw [Http.readable?_bytesOf h]
    simp [sentBack]
  exact ⟨[], [], _, [], "", rfl, by simp, hreadable, by simp, by simp⟩

/-- What stands in a header that is not readable is not found. -/
theorem tokenIn?_of_unreadable {octets : List UInt8} (h : Http.readable? octets = none)
    (name : String) : tokenIn? [⟨"cookie", octets⟩] name = none := by
  simp [tokenIn?, h]

end Cookie
end Weblog
