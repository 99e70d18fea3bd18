import Weblog.Proofs.Action
import Weblog.Proofs.Fallible
import Weblog.Proofs.Session.Binding

/-!
# Weblog.Proofs.Session.Validity

Which cookies are valid, whatever text arrives as one.

* `Unexpired`: three parts between dashes, the second of them the numeral of an expiry of 64 bits
  that is not over. `current?_eq_some_iff`: these are the cookies that are looked into.
* `Verdict`, `runs_resolve_iff`: what becomes of a cookie, by what the directory answers.
* `accepts_exactly_valid`: a cookie yields a user if and only if it is unexpired, the directory finds
  the user of its id, and its digest is that of the user; in all other cases it yields none.
-/

namespace Weblog
namespace Cookie

/-- A cookie of exactly three parts between dashes: an id, the numeral of an expiry of 64 bits that is
not over, and a digest. -/
structure Unexpired (cookie : String) (now : Int) (uid : String) (expires : Int) (digest : String) :
    Prop where
  parts : ∃ numeral, cookie.toList.splitOn '-' = [uid.toList, numeral, digest.toList] ∧
    Text.Numeral numeral expires
  fits : -9223372036854775808 ≤ expires ∧ expires ≤ 9223372036854775807
  unexpired : now ≤ expires

/-- The digest of a cookie: its id, the stored hash, the expiry in canonical digits and the secret,
with dashes between them. -/
def sealOf (uid passwd : String) (expires : Int) (secret : String) : String :=
  Sha256.hexDigest ("-".intercalate [uid, passwd, toString expires, secret])

theorem digest_eq_sealOf (uid passwd : String) (expires : Int) (secret : String) :
    digest uid passwd expires secret = sealOf uid passwd expires secret := by
  have htext : signedText uid passwd expires secret =
      "-".intercalate [uid, passwd, toString expires, secret] := by
    rw [signedText, Text.ofInt_eq_toString]
    rfl
  rw [digest, htext, sealOf]

variable {users : Directory} {cookie secret uid digest : String} {now expires : Int}
  {es : List Exchange} {out : Option SessionUser}

theorem parse?_eq_some_iff {numeral : String} :
    parse? cookie = some (uid, numeral, digest) ↔
      cookie.toList.splitOn '-' = [uid.toList, numeral.toList, digest.toList] := by
  rw [parse?, Text.splitAll_eq_splitOn]
  constructor
  · intro h
    split at h
    · rename_i u e d hsplit
      cases h
      simpa using hsplit
    · cases h
  · intro h
    simp [h]

/-- The cookies that are looked into are those that are not expired. -/
theorem current?_eq_some_iff :
    current? cookie now = some (uid, expires, digest) ↔ Unexpired cookie now uid expires digest := by
  have hsigned : Text.IntRange.i64.least < 0 := by decide
  constructor
  · intro h
    obtain ⟨⟨text, hparse, hranged⟩, hnow⟩ := of_current? h
    obtain ⟨hnumeral, hfits⟩ := (Text.ranged?_eq_some_iff hsigned).1 hranged
    exact ⟨⟨text.toList, parse?_eq_some_iff.1 hparse, hnumeral⟩, hfits, hnow⟩
  · rintro ⟨⟨numeral, hsplit, hnumeral⟩, hfits, hnow⟩
    have hparse : parse? cookie = some (uid, String.ofList numeral, digest) :=
      parse?_eq_some_iff.2 (by rw [hsplit, String.toList_ofList])
    have hranged : Text.ranged? .i64 (String.ofList numeral) = some expires :=
      (Text.ranged?_eq_some_iff hsigned).2 ⟨by rwa [String.toList_ofList], hfits⟩
    simp only [current?, hparse, hranged]
    exact if_neg (by omega)

/-- What becomes of a cookie at a time: what the directory is asked, and who is found. -/
inductive Verdict (users : Directory) (cookie secret : String) (now : Int) :
    List Exchange → Option SessionUser → Prop where
  /-- Without three parts and an expiry that is not over nobody is looked for. -/
  | unread : (∀ uid expires digest, ¬ Unexpired cookie now uid expires digest) →
      Verdict users cookie secret now [] none
  | unknown {uid digest : String} {expires : Int} {es : List Exchange} :
      Unexpired cookie now uid expires digest → Action.Runs (users uid) es .unknown →
      Verdict users cookie secret now es none
  /-- A lookup that fails is noted, and counts as one that finds nobody. -/
  | failed {uid digest : String} {expires : Int} {es : List Exchange} :
      Unexpired cookie now uid expires digest → Action.Runs (users uid) es .failed →
      Verdict users cookie secret now (es ++ [⟨.log .lookupFailed, ()⟩]) none
  | forged {uid digest : String} {expires : Int} {es : List Exchange} {c : Credentials} :
      Unexpired cookie now uid expires digest → Action.Runs (users uid) es (.found c) →
      digest ≠ sealOf uid c.passwd expires secret → Verdict users cookie secret now es none
  | accepted {uid digest : String} {expires : Int} {es : List Exchange} {c : Credentials} :
      Unexpired cookie now uid expires digest → Action.Runs (users uid) es (.found c) →
      digest = sealOf uid c.passwd expires secret → Verdict users cookie secret now es (some c.user)

/-- What becomes of a cookie that is not expired, by the answer of the directory. -/
theorem runs_resolve_of_unexpired (h : Unexpired cookie now uid expires digest) :
    Action.Runs (resolve users cookie secret now) es out ↔
      ∃ fs found, Action.Runs (users uid) fs found ∧
        es = fs ++ (if found = .failed then [⟨.log .lookupFailed, ()⟩] else []) ∧
        out = verify uid digest expires secret found := by
  rw [resolve_of_current? (current?_eq_some_iff.2 h), Action.runs_bind_iff]
  have hnoted : ∀ found (gs : List Exchange),
      Action.Runs ((if found = .failed then Action.log .lookupFailed else pure ()) >>= fun _ =>
          pure (verify uid digest expires secret found)) gs out ↔
        gs = (if found = .failed then [⟨.log .lookupFailed, ()⟩] else []) ∧
          out = verify uid digest expires secret found := by
    intro found gs
    split
    · constructor
      · intro hruns
        obtain ⟨hs, is, u, rfl, hlog, hdone⟩ := Action.runs_bind_iff.1 hruns
        obtain ⟨rfl, rfl⟩ := Action.runs_done_iff.1 hdone
        rw [Action.runs_perform_iff.1 hlog]
        exact ⟨rfl, rfl⟩
      · rintro ⟨rfl, rfl⟩
        exact .ask .done
    · exact Action.runs_done_iff
  constructor
  · rintro ⟨fs, gs, found, rfl, hfound, hrest⟩
    obtain ⟨rfl, rfl⟩ := (hnoted found gs).1 hrest
    exact ⟨fs, found, hfound, rfl, rfl⟩
  · rintro ⟨fs, found, hfound, rfl, rfl⟩
    exact ⟨fs, _, found, rfl, hfound, (hnoted found _).2 ⟨rfl, rfl⟩⟩

theorem resolve_of_not_unexpired (h : ∀ uid expires digest, ¬ Unexpired cookie now uid expires digest)
    (users : Directory) (secret : String) : resolve users cookie secret now = .done none := by
  have hnone : current? cookie now = none := by
    refine Option.eq_none_iff_forall_ne_some.2 ?_
    rintro ⟨uid, expires, digest⟩ hsome
    exact h uid expires digest (current?_eq_some_iff.1 hsome)
  rw [resolve, hnone]

/-- The runs of a cookie are its verdicts. -/
theorem runs_resolve_iff :
    Action.Runs (resolve users cookie secret now) es out ↔
      Verdict users cookie secret now es out := by
  constructor
  · intro h
    by_cases hunexpired : ∃ uid expires digest, Unexpired cookie now uid expires digest
    · obtain ⟨uid, expires, digest, hunexpired⟩ := hunexpired
      obtain ⟨fs, found, hfound, rfl, rfl⟩ := (runs_resolve_of_unexpired hunexpired).1 h
      cases found with
      | unknown =>
        rw [if_neg (by simp), List.append_nil]
        exact .unknown hunexpired hfound
      | failed => exact .failed hunexpired hfound
      | found c =>
        simp only [reduceCtorEq, if_false, List.append_nil, verify, digest_eq_sealOf]
        split
        · exact .accepted hunexpired hfound ‹_›
        · exact .forged hunexpired hfound ‹_›
    · have hnone : ∀ uid expires digest, ¬ Unexpired cookie now uid expires digest :=
        fun uid expires digest hc => hunexpired ⟨uid, expires, digest, hc⟩
      rw [resolve_of_not_unexpired hnone] at h
      obtain ⟨rfl, rfl⟩ := Action.runs_done_iff.1 h
      exact .unread hnone
  · intro h
    cases h with
    | unread hnone =>
      rw [resolve_of_not_unexpired hnone]
      exact .done
    | unknown hunexpired hfound =>
      exact (runs_resolve_of_unexpired hunexpired).2 ⟨es, _, hfound, by simp, rfl⟩
    | failed hunexpired hfound =>
      exact (runs_resolve_of_unexpired hunexpired).2 ⟨_, _, hfound, rfl, rfl⟩
    | forged hunexpired hfound hdigest =>
      refine (runs_resolve_of_unexpired hunexpired).2 ⟨es, _, hfound, by simp, ?_⟩
      rw [verify, digest_eq_sealOf, if_neg hdigest]
    | accepted hunexpired hfound hdigest =>
      refine (runs_resolve_of_unexpired hunexpired).2 ⟨es, _, hfound, by simp, ?_⟩
      rw [verify, digest_eq_sealOf, if_pos hdigest]

/-- For every directory, text, secret and time: a cookie yields a user if and only if it has three
parts and an expiry that is not over, the lookup of its id finds the user with a stored hash, and its
digest is the one of them. In all other cases, a lookup that fails among them, it yields none; it ends
in every world, never in an error; and without three parts and an expiry that is not over the
directory is not asked. -/
theorem accepts_exactly_valid (users : Directory) (cookie secret : String) (now : Int) :
    (∀ es u, Action.Runs (resolve users cookie secret now) es (some u) ↔
      ∃ uid expires digest passwd, Unexpired cookie now uid expires digest ∧
        Action.Runs (users uid) es (.found ⟨u, passwd⟩) ∧
        digest = sealOf uid passwd expires secret) ∧
    (∀ es out, Action.Runs (resolve users cookie secret now) es out ↔
      Verdict users cookie secret now es out) ∧
    ((∃ uid expires digest, Unexpired cookie now uid expires digest) ∨
      ∀ others : Directory, resolve others cookie secret now = .done none) ∧
    ∀ world : List Exchange → (e : Effect) → e.Answer,
      ∃ es out, Action.Runs (resolve users cookie secret now) es out ∧
        EachAfter (fun before x => x.answer = world before x.effect) es := by
  refine ⟨fun es u => ?valid, fun es out => runs_resolve_iff, ?unasked,
    (resolve users cookie secret now).exists_runs_answered⟩
  case valid =>
    rw [runs_resolve_iff]
    constructor
    · intro h
      generalize hout : some u = out at h
      cases h with
      | accepted hunexpired hfound hdigest =>
        cases hout
        exact ⟨_, _, _, _, hunexpired, hfound, hdigest⟩
      | unread _ => cases hout
      | unknown _ _ => cases hout
      | failed _ _ => cases hout
      | forged _ _ _ => cases hout
    · rintro ⟨uid, expires, digest, passwd, hunexpired, hfound, hdigest⟩
      exact .accepted hunexpired hfound hdigest
  case unasked =>
    by_cases hunexpired : ∃ uid expires digest, Unexpired cookie now uid expires digest
    · exact .inl hunexpired
    · refine .inr fun others => resolve_of_not_unexpired ?_ others secret
      exact fun uid expires digest hc => hunexpired ⟨uid, expires, digest, hc⟩

/-- An expiry with a sign and a zero before its digits is read, and the digest covers its canonical
digits. -/
theorem accepts_exactly_valid_signedExpiry :
    Action.Runs (resolve (oneUser "hash") ("u-+0160-" ++ sealOf "u" "hash" 160 "secret") "secret" 160)
      [] (some ⟨"u", "Ada", "ada@example.com", "", false⟩) := by
  have hparts : ("u-+0160-" ++ sealOf "u" "hash" 160 "secret").toList.splitOn '-' =
      ["u".toList, "+0160".toList, (sealOf "u" "hash" 160 "secret").toList] := by
    have htext : ("u-+0160-" ++ sealOf "u" "hash" 160 "secret").toList = "u".toList ++ '-' ::
        ("+0160".toList ++ '-' :: (sealOf "u" "hash" 160 "secret").toList) := String.toList_append
    rw [htext, ← Text.splitAll_eq_splitOn, Text.splitAll_append_cons (by decide),
      Text.splitAll_append_cons (by decide), sealOf,
      Text.splitAll_of_not_mem (dash_not_mem_hexDigest _)]
  have hnumeral : Text.Numeral "+0160".toList 160 := .plus (by decide) (List.all_eq_true.1 (by decide))
  exact ((accepts_exactly_valid (oneUser "hash") _ "secret" 160).1 _ _).2
    ⟨"u", 160, _, "hash", ⟨⟨_, hparts, hnumeral⟩, by decide, by decide⟩, .done, rfl⟩

end Cookie
end Weblog
