import Weblog.Action.Trace
import Weblog.Proofs.Sha256
import Weblog.Proofs.Text.Numeral
import Weblog.Proofs.Text.Split
import Weblog.Session.Cookie

/-!
# Weblog.Proofs.Session.Cookie

Session cookies that are written and read.

* `parse?_write`, `of_parse?`: what is written is read back, and what is read holds no dashes.
* `Warrant`: the id, the expiry, the digest and the stored hash that a cookie stands for.
* `runs_resolve_some_iff`: a cookie yields a user if it is not expired, the directory finds the user
  of its id, and its digest is the one of its warrant.
* `runs_resolve_issue`: a cookie that was issued yields its user until it expires.
* `resolve_issue_of_overflow`: one whose expiry is beyond 64 bits never does.
-/

namespace Weblog
namespace Cookie

theorem dash_not_mem_hexDigest (text : String) : '-' ∉ (Sha256.hexDigest text).toList := by
  intro h
  rcases Sha256.isDigitOrLower_of_mem_hexDigest h with hdigit | hlower
  · exact absurd hdigit (by decide)
  · exact absurd hlower (by decide)

theorem toList_write (uid digest : String) (expires : Int) :
    (write uid expires digest).toList =
      uid.toList ++ '-' :: (Text.intChars expires ++ '-' :: digest.toList) := by
  rw [write, String.toList_append, String.toList_append, String.toList_append,
    String.toList_append, Text.toList_ofInt, List.append_assoc, List.append_assoc,
    List.append_assoc]
  rfl

/-- A cookie is read as what it was written of, if neither the id nor the digest holds a dash and
the expiry is not negative. -/
theorem parse?_write {uid digest : String} {expires : Int} (huid : '-' ∉ uid.toList)
    (hexpires : 0 ≤ expires) (hdigest : '-' ∉ digest.toList) :
    parse? (write uid expires digest) = some (uid, Text.ofInt expires, digest) := by
  have hsplit : Text.splitAll '-' (write uid expires digest).toList =
      [uid.toList, Text.intChars expires, digest.toList] := by
    rw [toList_write, Text.splitAll_append_cons huid,
      Text.splitAll_append_cons (Text.minus_not_mem_intChars hexpires),
      Text.splitAll_of_not_mem hdigest]
  rw [parse?, hsplit]
  simp only [String.ofList_toList, Text.ofInt]

/-- A cookie with a negative expiry is not read: its sign is one dash too many. -/
theorem parse?_write_of_neg {uid digest : String} {expires : Int} (huid : '-' ∉ uid.toList)
    (hneg : expires < 0) (hdigest : '-' ∉ digest.toList) :
    parse? (write uid expires digest) = none := by
  obtain ⟨n, rfl⟩ := Int.eq_negSucc_of_lt_zero hneg
  have hnumeral : '-' ∉ Text.digits (n + 1) := Text.not_mem_digits (by decide) (n + 1)
  have hsplit : Text.splitAll '-' (write uid (.negSucc n) digest).toList =
      [uid.toList, [], Text.digits (n + 1), digest.toList] := by
    have htext : (write uid (.negSucc n) digest).toList =
        uid.toList ++ '-' :: ([] ++ '-' :: (Text.digits (n + 1) ++ '-' :: digest.toList)) := by
      rw [toList_write, Text.intChars]
      rfl
    rw [htext, Text.splitAll_append_cons huid, Text.splitAll_append_cons List.not_mem_nil,
      Text.splitAll_append_cons hnumeral, Text.splitAll_of_not_mem hdigest]
  rw [parse?, hsplit]

/-- The three parts of a cookie hold no dashes. -/
theorem of_parse? {cookie uid expires digest : String}
    (h : parse? cookie = some (uid, expires, digest)) :
    '-' ∉ uid.toList ∧ '-' ∉ expires.toList ∧ '-' ∉ digest.toList := by
  unfold parse? at h
  split at h
  · rename_i u e d hsplit
    cases h
    have hnone : ∀ piece ∈ [u, e, d], '-' ∉ piece := by
      intro piece hp
      exact Text.not_mem_of_mem_splitAll (hsplit ▸ hp)
    simp only [String.toList_ofList]
    exact ⟨hnone u (by simp), hnone e (by simp), hnone d (by simp)⟩
  · cases h

/-- What a cookie stands for: the parts of its text, and the stored hash that it is held against. -/
structure Warrant where
  uid : String
  passwd : String
  expires : Int
  digest : String
  deriving DecidableEq, Repr

namespace Warrant

/-- The text that the digest should cover. -/
def text (w : Warrant) (secret : String) : String := signedText w.uid w.passwd w.expires secret

/-- The parts of a cookie are those of the warrant, and its stored hash is the one that the
directory answers for its id, with the user. -/
structure Backs (w : Warrant) (users : Directory) (cookie : String) (es : List Exchange)
    (u : SessionUser) : Prop where
  parts : ∃ expires, parse? cookie = some (w.uid, expires, w.digest) ∧
    Text.ranged? .i64 expires = some w.expires
  stored : Action.Runs (users w.uid) es (.found ⟨u, w.passwd⟩)

variable {w : Warrant} {users : Directory} {cookie : String} {es : List Exchange} {u : SessionUser}

theorem Backs.dash_not_mem_uid (h : w.Backs users cookie es u) : '-' ∉ w.uid.toList := by
  obtain ⟨expires, hparse, -⟩ := h.parts
  exact (of_parse? hparse).1

/-- The expiry of a cookie is never negative: its text has no room for a minus sign. -/
theorem Backs.expires_nonneg (h : w.Backs users cookie es u) : 0 ≤ w.expires := by
  obtain ⟨expires, hparse, hranged⟩ := h.parts
  exact Text.nonneg_of_int? (of_parse? hparse).2.1 (Text.int?_of_ranged? hranged).1

theorem Backs.current? (h : w.Backs users cookie es u) {now : Int} (hnow : now ≤ w.expires) :
    Cookie.current? cookie now = some (w.uid, w.expires, w.digest) := by
  obtain ⟨expires, hparse, hranged⟩ := h.parts
  simp only [Cookie.current?, hparse, hranged]
  rw [if_neg (by omega)]

end Warrant

/-- A cookie that is current has the parts that it is read as, and is not expired. -/
theorem of_current? {cookie uid digest : String} {now expires : Int}
    (h : current? cookie now = some (uid, expires, digest)) :
    (∃ text, parse? cookie = some (uid, text, digest) ∧ Text.ranged? .i64 text = some expires) ∧
      now ≤ expires := by
  unfold current? at h
  split at h
  · cases h
  · rename_i text _ hparse
    split at h
    · cases h
    · rename_i hranged
      split at h
      · cases h
      · rename_i hnow
        cases h
        exact ⟨⟨text, hparse, hranged⟩, by omega⟩

/-- What becomes of a current cookie: the directory is asked, and its failure is noted. -/
theorem resolve_of_current? {users : Directory} {cookie secret uid digest : String}
    {now expires : Int} (h : current? cookie now = some (uid, expires, digest)) :
    resolve users cookie secret now = users uid >>= fun found =>
      (if found = .failed then Action.log .lookupFailed else pure ()) >>= fun _ =>
        pure (verify uid digest expires secret found) := by
  simp only [resolve, h]
  congr 1
  funext found
  split
  · rfl
  · rfl

/-- A cookie yields a user exactly if a warrant backs it that is not expired and whose digest is the
one of its text. -/
theorem runs_resolve_some_iff {users : Directory} {cookie secret : String} {now : Int}
    {es : List Exchange} {u : SessionUser} :
    Action.Runs (resolve users cookie secret now) es (some u) ↔
      ∃ w : Warrant, w.Backs users cookie es u ∧ now ≤ w.expires ∧
        w.digest = Sha256.hexDigest (w.text secret) := by
  constructor
  · intro h
    cases hcurrent : current? cookie now with
    | none =>
      simp only [resolve, hcurrent] at h
      obtain ⟨-, he⟩ := Action.runs_done_iff.1 h
      cases he
    | some parts =>
      obtain ⟨uid, expires, digest⟩ := parts
      obtain ⟨hparts, hnow⟩ := of_current? hcurrent
      rw [resolve_of_current? hcurrent] at h
      obtain ⟨fs, gs, found, rfl, hfound, hrest⟩ := Action.runs_bind_iff.1 h
      obtain ⟨hs, is, noted, rfl, hnote, hdone⟩ := Action.runs_bind_iff.1 hrest
      obtain ⟨rfl, hverify⟩ := Action.runs_done_iff.1 hdone
      cases found with
      | found c =>
        obtain ⟨rfl, -⟩ := Action.runs_done_iff.1 hnote
        rw [verify] at hverify
        split at hverify
        · rename_i hdigest
          cases hverify
          exact ⟨⟨uid, c.passwd, expires, digest⟩, ⟨hparts, by simpa using hfound⟩, hnow, hdigest⟩
        · cases hverify
      | unknown => cases hverify
      | failed => cases hverify
  · rintro ⟨w, hw, hnow, hdigest⟩
    have hverify : verify w.uid w.digest w.expires secret (.found ⟨u, w.passwd⟩) = some u :=
      if_pos hdigest
    rw [resolve_of_current? (hw.current? hnow), ← List.append_nil es]
    refine hw.stored.bind ?_
    simp only [reduceCtorEq, if_false, hverify]
    exact .done

/-- A time that 64 bits can hold is the expiry as it is. -/
theorem expiry_eq {now maxAge : Int} (hleast : Text.IntRange.i64.least ≤ now + maxAge)
    (hgreatest : now + maxAge ≤ Text.IntRange.i64.greatest) : expiry now maxAge = now + maxAge := by
  simp only [Text.IntRange.i64] at hleast hgreatest
  exact Int.bmod_eq_of_le (by omega) (by omega)

/-- A time that is too great for 64 bits leaves a negative expiry. -/
theorem expiry_neg {now maxAge : Int} (hnow : now ≤ Text.IntRange.i64.greatest)
    (hmaxAge : maxAge ≤ Text.IntRange.i64.greatest)
    (hover : Text.IntRange.i64.greatest < now + maxAge) : expiry now maxAge < 0 := by
  simp only [Text.IntRange.i64] at hnow hmaxAge hover
  have hwrapped : (now + maxAge).bmod 18446744073709551616 =
      now + maxAge - 18446744073709551616 := by
    rw [← Int.sub_bmod_right]
    exact Int.bmod_eq_of_le (by omega) (by omega)
  rw [expiry, hwrapped]
  omega

/-- A cookie that was issued yields the user of its id as long as it is not expired, if the id holds
no dash and the expiry is neither negative nor beyond 64 bits. -/
theorem runs_resolve_issue {users : Directory} {uid passwd secret : String}
    {maxAge issued now : Int} {es : List Exchange} {u : SessionUser} (huid : '-' ∉ uid.toList)
    (hnonneg : 0 ≤ issued + maxAge) (hbound : issued + maxAge ≤ Text.IntRange.i64.greatest)
    (hnow : now ≤ issued + maxAge) (hfound : Action.Runs (users uid) es (.found ⟨u, passwd⟩)) :
    Action.Runs (resolve users (issue uid passwd maxAge secret issued) secret now) es (some u) := by
  have hleast : Text.IntRange.i64.least ≤ issued + maxAge := by
    have : Text.IntRange.i64.least ≤ 0 := by decide
    omega
  have hhas : Text.IntRange.i64.has (issued + maxAge) = true := by
    simp [Text.IntRange.has, hleast, hbound]
  have hranged := Text.ranged?_ofInt (r := .i64) (by decide) hhas
  have hparse := parse?_write huid hnonneg
    (dash_not_mem_hexDigest (signedText uid passwd (issued + maxAge) secret))
  rw [issue, expiry_eq hleast hbound]
  exact runs_resolve_some_iff.2 ⟨⟨uid, passwd, issued + maxAge,
    digest uid passwd (issued + maxAge) secret⟩, ⟨⟨_, hparse, hranged⟩, hfound⟩, hnow, rfl⟩

/-- A cookie whose expiry is beyond 64 bits never yields a user. -/
theorem resolve_issue_of_overflow {users : Directory} {uid passwd secret : String}
    {maxAge issued now : Int} (huid : '-' ∉ uid.toList)
    (hissued : issued ≤ Text.IntRange.i64.greatest) (hage : maxAge ≤ Text.IntRange.i64.greatest)
    (hover : Text.IntRange.i64.greatest < issued + maxAge) :
    resolve users (issue uid passwd maxAge secret issued) secret now = .done none := by
  have hparse := parse?_write_of_neg huid (expiry_neg hissued hage hover)
    (dash_not_mem_hexDigest (signedText uid passwd (expiry issued maxAge) secret))
  have hcurrent : current? (issue uid passwd maxAge secret issued) now = none := by
    rw [current?, issue, digest, hparse]
  rw [resolve, hcurrent]

end Cookie

theorem Directory.runs_ofList_head (uid : String) (found : Lookup) (rest : List (String × Lookup)) :
    Action.Runs (ofList ((uid, found) :: rest) uid) [] found := by
  have hfound : ofList ((uid, found) :: rest) uid = .done found := by simp [ofList]
  rw [hfound]
  exact .done

end Weblog
