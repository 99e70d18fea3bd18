import Weblog.Proofs.Session.Cookie

/-!
# Weblog.Proofs.Session.Binding

A digest binds the id, the stored hash and the expiry of its cookie.

* `signedText_injective`: the text of a digest stands for one id, one hash and one expiry, although
  its parts are joined without escapes: the id ends at the first dash, the secret is known, and
  the expiry begins after the last dash before it.
* `accepted_digest_binds`: two accepted cookies with one digest are of one user, one stored hash and
  one expiry, or their texts are a collision.
-/

namespace Weblog
namespace Cookie

/-- What stands before and after the last dash of a text. -/
theorem append_dash_inj {xs xs' ys ys' : List Char} (hys : '-' ∉ ys) (hys' : '-' ∉ ys')
    (h : xs ++ '-' :: ys = xs' ++ '-' :: ys') : xs = xs' ∧ ys = ys' := by
  have hreversed : ys.reverse ++ '-' :: xs.reverse = ys'.reverse ++ '-' :: xs'.reverse := by
    simpa using congrArg List.reverse h
  have hmem : '-' ∉ ys.reverse := by simpa using hys
  have hmem' : '-' ∉ ys'.reverse := by simpa using hys'
  have hsplit := Text.splitOnce_append_cons hmem xs.reverse
  rw [hreversed, Text.splitOnce_append_cons hmem'] at hsplit
  simp only [Option.some.injEq, Prod.mk.injEq, List.reverse_inj] at hsplit
  exact ⟨hsplit.2.symm, hsplit.1.symm⟩

theorem toList_signedText (uid passwd : String) (expires : Int) (secret : String) :
    (signedText uid passwd expires secret).toList =
      uid.toList ++ '-' :: ((passwd.toList ++ '-' :: Text.intChars expires) ++
        '-' :: secret.toList) := by
  simp only [signedText, String.toList_append, Text.toList_ofInt, List.append_assoc,
    List.cons_append]
  rfl

/-- Under one secret the text of a digest stands for one id without dashes, one hash and one expiry
that is not negative; the hash and the secret may hold any characters. -/
theorem signedText_injective {uid uid' passwd passwd' secret : String} {expires expires' : Int}
    (huid : '-' ∉ uid.toList) (huid' : '-' ∉ uid'.toList) (hexpires : 0 ≤ expires)
    (hexpires' : 0 ≤ expires')
    (h : signedText uid passwd expires secret = signedText uid' passwd' expires' secret) :
    uid = uid' ∧ passwd = passwd' ∧ expires = expires' := by
  have htext := congrArg String.toList h
  rw [toList_signedText, toList_signedText] at htext
  have hfirst := Text.splitOnce_append_cons huid
    ((passwd.toList ++ '-' :: Text.intChars expires) ++ '-' :: secret.toList)
  rw [htext, Text.splitOnce_append_cons huid'] at hfirst
  simp only [Option.some.injEq, Prod.mk.injEq] at hfirst
  obtain ⟨hu, hrest⟩ := hfirst
  have hmiddle := List.append_cancel_right hrest
  obtain ⟨hp, he⟩ := append_dash_inj (Text.minus_not_mem_intChars hexpires')
    (Text.minus_not_mem_intChars hexpires) hmiddle
  exact ⟨(String.toList_inj.1 hu).symm, (String.toList_inj.1 hp).symm,
    (Text.intChars_injective he).symm⟩

/-- Two warrants that back cookies and whose digests are those of their texts agree, if the digests
are the same and the texts are no collision. -/
theorem Warrant.Backs.eq_or_collision {w w' : Warrant} {users users' : Directory}
    {cookie cookie' secret : String} {es es' : List Exchange} {u u' : SessionUser}
    (h : w.Backs users cookie es u) (h' : w'.Backs users' cookie' es' u')
    (hdigest : w.digest = Sha256.hexDigest (w.text secret))
    (hdigest' : w'.digest = Sha256.hexDigest (w'.text secret)) (hsame : w.digest = w'.digest) :
    Sha256.Collision (w.text secret) (w'.text secret) ∨
      w.uid = w'.uid ∧ w.passwd = w'.passwd ∧ w.expires = w'.expires := by
  rw [hdigest, hdigest'] at hsame
  rcases Sha256.eq_or_collision hsame with htext | hcollision
  · exact .inr (signedText_injective h.dash_not_mem_uid h'.dash_not_mem_uid h.expires_nonneg
      h'.expires_nonneg htext)
  · exact .inl hcollision

/-- Whatever a secret, two directories, two times and two cookies are that are accepted: if the
cookies carry one digest, they have one id, one stored hash and one expiry, or the texts that were
digested are a collision. So a cookie that was accepted is refused at any time by every directory
that has another hash for its id, but for a collision. -/
theorem accepted_digest_binds {users₁ users₂ : Directory} {cookie₁ cookie₂ secret : String}
    {now₁ now₂ : Int} {es₁ es₂ : List Exchange} {u₁ u₂ : SessionUser}
    (h₁ : Action.Runs (resolve users₁ cookie₁ secret now₁) es₁ (some u₁))
    (h₂ : Action.Runs (resolve users₂ cookie₂ secret now₂) es₂ (some u₂)) :
    ∃ w₁ w₂ : Warrant, w₁.Backs users₁ cookie₁ es₁ u₁ ∧ w₂.Backs users₂ cookie₂ es₂ u₂ ∧
      w₁.digest = Sha256.hexDigest (w₁.text secret) ∧
      w₂.digest = Sha256.hexDigest (w₂.text secret) ∧
      (w₁.digest = w₂.digest →
        Sha256.Collision (w₁.text secret) (w₂.text secret) ∨
          w₁.uid = w₂.uid ∧ w₁.passwd = w₂.passwd ∧ w₁.expires = w₂.expires) ∧
      (∀ (users : Directory) (now : Int) (es : List Exchange) (u : SessionUser),
        (∀ fs c, Action.Runs (users w₁.uid) fs (.found c) → c.passwd ≠ w₁.passwd) →
        Action.Runs (resolve users cookie₁ secret now) es (some u) →
        ∃ w : Warrant, w.Backs users cookie₁ es u ∧ w.passwd ≠ w₁.passwd ∧
          Sha256.Collision (w₁.text secret) (w.text secret)) := by
  obtain ⟨w₁, hw₁, -, hdigest₁⟩ := runs_resolve_some_iff.1 h₁
  obtain ⟨w₂, hw₂, -, hdigest₂⟩ := runs_resolve_some_iff.1 h₂
  refine ⟨w₁, w₂, hw₁, hw₂, hdigest₁, hdigest₂, hw₁.eq_or_collision hw₂ hdigest₁ hdigest₂, ?_⟩
  intro users now es u hchanged hrun
  obtain ⟨w, hw, -, hdigest⟩ := runs_resolve_some_iff.1 hrun
  obtain ⟨expires₁, hparse₁, -⟩ := hw₁.parts
  obtain ⟨expires, hparse, -⟩ := hw.parts
  obtain ⟨huid, -, hsame⟩ : w₁.uid = w.uid ∧ expires₁ = expires ∧ w₁.digest = w.digest := by
    simpa using hparse₁.symm.trans hparse
  have hpasswd : w.passwd ≠ w₁.passwd := hchanged es ⟨u, w.passwd⟩ (huid ▸ hw.stored)
  rcases hw₁.eq_or_collision hw hdigest₁ hdigest hsame with hcollision | ⟨-, heq, -⟩
  · exact ⟨w, hw, hpasswd, hcollision⟩
  · exact absurd heq.symm hpasswd

/-- A directory with one user, whose stored hash holds dashes as it likes. -/
def oneUser (passwd : String) : Directory :=
  Directory.ofList [("u", .found ⟨⟨"u", "Ada", "ada@example.com", "", false⟩, passwd⟩)]

theorem accepted_digest_binds_oneUser :
    ∃ w₁ w₂ : Warrant,
      w₁.Backs (oneUser "pass-1") (issue "u" "pass-1" 60 "se-cret" 100) []
        ⟨"u", "Ada", "ada@example.com", "", false⟩ ∧
      w₂.Backs (oneUser "pass") (issue "u" "pass" 60 "se-cret" 100) []
        ⟨"u", "Ada", "ada@example.com", "", false⟩ ∧
      (w₁.digest = w₂.digest →
        Sha256.Collision (w₁.text "se-cret") (w₂.text "se-cret") ∨
          w₁.uid = w₂.uid ∧ w₁.passwd = w₂.passwd ∧ w₁.expires = w₂.expires) := by
  have hrun : ∀ passwd, Action.Runs
      (resolve (oneUser passwd) (issue "u" passwd 60 "se-cret" 100) "se-cret" 160) []
      (some ⟨"u", "Ada", "ada@example.com", "", false⟩) := by
    intro passwd
    exact runs_resolve_issue (by decide) (by decide) (by decide) (by decide) .done
  obtain ⟨w₁, w₂, hw₁, hw₂, -, -, hbinds, -⟩ := accepted_digest_binds (hrun "pass-1") (hrun "pass")
  exact ⟨w₁, w₂, hw₁, hw₂, hbinds⟩

end Cookie
end Weblog
