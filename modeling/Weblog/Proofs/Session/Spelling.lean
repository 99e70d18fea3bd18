import Weblog.Proofs.Session.Validity
import Weblog.Proofs.Text.Digits

/-!
# Weblog.Proofs.Session.Spelling

How far the text of an accepted cookie is fixed by what it stands for. The digest covers the value of
the expiry and not its text, so that an accepted cookie is the one that is issued, but for a plus sign
and zeros before the digits of the expiry.

* `spelled`: a cookie with its expiry spelled in a given way; `spelled_plain`: the one that is written.
* `Passes`, `runs_resolve_some_iff_passes`: a cookie yields a user exactly if it is a spelling of the
  one that is issued for the user, and is not expired.
* `OneEdit`: two texts that differ in one character, changed, inserted or deleted.
* `accepted_but_for_spelling`: what follows of two accepted cookies and of an issued one that was
  edited. `accepts_respelled`: an expiry with a plus sign is accepted.
-/

namespace Weblog
namespace Cookie

open Text (Spelling)

/-- A cookie whose expiry is spelled in a given way. -/
def spelled (uid : String) (s : Spelling) (expires : Int) (digest : String) : String :=
  uid ++ "-" ++ String.ofList (s.write expires) ++ "-" ++ digest

/-- Without anything before its digits, the expiry is spelled as it is written. -/
theorem spelled_plain (uid : String) (expires : Int) (digest : String) :
    spelled uid .plain expires digest = write uid expires digest := rfl

theorem toList_spelled (uid : String) (s : Spelling) (expires : Int) (digest : String) :
    (spelled uid s expires digest).toList =
      uid.toList ++ '-' :: (s.write expires ++ '-' :: digest.toList) := by
  simp only [spelled, String.toList_append, String.toList_ofList, List.append_assoc]
  rfl

theorem length_spelled (uid : String) (s : Spelling) (expires : Int) (digest : String) :
    (spelled uid s expires digest).toList.length =
      (write uid expires digest).toList.length + s.plus.toNat + s.zeros := by
  rw [← spelled_plain, toList_spelled, toList_spelled]
  simp only [List.length_append, List.length_cons, Spelling.length_write, Spelling.plain,
    Bool.toNat_false]
  omega

theorem spelled_inj {uid digest : String} {s t : Spelling} {expires : Int} :
    spelled uid s expires digest = spelled uid t expires digest ↔ s = t := by
  constructor
  · intro h
    have htext := congrArg String.toList h
    rw [toList_spelled, toList_spelled] at htext
    have hrest := List.append_cancel_left htext
    exact Spelling.write_injective (List.append_cancel_right (List.tail_eq_of_cons_eq hrest))
  · rintro rfl
    rfl

section Unexpired

variable {cookie uid digest : String} {now expires : Int}

theorem splitOn_spelled (huid : '-' ∉ uid.toList) (hexpires : 0 ≤ expires)
    (hdigest : '-' ∉ digest.toList) (s : Spelling) :
    (spelled uid s expires digest).toList.splitOn '-' =
      [uid.toList, s.write expires, digest.toList] := by
  rw [toList_spelled, ← Text.splitAll_eq_splitOn, Text.splitAll_append_cons huid,
    Text.splitAll_append_cons (Spelling.minus_not_mem_write hexpires),
    Text.splitAll_of_not_mem hdigest]

/-- Three parts between dashes make up a text with these dashes. -/
theorem toList_of_splitOn {us es ds : List Char} (h : cookie.toList.splitOn '-' = [us, es, ds]) :
    cookie.toList = us ++ '-' :: (es ++ '-' :: ds) ∧ '-' ∉ us ∧ '-' ∉ es ∧ '-' ∉ ds := by
  rw [← Text.splitAll_eq_splitOn] at h
  have hjoined := Text.intercalate_splitAll '-' cookie.toList
  have hnone : ∀ piece ∈ [us, es, ds], '-' ∉ piece := fun piece hp =>
    Text.not_mem_of_mem_splitAll (h ▸ hp)
  refine ⟨?_, hnone us (by simp), hnone es (by simp), hnone ds (by simp)⟩
  rw [← hjoined, h]
  simp [List.intercalate]

/-- The cookies that are not expired are the spellings of those that may be written. -/
theorem unexpired_iff_spelled :
    Unexpired cookie now uid expires digest ↔
      ('-' ∉ uid.toList ∧ '-' ∉ digest.toList) ∧ (0 ≤ expires ∧ expires ≤ 9223372036854775807) ∧
        now ≤ expires ∧ ∃ s : Spelling, cookie = spelled uid s expires digest := by
  constructor
  · rintro ⟨⟨numeral, hsplit, hnumeral⟩, hfits, hnow⟩
    obtain ⟨htext, huid, hdash, hdigest⟩ := toList_of_splitOn hsplit
    obtain ⟨hnonneg, s, rfl⟩ := (Text.numeral_iff_spelled hdash).1 hnumeral
    refine ⟨⟨huid, hdigest⟩, ⟨hnonneg, hfits.2⟩, hnow, s, ?_⟩
    rw [← String.toList_inj, htext, toList_spelled]
  · rintro ⟨⟨huid, hdigest⟩, ⟨hnonneg, hle⟩, hnow, s, rfl⟩
    refine ⟨⟨_, splitOn_spelled huid hnonneg hdigest s, ?_⟩, ⟨by omega, hle⟩, hnow⟩
    exact (Text.numeral_iff_spelled (Spelling.minus_not_mem_write hnonneg)).2 ⟨hnonneg, s, rfl⟩

end Unexpired

/-- A cookie that passes for a user: it is the one of an id, of the hash that is stored for it and of
an expiry that is not over, with its expiry spelled in a given way. -/
structure Passes (users : Directory) (cookie secret : String) (now : Int) (es : List Exchange)
    (u : SessionUser) (uid passwd : String) (expires : Int) (s : Spelling) : Prop where
  text : cookie = spelled uid s expires (digest uid passwd expires secret)
  stored : Action.Runs (users uid) es (.found ⟨u, passwd⟩)
  dash_not_mem : '-' ∉ uid.toList
  fits : 0 ≤ expires ∧ expires ≤ 9223372036854775807
  unexpired : now ≤ expires

theorem runs_resolve_some_iff_passes {users : Directory} {cookie secret : String} {now : Int}
    {es : List Exchange} {u : SessionUser} :
    Action.Runs (resolve users cookie secret now) es (some u) ↔
      ∃ uid passwd expires s, Passes users cookie secret now es u uid passwd expires s := by
  rw [runs_resolve_iff]
  constructor
  · intro h
    generalize hout : some u = out at h
    cases h with
    | @accepted uid d expires es c hunexpired hfound hdigest =>
      cases hout
      obtain ⟨⟨huid, -⟩, hfits, hnow, s, htext⟩ := unexpired_iff_spelled.1 hunexpired
      rw [← digest_eq_sealOf] at hdigest
      exact ⟨uid, c.passwd, expires, s, hdigest ▸ htext, hfound, huid, hfits, hnow⟩
    | unread _ => cases hout
    | unknown _ _ => cases hout
    | failed _ _ => cases hout
    | forged _ _ _ => cases hout
  · rintro ⟨uid, passwd, expires, s, htext, hfound, huid, hfits, hnow⟩
    refine .accepted (c := ⟨u, passwd⟩) (unexpired_iff_spelled.2 ?_) hfound
      (digest_eq_sealOf uid passwd expires secret)
    exact ⟨⟨huid, dash_not_mem_hexDigest _⟩, hfits, hnow, s, htext⟩

/-- Two texts that differ in one character. -/
inductive OneEdit : List Char → List Char → Prop where
  | change {xs ys : List Char} {c d : Char} : c ≠ d → OneEdit (xs ++ c :: ys) (xs ++ d :: ys)
  | insert {xs ys : List Char} {d : Char} : OneEdit (xs ++ ys) (xs ++ d :: ys)
  | delete {xs ys : List Char} {c : Char} : OneEdit (xs ++ c :: ys) (xs ++ ys)

/-- An edit leaves another text, at most one character longer. -/
theorem OneEdit.ne {xs ys : List Char} (h : OneEdit xs ys) : xs ≠ ys := by
  intro heq
  cases h with
  | change hne =>
    have := List.append_cancel_left heq
    exact hne (List.head_eq_of_cons_eq this)
  | insert =>
    have := congrArg List.length heq
    simp at this
  | delete =>
    have := congrArg List.length heq
    simp at this

theorem OneEdit.length_le {xs ys : List Char} (h : OneEdit xs ys) : ys.length ≤ xs.length + 1 := by
  cases h <;> simp only [List.length_append, List.length_cons] <;> omega

/-- The spellings of a written cookie that are one edit away from it have one character before the
digits of the expiry, a plus sign or a zero. -/
theorem oneEdit_spelled_iff {uid digest : String} {expires : Int} {s : Spelling} :
    OneEdit (write uid expires digest).toList (spelled uid s expires digest).toList ↔
      s = ⟨true, 0⟩ ∨ s = ⟨false, 1⟩ := by
  constructor
  · intro h
    have hlength := h.length_le
    rw [length_spelled] at hlength
    have hne : s ≠ .plain := by
      rintro rfl
      exact h.ne (congrArg String.toList (spelled_plain uid expires digest).symm)
    rw [ne_eq, Spelling.eq_plain_iff] at hne
    obtain ⟨plus, zeros⟩ := s
    cases plus with
    | false =>
      obtain rfl : zeros = 1 := by simp at hne hlength; omega
      exact .inr rfl
    | true =>
      obtain rfl : zeros = 0 := by simp at hlength; omega
      exact .inl rfl
  · have hinsert : ∀ (c : Char) (t : Spelling), t.front = [c] →
        OneEdit (write uid expires digest).toList (spelled uid t expires digest).toList := by
      intro c t hfront
      have hwritten : t.write expires = c :: Text.intChars expires := by
        rw [Spelling.write, hfront, List.singleton_append]
      rw [toList_write, toList_spelled, hwritten]
      have hedit : OneEdit ((uid.toList ++ ['-']) ++ (Text.intChars expires ++ '-' :: digest.toList))
          ((uid.toList ++ ['-']) ++ c :: (Text.intChars expires ++ '-' :: digest.toList)) := .insert
      simpa using hedit
    rintro (rfl | rfl)
    · exact hinsert '+' _ rfl
    · exact hinsert '0' _ rfl

/-- For every secret: a directory accepts a cookie at a time exactly if the cookie passes for a user,
and then it is the one that is issued for the id, the stored hash and the expiry, but for a plus sign
and zeros before the digits of the expiry; it is the issued one exactly if nothing stands there.
Cookies that are accepted for one id, one stored hash and one expiry are the same if the expiry is
spelled alike, and only then. And of the cookies that are accepted with the id, the stored hash and
the expiry of an issued one, those that are one edit away from it have a plus sign or a zero inserted
before the digits of the expiry. -/
theorem accepted_but_for_spelling (secret : String) :
    (∀ users cookie now es u, Action.Runs (resolve users cookie secret now) es (some u) ↔
      ∃ uid passwd expires s, Passes users cookie secret now es u uid passwd expires s) ∧
    (∀ users cookie now es u uid passwd maxAge issued s,
      Passes users cookie secret now es u uid passwd (expiry issued maxAge) s →
      (cookie = issue uid passwd maxAge secret issued ↔ s = .plain)) ∧
    (∀ users users' cookie cookie' now now' es es' u u' uid passwd expires s s',
      Passes users cookie secret now es u uid passwd expires s →
      Passes users' cookie' secret now' es' u' uid passwd expires s' → (cookie = cookie' ↔ s = s')) ∧
    (∀ users cookie now es u uid passwd maxAge issued s,
      Passes users cookie secret now es u uid passwd (expiry issued maxAge) s →
      (OneEdit (issue uid passwd maxAge secret issued).toList cookie.toList ↔
        s = ⟨true, 0⟩ ∨ s = ⟨false, 1⟩)) := by
  refine ⟨fun _ _ _ _ _ => runs_resolve_some_iff_passes, ?issued, ?two, ?edited⟩
  case issued =>
    intro users cookie now es u uid passwd maxAge issued s h
    rw [h.text, issue, ← spelled_plain]
    exact spelled_inj
  case two =>
    intro users users' cookie cookie' now now' es es' u u' uid passwd expires s s' h h'
    rw [h.text, h'.text]
    exact spelled_inj
  case edited =>
    intro users cookie now es u uid passwd maxAge issued s h
    rw [h.text, issue]
    exact oneEdit_spelled_iff

/-- The user of the one id passes with any spelling of the expiry until it is over. -/
theorem passes_oneUser (passwd secret : String) (s : Spelling) :
    Passes (oneUser passwd) (spelled "u" s 160 (digest "u" passwd 160 secret)) secret 160 []
      ⟨"u", "Ada", "ada@example.com", "", false⟩ "u" passwd 160 s :=
  ⟨rfl, .done, by decide, by decide, by decide⟩

/-- An issued cookie and the same with a zero before its expiry. -/
theorem accepted_but_for_spelling_zero :
    Passes (oneUser "pass-1") (spelled "u" ⟨false, 1⟩ 160 (digest "u" "pass-1" 160 "se-cret"))
      "se-cret" 160 [] ⟨"u", "Ada", "ada@example.com", "", false⟩ "u" "pass-1" (expiry 100 60)
      ⟨false, 1⟩ ∧
    spelled "u" ⟨false, 1⟩ 160 (digest "u" "pass-1" 160 "se-cret") ≠
      issue "u" "pass-1" 60 "se-cret" 100 ∧
    OneEdit (issue "u" "pass-1" 60 "se-cret" 100).toList
      (spelled "u" ⟨false, 1⟩ 160 (digest "u" "pass-1" 160 "se-cret")).toList := by
  have hpasses := passes_oneUser "pass-1" "se-cret" ⟨false, 1⟩
  obtain ⟨-, hissued, -, hedited⟩ := accepted_but_for_spelling "se-cret"
  refine ⟨hpasses, ?_, ?_⟩
  · intro h
    exact absurd ((hissued _ _ _ _ _ _ _ 60 100 _ hpasses).1 h) (by decide)
  · exact (hedited _ _ _ _ _ _ _ 60 100 _ hpasses).2 (.inr rfl)

/-- A cookie with a plus sign before its expiry is accepted beside the issued one, with the same id,
hash and expiry. It differs in one character that was inserted, and is no cookie that is issued for
the user under the secret. -/
theorem accepts_respelled :
    Action.Runs (resolve (oneUser "hash") (issue "u" "hash" 60 "secret" 100) "secret" 160) []
      (some ⟨"u", "Ada", "ada@example.com", "", false⟩) ∧
    Action.Runs
      (resolve (oneUser "hash") ("u-+160-" ++ digest "u" "hash" 160 "secret") "secret" 160) []
      (some ⟨"u", "Ada", "ada@example.com", "", false⟩) ∧
    OneEdit (issue "u" "hash" 60 "secret" 100).toList
      ("u-+160-" ++ digest "u" "hash" 160 "secret").toList ∧
    ∀ maxAge issued, "u-+160-" ++ digest "u" "hash" 160 "secret" ≠
      issue "u" "hash" maxAge "secret" issued := by
  have hissued : issue "u" "hash" 60 "secret" 100 =
      spelled "u" .plain 160 (digest "u" "hash" 160 "secret") := rfl
  have hsigned : "u-+160-" ++ digest "u" "hash" 160 "secret" =
      spelled "u" ⟨true, 0⟩ 160 (digest "u" "hash" 160 "secret") := rfl
  refine ⟨?accepted, ?respelled, ?inserted, ?other⟩
  case accepted =>
    rw [hissued]
    exact runs_resolve_some_iff_passes.2 ⟨_, _, _, _, passes_oneUser "hash" "secret" .plain⟩
  case respelled =>
    rw [hsigned]
    exact runs_resolve_some_iff_passes.2 ⟨_, _, _, _, passes_oneUser "hash" "secret" ⟨true, 0⟩⟩
  case inserted =>
    rw [hissued, hsigned, spelled_plain]
    exact oneEdit_spelled_iff.2 (.inl rfl)
  case other =>
    intro maxAge issued h
    rw [hsigned, issue, ← spelled_plain] at h
    have htext := congrArg String.toList h
    rw [toList_spelled, toList_spelled, Spelling.write_plain] at htext
    have hrest := List.tail_eq_of_cons_eq (List.append_cancel_left htext)
    -- the numeral of an expiry never begins with a plus sign
    cases hnumeral : Text.intChars (expiry issued maxAge) with
    | nil =>
      rw [hnumeral] at hrest
      exact absurd (List.head_eq_of_cons_eq hrest) (by decide)
    | cons c cs =>
      rw [hnumeral] at hrest
      have hplus : c = '+' := (List.head_eq_of_cons_eq hrest).symm
      have hmem : c ∈ Text.intChars (expiry issued maxAge) := hnumeral ▸ List.mem_cons_self
      rw [hplus] at hmem
      rcases Text.mem_intChars hmem with hminus | hdigit
      · exact absurd hminus (by decide)
      · exact absurd hdigit (by decide)

end Cookie
end Weblog
