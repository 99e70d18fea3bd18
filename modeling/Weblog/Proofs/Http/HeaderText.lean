import Weblog.Http.Message

/-!
# Weblog.Proofs.Http.HeaderText

Texts that may stand in headers.

* `IsHeaderText`: a text all of whose octets a header value may hold; `isHeaderText_append`: both
  parts of a text do.
* `isHeaderText_of_visible`, `readable?_bytesOf`: visible ASCII characters and spaces may, and are
  read back.
* `readable?_bytesOf_eq_none`: other characters are not read back.
-/

namespace Weblog
namespace Http

def IsHeaderText (text : String) : Prop := (Text.Utf8.bytesOf text).all isHeaderOctet = true

instance (text : String) : Decidable (IsHeaderText text) :=
  inferInstanceAs (Decidable (_ = true))

theorem headerValue?_eq_some {text : String} (h : IsHeaderText text) :
    headerValue? text = some (Text.Utf8.bytesOf text) := if_pos h

theorem headerValue?_eq_some_iff {text : String} {octets : List UInt8} :
    headerValue? text = some octets ↔ IsHeaderText text ∧ octets = Text.Utf8.bytesOf text := by
  constructor
  · intro h
    unfold headerValue? at h
    simp only at h
    split at h
    · rename_i htext
      exact ⟨htext, (Option.some.inj h).symm⟩
    · cases h
  · rintro ⟨htext, rfl⟩
    exact headerValue?_eq_some htext

theorem bytesOf_append (a b : String) :
    Text.Utf8.bytesOf (a ++ b) = Text.Utf8.bytesOf a ++ Text.Utf8.bytesOf b := by
  rw [Text.Utf8.bytesOf, String.toList_append, Text.Utf8.encode_append]
  rfl

theorem isHeaderText_append {a b : String} :
    IsHeaderText (a ++ b) ↔ IsHeaderText a ∧ IsHeaderText b := by
  rw [IsHeaderText, bytesOf_append, List.all_append, Bool.and_eq_true]
  rfl

theorem IsHeaderText.append {a b : String} (ha : IsHeaderText a) (hb : IsHeaderText b) :
    IsHeaderText (a ++ b) := isHeaderText_append.2 ⟨ha, hb⟩

theorem utf8EncodeChar_of_ascii {c : Char} (h : c.toNat < 128) :
    String.utf8EncodeChar c = [UInt8.ofNat c.toNat] := by
  have hle : c.val.toNat ≤ 127 := Nat.le_of_lt_succ h
  simp only [String.utf8EncodeChar, hle, if_true]
  rfl

/-- The octets of a text of visible characters are the codes of its characters. -/
theorem bytesOf_of_visible {text : String}
    (h : ∀ c ∈ text.toList, 32 ≤ c.toNat ∧ c.toNat < 127) :
    Text.Utf8.bytesOf text = text.toList.map fun c => UInt8.ofNat c.toNat := by
  have hencode : ∀ cs : List Char, (∀ c ∈ cs, 32 ≤ c.toNat ∧ c.toNat < 127) →
      Text.Utf8.encode cs = cs.map fun c => UInt8.ofNat c.toNat := by
    intro cs hcs
    induction cs with
    | nil => rfl
    | cons c cs ih =>
      have hc := hcs c List.mem_cons_self
      rw [Text.Utf8.encode, List.flatMap_cons, utf8EncodeChar_of_ascii (by omega), List.map_cons]
      exact congrArg (UInt8.ofNat c.toNat :: ·) (ih fun d hd => hcs d (List.mem_cons_of_mem c hd))
  exact hencode text.toList h

theorem toNat_ofNat_of_visible {c : Char} (h : 32 ≤ c.toNat ∧ c.toNat < 127) :
    (UInt8.ofNat c.toNat).toNat = c.toNat := by
  rw [UInt8.toNat_ofNat']
  omega

theorem isHeaderText_of_visible {text : String}
    (h : ∀ c ∈ text.toList, 32 ≤ c.toNat ∧ c.toNat < 127) : IsHeaderText text := by
  rw [IsHeaderText, bytesOf_of_visible h, List.all_map]
  refine List.all_eq_true.2 ?_
  intro c hc
  have hne : c.toNat ≠ 127 := by
    have := h c hc
    omega
  simp [isHeaderOctet, toNat_ofNat_of_visible (h c hc), (h c hc).1, hne]

/-- A text of visible characters is read back from its octets. -/
theorem readable?_bytesOf {text : String}
    (h : ∀ c ∈ text.toList, 32 ≤ c.toNat ∧ c.toNat < 127) :
    readable? (Text.Utf8.bytesOf text) = some text := by
  have hall : (text.toList.map fun c => UInt8.ofNat c.toNat).all isVisible = true := by
    rw [List.all_map]
    refine List.all_eq_true.2 ?_
    intro c hc
    simp [isVisible, toNat_ofNat_of_visible (h c hc), (h c hc).1, (h c hc).2]
  have hchars : (text.toList.map fun c => UInt8.ofNat c.toNat).map (fun b => Char.ofNat b.toNat) =
      text.toList := by
    rw [List.map_map]
    refine (List.map_congr_left ?_).trans (List.map_id _)
    intro c hc
    simp [toNat_ofNat_of_visible (h c hc)]
  rw [readable?, bytesOf_of_visible h, if_pos hall, hchars, String.ofList_toList]

/-- Beyond ASCII the first octet of a character is not visible. -/
theorem exists_not_isVisible {c : Char} (h : 128 ≤ c.toNat) :
    ∃ b ∈ String.utf8EncodeChar c, isVisible b = false := by
  have hlead : ∀ n < 256, 128 ≤ n → isVisible (UInt8.ofNat n) = false := by decide +kernel
  have hlong : ¬ c.val.toNat ≤ 127 := Nat.not_le.2 h
  unfold String.utf8EncodeChar
  simp only [if_neg hlong]
  split
  · exact ⟨_, List.mem_cons_self, hlead _ (by omega) (by omega)⟩
  · split
    · exact ⟨_, List.mem_cons_self, hlead _ (by omega) (by omega)⟩
    · exact ⟨_, List.mem_cons_self, hlead _ (by omega) (by omega)⟩

/-- A text with a character beyond ASCII is not read back from its octets. -/
theorem readable?_bytesOf_eq_none {text : String} {c : Char} (hc : c ∈ text.toList)
    (h : 128 ≤ c.toNat) : readable? (Text.Utf8.bytesOf text) = none := by
  obtain ⟨b, hb, hvisible⟩ := exists_not_isVisible h
  have hmem : b ∈ Text.Utf8.bytesOf text := List.mem_flatMap.2 ⟨c, hc, hb⟩
  have hall : ¬ (Text.Utf8.bytesOf text).all isVisible = true := by
    intro hall
    rw [List.all_eq_true.1 hall b hmem] at hvisible
    cases hvisible
  rw [readable?, if_neg hall]

end Http
end Weblog
