import Weblog.Text.Utf8

/-!
# Weblog.Proofs.Text.Utf8

What is encoded as UTF-8 is read again.

* `lead_two`, `lead_three`, `lead_four`: what the first octet of a long character says.
* `scanOnto_next`, `scanOnto_last`: what the octets after it add.
* `scanOnto_encodeChar`: a character is read from its octets.
* `scan_encode`, `text?_bytesOf`, `textLossy_bytesOf`: so is a text.
-/

namespace Weblog
namespace Text
namespace Utf8

theorem lead_two : ∀ k < 32, 2 ≤ k → lead (UInt8.ofNat (k + 192)) = .more ⟨k, 0x80, 0xBF, 0⟩ := by
  decide

theorem lead_three : ∀ k < 16, lead (UInt8.ofNat (k + 224)) =
    .more ⟨k, if k = 0 then 0xA0 else 0x80, if k = 13 then 0x9F else 0xBF, 1⟩ := by
  decide

theorem lead_four : ∀ k < 5, lead (UInt8.ofNat (k + 240)) =
    .more ⟨k, if k = 0 then 0x90 else 0x80, if k = 4 then 0x8F else 0xBF, 2⟩ := by
  decide

variable {done : List (Option Char)} {rest : List UInt8} {value least greatest n : Nat}

theorem scanOnto_more {b : UInt8} {p : Pending} (h : lead b = .more p) :
    scanOnto done none (b :: rest) = scanOnto done (some p) rest := by
  simp [scanOnto, step, h, Lead.outcome]

theorem toNat_continuation (h : n < 64) : (UInt8.ofNat (n + 128)).toNat = n + 128 := by
  simp
  omega

/-- An octet after which more are owed. -/
theorem scanOnto_next (h : n < 64) (hleast : least ≤ n + 128) (hgreatest : n + 128 ≤ greatest)
    (owed : Nat) :
    scanOnto done (some ⟨value, least, greatest, owed + 1⟩) (UInt8.ofNat (n + 128) :: rest) =
      scanOnto done (some ⟨64 * value + n, 0x80, 0xBF, owed⟩) rest := by
  have hn := toNat_continuation h
  generalize UInt8.ofNat (n + 128) = b at hn ⊢
  simp [scanOnto, step, hn, hleast, hgreatest]

/-- The last octet of a character. -/
theorem scanOnto_last (h : n < 64) (hleast : least ≤ n + 128) (hgreatest : n + 128 ≤ greatest) :
    scanOnto done (some ⟨value, least, greatest, 0⟩) (UInt8.ofNat (n + 128) :: rest) =
      scanOnto (some (Char.ofNat (64 * value + n)) :: done) none rest := by
  have hn := toNat_continuation h
  generalize UInt8.ofNat (n + 128) = b at hn ⊢
  simp [scanOnto, step, hn, hleast, hgreatest]

/-- A character is read from its octets, whatever follows. -/
theorem scanOnto_encodeChar (c : Char) :
    scanOnto done none (String.utf8EncodeChar c ++ rest) = scanOnto (some c :: done) none rest := by
  have hchar : Char.ofNat c.val.toNat = c := Char.ofNat_toNat c
  have hvalid := c.valid
  simp only [UInt32.isValidChar, Nat.isValidChar] at hvalid
  rw [String.utf8EncodeChar]
  generalize c.val.toNat = v at hchar hvalid
  -- the octets of `c` are one to four; where the second one has a narrower range, long forms and
  -- surrogates are left out, and `v` is neither
  by_cases hone : v ≤ 127
  · have hv : (UInt8.ofNat v).toNat = v := by simp; omega
    have hlead : lead (UInt8.ofNat v) = .char (Char.ofNat v) := by
      rw [lead, hv, if_pos (by omega)]
    simp only [if_pos hone]
    simp [scanOnto, step, hlead, Lead.outcome, hchar]
  · by_cases htwo : v ≤ 2047
    · simp only [if_neg hone, if_pos htwo]
      rw [List.cons_append, scanOnto_more (lead_two _ (by omega) (by omega)), List.cons_append,
        scanOnto_last (by omega) (by omega) (by omega)]
      have hvalue : 64 * (v / 64 % 32) + v % 64 = v := by omega
      rw [hvalue, hchar]
      rfl
    · by_cases hthree : v ≤ 65535
      · simp only [if_neg hone, if_neg htwo, if_pos hthree]
        rw [List.cons_append, scanOnto_more (lead_three _ (by omega)), List.cons_append,
          scanOnto_next (by omega) (by split <;> omega) (by split <;> omega), List.cons_append,
          scanOnto_last (by omega) (by omega) (by omega)]
        have hvalue : 64 * (64 * (v / 4096 % 16) + v / 64 % 64) + v % 64 = v := by omega
        rw [hvalue, hchar]
        rfl
      · simp only [if_neg hone, if_neg htwo, if_neg hthree]
        rw [List.cons_append, scanOnto_more (lead_four _ (by omega)), List.cons_append,
          scanOnto_next (by omega) (by split <;> omega) (by split <;> omega), List.cons_append,
          scanOnto_next (by omega) (by omega) (by omega), List.cons_append,
          scanOnto_last (by omega) (by omega) (by omega)]
        have hvalue : 64 * (64 * (64 * (v / 262144 % 8) + v / 4096 % 64) + v / 64 % 64) + v % 64 =
            v := by omega
        rw [hvalue, hchar]
        rfl

theorem scanOnto_encode (cs : List Char) :
    scanOnto done none (encode cs) = done.reverse ++ cs.map some := by
  induction cs generalizing done with
  | nil => simp [scanOnto, finish]
  | cons c rest ih =>
    rw [encode, List.flatMap_cons, scanOnto_encodeChar]
    refine ih.trans ?_
    simp

theorem scan_encode (cs : List Char) : scan (encode cs) = cs.map some := scanOnto_encode cs

theorem allOnto_map_some (done cs : List Char) :
    allOnto done (cs.map some) = some (done.reverse ++ cs) := by
  induction cs generalizing done with
  | nil => simp [allOnto]
  | cons c rest ih =>
    rw [List.map_cons, allOnto, ih]
    simp

theorem text?_bytesOf (s : String) : text? (bytesOf s) = some s := by
  rw [text?, bytesOf, decode?, scan_encode, allOnto_map_some]
  simp

theorem textLossy_bytesOf (s : String) : textLossy (bytesOf s) = s := by
  rw [textLossy, bytesOf, decodeLossy, scan_encode]
  simp [Function.comp_def]

end Utf8
end Text
end Weblog
