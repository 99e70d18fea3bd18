import Weblog.Sha256

/-!
# Weblog.Proofs.Sha256

Digests of texts.

* `Collision x y`: two texts with one digest.
* `eq_or_collision`: texts with the same hexadecimal digest are equal or a collision.
* `isDigitOrLower_of_mem_hexDigest`: a digest is made of digits and lowercase letters.
-/

namespace Weblog

theorem Text.hexChars_injective {xs ys : List UInt8} (h : hexChars xs = hexChars ys) : xs = ys := by
  have hx := unhex?_hexChars xs
  rw [h, unhex?_hexChars] at hx
  exact (Option.some.inj hx).symm

theorem Text.isDigitOrLower_hexDigit :
    ∀ n, n < 16 → (hexDigit n).isDigit = true ∨ (hexDigit n).isLower = true := by
  decide

theorem Text.isDigitOrLower_of_mem_hexChars {c : Char} {bytes : List UInt8}
    (h : c ∈ hexChars bytes) : c.isDigit = true ∨ c.isLower = true := by
  obtain ⟨b, -, hc⟩ := List.mem_flatMap.1 h
  have hb : b.toNat < 256 := b.toNat_lt
  rcases List.mem_cons.1 hc with rfl | hc
  · exact isDigitOrLower_hexDigit _ (by omega)
  · obtain rfl := List.mem_singleton.1 hc
    exact isDigitOrLower_hexDigit _ (by omega)

namespace Sha256

/-- Two texts whose digests are the same. -/
def Collision (x y : String) : Prop :=
  x ≠ y ∧ digest (Text.Utf8.bytesOf x) = digest (Text.Utf8.bytesOf y)

theorem eq_or_collision {x y : String} (h : hexDigest x = hexDigest y) : x = y ∨ Collision x y := by
  by_cases hxy : x = y
  · exact .inl hxy
  · exact .inr ⟨hxy, Text.hexChars_injective (String.ofList_injective h)⟩

theorem isDigitOrLower_of_mem_hexDigest {c : Char} {text : String}
    (h : c ∈ (hexDigest text).toList) : c.isDigit = true ∨ c.isLower = true := by
  rw [hexDigest, Text.hex, String.toList_ofList] at h
  exact Text.isDigitOrLower_of_mem_hexChars h

end Sha256
end Weblog
