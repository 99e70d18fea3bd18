import Mathlib.Tactic.Ring
import Weblog.Number.Bounded

/-!
# Weblog.Proofs.Number.Bounded

Decimals without a fraction are kept exactly, whatever zeros stand behind their point.

* `total`: what digits in their places add up to; `total_placeFrom_groups`: the digits of a number add
  up to it.
* `sum_eq`: digits before the point are added up without rounding, as long as the sum fits.
* `ofDecimal?_whole`: a decimal of a whole number is that number, with zeros behind its point.
-/

namespace Weblog

theorem groups_zero : groups 0 = [] := by rw [groups, dif_pos rfl]

theorem groups_pos {n : Nat} (h : 0 < n) : groups n = n % 10000 :: groups (n / 10000) := by
  rw [groups, dif_neg h.ne']

/-- Zeros behind a number are its last digits. -/
theorem groups_mul_pow {n : Nat} (h : 0 < n) (k : Nat) :
    groups (n * 10000 ^ k) = List.replicate k 0 ++ groups n := by
  induction k with
  | zero => simp
  | succ k ih =>
    have hshift : n * 10000 ^ (k + 1) = 10000 * (n * 10000 ^ k) := by ring
    have hpos : 0 < n * 10000 ^ (k + 1) := Nat.mul_pos h (Nat.pow_pos (by decide))
    rw [groups_pos hpos, hshift, Nat.mul_mod_right, Nat.mul_div_cancel_left _ (by decide), ih,
      List.replicate_succ, List.cons_append]

theorem length_groups_le {n k : Nat} (h : n < 10000 ^ k) : (groups n).length ≤ k := by
  induction k generalizing n with
  | zero =>
    obtain rfl : n = 0 := by omega
    rw [groups_zero]
    exact Nat.le_refl 0
  | succ k ih =>
    rcases Nat.eq_zero_or_pos n with rfl | hpos
    · rw [groups_zero]
      exact Nat.zero_le _
    · have hrest : n / 10000 < 10000 ^ k := by
        rw [Nat.pow_succ] at h
        exact Nat.div_lt_of_lt_mul (by omega)
      rw [groups_pos hpos, List.length_cons]
      exact Nat.succ_le_succ (ih hrest)

theorem placeFrom_append (place : Int) (xs ys : List Nat) :
    placeFrom place (xs ++ ys) = placeFrom place xs ++ placeFrom (place + xs.length) ys := by
  induction xs generalizing place with
  | nil => simp [placeFrom]
  | cons x xs ih =>
    have hplace : place + 1 + (xs.length : Int) = place + ((x :: xs).length : Int) := by
      simp only [List.length_cons]
      omega
    rw [List.cons_append, placeFrom, placeFrom, ih, hplace, List.cons_append]

theorem digit_of_mem_placeFrom {place : Int} {ds : List Nat} {g : PlacedGroup}
    (h : g ∈ placeFrom place ds) : g.digit ∈ ds := by
  induction ds generalizing place with
  | nil => cases h
  | cons d ds ih =>
    rcases List.mem_cons.1 h with rfl | h
    · exact List.mem_cons_self
    · exact List.mem_cons_of_mem d (ih h)

theorem place_of_mem_placeFrom {place : Int} {ds : List Nat} {g : PlacedGroup}
    (h : g ∈ placeFrom place ds) : place ≤ g.place ∧ g.place < place + ds.length := by
  induction ds generalizing place with
  | nil => cases h
  | cons d ds ih =>
    rw [List.length_cons]
    rcases List.mem_cons.1 h with rfl | h
    · dsimp only
      omega
    · have := ih h
      omega

/-- What digits in places before the point add up to. -/
def total (gs : List PlacedGroup) : Nat := (gs.map fun g => g.digit * 10000 ^ g.place.toNat).sum

theorem total_cons (g : PlacedGroup) (gs : List PlacedGroup) :
    total (g :: gs) = g.digit * 10000 ^ g.place.toNat + total gs := by
  rw [total, List.map_cons, List.sum_cons]
  rfl

theorem total_reverse (gs : List PlacedGroup) : total gs.reverse = total gs := by
  rw [total, List.map_reverse, List.sum_reverse]
  rfl

theorem total_dropWhile (gs : List PlacedGroup) :
    total (gs.dropWhile fun g => g.digit == 0) = total gs := by
  induction gs with
  | nil => rfl
  | cons g gs ih =>
    by_cases hzero : g.digit = 0
    · rw [List.dropWhile_cons_of_pos (by simp [hzero]), ih, total_cons, hzero]
      omega
    · rw [List.dropWhile_cons_of_neg (by simp [hzero])]

theorem total_placeFrom_groups (k n : Nat) : total (placeFrom k (groups n)) = n * 10000 ^ k := by
  induction n using Nat.strong_induction_on generalizing k with
  | _ n ih =>
    rcases Nat.eq_zero_or_pos n with rfl | hpos
    · rw [groups_zero, Nat.zero_mul]
      rfl
    · have hrest := ih (n / 10000) (Nat.div_lt_self hpos (by decide)) (k + 1)
      rw [groups_pos hpos, placeFrom, total_cons]
      have hnext : ((k : Int) + 1) = ((k + 1 : Nat) : Int) := rfl
      rw [hnext, hrest, Int.toNat_natCast]
      calc n % 10000 * 10000 ^ k + n / 10000 * 10000 ^ (k + 1)
          = (n % 10000 + 10000 * (n / 10000)) * 10000 ^ k := by ring
        _ = n * 10000 ^ k := by rw [Nat.mod_add_div]

/-- The digits of a whole number, however many zeros stand behind its point: they stand before the
point, as far from it as its size allows, and add up to it. -/
theorem placedGroups_whole {m k : Nat} (hm : m < 10000 ^ k) (scale : Nat) :
    total (placedGroups (m * 10 ^ scale) scale) = m ∧
      ∀ g ∈ placedGroups (m * 10 ^ scale) scale, 0 ≤ g.place ∧ g.place < k := by
  have hplaces : scale ≤ 4 * ((scale + 3) / 4) := by omega
  have hshift : m * 10 ^ scale * Nat.pow 10 (4 * ((scale + 3) / 4) - scale) =
      m * 10000 ^ ((scale + 3) / 4) := by
    have hpower : (10 : Nat) ^ scale * 10 ^ (4 * ((scale + 3) / 4) - scale) =
        10000 ^ ((scale + 3) / 4) := by
      rw [← Nat.pow_add, Nat.add_sub_cancel' hplaces, Nat.pow_mul]
    rw [Nat.mul_assoc, Nat.pow_eq, hpower]
  unfold placedGroups
  dsimp only
  rw [hshift]
  generalize (scale + 3) / 4 = behind
  rcases Nat.eq_zero_or_pos m with rfl | hpos
  · rw [Nat.zero_mul, groups_zero]
    exact ⟨rfl, nofun⟩
  · -- the digits behind the point are zeros, and nothing is left of them
    have hzeros : ∀ g ∈ placeFrom (-(behind : Int)) (List.replicate behind 0),
        (g.digit == 0) = true := by
      intro g hg
      have := (List.mem_replicate.1 (digit_of_mem_placeFrom hg)).2
      simp [this]
    have hpoint : -(behind : Int) + (List.replicate behind 0).length = 0 := by
      rw [List.length_replicate]
      omega
    rw [groups_mul_pow hpos, placeFrom_append, hpoint, List.dropWhile_append_of_pos hzeros]
    constructor
    · rw [total_reverse, total_dropWhile]
      have := total_placeFrom_groups 0 m
      rwa [Nat.pow_zero, Nat.mul_one] at this
    · intro g hg
      have hmem := (List.dropWhile_sublist _).subset (List.mem_reverse.1 hg)
      have hplace := place_of_mem_placeFrom hmem
      have hlength := length_groups_le hm
      omega

namespace BoundedDecimal

/-- A decimal without places that fits is kept as it is. -/
theorem fit_zero {n : Nat} (h : n < limit) : fit n 0 = some ⟨n, 0⟩ := by
  have hround : roundEven n (Nat.pow 10 0) = n := by
    have hone : Nat.pow 10 0 = 1 := rfl
    rw [roundEven, hone, Nat.mod_one, Nat.div_one]
    rfl
  have hfewer : withFewer n 0 0 = ⟨n, 0⟩ := by rw [withFewer, hround]
  rw [fit]
  simp [hfewer, h]

/-- Digits before the point are added up without rounding, as long as the sum fits. -/
theorem sum_eq {n : Nat} {gs : List PlacedGroup}
    (hplaces : ∀ g ∈ gs, 0 ≤ g.place ∧ g.place < greatestPlace + 1) (h : n + total gs < limit) :
    sum ⟨n, 0⟩ gs = some ⟨n + total gs, 0⟩ := by
  induction gs generalizing n with
  | nil => rfl
  | cons g gs ih =>
    obtain ⟨digit, place⟩ := g
    have hplace := hplaces _ List.mem_cons_self
    obtain ⟨k, rfl⟩ := Int.eq_ofNat_of_zero_le hplace.1
    rw [total_cons] at h ⊢
    simp only [Int.toNat_natCast] at hplace h ⊢
    have hk : ¬greatestPlace < k := by omega
    have hadd : add ⟨n, 0⟩ ⟨digit, k⟩ = some ⟨n + digit * 10000 ^ k, 0⟩ := by
      have hpower : Nat.pow 10 (4 * k) = 10000 ^ k := Nat.pow_mul 10 4 k
      have hone : Nat.pow 10 0 = 1 := rfl
      change (if greatestPlace < k then none
        else fit (n + digit * Nat.pow 10 (4 * k) * Nat.pow 10 0) 0) = _
      rw [if_neg hk, hpower, hone, Nat.mul_one]
      exact fit_zero (by omega)
    rw [sum, hadd, Option.bind_some, ih (fun g hg => hplaces g (List.mem_cons_of_mem _ hg)) (by omega),
      Nat.add_assoc]

/-- Zeros behind the last place do not change what a decimal is. -/
theorem exists_extend (m s n : Nat) :
    ∃ t, extend ⟨m * 10 ^ s, s⟩ n = ⟨m * 10 ^ t, t⟩ := by
  induction n generalizing s with
  | zero => exact ⟨s, rfl⟩
  | succ n ih =>
    rw [extend]
    split
    · have hnext : m * 10 ^ s * 10 = m * 10 ^ (s + 1) := by ring
      rw [hnext]
      exact ih (s + 1)
    · exact ⟨s, rfl⟩

/-- A decimal of a whole number is that number, with zeros behind its point. -/
theorem ofDecimal?_whole {m : Nat} (hm : m < limit) (scale : Nat) :
    ∃ t, ofDecimal? (m * 10 ^ scale) scale = some ⟨m * 10 ^ t, t⟩ := by
  have hsize : m < 10000 ^ (greatestPlace + 1) := hm.trans (by decide)
  obtain ⟨htotal, hplaces⟩ := placedGroups_whole hsize scale
  unfold ofDecimal?
  split
  · rename_i hnone
    rw [hnone] at htotal
    obtain rfl : 0 = m := htotal
    exact ⟨0, rfl⟩
  · have hsum : sum ⟨0, 0⟩ (placedGroups (m * 10 ^ scale) scale) = some ⟨m, 0⟩ := by
      have := sum_eq (n := 0) hplaces (by rwa [htotal, Nat.zero_add])
      rwa [htotal, Nat.zero_add] at this
    obtain ⟨t, ht⟩ := exists_extend m 0 scale
    rw [Nat.pow_zero, Nat.mul_one] at ht
    refine ⟨t, ?_⟩
    rw [hsum, Option.map_some, rescale, if_pos (Nat.zero_le scale), Nat.sub_zero, ht]

theorem whole_shifted (m t : Nat) : whole ⟨m * 10 ^ t, t⟩ = m :=
  Nat.mul_div_cancel m (Nat.pow_pos (by decide))

theorem isWhole_shifted (m t : Nat) : isWhole ⟨m * 10 ^ t, t⟩ = true := by
  have hmod : m * 10 ^ t % Nat.pow 10 t = 0 := Nat.mul_mod_left m _
  rw [isWhole, hmod]
  rfl

end BoundedDecimal
end Weblog
