import Mathlib.Tactic.Linarith
import Weblog.Proofs.Text.Numeral

/-!
# Weblog.Proofs.Text.Digits

Rows of decimal digits, their values and their order.

* `lt_of_ofDigitChars_lt`: of two rows of one length the one of the smaller value comes first.
* `padded_lt_padded`, `length_padded`: numbers that fit the width sort like their padded digits.
* `eq_zeros_append`: a row of digits is the shortest one of its value behind zeros.
* `Spelling`, `numeral_iff_spelled`: the ways to spell a number that is not negative.
-/

namespace Weblog
namespace Text

/-- What a digit adds to the value of a row. -/
def weight (c : Char) : Nat := c.toNat - '0'.toNat

theorem toNat_of_isDigit {c : Char} (h : c.isDigit = true) :
    c.toNat = 48 + weight c ∧ weight c < 10 := by
  obtain ⟨hlow, hhigh⟩ := Char.isDigit_iff_toNat.1 h
  have hzero : '0'.toNat = 48 := rfl
  have hnine : '9'.toNat = 57 := rfl
  unfold weight
  omega

theorem lt_iff_weight_lt {c d : Char} (hc : c.isDigit = true) (hd : d.isDigit = true) :
    c < d ↔ weight c < weight d := by
  have := (toNat_of_isDigit hc).1
  have := (toNat_of_isDigit hd).1
  rw [Char.lt_def, UInt32.lt_iff_toNat_lt]
  change c.toNat < d.toNat ↔ _
  omega

theorem eq_of_weight_eq {c d : Char} (hc : c.isDigit = true) (hd : d.isDigit = true)
    (h : weight c = weight d) : c = d := by
  have := (toNat_of_isDigit hc).1
  have := (toNat_of_isDigit hd).1
  exact Char.toNat_inj.1 (by omega)

/-- The first digit of a row counts as often as the digits behind it have places. -/
theorem ofDigitChars_cons_zero (c : Char) (ds : List Char) :
    Nat.ofDigitChars 10 (c :: ds) 0 = 10 ^ ds.length * weight c + Nat.ofDigitChars 10 ds 0 := by
  rw [Nat.ofDigitChars_cons, Nat.ofDigitChars_eq_ofDigitChars_zero]
  simp [weight]

theorem ofDigitChars_lt {ds : List Char} (h : ∀ c ∈ ds, c.isDigit = true) :
    Nat.ofDigitChars 10 ds 0 < 10 ^ ds.length := by
  induction ds with
  | nil => simp
  | cons c ds ih =>
    have hrest := ih fun d hd => h d (List.mem_cons_of_mem c hd)
    have hc := (toNat_of_isDigit (h c List.mem_cons_self)).2
    rw [ofDigitChars_cons_zero, List.length_cons, Nat.pow_succ]
    nlinarith

/-- Of two rows of digits that are equally long, the one of the smaller value comes first. -/
theorem lt_of_ofDigitChars_lt {xs ys : List Char} (hlength : xs.length = ys.length)
    (hxs : ∀ c ∈ xs, c.isDigit = true) (hys : ∀ c ∈ ys, c.isDigit = true)
    (h : Nat.ofDigitChars 10 xs 0 < Nat.ofDigitChars 10 ys 0) : xs < ys := by
  induction xs generalizing ys with
  | nil =>
    obtain rfl : ys = [] := List.length_eq_zero_iff.1 hlength.symm
    exact absurd h (Nat.lt_irrefl _)
  | cons c xs ih =>
    obtain ⟨d, ys, rfl⟩ : ∃ d ds, ys = d :: ds := List.exists_cons_of_length_eq_add_one hlength.symm
    have hlen : xs.length = ys.length := Nat.succ.inj hlength
    have hc := hxs c List.mem_cons_self
    have hd := hys d List.mem_cons_self
    rw [ofDigitChars_cons_zero, ofDigitChars_cons_zero, hlen] at h
    rw [List.cons_lt_cons_iff, lt_iff_weight_lt hc hd]
    rcases Nat.lt_trichotomy (weight c) (weight d) with hlt | heq | hgt
    · exact .inl hlt
    · refine .inr ⟨eq_of_weight_eq hc hd heq, ?_⟩
      refine ih hlen (fun e he => hxs e (List.mem_cons_of_mem c he))
        (fun e he => hys e (List.mem_cons_of_mem d he)) ?_
      rw [heq] at h
      exact Nat.lt_of_add_lt_add_left h
    · -- a greater first digit outweighs whatever follows the smaller one
      have hbound := ofDigitChars_lt fun e he => hys e (List.mem_cons_of_mem d he)
      nlinarith

theorem isDigit_of_mem_padded {c : Char} {width n : Nat} (h : c ∈ padded width n) :
    c.isDigit = true := by
  rcases List.mem_append.1 h with h | h
  · obtain ⟨-, rfl⟩ := List.mem_replicate.1 h
    decide
  · exact isDigit_of_mem_digits h

theorem length_padded {width n : Nat} (hwidth : 0 < width) (h : n < 10 ^ width) :
    (padded width n).length = width := by
  have hle : (digits n).length ≤ width := (Nat.length_toDigits_le_iff (by decide) hwidth).2 h
  rw [padded, List.length_append, List.length_replicate]
  omega

theorem ofDigitChars_padded (width n : Nat) : Nat.ofDigitChars 10 (padded width n) 0 = n := by
  rw [padded, Nat.ofDigitChars_append, Nat.ofDigitChars_replicate_zero, Nat.mul_zero]
  exact Nat.ofDigitChars_ten_toDigits

/-- Numbers that fit a width sort like their digits in that width. -/
theorem padded_lt_padded {width m n : Nat} (hwidth : 0 < width) (hn : n < 10 ^ width) (h : m < n) :
    padded width m < padded width n := by
  refine lt_of_ofDigitChars_lt ?_ (fun _ => isDigit_of_mem_padded) (fun _ => isDigit_of_mem_padded) ?_
  · rw [length_padded hwidth (h.trans hn), length_padded hwidth hn]
  · rwa [ofDigitChars_padded, ofDigitChars_padded]

theorem padded_injective {width m n : Nat} (h : padded width m = padded width n) : m = n := by
  rw [← ofDigitChars_padded width m, h, ofDigitChars_padded]

/-- What comes before, of two texts of one length, still does with anything behind them. -/
theorem append_lt_append {xs ys : List Char} (hlength : xs.length = ys.length) (h : xs < ys)
    (us vs : List Char) : xs ++ us < ys ++ vs := by
  induction xs generalizing ys with
  | nil =>
    obtain rfl : ys = [] := List.length_eq_zero_iff.1 hlength.symm
    exact absurd h (List.lt_irrefl [])
  | cons c xs ih =>
    obtain ⟨d, ys, rfl⟩ : ∃ d ds, ys = d :: ds := List.exists_cons_of_length_eq_add_one hlength.symm
    rw [List.cons_append, List.cons_append, List.cons_lt_cons_iff]
    rcases List.cons_lt_cons_iff.1 h with hlt | ⟨heq, hlt⟩
    · exact .inl hlt
    · exact .inr ⟨heq, ih (Nat.succ.inj hlength) hlt⟩

theorem digits_of_weight {c : Char} (h : c.isDigit = true) : digits (weight c) = [c] := by
  obtain ⟨hc, hlt⟩ := toNat_of_isDigit h
  rw [digits, Nat.toDigits_of_lt_base hlt]
  refine congrArg (· :: []) (Char.toNat_inj.1 ?_)
  rw [Nat.toNat_digitChar_of_lt_ten hlt, hc]

/-- Digits behind those of a number that is not zero are the digits of the value of all of them. -/
theorem digits_append {n : Nat} (hn : 0 < n) {ds : List Char} (h : ∀ c ∈ ds, c.isDigit = true) :
    digits n ++ ds = digits (Nat.ofDigitChars 10 ds n) := by
  induction ds generalizing n with
  | nil => simp
  | cons c ds ih =>
    have hc := h c List.mem_cons_self
    have hnext : digits n ++ [c] = digits (10 * n + weight c) := by
      rw [← digits_of_weight hc]
      exact Nat.toDigits_append_toDigits (by decide) hn (toNat_of_isDigit hc).2
    rw [Nat.ofDigitChars_cons]
    change _ = digits (Nat.ofDigitChars 10 ds (10 * n + weight c))
    rw [← ih (by omega) fun d hd => h d (List.mem_cons_of_mem c hd), ← hnext, List.append_assoc,
      List.singleton_append]

/-- A row of digits is the shortest one of its value, with zeros before it. -/
theorem eq_zeros_append {ds : List Char} (hne : ds ≠ []) (h : ∀ c ∈ ds, c.isDigit = true) :
    ∃ zeros, ds = List.replicate zeros '0' ++ digits (Nat.ofDigitChars 10 ds 0) := by
  induction ds with
  | nil => exact absurd rfl hne
  | cons c ds ih =>
    have hc := h c List.mem_cons_self
    have hds : ∀ d ∈ ds, d.isDigit = true := fun d hd => h d (List.mem_cons_of_mem c hd)
    have hvalue : Nat.ofDigitChars 10 (c :: ds) 0 = Nat.ofDigitChars 10 ds (weight c) := by
      rw [Nat.ofDigitChars_cons, Nat.mul_zero, Nat.zero_add]
      rfl
    rw [hvalue]
    rcases Nat.eq_zero_or_pos (weight c) with hzero | hpos
    · obtain rfl : c = '0' := eq_of_weight_eq hc (by decide) hzero
      rw [hzero]
      cases ds with
      | nil => exact ⟨0, rfl⟩
      | cons d ds =>
        obtain ⟨zeros, hzeros⟩ := ih (by simp) hds
        refine ⟨zeros + 1, ?_⟩
        rw [List.replicate_succ, List.cons_append, ← hzeros]
    · refine ⟨0, ?_⟩
      rw [← digits_append hpos hds, digits_of_weight hc]
      rfl

/-- What may stand before the digits of a number: a plus sign, and zeros. -/
structure Spelling where
  plus : Bool
  zeros : Nat
  deriving DecidableEq, Repr

namespace Spelling

/-- Nothing stands before the digits. -/
def plain : Spelling := ⟨false, 0⟩

def front (s : Spelling) : List Char := (if s.plus then ['+'] else []) ++ List.replicate s.zeros '0'

/-- A number that is not negative, as it is spelled. -/
def write (s : Spelling) (i : Int) : List Char := s.front ++ intChars i

theorem write_plain (i : Int) : plain.write i = intChars i := rfl

theorem length_front (s : Spelling) : s.front.length = s.plus.toNat + s.zeros := by
  obtain ⟨plus, zeros⟩ := s
  cases plus <;> simp [front, Nat.add_comm]

theorem length_write (s : Spelling) (i : Int) :
    (s.write i).length = s.plus.toNat + s.zeros + (intChars i).length := by
  rw [write, List.length_append, length_front]

theorem eq_plain_iff (s : Spelling) : s = plain ↔ s.plus.toNat + s.zeros = 0 := by
  obtain ⟨plus, zeros⟩ := s
  cases plus <;> simp [plain]

theorem mem_write {s : Spelling} {i : Int} {c : Char} (hi : 0 ≤ i) (h : c ∈ s.write i) :
    c = '+' ∨ c.isDigit = true := by
  rcases List.mem_append.1 h with h | h
  · rcases List.mem_append.1 h with h | h
    · cases hplus : s.plus <;> simp_all
    · obtain ⟨-, rfl⟩ := List.mem_replicate.1 h
      exact .inr (by decide)
  · rcases mem_intChars h with rfl | hdigit
    · exact absurd h (minus_not_mem_intChars hi)
    · exact .inr hdigit

theorem minus_not_mem_write {s : Spelling} {i : Int} (hi : 0 ≤ i) : '-' ∉ s.write i := by
  intro h
  rcases mem_write hi h with h | h
  · exact absurd h (by decide)
  · exact absurd h (by decide)

/-- A number is spelled in one way by one text. -/
theorem write_injective {s t : Spelling} {i : Int} (h : s.write i = t.write i) : s = t := by
  have hfront : s.front = t.front := List.append_cancel_right h
  have hlength := congrArg List.length hfront
  rw [length_front, length_front] at hlength
  obtain ⟨p, m⟩ := s
  obtain ⟨q, n⟩ := t
  -- a plus sign is not a zero, so both fronts have one or none has
  cases p <;> cases q <;> cases m <;> cases n <;> simp_all [front, List.replicate_succ]

end Spelling

/-- The numerals without a minus sign are the spellings of the numbers that are not negative. -/
theorem numeral_iff_spelled {cs : List Char} {i : Int} (hcs : '-' ∉ cs) :
    Numeral cs i ↔ 0 ≤ i ∧ ∃ s : Spelling, cs = s.write i := by
  constructor
  · intro h
    refine ⟨nonneg_of_int? hcs (int?_eq_some_iff.2 h), ?_⟩
    cases h with
    | plain hne hdigits =>
      obtain ⟨zeros, hzeros⟩ := eq_zeros_append hne hdigits
      exact ⟨⟨false, zeros⟩, hzeros⟩
    | @plus ds hne hdigits =>
      obtain ⟨zeros, hzeros⟩ := eq_zeros_append hne hdigits
      exact ⟨⟨true, zeros⟩, congrArg ('+' :: ·) hzeros⟩
    | minus hne hdigits => exact absurd List.mem_cons_self hcs
  · rintro ⟨hi, ⟨plus, zeros⟩, rfl⟩
    obtain ⟨n, rfl⟩ := Int.eq_ofNat_of_zero_le hi
    have hne : List.replicate zeros '0' ++ digits n ≠ [] := by simp [digits_ne_nil]
    have hdigits : ∀ c ∈ List.replicate zeros '0' ++ digits n, c.isDigit = true := by
      intro c hc
      rcases List.mem_append.1 hc with hc | hc
      · obtain ⟨-, rfl⟩ := List.mem_replicate.1 hc
        decide
      · exact isDigit_of_mem_digits hc
    have hvalue : Nat.ofDigitChars 10 (List.replicate zeros '0' ++ digits n) 0 = n := by
      rw [Nat.ofDigitChars_append, Nat.ofDigitChars_replicate_zero, Nat.mul_zero]
      exact Nat.ofDigitChars_ten_toDigits
    cases plus with
    | false =>
      have := Numeral.plain hne hdigits
      rwa [hvalue] at this
    | true =>
      have := Numeral.plus hne hdigits
      rwa [hvalue] at this

end Text
end Weblog
