import Weblog.Text.Numeral

/-!
# Weblog.Proofs.Text.Numeral

Numerals that are written are read back.

* `digitsFrom_eq`: a numeral of ASCII digits has the value that the library gives its digits.
* `nat?_digits`, `int?_intChars`, `ranged?_ofInt`: what is written is read back.
* `intChars_injective`: a numeral stands for one integer.
* `nonneg_of_int?`: a numeral without a minus sign is not negative.
* `Numeral`, `int?_eq_some_iff`, `ranged?_eq_some_iff`: which texts are read, and as what.
-/

namespace Weblog
namespace Text

theorem digit?_eq (c : Char) : digit? c = if c.isDigit then some (c.toNat - 48) else none := by
  have hdigit : c.isDigit = true ↔ '0' ≤ c ∧ c ≤ '9' := by
    rw [Char.isDigit, Bool.and_eq_true, decide_eq_true_eq, decide_eq_true_eq]
    exact Iff.rfl
  by_cases h : c.isDigit = true
  · rw [digit?, if_pos (hdigit.1 h), if_pos h]
    rfl
  · rw [digit?, if_neg (fun hc => h (hdigit.2 hc)), if_neg h]

theorem digitsFrom_eq (acc : Nat) (cs : List Char) :
    digitsFrom acc cs = if cs.all Char.isDigit then some (Nat.ofDigitChars 10 cs acc) else none := by
  induction cs generalizing acc with
  | nil => rfl
  | cons c cs ih =>
    rw [digitsFrom, digit?_eq, List.all_cons, Nat.ofDigitChars_cons, Nat.mul_comm]
    cases c.isDigit with
    | true => exact ih _
    | false => rfl

theorem isDigit_of_mem_digits {c : Char} {n : Nat} (h : c ∈ digits n) : c.isDigit = true :=
  Nat.isDigit_of_mem_toDigits (by decide) (by decide) h

theorem digits_ne_nil (n : Nat) : digits n ≠ [] := Nat.toDigits_ne_nil

theorem not_mem_digits {c : Char} (h : c.isDigit = false) (n : Nat) : c ∉ digits n := by
  intro hc
  rw [isDigit_of_mem_digits hc] at h
  cases h

theorem nat?_digits (n : Nat) : nat? (digits n) = some n := by
  have hall : (digits n).all Char.isDigit = true :=
    List.all_eq_true.2 fun c hc => isDigit_of_mem_digits hc
  rw [nat?_eq_digitsFrom (digits_ne_nil n), digitsFrom_eq, if_pos hall]
  exact congrArg some Nat.ofDigitChars_ten_toDigits

theorem int?_of_nat? {c : Char} {cs : List Char} {n : Nat} (hc : c.isDigit = true)
    (h : nat? (c :: cs) = some n) : int? (c :: cs) = some (n : Int) := by
  unfold int?
  split
  · rename_i heq
    cases heq
    exact absurd hc (by decide)
  · rename_i heq
    cases heq
    exact absurd hc (by decide)
  · rw [h]
    rfl

theorem int?_digits (n : Nat) : int? (digits n) = some (n : Int) := by
  cases hd : digits n with
  | nil => exact absurd hd (digits_ne_nil n)
  | cons c cs =>
    have hc : c.isDigit = true := isDigit_of_mem_digits (n := n) (hd ▸ List.mem_cons_self)
    exact int?_of_nat? hc (hd ▸ nat?_digits n)

theorem int?_intChars (i : Int) : int? (intChars i) = some i := by
  cases i with
  | ofNat n => exact int?_digits n
  | negSucc n =>
    rw [intChars, int?, nat?_digits]
    rfl

theorem intChars_injective {i j : Int} (h : intChars i = intChars j) : i = j := by
  have hi := int?_intChars i
  rw [h, int?_intChars] at hi
  exact (Option.some.inj hi).symm

theorem toList_ofInt (i : Int) : (ofInt i).toList = intChars i := String.toList_ofList

/-- The numeral of a member of a range with negative members is read back. -/
theorem ranged?_ofInt {r : IntRange} {i : Int} (hr : r.least < 0) (hi : r.has i = true) :
    ranged? r (ofInt i) = some i := by
  have hsign : ¬(0 ≤ r.least ∧ (ofInt i).toList.head? = some '-') := by
    rintro ⟨hle, -⟩
    omega
  rw [ranged?, if_neg hsign, toList_ofInt, int?_intChars, Option.filter_some, if_pos hi]

/-- What is read in a range with negative members is an integer of it. -/
theorem int?_of_ranged? {r : IntRange} {s : String} {i : Int} (h : ranged? r s = some i) :
    int? s.toList = some i ∧ r.has i = true := by
  unfold ranged? at h
  split at h
  · cases h
  · exact Option.filter_eq_some_iff.1 h

/-- The digits of a number that is not negative hold no minus sign. -/
theorem minus_not_mem_intChars {i : Int} (h : 0 ≤ i) : '-' ∉ intChars i := by
  obtain ⟨n, rfl⟩ := Int.eq_ofNat_of_zero_le h
  exact not_mem_digits (by decide) n

theorem mem_intChars {c : Char} {i : Int} (h : c ∈ intChars i) : c = '-' ∨ c.isDigit = true := by
  cases i with
  | ofNat n => exact .inr (isDigit_of_mem_digits h)
  | negSucc n =>
    rcases List.mem_cons.1 h with rfl | h
    · exact .inl rfl
    · exact .inr (isDigit_of_mem_digits h)

/-- A numeral without a minus sign is not negative. -/
theorem nonneg_of_int? {cs : List Char} {i : Int} (hcs : '-' ∉ cs) (h : int? cs = some i) :
    0 ≤ i := by
  unfold int? at h
  split at h
  · exact absurd List.mem_cons_self hcs
  · rename_i ds
    cases hn : nat? ds with
    | none => simp [hn] at h
    | some n =>
      obtain rfl : (n : Int) = i := by simpa [hn] using h
      exact Int.natCast_nonneg n
  · cases hn : nat? cs with
    | none => simp [hn] at h
    | some n =>
      obtain rfl : (n : Int) = i := by simpa [hn] using h
      exact Int.natCast_nonneg n

/-- A numeral of an integer: one ASCII digit or more, with or without a sign before them. -/
inductive Numeral : List Char → Int → Prop where
  | plain {ds : List Char} : ds ≠ [] → (∀ c ∈ ds, c.isDigit = true) →
      Numeral ds (Nat.ofDigitChars 10 ds 0)
  | plus {ds : List Char} : ds ≠ [] → (∀ c ∈ ds, c.isDigit = true) →
      Numeral ('+' :: ds) (Nat.ofDigitChars 10 ds 0)
  | minus {ds : List Char} : ds ≠ [] → (∀ c ∈ ds, c.isDigit = true) →
      Numeral ('-' :: ds) (-(Nat.ofDigitChars 10 ds 0 : Int))

theorem nat?_eq_some_iff {cs : List Char} {n : Nat} :
    nat? cs = some n ↔ cs ≠ [] ∧ (∀ c ∈ cs, c.isDigit = true) ∧ n = Nat.ofDigitChars 10 cs 0 := by
  cases cs with
  | nil => simp [nat?]
  | cons c cs =>
    rw [nat?_eq_digitsFrom (by simp), digitsFrom_eq]
    by_cases hall : (c :: cs).all Char.isDigit = true
    · rw [if_pos hall, Option.some.injEq]
      exact ⟨fun h => ⟨by simp, List.all_eq_true.1 hall, h.symm⟩, fun h => h.2.2.symm⟩
    · rw [if_neg hall]
      exact ⟨nofun, fun h => absurd (List.all_eq_true.2 h.2.1) hall⟩

theorem int?_eq_some_iff {cs : List Char} {i : Int} : int? cs = some i ↔ Numeral cs i := by
  constructor
  · intro h
    unfold int? at h
    split at h
    · rename_i ds
      cases hn : nat? ds with
      | none => simp [hn] at h
      | some n =>
        obtain rfl : -(n : Int) = i := by simpa [hn] using h
        obtain ⟨hne, hdigits, rfl⟩ := nat?_eq_some_iff.1 hn
        exact .minus hne hdigits
    · rename_i ds
      cases hn : nat? ds with
      | none => simp [hn] at h
      | some n =>
        obtain rfl : (n : Int) = i := by simpa [hn] using h
        obtain ⟨hne, hdigits, rfl⟩ := nat?_eq_some_iff.1 hn
        exact .plus hne hdigits
    · cases hn : nat? cs with
      | none => simp [hn] at h
      | some n =>
        obtain rfl : (n : Int) = i := by simpa [hn] using h
        obtain ⟨hne, hdigits, rfl⟩ := nat?_eq_some_iff.1 hn
        exact .plain hne hdigits
  · intro h
    cases h with
    | plain hne hdigits =>
      obtain ⟨c, cs, rfl⟩ := List.exists_cons_of_ne_nil hne
      exact int?_of_nat? (hdigits c List.mem_cons_self) (nat?_eq_some_iff.2 ⟨hne, hdigits, rfl⟩)
    | plus hne hdigits =>
      rw [int?, nat?_eq_some_iff.2 ⟨hne, hdigits, rfl⟩]
      rfl
    | minus hne hdigits =>
      rw [int?, nat?_eq_some_iff.2 ⟨hne, hdigits, rfl⟩]
      rfl

/-- In a range with negative members the numerals of its members are read, and no other texts. -/
theorem ranged?_eq_some_iff {r : IntRange} (hr : r.least < 0) {s : String} {i : Int} :
    ranged? r s = some i ↔ Numeral s.toList i ∧ r.least ≤ i ∧ i ≤ r.greatest := by
  have hsign : ¬(0 ≤ r.least ∧ s.toList.head? = some '-') := fun h => by omega
  rw [ranged?, if_neg hsign, Option.filter_eq_some_iff, int?_eq_some_iff]
  simp [IntRange.has]

/-- The numeral that is written is the one that the library writes. -/
theorem ofInt_eq_toString (i : Int) : ofInt i = toString i := by
  cases i with
  | ofNat n => rfl
  | negSucc n =>
    refine String.toList_inj.1 ?_
    change _ = (Int.repr (.negSucc n)).toList
    rw [toList_ofInt, Int.repr]
    simp [intChars, Nat.repr, digits]

end Text
end Weblog
