import Mathlib.Data.List.Basic
import Mathlib.Data.List.DropRight
import Weblog.Text.Blank

/-!
# Weblog.Proofs.Text.Blank

What trimming leaves of a text.

* `trimChars_append_cons`: trimming stops at the first character from either end that is not blank.
* `prefix_trimChars_iff`: what a text without blanks in front begins with, where that holds none.
* `Trims`: a text is another one with white space around it; `trims_iff`: trimming finds the other.
-/

namespace Weblog
namespace Text

theorem dropWhile_append_cons {p : Char → Bool} {c : Char} (hc : p c = false) (xs ys : List Char) :
    (xs ++ c :: ys).dropWhile p = xs.dropWhile p ++ c :: ys := by
  induction xs with
  | nil => simp [hc]
  | cons x xs ih =>
    rw [List.cons_append, List.dropWhile_cons, List.dropWhile_cons]
    by_cases hx : p x = true
    · rw [if_pos hx, if_pos hx, ih]
    · rw [if_neg hx, if_neg hx, List.cons_append]

theorem dropWhile_eq_self {p : Char → Bool} {cs : List Char} (h : ∀ c ∈ cs, p c = false) :
    cs.dropWhile p = cs := by
  cases cs with
  | nil => rfl
  | cons c cs => rw [List.dropWhile_cons_of_neg (by simp [h c List.mem_cons_self])]

theorem trimChars_append_cons {c : Char} (hc : isBlank c = false) (xs ys : List Char) :
    trimChars (xs ++ c :: ys) =
      xs.dropWhile isBlank ++ c :: (ys.reverse.dropWhile isBlank).reverse := by
  rw [trimChars, dropWhile_append_cons hc, List.reverse_append, List.reverse_cons,
    List.append_assoc, List.singleton_append, dropWhile_append_cons hc, List.reverse_append,
    List.reverse_cons, List.reverse_reverse, List.append_assoc, List.singleton_append]

theorem trimChars_eq_self {cs : List Char} (h : ∀ c ∈ cs, isBlank c = false) :
    trimChars cs = cs := by
  have hreverse : ∀ c ∈ cs.reverse, isBlank c = false := fun c hc => h c (List.mem_reverse.1 hc)
  rw [trimChars, dropWhile_eq_self h, dropWhile_eq_self hreverse, List.reverse_reverse]

theorem isBlank_of_visible {c : Char} (h : 33 ≤ c.toNat ∧ c.toNat < 127) : isBlank c = false := by
  rw [isBlank, Bool.eq_false_iff]
  simp only [ne_eq, Bool.or_eq_true, Bool.and_eq_true, decide_eq_true_eq, beq_iff_eq]
  omega

theorem trimChars_eq_rdropWhile (cs : List Char) :
    trimChars cs = (cs.dropWhile isBlank).rdropWhile isBlank := rfl

theorem trimChars_begins {cs : List Char} (h : ∀ c ∈ cs.head?, isBlank c = false) :
    trimChars cs <+: cs := by
  have hfront : cs.dropWhile isBlank = cs := by
    cases cs with
    | nil => rfl
    | cons c cs => exact List.dropWhile_cons_of_neg (by simp [h c rfl])
  rw [trimChars_eq_rdropWhile, hfront]
  exact List.rdropWhile_prefix _ _

/-- Trimming a text without blanks in front takes nothing away of what is not blank there. -/
theorem prefix_trimChars_iff {cs mark : List Char} (h : ∀ c ∈ cs.head?, isBlank c = false)
    (hmark : ∀ c ∈ mark, isBlank c = false) : mark <+: trimChars cs ↔ mark <+: cs := by
  refine ⟨fun hbegins => hbegins.trans (trimChars_begins h), ?_⟩
  rintro ⟨rest, rfl⟩
  rcases mark.eq_nil_or_concat' with rfl | ⟨front, c, rfl⟩
  · exact List.nil_prefix
  · have hfront : ∀ d ∈ front, isBlank d = false := fun d hd => hmark d (by simp [hd])
    rw [List.append_assoc, List.singleton_append, trimChars_append_cons (hmark c (by simp)),
      dropWhile_eq_self hfront]
    exact ⟨_, by rw [List.append_assoc, List.singleton_append]⟩

/-- A text has no white space at its two ends. -/
structure IsTrimmed (cs : List Char) : Prop where
  front : ∀ c ∈ cs.head?, isBlank c = false
  back : ∀ c ∈ cs.getLast?, isBlank c = false

/-- A text is another one, which has no white space at its ends, with white space around it. -/
structure Trims (cs text : List Char) : Prop where
  trimmed : IsTrimmed text
  around : ∃ left right, cs = left ++ text ++ right ∧ (∀ c ∈ left, isBlank c = true) ∧
    ∀ c ∈ right, isBlank c = true

theorem rdropWhile_append_of_pos {p : Char → Bool} {right : List Char}
    (h : ∀ c ∈ right, p c = true) (cs : List Char) :
    (cs ++ right).rdropWhile p = cs.rdropWhile p := by
  have hreverse : ∀ c ∈ right.reverse, p c = true := fun c hc => h c (List.mem_reverse.1 hc)
  rw [List.rdropWhile, List.reverse_append, List.dropWhile_append_of_pos hreverse, List.rdropWhile]

theorem isTrimmed_trimChars (cs : List Char) : IsTrimmed (trimChars cs) where
  front := by
    intro c hc
    -- what is left after both ends were cut begins as what is left after the front was
    obtain ⟨rest, hrest⟩ : trimChars cs <+: cs.dropWhile isBlank := List.rdropWhile_prefix _ _
    have hhead : (cs.dropWhile isBlank).head? = some c := by
      rw [← hrest, List.head?_append, Option.mem_def.1 hc, Option.some_or]
    have hnot := List.head?_dropWhile_not isBlank cs
    rw [hhead] at hnot
    exact hnot
  back := by
    intro c hc
    have hne : (cs.dropWhile isBlank).rdropWhile isBlank ≠ [] := by
      intro hnil
      rw [trimChars_eq_rdropWhile, hnil] at hc
      cases hc
    have hlast := List.rdropWhile_last_not isBlank _ hne
    rw [trimChars_eq_rdropWhile, List.getLast?_eq_getLast_of_ne_nil hne] at hc
    cases hc
    simpa using hlast

/-- Trimming takes away the white space around a text, and no more. -/
theorem trims_iff {cs text : List Char} : Trims cs text ↔ trimChars cs = text := by
  constructor
  · rintro ⟨⟨hfront, hback⟩, left, right, rfl, hleft, hright⟩
    rw [trimChars_eq_rdropWhile, List.append_assoc, List.dropWhile_append_of_pos hleft]
    cases text with
    | nil =>
      rw [List.nil_append, List.dropWhile_eq_nil_iff.2 hright]
      rfl
    | cons c rest =>
      rw [List.cons_append, List.dropWhile_cons_of_neg (by simp [hfront c rfl]), ← List.cons_append,
        rdropWhile_append_of_pos hright, List.rdropWhile_eq_self_iff]
      intro hne
      simp [hback _ (List.getLast?_eq_getLast_of_ne_nil hne)]
  · rintro rfl
    refine ⟨isTrimmed_trimChars cs, cs.takeWhile isBlank, (cs.dropWhile isBlank).rtakeWhile isBlank,
      ?_, fun c hc => List.mem_takeWhile_imp hc, fun c hc => List.mem_rtakeWhile_imp hc⟩
    rw [trimChars_eq_rdropWhile, List.append_assoc, List.rdropWhile_append_rtakeWhile,
      List.takeWhile_append_dropWhile]

end Text
end Weblog
