import Weblog.Text.Split

/-!
# Weblog.Proofs.Text.Split

What splitting at a separator takes apart, joining puts together.

* `splitAll_eq_splitOn`: the pieces between separators are those of the library's `List.splitOn`,
  which brings its laws of joining and splitting with it.
* `splitOnce_eq_some_iff`, `splitOnce_eq_none_iff`: the first separator is the one that none stands
  before.
* `cutAt_append`, `cutAt_append_of_not_mem`: where the first mark is, whatever follows it or stands
  before it.
-/

namespace Weblog
namespace Text

variable {α : Type} [DecidableEq α]

theorem splitAllFrom_nil (piece : List α) (sep : α) (xs : List α) :
    splitAllFrom [] piece sep xs = (xs.splitOn sep).modifyHead (piece.reverse ++ ·) := by
  induction xs generalizing piece with
  | nil => simp [splitAllFrom]
  | cons x rest ih =>
    rw [splitAllFrom, List.splitOn_cons_eq_if_modifyHead]
    by_cases h : x = sep
    · have hid : (fun ys : List α => ys) = id := rfl
      rw [if_pos h, if_pos (by simpa using h), splitAllFrom_eq, ih]
      simp [hid]
    · rw [if_neg h, if_neg (by simpa using h), ih, List.modifyHead_modifyHead]
      congr 1
      funext ys
      simp

theorem splitAll_eq_splitOn (sep : α) (xs : List α) : splitAll sep xs = xs.splitOn sep := by
  have hid : (fun ys : List α => ys) = id := rfl
  rw [splitAll, splitAllFrom_nil]
  simp [hid]

theorem splitAll_ne_nil (sep : α) (xs : List α) : splitAll sep xs ≠ [] := by
  rw [splitAll_eq_splitOn]
  exact List.splitOn_ne_nil sep xs

theorem splitAll_of_not_mem {sep : α} {xs : List α} (h : sep ∉ xs) : splitAll sep xs = [xs] := by
  rw [splitAll_eq_splitOn]
  exact List.splitOn_eq_singleton h

theorem splitAll_append_cons {sep : α} {xs : List α} (h : sep ∉ xs) (ys : List α) :
    splitAll sep (xs ++ sep :: ys) = xs :: splitAll sep ys := by
  rw [splitAll_eq_splitOn, splitAll_eq_splitOn]
  exact List.splitOn_append_cons_self_of_not_mem h ys

/-- What holds no separator goes to the first piece of what follows it. -/
theorem splitAll_append_of_not_mem {sep : α} {xs : List α} (h : sep ∉ xs) (ys : List α) :
    splitAll sep (xs ++ ys) = (splitAll sep ys).modifyHead (xs ++ ·) := by
  induction xs with
  | nil =>
    have hid : (fun zs : List α => zs) = id := rfl
    simp [hid]
  | cons x xs ih =>
    obtain ⟨hx, hxs⟩ : sep ≠ x ∧ sep ∉ xs := by simpa using h
    rw [splitAll_eq_splitOn, List.cons_append, List.splitOn_cons_eq_if_modifyHead,
      if_neg (by simpa using Ne.symm hx), ← splitAll_eq_splitOn, ih hxs, List.modifyHead_modifyHead]
    rfl

theorem intercalate_splitAll (sep : α) (xs : List α) : [sep].intercalate (splitAll sep xs) = xs := by
  rw [splitAll_eq_splitOn]
  exact List.intercalate_splitOn sep

theorem splitAll_intercalate {sep : α} {pieces : List (List α)} (h : ∀ p ∈ pieces, sep ∉ p)
    (hne : pieces ≠ []) : splitAll sep ([sep].intercalate pieces) = pieces := by
  rw [splitAll_eq_splitOn]
  exact List.splitOn_intercalate sep h hne

/-- No piece holds the separator. -/
theorem not_mem_of_mem_splitAll {sep : α} {xs piece : List α} (h : piece ∈ splitAll sep xs) :
    sep ∉ piece := by
  induction xs generalizing piece with
  | nil =>
    obtain rfl : piece = [] := by simpa [splitAll, splitAllFrom] using h
    simp
  | cons x rest ih =>
    by_cases hx : x = sep
    · subst hx
      rw [splitAll_cons_sep, List.mem_cons] at h
      rcases h with rfl | h
      · simp
      · exact ih h
    · rw [splitAll_eq_splitOn, List.splitOn_cons_eq_if_modifyHead, if_neg (by simpa using hx),
        ← splitAll_eq_splitOn] at h
      obtain ⟨first, others, hs⟩ := List.exists_cons_of_ne_nil (splitAll_ne_nil sep rest)
      rw [hs] at h ih
      simp only [List.modifyHead_cons, List.mem_cons] at h
      rcases h with rfl | h
      · have := ih List.mem_cons_self
        simp [this, Ne.symm hx]
      · exact ih (List.mem_cons_of_mem first h)

theorem splitOnce_cons (sep x : α) (xs : List α) :
    splitOnce sep (x :: xs) =
      if x = sep then some ([], xs) else (splitOnce sep xs).map fun p => (x :: p.1, p.2) := by
  rw [splitOnce, splitOnceFrom]
  split
  · rfl
  · rw [splitOnceFrom_eq]
    rfl

theorem splitOnce_append_cons {sep : α} {xs : List α} (h : sep ∉ xs) (ys : List α) :
    splitOnce sep (xs ++ sep :: ys) = some (xs, ys) := by
  induction xs with
  | nil => simp [splitOnce, splitOnceFrom]
  | cons x xs ih =>
    obtain ⟨hx, hxs⟩ : sep ≠ x ∧ sep ∉ xs := by simpa using h
    rw [List.cons_append, splitOnce_cons, if_neg (Ne.symm hx), ih hxs]
    rfl

/-- The first separator is the one that none stands before. -/
theorem splitOnce_eq_some_iff {sep : α} {zs xs ys : List α} :
    splitOnce sep zs = some (xs, ys) ↔ zs = xs ++ sep :: ys ∧ sep ∉ xs := by
  constructor
  · intro h
    induction zs generalizing xs with
    | nil => cases h
    | cons z zs ih =>
      rw [splitOnce_cons] at h
      split at h
      · rename_i hz
        cases h
        simp [hz]
      · rename_i hz
        obtain ⟨p, hp, he⟩ := Option.map_eq_some_iff.1 h
        obtain ⟨us, vs⟩ := p
        cases he
        obtain ⟨rfl, hu⟩ := ih hp
        exact ⟨rfl, by simp [hu, Ne.symm hz]⟩
  · rintro ⟨rfl, h⟩
    exact splitOnce_append_cons h ys

theorem splitOnce_of_not_mem {sep : α} {xs : List α} (h : sep ∉ xs) : splitOnce sep xs = none := by
  cases hsplit : splitOnce sep xs with
  | none => rfl
  | some p =>
    obtain ⟨rfl, -⟩ := splitOnce_eq_some_iff.1 hsplit
    simp at h

theorem splitOnce_eq_none_iff {sep : α} {xs : List α} : splitOnce sep xs = none ↔ sep ∉ xs := by
  refine ⟨fun hnone hmem => ?_, splitOnce_of_not_mem⟩
  obtain ⟨before, after, rfl, hbefore⟩ := List.eq_append_cons_of_mem hmem
  rw [splitOnce_append_cons hbefore] at hnone
  cases hnone

theorem cutFrom_eq (done mark xs : List α) :
    cutFrom done mark xs = (cutAt mark xs).map fun p => (done.reverse ++ p.1, p.2) := by
  induction xs generalizing done with
  | nil => simp [cutAt, cutFrom]
  | cons x rest ih =>
    simp only [cutAt, cutFrom]
    split
    · simp
    · rw [ih, ih [x]]
      simp [Function.comp_def]

theorem cutAt_cons (mark : List α) (x : α) (xs : List α) :
    cutAt mark (x :: xs) = if mark.isPrefixOf (x :: xs) then some ([], x :: xs)
      else (cutAt mark xs).map fun p => (x :: p.1, p.2) := by
  rw [cutAt, cutFrom]
  split
  · rfl
  · rw [cutFrom_eq]
    rfl

theorem cutAt_append_self (mark xs : List α) : cutAt mark (mark ++ xs) = some ([], mark ++ xs) := by
  have hprefix : mark.isPrefixOf (mark ++ xs) = true := by simp
  cases hwhole : mark ++ xs with
  | nil => simp_all [cutAt, cutFrom]
  | cons y ys => rw [cutAt_cons, ← hwhole, if_pos hprefix]

/-- What a list is cut into; the second part begins with the mark. -/
theorem eq_append_of_cutAt {mark xs before after : List α}
    (h : cutAt mark xs = some (before, after)) : xs = before ++ after ∧ mark <+: after := by
  induction xs generalizing before with
  | nil =>
    simp only [cutAt, cutFrom] at h
    split at h <;> simp_all
  | cons x rest ih =>
    rw [cutAt_cons] at h
    split at h
    · rename_i hprefix
      cases h
      exact ⟨rfl, List.isPrefixOf_iff_prefix.1 hprefix⟩
    · obtain ⟨⟨us, vs⟩, hp, he⟩ := Option.map_eq_some_iff.1 h
      cases he
      obtain ⟨rfl, hmark⟩ := ih hp
      exact ⟨rfl, hmark⟩

/-- A mark that is found stays the first one, whatever follows. -/
theorem cutAt_append {mark xs before after : List α} (h : cutAt mark xs = some (before, after))
    (ys : List α) : cutAt mark (xs ++ ys) = some (before, after ++ ys) := by
  induction xs generalizing before with
  | nil =>
    obtain ⟨hnil, hmark⟩ := eq_append_of_cutAt h
    obtain ⟨rfl, rfl⟩ := List.append_eq_nil_iff.1 hnil.symm
    obtain rfl := List.prefix_nil.1 hmark
    exact cutAt_append_self [] ys
  | cons x rest ih =>
    rw [cutAt_cons] at h
    rw [List.cons_append, cutAt_cons]
    split at h
    · rename_i hprefix
      cases h
      have hlonger : mark <+: x :: (rest ++ ys) :=
        (List.isPrefixOf_iff_prefix.1 hprefix).trans (List.prefix_append (x :: rest) ys)
      rw [if_pos (List.isPrefixOf_iff_prefix.2 hlonger)]
      rfl
    · rename_i hprefix
      obtain ⟨⟨us, vs⟩, hp, he⟩ := Option.map_eq_some_iff.1 h
      cases he
      -- the mark ends within what it was found in, so nothing behind that completes an earlier one
      have hlength : mark.length ≤ (x :: rest).length := by
        obtain ⟨hrest, hmark⟩ := eq_append_of_cutAt hp
        have := hmark.length_le
        simp only [hrest, List.length_cons, List.length_append]
        omega
      have hnot : ¬ mark <+: x :: (rest ++ ys) := fun hlonger =>
        hprefix (List.isPrefixOf_iff_prefix.2
          (List.prefix_of_prefix_length_le hlonger (List.prefix_append (x :: rest) ys) hlength))
      rw [if_neg (mt List.isPrefixOf_iff_prefix.1 hnot), ih hp]
      rfl

/-- What does not hold the first element of a mark stands before it. -/
theorem cutAt_append_of_not_mem {m : α} {mark xs : List α} (h : m ∉ xs) (ys : List α) :
    cutAt (m :: mark) (xs ++ ys) = (cutAt (m :: mark) ys).map fun p => (xs ++ p.1, p.2) := by
  induction xs with
  | nil => simp
  | cons x rest ih =>
    obtain ⟨hx, hrest⟩ : m ≠ x ∧ m ∉ rest := by simpa using h
    have hnot : ¬ (m :: mark).isPrefixOf (x :: (rest ++ ys)) = true := by simp [hx]
    rw [List.cons_append, cutAt_cons, if_neg hnot, ih hrest]
    simp [Function.comp_def]

end Text
end Weblog
