/-!
# Weblog.Text.Split

Splitting lists at a separator.

* `splitOnce`: at its first occurrence.
* `splitAll`: at every occurrence; the pieces are never none.
* `cutAt`: at the first occurrence of a list.
-/

namespace Weblog
namespace Text

variable {α : Type} [DecidableEq α]

/-- What stands before and after the first separator; `done` is what was passed, last first. -/
def splitOnceFrom (done : List α) (sep : α) : List α → Option (List α × List α)
  | [] => none
  | x :: rest =>
    if x = sep then some (done.reverse, rest) else splitOnceFrom (x :: done) sep rest

/-- What stands before and after the first separator, if there is one. -/
def splitOnce (sep : α) (xs : List α) : Option (List α × List α) := splitOnceFrom [] sep xs

/-- The pieces between separators; `piece` is the one begun, last first, and `done` the ones before,
last first. -/
def splitAllFrom (done : List (List α)) (piece : List α) (sep : α) : List α → List (List α)
  | [] => (piece.reverse :: done).reverse
  | x :: rest =>
    if x = sep then splitAllFrom (piece.reverse :: done) [] sep rest
    else splitAllFrom done (x :: piece) sep rest

/-- The pieces between separators. -/
def splitAll (sep : α) (xs : List α) : List (List α) := splitAllFrom [] [] sep xs

/-- What stands before the first occurrence of a list, and the rest from that occurrence on; `done`
is what was passed, last first. -/
def cutFrom (done : List α) (mark : List α) : List α → Option (List α × List α)
  | [] => if mark.isEmpty then some (done.reverse, []) else none
  | x :: rest =>
    if mark.isPrefixOf (x :: rest) then some (done.reverse, x :: rest)
    else cutFrom (x :: done) mark rest

/-- What stands before the first occurrence of a list, and the rest from that occurrence on. -/
def cutAt (mark : List α) (xs : List α) : Option (List α × List α) := cutFrom [] mark xs

theorem splitOnceFrom_eq (done : List α) (sep : α) (xs : List α) :
    splitOnceFrom done sep xs =
      (splitOnce sep xs).map fun p => (done.reverse ++ p.1, p.2) := by
  induction xs generalizing done with
  | nil => rfl
  | cons x rest ih =>
    unfold splitOnce
    by_cases h : x = sep
    · simp [splitOnceFrom, h]
    · simp only [splitOnceFrom, h, if_false]
      rw [ih, ih [x]]
      cases splitOnce sep rest <;> simp

/-- What is left after a separator is shorter. -/
theorem length_lt_of_splitOnce {sep : α} {zs xs ys : List α}
    (h : splitOnce sep zs = some (xs, ys)) : ys.length < zs.length := by
  induction zs generalizing xs with
  | nil => cases h
  | cons z zs ih =>
    rw [splitOnce, splitOnceFrom] at h
    split at h
    · cases h
      exact Nat.lt_succ_self _
    · rw [splitOnceFrom_eq] at h
      obtain ⟨⟨us, vs⟩, hp, he⟩ := Option.map_eq_some_iff.1 h
      cases he
      exact Nat.lt_succ_of_lt (ih hp)

theorem splitAllFrom_eq (done : List (List α)) (piece : List α) (sep : α) (xs : List α) :
    splitAllFrom done piece sep xs = done.reverse ++ splitAllFrom [] piece sep xs := by
  induction xs generalizing done piece with
  | nil => simp [splitAllFrom]
  | cons x rest ih =>
    by_cases h : x = sep
    · simp only [splitAllFrom, h, if_true]
      rw [ih, ih [piece.reverse]]
      simp
    · simp only [splitAllFrom, h, if_false]
      rw [ih]

/-- Pieces joined by the separator are the list again. -/
theorem splitAll_cons_sep (sep : α) (xs : List α) :
    splitAll sep (sep :: xs) = [] :: splitAll sep xs := by
  simp only [splitAll, splitAllFrom, if_true]
  rw [splitAllFrom_eq]
  rfl

end Text
end Weblog
