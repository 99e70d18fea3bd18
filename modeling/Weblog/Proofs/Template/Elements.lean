import Weblog.Proofs.Template.Outline

/-!
# Weblog.Proofs.Template.Elements

The elements of a page, read back out of its text.

* `upTo`, `contents`: what stands between two tags, for each place where the first of them stands.
* `isFree`: a tag neither stands in a text nor begins in it, whatever stands around the text.
* `contents_append`, `contents_element`: what is free of the opening tag is passed over, and what
  stands between the tags is read back.
* `Drawn.isFree_joined`: what is shown in a page has no part in a tag.
-/

namespace Weblog
namespace Template

/-- What stands before a mark, all of it where there is no mark. -/
def upTo (mark : List Char) : List Char → List Char
  | [] => []
  | c :: cs => if mark.isPrefixOf (c :: cs) then [] else c :: upTo mark cs

/-- After each opening tag what stands before the next closing tag. -/
def contents (opening closing : List Char) : List Char → List (List Char)
  | [] => []
  | c :: cs =>
    if opening.isPrefixOf (c :: cs) then
      upTo closing ((c :: cs).drop opening.length) :: contents opening closing cs
    else contents opening closing cs

/-- A mark does not stand in a text, and its end does not begin one. -/
def isFree (mark : List Char) : List Char → Bool
  | [] => true
  | c :: cs => !mark.isPrefixOf (c :: cs) && !(c :: cs).isPrefixOf mark && isFree mark cs

variable {mark opening closing : List Char}

theorem isFree_cons_iff {c : Char} {cs : List Char} :
    isFree mark (c :: cs) = true ↔
      (¬ mark <+: c :: cs ∧ ¬ c :: cs <+: mark) ∧ isFree mark cs = true := by
  rw [isFree, Bool.and_eq_true, Bool.and_eq_true, Bool.not_eq_true', Bool.not_eq_true',
    ← Bool.not_eq_true, ← Bool.not_eq_true, List.isPrefixOf_iff_prefix, List.isPrefixOf_iff_prefix]

/-- What is free of a mark stays so where something follows. -/
theorem not_prefix_append {xs : List Char} (h : ¬ mark <+: xs ∧ ¬ xs <+: mark) (ys : List Char) :
    ¬ mark <+: xs ++ ys ∧ ¬ xs ++ ys <+: mark := by
  constructor
  · intro hmark
    rcases List.prefix_or_prefix_of_prefix hmark (List.prefix_append xs ys) with hp | hp
    · exact h.1 hp
    · exact h.2 hp
  · intro hmark
    exact h.2 ((List.prefix_append xs ys).trans hmark)

theorem isFree_append {xs ys : List Char} (hx : isFree mark xs = true)
    (hy : isFree mark ys = true) : isFree mark (xs ++ ys) = true := by
  induction xs with
  | nil => exact hy
  | cons c cs ih =>
    obtain ⟨hc, hcs⟩ := isFree_cons_iff.1 hx
    exact isFree_cons_iff.2 ⟨not_prefix_append hc ys, ih hcs⟩

/-- A text without the first character of a mark is free of it. -/
theorem isFree_of_not_mem {m : Char} {ms xs : List Char} (h : m ∉ xs) :
    isFree (m :: ms) xs = true := by
  induction xs with
  | nil => rfl
  | cons c cs ih =>
    have hne : c ≠ m := fun he => h (he ▸ List.mem_cons_self)
    refine isFree_cons_iff.2 ⟨⟨fun hp => ?_, fun hp => ?_⟩, ih (List.not_mem_of_not_mem_cons h)⟩
    · exact hne (List.cons_prefix_cons.1 hp).1.symm
    · exact hne (List.cons_prefix_cons.1 hp).1

theorem contents_append {xs : List Char} (h : isFree opening xs = true) (ys : List Char) :
    contents opening closing (xs ++ ys) = contents opening closing ys := by
  induction xs with
  | nil => rfl
  | cons c cs ih =>
    obtain ⟨hc, hcs⟩ := isFree_cons_iff.1 h
    have hnot : ¬ opening.isPrefixOf (c :: (cs ++ ys)) = true := fun hp =>
      (not_prefix_append hc ys).1 (List.isPrefixOf_iff_prefix.1 hp)
    rw [List.cons_append, contents, if_neg hnot, ih hcs]

theorem upTo_append {m : Char} {ms xs : List Char} (h : isFree (m :: ms) xs = true)
    (ys : List Char) : upTo (m :: ms) (xs ++ (m :: ms ++ ys)) = xs := by
  induction xs with
  | nil =>
    have hmark : (m :: ms).isPrefixOf (m :: (ms ++ ys)) = true :=
      List.isPrefixOf_iff_prefix.2 (List.prefix_append (m :: ms) ys)
    rw [List.nil_append, List.cons_append, upTo, if_pos hmark]
  | cons c cs ih =>
    obtain ⟨hc, hcs⟩ := isFree_cons_iff.1 h
    have hnot : ¬ (m :: ms).isPrefixOf (c :: (cs ++ (m :: ms ++ ys))) = true := fun hp =>
      (not_prefix_append hc _).1 (List.isPrefixOf_iff_prefix.1 hp)
    rw [List.cons_append, upTo, if_neg hnot, ih hcs]

/-- Two tags of which the second may follow the first, and the first does not begin again in
either. -/
structure Tags (opening closing : List Char) : Prop where
  opening_ne_nil : opening ≠ []
  closing_ne_nil : closing ≠ []
  apart : isFree opening opening.tail = true
  opened : isFree opening closing = true

/-- What stands between the tags is read back, if neither of them begins in it. -/
theorem contents_element (htags : Tags opening closing) {body : List Char}
    (hopening : isFree opening body = true) (hclosing : isFree closing body = true)
    (rest : List Char) :
    contents opening closing (opening ++ (body ++ (closing ++ rest))) =
      body :: contents opening closing rest := by
  obtain ⟨hne, hne', hapart, hopened⟩ := htags
  obtain ⟨o, os, rfl⟩ := List.exists_cons_of_ne_nil hne
  obtain ⟨m, ms, rfl⟩ := List.exists_cons_of_ne_nil hne'
  rw [List.tail_cons] at hapart
  have hmark : (o :: os).isPrefixOf (o :: (os ++ (body ++ (m :: ms ++ rest)))) = true :=
    List.isPrefixOf_iff_prefix.2 (List.prefix_append (o :: os) _)
  rw [List.cons_append, contents, if_pos hmark, List.length_cons, List.drop_succ_cons,
    List.drop_left, upTo_append hclosing, contents_append hapart, contents_append hopening,
    contents_append hopened]

/-! ## Pages -/

/-- The literal of a mark is free of a tag. -/
def Mark.isFree (mark : List Char) : Mark → Bool
  | .literal t => Template.isFree mark t.toList
  | .hole => true

/-- What is shown is no part of a tag, so a page is free of a tag if its literals are. -/
theorem Drawn.isFree_joined {ps : List Piece} {ms : List Mark} (h : Drawn ps ms)
    (htag : mark.head? = some '<') (hms : ms.all (Mark.isFree mark) = true) :
    isFree mark (joined ps).toList = true := by
  obtain ⟨rfl, hharmless⟩ := h
  obtain ⟨rest, rfl⟩ := List.head?_eq_some_iff.1 htag
  induction ps with
  | nil => rfl
  | cons p ps ih =>
    obtain ⟨hp, hps⟩ := List.forall_mem_cons.1 hharmless
    rw [List.map_cons, List.all_cons, Bool.and_eq_true] at hms
    rw [joined, String.toList_append]
    refine isFree_append ?_ (ih hps hms.2)
    cases p with
    | literal t => exact hms.1
    | shown t => exact isFree_of_not_mem fun hmem => hp '<' hmem (by decide)

end Template
end Weblog
