import Weblog.Sql.Placeholder

/-!
# Weblog.Proofs.Sql.Native

How markers are numbered in a text that is put together from parts.

* `Inert`: a part without a marker of its own that ends outside quotes. It stays as it is, and what
  follows is numbered as if it stood alone (`renumber_inert`).
* `inert_enclosed`: a text in quotes is inert, whatever characters it has; `inert_quotedChars` says
  so of identifiers.
* `renumber_intercalate`: parts that end in one marker each, with commas between them, are numbered
  in their order.
-/

namespace Weblog
namespace Sql

theorem quoteAfter_self (q : Char) : quoteAfter (some q) q = none := if_pos rfl

theorem openAfter_append (opened : Option Char) (xs ys : List Char) :
    openAfter opened (xs ++ ys) = openAfter (openAfter opened xs) ys := List.foldl_append

theorem markerCount_append (opened : Option Char) (xs ys : List Char) :
    markerCount opened (xs ++ ys) = markerCount opened xs + markerCount (openAfter opened xs) ys := by
  induction xs generalizing opened with
  | nil => simp [markerCount, openAfter]
  | cons c xs ih =>
    rw [List.cons_append, markerCount, markerCount, openAfter, List.foldl_cons]
    by_cases h : opened = none ∧ c = '?'
    · obtain ⟨rfl, rfl⟩ := h
      rw [if_pos ⟨rfl, rfl⟩, if_pos ⟨rfl, rfl⟩, ih, openAfter, quoteAfter_question]
      omega
    · rw [if_neg h, if_neg h, ih, openAfter]

/-- A text without markers outside quotes stays as it is. -/
theorem renumber_of_markerCount_eq_zero {opened : Option Char} {xs : List Char}
    (h : markerCount opened xs = 0) (count : Nat) : renumber opened count xs = xs := by
  induction xs generalizing opened with
  | nil => rfl
  | cons c xs ih =>
    rw [markerCount] at h
    by_cases hc : opened = none ∧ c = '?'
    · rw [if_pos hc] at h
      cases h
    · rw [if_neg hc] at h
      rw [renumber, if_neg hc, ih h]

/-- A part without a marker of its own that ends outside quotes. -/
structure Inert (xs : List Char) : Prop where
  closed : openAfter none xs = none
  unmarked : markerCount none xs = 0

instance (xs : List Char) : Decidable (Inert xs) :=
  decidable_of_iff (openAfter none xs = none ∧ markerCount none xs = 0)
    ⟨fun h => ⟨h.1, h.2⟩, fun h => ⟨h.closed, h.unmarked⟩⟩

theorem renumber_inert {xs : List Char} (h : Inert xs) (count : Nat) (ys : List Char) :
    renumber none count (xs ++ ys) = xs ++ renumber none count ys := by
  rw [renumber_append, renumber_of_markerCount_eq_zero h.unmarked, h.closed, h.unmarked]
  rfl

theorem Inert.append {xs ys : List Char} (hx : Inert xs) (hy : Inert ys) : Inert (xs ++ ys) where
  closed := by rw [openAfter_append, hx.closed, hy.closed]
  unmarked := by rw [markerCount_append, hx.closed, hx.unmarked, hy.unmarked]

theorem Inert.renumber {xs : List Char} (h : Inert xs) (count : Nat) :
    renumber none count xs = xs := renumber_of_markerCount_eq_zero h.unmarked count

theorem inert_intercalate {sep : List Char} {items : List (List Char)} (hsep : Inert sep)
    (h : ∀ x ∈ items, Inert x) : Inert (sep.intercalate items) := by
  induction items with
  | nil => exact ⟨rfl, rfl⟩
  | cons x rest ih =>
    have hx := h x List.mem_cons_self
    have hrest := ih fun y hy => h y (List.mem_cons_of_mem x hy)
    cases rest with
    | nil => simpa using hx
    | cons y rest =>
      rw [List.intercalate_cons_cons]
      exact (hx.append hsep).append hrest

/-- Within quotes a text stays within them: its own quotes come in pairs. -/
theorem openAfter_doubled {q : Char} (hq : quoteAfter none q = some q) (cs : List Char) :
    openAfter (some q) (cs.flatMap fun c => if c = q then [q, q] else [c]) = some q := by
  induction cs with
  | nil => rfl
  | cons c cs ih =>
    rw [List.flatMap_cons, openAfter_append]
    have hc : openAfter (some q) (if c = q then [q, q] else [c]) = some q := by
      by_cases h : c = q
      · simp [openAfter, h, quoteAfter_self, hq]
      · simp [openAfter, quoteAfter, h, Ne.symm h]
    rw [hc, ih]

/-- Within quotes a text has no marker: a quote of its own is at once followed by the one that
opens them again. -/
theorem markerCount_doubled {q : Char} (hq : quoteAfter none q = some q) (cs : List Char) :
    markerCount (some q) (cs.flatMap fun c => if c = q then [q, q] else [c]) = 0 := by
  have hmark : q ≠ '?' := by
    rintro rfl
    cases quoteAfter_question.symm.trans hq
  induction cs with
  | nil => rfl
  | cons c cs ih =>
    by_cases h : c = q
    · simpa [markerCount, h, quoteAfter_self, hq, hmark] using ih
    · simpa [markerCount, quoteAfter, h, Ne.symm h] using ih

/-- A text in quotes is inert, whatever characters it has. -/
theorem inert_enclosed {q : Char} (hq : quoteAfter none q = some q) (cs : List Char) :
    Inert (q :: (cs.flatMap (fun c => if c = q then [q, q] else [c]) ++ [q])) where
  closed := by
    have hcons : ∀ ys, openAfter none (q :: ys) = openAfter (some q) ys := by
      intro ys
      rw [openAfter, List.foldl_cons, hq]
      rfl
    rw [hcons, openAfter_append, openAfter_doubled hq]
    exact quoteAfter_self q
  unmarked := by
    have hmark : q ≠ '?' := by
      rintro rfl
      cases quoteAfter_question.symm.trans hq
    rw [markerCount, if_neg (by simp [hmark]), hq, markerCount_append, openAfter_doubled hq,
      markerCount_doubled hq]
    simp [markerCount]

/-- An identifier is inert, whatever characters its name has. -/
theorem inert_quotedChars (cs : List Char) : Inert (quotedChars cs) :=
  inert_enclosed (q := '"') (by decide) cs

def numberedMarker (k : Nat) : List Char := '$' :: Text.digits k

theorem renumber_marker {xs : List Char} (h : Inert xs) (count : Nat) (ys : List Char) :
    renumber none count (xs ++ '?' :: ys) =
      xs ++ (numberedMarker (count + 1) ++ renumber none (count + 1) ys) := by
  rw [renumber_inert h, renumber, if_pos ⟨rfl, rfl⟩]
  rfl

/-- Parts that end in one marker each, with commas between them, are numbered in their order; what
follows them is numbered from there on. -/
theorem renumber_intercalate {parts : List (List Char)} (h : ∀ x ∈ parts, Inert x) (count : Nat)
    (ys : List Char) :
    renumber none count ([',', ' '].intercalate (parts.map (· ++ ['?'])) ++ ys) =
      [',', ' '].intercalate ((parts.zipIdx (count + 1)).map fun x => x.1 ++ numberedMarker x.2) ++
        renumber none (count + parts.length) ys := by
  induction parts generalizing count with
  | nil => simp
  | cons x rest ih =>
    have hx := h x List.mem_cons_self
    have hrest := ih (fun y hy => h y (List.mem_cons_of_mem x hy)) (count + 1)
    cases rest with
    | nil =>
      simp only [List.map_cons, List.map_nil, List.intercalate_singleton, List.zipIdx_cons,
        List.zipIdx_nil, List.append_assoc, List.cons_append, List.nil_append, List.length_cons,
        List.length_nil, Nat.zero_add]
      exact renumber_marker hx count ys
    | cons y rest =>
      have hsep : Inert [',', ' '] := by decide
      simp only [List.map_cons, List.zipIdx_cons, List.intercalate_cons_cons, List.append_assoc,
        List.length_cons] at hrest ⊢
      rw [List.singleton_append, renumber_marker hx, renumber_inert hsep, hrest]
      have hcount : count + 1 + (rest.length + 1) = count + (rest.length + 1 + 1) := by omega
      rw [hcount]

theorem toList_quoted (name : String) : (quoted name).toList = quotedChars name.toList :=
  String.toList_ofList

theorem toList_native (sql : String) : (native sql).toList = renumber none 0 sql.toList :=
  String.toList_ofList

theorem toList_commaSeparated (items : List String) :
    (commaSeparated items).toList = [',', ' '].intercalate (items.map String.toList) :=
  String.toList_intercalate

theorem renumber_markers (n : Nat) (ys : List Char) :
    renumber none 0 ((markers n).toList ++ ys) =
      [',', ' '].intercalate ((List.range' 1 n).map numberedMarker) ++ renumber none n ys := by
  have hparts : ∀ x ∈ List.replicate n ([] : List Char), Inert x := by
    intro x hx
    rw [List.eq_of_mem_replicate hx]
    decide
  have hzip : ∀ k, ((List.replicate n ([] : List Char)).zipIdx k).map
      (fun x => x.1 ++ numberedMarker x.2) = (List.range' k n).map numberedMarker := by
    clear hparts
    induction n with
    | zero => intro k; rfl
    | succ n ih =>
      intro k
      rw [List.replicate_succ, List.zipIdx_cons, List.map_cons, ih, List.range'_succ]
      rfl
  have hnumbered := renumber_intercalate hparts 0 ys
  rw [List.map_replicate, Nat.zero_add, hzip, List.length_replicate, Nat.zero_add] at hnumbered
  rw [markers, toList_commaSeparated, List.map_replicate]
  exact hnumbered

/-- A text that does not begin with a marker begins as it did. -/
theorem head?_native {sql : String} {c : Char} (h : sql.toList.head? = some c) (hc : c ≠ '?') :
    (native sql).toList.head? = some c := by
  rw [toList_native]
  cases hsql : sql.toList with
  | nil =>
    rw [hsql] at h
    cases h
  | cons d rest =>
    rw [hsql] at h
    cases h
    rw [renumber, if_neg (by simp [hc])]
    rfl

end Sql
end Weblog
