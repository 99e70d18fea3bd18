import Mathlib.Order.Bounds.Basic
import Weblog.Page

/-!
# Weblog.Proofs.Page

The pages of a list, and what a reader sees who goes from one to the next.

* `isLeast_pagesFor`: as many pages as the items need, and no more.
* `ofInts`: the page of an index without a bound on the integers; `Fits.ofSize_eq` has the words of
  64 bits compute it, where the last page ends in one.
* `values`: what a page is computed from; `has_values_iff` says when all of it fits the words.
* `Walk`: going to the next page as long as there is one; `walk_iff` says which pages that visits.
* `Tiles`: pages whose windows follow one another; `tiles_numbered`, and from it `ShowsOnce` for the
  pages of a walk.
* `Paginates`: what holds of the pages of so many items.
* `Sound`: what holds of one page among some items.
* `bounds_pageIndex`: the index in a text is a positive word.
-/

namespace Weblog
namespace Page

variable {n s i : Int} {ps : List Page}

/-! ## How many pages -/

/-- How many pages of a size so many items need. -/
def pagesFor (n s : Int) : Int := (n + s - 1) / s

theorem le_pagesFor_mul (n : Int) (hs : 1 ≤ s) : n ≤ pagesFor n s * s := by
  have hlt := Int.lt_ediv_add_one_mul_self (n + s - 1) (show 0 < s by omega)
  rw [Int.add_mul, Int.one_mul] at hlt
  unfold pagesFor
  omega

theorem pagesFor_le_of_le_mul (hs : 1 ≤ s) {c : Int} (hc : n ≤ c * s) : pagesFor n s ≤ c := by
  refine Int.lt_add_one_iff.1 (Int.ediv_lt_of_lt_mul (by omega) ?_)
  rw [Int.add_mul, Int.one_mul]
  omega

theorem isLeast_pagesFor (n : Int) (hs : 1 ≤ s) : IsLeast {c : Int | n ≤ c * s} (pagesFor n s) :=
  ⟨le_pagesFor_mul n hs, fun _ hc => pagesFor_le_of_le_mul hs hc⟩

theorem pagesFor_zero (hs : 1 ≤ s) : pagesFor 0 s = 0 :=
  Int.ediv_eq_zero_of_lt (by omega) (by omega)

theorem one_le_pagesFor (hn : 1 ≤ n) (hs : 1 ≤ s) : 1 ≤ pagesFor n s :=
  (Int.le_ediv_iff_mul_le (by omega)).2 (by omega)

theorem pagesFor_nonneg (hn : 0 ≤ n) (hs : 1 ≤ s) : 0 ≤ pagesFor n s :=
  Int.ediv_nonneg (by omega) (by omega)

theorem pagesFor_le (hn : 0 ≤ n) (hs : 1 ≤ s) : pagesFor n s ≤ n := by
  refine pagesFor_le_of_le_mul hs ?_
  have hmul := Int.mul_le_mul_of_nonneg_left hs hn
  omega

/-- Before the last page the items are not at their end. -/
theorem mul_lt_of_lt_pagesFor (hs : 1 ≤ s) (hi : i < pagesFor n s) : i * s < n := by
  by_contra hle
  exact absurd (pagesFor_le_of_le_mul hs (not_lt.1 hle)) (by omega)

/-! ## Words of 64 bits -/

open Text (IntRange)

theorem has_i64_iff {v : Int} :
    IntRange.i64.has v = true ↔ Int64.minValue.toInt ≤ v ∧ v ≤ Int64.maxValue.toInt := by
  rw [IntRange.has, Bool.and_eq_true, decide_eq_true_eq, decide_eq_true_eq]
  exact Iff.rfl

theorem has_i64_of_le {v : Int} (h : 0 ≤ v) (hv : v ≤ IntRange.i64.greatest) :
    IntRange.i64.has v = true :=
  has_i64_iff.2 ⟨le_trans (by decide) h, hv⟩

theorem has_toInt (w : Int64) : IntRange.i64.has w.toInt = true :=
  has_i64_iff.2 ⟨w.minValue_le_toInt, w.toInt_le⟩

section Words

variable {v w : Int} (hv : IntRange.i64.has v = true) (hw : IntRange.i64.has w = true)
include hv

theorem toInt_word : (Int64.ofInt v).toInt = v := by
  obtain ⟨hmin, hmax⟩ := has_i64_iff.1 hv
  exact Int64.toInt_ofInt_of_le hmin (Int.lt_of_le_of_lt hmax (by decide))

include hw

theorem word_inj : Int64.ofInt v = Int64.ofInt w ↔ v = w := by
  rw [← Int64.toInt_inj, toInt_word hv, toInt_word hw]

theorem word_lt_iff : Int64.ofInt v < Int64.ofInt w ↔ v < w := by
  rw [Int64.lt_iff_toInt_lt, toInt_word hv, toInt_word hw]

theorem max_word : max (Int64.ofInt v) (Int64.ofInt w) = Int64.ofInt (max v w) := by
  have hle : Int64.ofInt v ≤ Int64.ofInt w ↔ v ≤ w := by
    rw [Int64.le_iff_toInt_le, toInt_word hv, toInt_word hw]
  have hmax : max (Int64.ofInt v) (Int64.ofInt w) =
      if Int64.ofInt v ≤ Int64.ofInt w then Int64.ofInt w else Int64.ofInt v := rfl
  rw [hmax]
  by_cases h : v ≤ w
  · rw [if_pos (hle.2 h), Int.max_eq_right h]
  · rw [if_neg (fun hc => h (hle.1 hc)), Int.max_eq_left (by omega)]

end Words

/-! ## One page -/

/-- What is fetched for a page are words. -/
theorem has_limit (n i s : Int) :
    IntRange.i64.has (ofSize n i s).rows = true ∧ IntRange.i64.has (ofSize n i s).offset = true :=
  ⟨has_toInt _, has_toInt _⟩

/-- The page of an index, computed in integers. -/
def ofInts (n i s : Int) : Page :=
  let beyond := n = 0 ∨ pagesFor n s < i
  let shown := if beyond then 1 else i
  { itemCount := n
    index := shown
    size := s
    pageCount := pagesFor n s
    offset := if beyond then 0 else s * (i - 1)
    rows := if beyond then 0 else s
    hasNext := decide (shown < pagesFor n s)
    hasPrevious := decide (1 < shown) }

/-- A page of the list that is there. -/
theorem ofInts_of_le (hn : 1 ≤ n) (hi : i ≤ pagesFor n s) :
    ofInts n i s = ⟨n, i, s, pagesFor n s, s * (i - 1), s, decide (i < pagesFor n s),
      decide (1 < i)⟩ := by
  have hwithin : ¬(n = 0 ∨ pagesFor n s < i) := by omega
  simp only [ofInts, if_neg hwithin]

/-- A page past the end is the first page, with nothing to fetch. -/
theorem ofInts_of_beyond (hi : n = 0 ∨ pagesFor n s < i) :
    ofInts n i s = ⟨n, 1, s, pagesFor n s, 0, 0, decide (1 < pagesFor n s), false⟩ := by
  simp only [ofInts, if_pos hi]
  rfl

/-- What is fetched for a page begins among the items. -/
theorem bounds_ofInts (hs : 1 ≤ s) (hn : 1 ≤ n) (hi : 1 ≤ i) :
    0 ≤ (ofInts n i s).offset ∧ (ofInts n i s).offset < n ∧ 0 ≤ (ofInts n i s).rows := by
  by_cases hbeyond : n = 0 ∨ pagesFor n s < i
  · rw [ofInts_of_beyond hbeyond]
    exact ⟨le_refl 0, hn, le_refl 0⟩
  · rw [not_or, not_lt] at hbeyond
    rw [ofInts_of_le hn hbeyond.2]
    refine ⟨Int.mul_nonneg (by omega) (by omega), ?_, show 0 ≤ s by omega⟩
    rw [Int.mul_comm]
    exact mul_lt_of_lt_pagesFor hs (by omega)

/-- What the page of an index is computed from and holds. -/
def values (n i s : Int) : List Int :=
  let p := ofInts n i s
  [n, i, s, n + s, n + s - 1, p.itemCount, p.size, p.pageCount, p.index, p.index - 1, p.offset,
    p.rows]

/-- So many items on pages of such a size, the last of which would end in a word if it were full. -/
structure Fits (n s : Int) : Prop where
  count : 0 ≤ n
  size : 1 ≤ s
  size_le : s ≤ IntRange.i64.greatest
  last_le : n + s - 1 ≤ IntRange.i64.greatest

namespace Fits

variable (h : Fits n s)
include h

theorem has_count : IntRange.i64.has n = true := by
  obtain ⟨hn, hs, -, hlast⟩ := h
  exact has_i64_of_le hn (by omega)

theorem has_size : IntRange.i64.has s = true := by
  have hs := h.size
  exact has_i64_of_le (by omega) h.size_le

theorem pagesFor_le_greatest : pagesFor n s ≤ IntRange.i64.greatest :=
  (pagesFor_le h.count h.size).trans (has_i64_iff.1 h.has_count).2

theorem has_pagesFor : IntRange.i64.has (pagesFor n s) = true :=
  has_i64_of_le (pagesFor_nonneg h.count h.size) h.pagesFor_le_greatest

/-- The sum may be one more than the greatest word. Taking one away brings it back. -/
theorem pages_word :
    (Int64.ofInt n + .ofInt s - .ofInt 1) / .ofInt s = .ofInt (pagesFor n s) := by
  have hn := h.count
  have hs := h.size
  obtain ⟨hmin, hmax⟩ := has_i64_iff.1 (has_i64_of_le (by omega) h.last_le)
  obtain ⟨hsmin, hsmax⟩ := has_i64_iff.1 h.has_size
  rw [← Int64.ofInt_add, ← Int64.ofInt_sub, ← Int64.ofInt_tdiv hmin hmax hsmin hsmax,
    Int.tdiv_eq_ediv_of_nonneg (by omega), pagesFor]

variable (hi : 1 ≤ i) (hmax : i ≤ IntRange.i64.greatest)
include hi hmax

/-- Words of 64 bits compute the page. -/
theorem ofSize_eq : ofSize n i s = ofInts n i s := by
  have hiword : IntRange.i64.has i = true := has_i64_of_le (by omega) hmax
  have hzero : IntRange.i64.has 0 = true := by decide
  have hone : IntRange.i64.has 1 = true := by decide
  have hsize : max (Int64.ofInt s) (.ofInt 1) = .ofInt s := by
    rw [max_word h.has_size hone, Int.max_eq_left h.size]
  have hcount : max (Int64.ofInt n) (.ofInt 0) = .ofInt n := by
    rw [max_word h.has_count hzero, Int.max_eq_left h.count]
  have hbeyond : (Int64.ofInt n = .ofInt 0 ∨ Int64.ofInt (pagesFor n s) < .ofInt i) ↔
      (n = 0 ∨ pagesFor n s < i) :=
    or_congr (word_inj h.has_count hzero) (word_lt_iff h.has_pagesFor hiword)
  have hunit : (1 : Int64) = .ofInt 1 := rfl
  have hnought : (0 : Int64) = .ofInt 0 := rfl
  simp only [ofSize, ofWords, hunit, hnought, hsize, hcount, h.pages_word, hbeyond,
    toInt_word h.has_count, toInt_word h.has_size, toInt_word h.has_pagesFor]
  by_cases hend : n = 0 ∨ pagesFor n s < i
  · simp only [ofInts_of_beyond hend, if_pos hend, toInt_word hone, toInt_word hzero,
      word_lt_iff hone h.has_pagesFor, word_lt_iff hone hone]
    rfl
  · have hle : 1 ≤ n ∧ i ≤ pagesFor n s := by
      have hn := h.count
      omega
    have hproduct : Int64.ofInt s * (.ofInt i - .ofInt 1) = .ofInt (s * (i - 1)) := by
      rw [← Int64.ofInt_sub, ← Int64.ofInt_mul]
    have hoffset : IntRange.i64.has (s * (i - 1)) = true := by
      obtain ⟨hnonneg, hlt, -⟩ := bounds_ofInts h.size hle.1 hi
      rw [ofInts_of_le hle.1 hle.2] at hnonneg hlt
      exact has_i64_of_le hnonneg (hlt.le.trans (has_i64_iff.1 h.has_count).2)
    simp only [ofInts_of_le hle.1 hle.2, if_neg hend, hproduct, toInt_word hoffset,
      toInt_word hiword, toInt_word h.has_size, word_lt_iff hiword h.has_pagesFor,
      word_lt_iff hone hiword]

/-- Nothing that the page is computed from leaves the words just if the sum of the items and the size
stays in them. -/
theorem has_values_iff :
    (∀ v ∈ values n i s, IntRange.i64.has v = true) ↔ n + s ≤ IntRange.i64.greatest := by
  constructor
  · intro hvalues
    exact (has_i64_iff.1 (hvalues (n + s) (by simp [values]))).2
  · intro hsum
    have hn := h.count
    have hs := h.size
    have hiword : IntRange.i64.has i = true := has_i64_of_le (by omega) hmax
    have hsumword : IntRange.i64.has (n + s) = true := has_i64_of_le (by omega) hsum
    have hlast : IntRange.i64.has (n + s - 1) = true := has_i64_of_le (by omega) h.last_le
    by_cases hend : n = 0 ∨ pagesFor n s < i
    · simp only [values, ofInts_of_beyond hend, List.forall_mem_cons]
      exact ⟨h.has_count, hiword, h.has_size, hsumword, hlast, h.has_count, h.has_size,
        h.has_pagesFor, by decide, by decide, by decide, by decide, List.forall_mem_nil _⟩
    · have hle : 1 ≤ n ∧ i ≤ pagesFor n s := by omega
      obtain ⟨hnonneg, hlt, -⟩ := bounds_ofInts hs hle.1 hi
      rw [ofInts_of_le hle.1 hle.2] at hnonneg hlt
      simp only [values, ofInts_of_le hle.1 hle.2, List.forall_mem_cons]
      exact ⟨h.has_count, hiword, h.has_size, hsumword, hlast, h.has_count, h.has_size,
        h.has_pagesFor, hiword, has_i64_of_le (by omega) (by omega),
        has_i64_of_le hnonneg (hlt.le.trans (has_i64_iff.1 h.has_count).2), h.has_size,
        List.forall_mem_nil _⟩

end Fits

section

variable (h : Fits n s)
include h

theorem ofSize_of_le (hn : 1 ≤ n) (hi : 1 ≤ i) (hle : i ≤ pagesFor n s) :
    ofSize n i s = ⟨n, i, s, pagesFor n s, s * (i - 1), s, decide (i < pagesFor n s),
      decide (1 < i)⟩ := by
  rw [h.ofSize_eq hi (hle.trans h.pagesFor_le_greatest), ofInts_of_le hn hle]

theorem ofSize_of_beyond (hi : 1 ≤ i) (hmax : i ≤ IntRange.i64.greatest)
    (hbeyond : n = 0 ∨ pagesFor n s < i) :
    ofSize n i s = ⟨n, 1, s, pagesFor n s, 0, 0, decide (1 < pagesFor n s), false⟩ := by
  rw [h.ofSize_eq hi hmax, ofInts_of_beyond hbeyond]

/-- The number of the pages is that of the integers, whatever the index. -/
theorem pageCount_ofSize (i : Int) : (ofSize n i s).pageCount = pagesFor n s := by
  have hpages : (ofSize n i s).pageCount = (ofSize n 1 s).pageCount := rfl
  rw [hpages, h.ofSize_eq (le_refl 1) (by decide)]
  rfl

end

/-- The window after one page begins the next. -/
theorem mul_sub_one_add (s i : Int) : s * (i - 1) + s = s * i := by
  rw [Int.mul_sub, Int.mul_one, Int.sub_add_cancel]

/-- The page shows the item of a number, counted from zero. -/
def Shows (p : Page) (k : Int) : Prop := p.offset ≤ k ∧ k < p.offset + p.rows

/-! ## From page to page -/

/-- Going from page to page as long as there is a next one. -/
inductive Walk (n s : Int) : Int → List Page → Prop where
  | last {i : Int} : (ofSize n i s).hasNext = false → Walk n s i [ofSize n i s]
  | next {i : Int} {ps : List Page} : (ofSize n i s).hasNext = true →
      Walk n s ((ofSize n i s).index + 1) ps → Walk n s i (ofSize n i s :: ps)

theorem Walk.unique {ps qs : List Page} (h : Walk n s i ps) (h' : Walk n s i qs) : ps = qs := by
  induction h generalizing qs with
  | last hlast =>
    cases h' with
    | last _ => rfl
    | next hnext _ => rw [hlast] at hnext; cases hnext
  | next hnext _ ih =>
    cases h' with
    | last hlast => rw [hlast] at hnext; cases hnext
    | next _ hrest => rw [ih hrest]

/-- The pages of so many numbers from one on. -/
def numbered (n s : Int) (first count : Nat) : List Page :=
  (List.range' first count).map fun k : Nat => ofSize n k s

theorem numbered_succ (n s : Int) (first count : Nat) :
    numbered n s first (count + 1) = ofSize n first s :: numbered n s (first + 1) count := by
  rw [numbered, List.range'_succ]
  rfl

/-- The pages that a reader gets to see: all of them, and the first one also where there are no
items. -/
def visited (n s : Int) : List Page := numbered n s 1 (max (pagesFor n s) 1).toNat

/-- From one of the pages on, all further ones are visited. -/
theorem walk_numbered (h : Fits n s) (hn : 1 ≤ n) {first : Nat} (hfirst : 1 ≤ first) {count : Nat}
    (hcount : (first : Int) + count = pagesFor n s) :
    Walk n s first (numbered n s first (count + 1)) := by
  induction count generalizing first with
  | zero =>
    have hpage := ofSize_of_le h hn (i := first) (by omega) (by omega)
    have hlast : (ofSize n first s).hasNext = false := by
      rw [hpage]
      exact decide_eq_false (by omega)
    exact .last hlast
  | succ count ih =>
    have hpage := ofSize_of_le h hn (i := first) (by omega) (by omega)
    rw [numbered_succ]
    refine .next ?_ ?_
    · rw [hpage]
      exact decide_eq_true (by omega)
    · have hindex : (ofSize n first s).index + 1 = ((first + 1 : Nat) : Int) := by
        rw [hpage]
        rfl
      rw [hindex]
      exact ih (by omega) (by omega)

theorem walk_visited (h : Fits n s) : Walk n s 1 (visited n s) := by
  rcases h.count.lt_or_eq with hpos | rfl
  · have hpages := one_le_pagesFor hpos h.size
    have hcount : (max (pagesFor n s) 1).toNat = (pagesFor n s - 1).toNat + 1 := by
      rw [Int.max_eq_left hpages]
      omega
    rw [visited, hcount]
    exact walk_numbered h hpos (le_refl 1) (by omega)
  · have hlast : (ofSize 0 1 s).hasNext = false := by
      rw [ofSize_of_beyond h (le_refl 1) (by decide) (.inl rfl), pagesFor_zero h.size]
      rfl
    rw [visited, pagesFor_zero h.size]
    exact .last hlast

/-- A reader who goes on as long as there is a next page sees every page, in order, and then
stops. -/
theorem walk_iff (h : Fits n s) : Walk n s 1 ps ↔ ps = visited n s := by
  constructor
  · intro hwalk
    exact hwalk.unique (walk_visited h)
  · rintro rfl
    exact walk_visited h

theorem Walk.hasNext {ps : List Page} (h : Walk n s i ps) : ∀ p ∈ ps.dropLast, p.hasNext = true := by
  induction h with
  | last _ => exact List.forall_mem_nil _
  | next hnext hrest ih =>
    intro p hp
    rw [List.dropLast_cons_of_ne_nil (by cases hrest <;> exact List.cons_ne_nil _ _)] at hp
    rcases List.mem_cons.1 hp with rfl | hp
    · exact hnext
    · exact ih p hp

/-! ## The windows -/

/-- The windows of the pages follow one another. -/
inductive Tiles : Int → List Page → Int → Prop where
  | nil (a : Int) : Tiles a [] a
  | cons {p : Page} {ps : List Page} {b : Int} : 0 ≤ p.rows → Tiles (p.offset + p.rows) ps b →
      Tiles p.offset (p :: ps) b

variable {a b : Int}

theorem Tiles.offset_ge (h : Tiles a ps b) : ∀ p ∈ ps, a ≤ p.offset := by
  induction h with
  | nil a => exact List.forall_mem_nil _
  | cons hrows _ ih =>
    refine List.forall_mem_cons.2 ⟨le_refl _, fun q hq => ?_⟩
    have hge := ih q hq
    omega

/-- No item is shown twice. -/
theorem Tiles.pairwise (h : Tiles a ps b) : ps.Pairwise fun p q => ∀ k, p.Shows k → ¬q.Shows k := by
  induction h with
  | nil a => exact .nil
  | cons hrows hrest ih =>
    refine List.pairwise_cons.2 ⟨fun q hq k hp hk => ?_, ih⟩
    have hge := hrest.offset_ge q hq
    have hlt := hp.2
    have hle := hk.1
    omega

/-- Every item between the ends is shown. -/
theorem Tiles.exists_shows (h : Tiles a ps b) {k : Int} (ha : a ≤ k) (hb : k < b) :
    ∃ p ∈ ps, p.Shows k := by
  induction h with
  | nil a => omega
  | @cons p ps b hrows hrest ih =>
    by_cases hk : k < p.offset + p.rows
    · exact ⟨p, List.mem_cons_self, ha, hk⟩
    · obtain ⟨q, hq, hshows⟩ := ih (not_lt.1 hk) hb
      exact ⟨q, List.mem_cons_of_mem p hq, hshows⟩

theorem tiles_numbered (h : Fits n s) (hn : 1 ≤ n) (first count : Nat) (hfirst : 1 ≤ first)
    (hcount : (first : Int) + count ≤ pagesFor n s + 1) :
    Tiles (s * (first - 1)) (numbered n s first count) (s * (first - 1 + count)) := by
  induction count generalizing first with
  | zero =>
    rw [Int.natCast_zero, Int.add_zero]
    exact .nil _
  | succ count ih =>
    have hpage := ofSize_of_le h hn (i := first) (by omega) (by omega)
    have hrest := ih (first + 1) (by omega) (by omega)
    have hstart : s * (((first + 1 : Nat) : Int) - 1) =
        (ofSize n first s).offset + (ofSize n first s).rows := by
      rw [hpage, mul_sub_one_add]
      congr 1
      omega
    have hend : ((first + 1 : Nat) : Int) - 1 + count = (first : Int) - 1 + (count + 1 : Nat) := by
      omega
    rw [hstart, hend] at hrest
    rw [numbered_succ]
    have hrows : 0 ≤ (ofSize n first s).rows := by
      rw [hpage]
      exact Int.le_trans (by decide) h.size
    have htiles := Tiles.cons hrows hrest
    rwa [show (ofSize n first s).offset = s * (first - 1) by rw [hpage]] at htiles

/-- Pages that show so many items, each once. -/
structure ShowsOnce (n : Int) (ps : List Page) : Prop where
  consecutive : ∃ e, n ≤ e ∧ Tiles 0 ps e
  disjoint : ps.Pairwise fun p q => ∀ k, p.Shows k → ¬q.Shows k
  complete : ∀ k, 0 ≤ k → k < n → ∃ p ∈ ps, p.Shows k
  within : ∀ p ∈ ps.dropLast, p.offset + p.rows ≤ n

theorem tiles_visited (h : Fits n s) : ∃ e, n ≤ e ∧ Tiles 0 (visited n s) e := by
  rcases h.count.lt_or_eq with hpos | rfl
  · have hpages := one_le_pagesFor hpos h.size
    have hcount : ((max (pagesFor n s) 1).toNat : Int) = pagesFor n s := by omega
    have htiles := tiles_numbered h hpos 1 (max (pagesFor n s) 1).toNat
      (le_refl 1) (by omega)
    have hstart : s * (((1 : Nat) : Int) - 1) = 0 := Int.mul_zero s
    rw [hcount, hstart] at htiles
    refine ⟨_, ?_, htiles⟩
    simpa [Int.mul_comm] using le_pagesFor_mul n h.size
  · have hpage := ofSize_of_beyond h (le_refl 1) (by decide) (.inl rfl)
    refine ⟨0, le_refl 0, ?_⟩
    rw [visited, pagesFor_zero h.size]
    have htiles := Tiles.cons (p := ofSize 0 1 s) (by rw [hpage]) (.nil _)
    rw [show (ofSize 0 1 s).offset = 0 by rw [hpage],
      show (ofSize 0 1 s).rows = 0 by rw [hpage]] at htiles
    exact htiles

/-- The window of a page that has a next one ends among the items. -/
theorem window_le_of_hasNext (h : Fits n s) (hi : 1 ≤ i) (hmax : i ≤ IntRange.i64.greatest)
    (hnext : (ofSize n i s).hasNext = true) :
    (ofSize n i s).offset + (ofSize n i s).rows ≤ n := by
  by_cases hbeyond : n = 0 ∨ pagesFor n s < i
  · rw [ofSize_of_beyond h hi hmax hbeyond]
    exact h.count
  · have hle : 1 ≤ n ∧ i ≤ pagesFor n s := by
      have hn := h.count
      omega
    rw [ofSize_of_le h hle.1 hi hle.2] at hnext ⊢
    have hlt := mul_lt_of_lt_pagesFor h.size (of_decide_eq_true hnext)
    rw [Int.mul_comm, ← mul_sub_one_add] at hlt
    exact hlt.le

theorem exists_of_mem_visited {p : Page} (hp : p ∈ visited n s) :
    ∃ k : Nat, 1 ≤ (k : Int) ∧ (k : Int) ≤ max (pagesFor n s) 1 ∧ p = ofSize n k s := by
  obtain ⟨k, hk, rfl⟩ := List.mem_map.1 hp
  obtain ⟨hge, hlt⟩ := List.mem_range'_1.1 hk
  exact ⟨k, by omega, by omega, rfl⟩

theorem showsOnce_visited (h : Fits n s) : ShowsOnce n (visited n s) := by
  obtain ⟨e, he, htiles⟩ := tiles_visited h
  refine ⟨⟨e, he, htiles⟩, htiles.pairwise, fun k hk hlt => htiles.exists_shows hk (by omega), ?_⟩
  intro p hp
  have hnext := (walk_visited h).hasNext p hp
  obtain ⟨k, hge, hle, rfl⟩ := exists_of_mem_visited (List.dropLast_subset _ hp)
  exact window_le_of_hasNext h hge (hle.trans (max_le h.pagesFor_le_greatest (by decide))) hnext

/-- The visited pages have the numbers from one on. -/
theorem index_visited (h : Fits n s) :
    (visited n s).map index =
      (List.range' 1 (max (pagesFor n s) 1).toNat).map fun k : Nat => (k : Int) := by
  rw [visited, numbered, List.map_map]
  refine List.map_congr_left fun k hk => ?_
  obtain ⟨hge, hlt⟩ := List.mem_range'_1.1 hk
  rcases h.count.lt_or_eq with hpos | rfl
  · have hpages := one_le_pagesFor hpos h.size
    exact congrArg index (ofSize_of_le h hpos (by omega) (by omega))
  · rw [pagesFor_zero h.size] at hlt
    obtain rfl : k = 1 := by omega
    exact congrArg index (ofSize_of_beyond h (le_refl 1) (by decide) (.inl rfl))

/-- What holds of the pages of so many items. -/
structure Paginates (n s : Int) : Prop where
  least : ∀ i, IsLeast {c : Int | n ≤ c * s} (ofSize n i s).pageCount
  walked : ∀ ps, Walk n s 1 ps ↔ ps = visited n s
  indices : (visited n s).map index =
    (List.range' 1 (max (pagesFor n s) 1).toNat).map fun k : Nat => (k : Int)
  empty : n = 0 → ∃ p, visited n s = [p] ∧ p.index = 1 ∧ p.rows = 0
  previous : ∀ p ∈ visited n s, p.hasPrevious = true ↔ 1 < p.index
  once : ShowsOnce n (visited n s)

theorem paginates (h : Fits n s) : Paginates n s where
  least i := pageCount_ofSize h i ▸ isLeast_pagesFor n h.size
  walked _ := walk_iff h
  indices := index_visited h
  empty := by
    rintro rfl
    refine ⟨ofSize 0 1 s, by rw [visited, pagesFor_zero h.size]; rfl, ?_⟩
    rw [ofSize_of_beyond h (le_refl 1) (by decide) (.inl rfl)]
    exact ⟨rfl, rfl⟩
  previous := by
    intro p hp
    obtain ⟨k, hge, hle, rfl⟩ := exists_of_mem_visited hp
    rw [h.ofSize_eq hge (hle.trans (max_le h.pagesFor_le_greatest (by decide)))]
    exact decide_eq_true_iff
  once := showsOnce_visited h

/-- The page of an index among some items: words compute it and leave their range only with the sum
of the items and the size, and what is fetched for it begins among the items. -/
structure Sound (n i s : Int) : Prop where
  words : ofSize n i s = ofInts n i s
  range : (∀ v ∈ values n i s, IntRange.i64.has v = true) ↔ n + s ≤ IntRange.i64.greatest
  offset : 0 ≤ (ofSize n i s).offset ∧ (ofSize n i s).offset < n
  rows : 0 ≤ (ofSize n i s).rows
  beyond : (ofSize n i s).pageCount < i → (ofSize n i s).index = 1 ∧ (ofSize n i s).rows = 0

theorem sound (h : Fits n s) (hn : 1 ≤ n) (hi : 1 ≤ i) (hmax : i ≤ IntRange.i64.greatest) :
    Sound n i s := by
  have hwords := h.ofSize_eq hi hmax
  obtain ⟨hnonneg, hlt, hrows⟩ := bounds_ofInts h.size hn hi
  refine ⟨hwords, h.has_values_iff hi hmax, hwords ▸ ⟨hnonneg, hlt⟩, hwords ▸ hrows, ?_⟩
  intro hbeyond
  rw [pageCount_ofSize h] at hbeyond
  rw [ofSize_of_beyond h hi hmax (.inr hbeyond)]
  exact ⟨rfl, rfl⟩

end Page

open Text (IntRange) in
/-- Whatever the text, the index is a positive word. -/
theorem bounds_pageIndex (text : String) :
    1 ≤ pageIndex text ∧ pageIndex text ≤ IntRange.i64.greatest := by
  have hone : (1 : Int) ≤ 1 ∧ 1 ≤ IntRange.i64.greatest := by decide
  unfold pageIndex
  cases hread : Text.ranged? .i64 (Text.trim text) with
  | none => exact hone
  | some i =>
    dsimp only
    by_cases hi : 1 ≤ i
    · rw [if_pos hi]
      refine ⟨hi, ?_⟩
      unfold Text.ranged? at hread
      split at hread
      · cases hread
      · have hhas := (Option.filter_eq_some_iff.1 hread).2
        exact (Page.has_i64_iff.1 hhas).2
    · rw [if_neg hi]
      exact hone

end Weblog
