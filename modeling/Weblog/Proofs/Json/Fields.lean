import Mathlib.Data.List.Induction
import Weblog.Json.Members
import Weblog.Json.Parser

/-!
# Weblog.Proofs.Json.Fields

Fields with their keys in order.

* `Sorted`: the keys ascend, so that none is repeated. Every field that is set keeps them so.
* `laid`: pairs that are laid over fields; `laid_ofList`: pairs that are collected first have the same
  effect.
* `Sorted.ext`: fields in order are the same if they have the same values under the same keys.
* `get?_ofList`: a list of pairs with distinct keys has the values of its fields.
* `get?_filterKeys`: what is left of fields when some keys are kept.
* `sorted_of_parse?`: the fields of an object that is read are in order.
* `required_readText_eq_some_iff`, `optional_readText_eq_some_iff`,
  `optional_readFloat_eq_some_iff`: which members are read as texts and numbers.
-/

namespace Weblog
namespace Fields

def Sorted (fs : Fields) : Prop := fs.keys.Pairwise (· < ·)

theorem sorted_nil : Sorted [] := List.Pairwise.nil

theorem sorted_cons {k : String} {v : Json} {rest : Fields} :
    Sorted ((k, v) :: rest) ↔ (∀ f ∈ rest, k < f.1) ∧ Sorted rest := by
  simp only [Sorted, keys, List.map_cons, List.pairwise_cons, List.mem_map]
  constructor
  · rintro ⟨h, hrest⟩
    exact ⟨fun f hf => h f.1 ⟨f, hf, rfl⟩, hrest⟩
  · rintro ⟨h, hrest⟩
    refine ⟨?_, hrest⟩
    rintro _ ⟨f, hf, rfl⟩
    exact h f hf

theorem mem_set {key : String} {value : Json} {fs : Fields} {f : String × Json}
    (h : f ∈ set key value fs) : f = (key, value) ∨ f ∈ fs := by
  induction fs with
  | nil => exact .inl (List.mem_singleton.1 h)
  | cons g rest ih =>
    obtain ⟨k, v⟩ := g
    rw [set] at h
    split at h
    · rcases List.mem_cons.1 h with rfl | h
      · exact .inl rfl
      · exact .inr (List.mem_cons_of_mem _ h)
    · split at h
      · rcases List.mem_cons.1 h with rfl | h
        · exact .inl rfl
        · exact .inr h
      · rcases List.mem_cons.1 h with rfl | h
        · exact .inr List.mem_cons_self
        · rcases ih h with rfl | h
          · exact .inl rfl
          · exact .inr (List.mem_cons_of_mem _ h)

theorem Sorted.set {fs : Fields} (h : Sorted fs) (key : String) (value : Json) :
    Sorted (fs.set key value) := by
  induction fs with
  | nil => simp [Fields.set, Sorted, keys]
  | cons g rest ih =>
    obtain ⟨k, v⟩ := g
    obtain ⟨hk, hrest⟩ := sorted_cons.1 h
    rw [Fields.set]
    split
    · rename_i heq
      subst heq
      exact sorted_cons.2 ⟨hk, hrest⟩
    · rename_i hne
      split
      · rename_i hlt
        refine sorted_cons.2 ⟨?_, h⟩
        intro f hf
        rcases List.mem_cons.1 hf with rfl | hf
        · exact hlt
        · exact String.lt_trans hlt (hk f hf)
      · rename_i hnlt
        have hlt : k < key := Std.lt_of_le_of_ne (String.not_lt.1 hnlt) hne
        refine sorted_cons.2 ⟨?_, ih hrest⟩
        intro f hf
        rcases mem_set hf with rfl | hf
        · exact hlt
        · exact hk f hf

theorem Sorted.setNew {fs : Fields} (h : Sorted fs) (key : String) (value : Json) :
    Sorted (fs.setNew key value) := by
  rw [Fields.setNew]
  split
  · exact h
  · exact h.set key value

theorem sorted_foldl {α : Type} {step : Fields → α → Fields}
    (hstep : ∀ fs x, Sorted fs → Sorted (step fs x)) (xs : List α) {fs : Fields} (h : Sorted fs) :
    Sorted (xs.foldl step fs) := by
  induction xs generalizing fs with
  | nil => exact h
  | cons x rest ih => exact ih (hstep fs x h)

/-- Pairs are laid over fields, one after another. -/
def laid (pairs : List (String × Json)) (fs : Fields) : Fields :=
  pairs.foldl (fun fs p => set p.1 p.2 fs) fs

theorem ofList_eq_laid (pairs : List (String × Json)) : ofList pairs = laid pairs [] := rfl

theorem laid_cons (p : String × Json) (pairs : List (String × Json)) (fs : Fields) :
    laid (p :: pairs) fs = laid pairs (set p.1 p.2 fs) := rfl

theorem laid_append_singleton (pairs : List (String × Json)) (p : String × Json) (fs : Fields) :
    laid (pairs ++ [p]) fs = set p.1 p.2 (laid pairs fs) := List.foldl_append

theorem Sorted.laid {fs : Fields} (h : Sorted fs) (pairs : List (String × Json)) :
    Sorted (laid pairs fs) :=
  sorted_foldl (fun _ p hgs => hgs.set p.1 p.2) pairs h

theorem sorted_ofList (pairs : List (String × Json)) : Sorted (ofList pairs) := sorted_nil.laid pairs

theorem mem_laid {pairs : List (String × Json)} {fs : Fields} {f : String × Json}
    (h : f ∈ laid pairs fs) : f ∈ fs ∨ f ∈ pairs := by
  induction pairs generalizing fs with
  | nil => exact .inl h
  | cons p rest ih =>
    rcases ih h with hset | hrest
    · rcases mem_set hset with rfl | hfs
      · exact .inr List.mem_cons_self
      · exact .inl hfs
    · exact .inr (List.mem_cons_of_mem _ hrest)

theorem mem_ofList {pairs : List (String × Json)} {f : String × Json} (h : f ∈ ofList pairs) :
    f ∈ pairs :=
  (mem_laid h).resolve_left List.not_mem_nil

theorem Sorted.filter {fs : Fields} (h : Sorted fs) (keep : String × Json → Bool) :
    Sorted (List.filter keep fs) := by
  have hsub : ((List.filter keep fs).map Prod.fst).Sublist (fs.map Prod.fst) :=
    (List.filter_sublist (p := keep)).map Prod.fst
  exact List.Pairwise.sublist hsub h

/-- A key before all others has no value. -/
theorem get?_eq_none_of_lt {key : String} {fs : Fields} (h : ∀ f ∈ fs, key < f.1) :
    get? key fs = none := by
  induction fs with
  | nil => rfl
  | cons g rest ih =>
    obtain ⟨k, v⟩ := g
    have hlt : key < k := h (k, v) List.mem_cons_self
    rw [get?_cons, if_neg (fun he => String.ne_of_lt hlt he.symm)]
    exact ih fun f hf => h f (List.mem_cons_of_mem _ hf)

/-- Fields in order are the same if they have the same values under the same keys. -/
theorem Sorted.ext {fs gs : Fields} (hf : Sorted fs) (hg : Sorted gs)
    (h : ∀ key, get? key fs = get? key gs) : fs = gs := by
  induction fs generalizing gs with
  | nil =>
    cases gs with
    | nil => rfl
    | cons g rest =>
      have hkey := h g.1
      rw [get?_nil, get?_cons, if_pos rfl] at hkey
      cases hkey
  | cons f fs ih =>
    obtain ⟨k, v⟩ := f
    obtain ⟨hk, hfs⟩ := sorted_cons.1 hf
    cases gs with
    | nil =>
      have hkey := h k
      rw [get?_nil, get?_cons, if_pos rfl] at hkey
      cases hkey
    | cons g gs =>
      obtain ⟨l, w⟩ := g
      obtain ⟨hl, hgs⟩ := sorted_cons.1 hg
      -- the least key of each side has a value on the other side, so they are one key
      have hkl : k = l := by
        rcases Decidable.em (k = l) with heq | hne
        · exact heq
        · rcases String.le_total k l with hle | hle
          · have hlt : k < l := Std.lt_of_le_of_ne hle hne
            have hkey := h k
            rw [get?_cons, if_pos rfl, get?_cons, if_neg (Ne.symm hne),
              get?_eq_none_of_lt fun f hf => String.lt_trans hlt (hl f hf)] at hkey
            cases hkey
          · have hlt : l < k := Std.lt_of_le_of_ne hle (Ne.symm hne)
            have hkey := h l
            rw [get?_cons, if_neg hne, get?_cons, if_pos rfl,
              get?_eq_none_of_lt fun f hf => String.lt_trans hlt (hk f hf)] at hkey
            cases hkey
      subst hkl
      have hvalue := h k
      rw [get?_cons, if_pos rfl, get?_cons, if_pos rfl] at hvalue
      cases hvalue
      congr 1
      refine ih hfs hgs ?_
      intro key
      by_cases heq : k = key
      · subst heq
        rw [get?_eq_none_of_lt hk, get?_eq_none_of_lt hl]
      · have hkey := h key
        rwa [get?_cons, if_neg heq, get?_cons, if_neg heq] at hkey

/-- Setting a key to the value that it has changes nothing. -/
theorem Sorted.set_eq_self {fs : Fields} (h : Sorted fs) {key : String} {value : Json}
    (hvalue : get? key fs = some value) : fs.set key value = fs := by
  refine (h.set key value).ext h fun other => ?_
  rw [get?_set]
  split
  · rename_i heq
    rw [heq, hvalue]
  · rfl

theorem get?_append (key : String) (fs gs : Fields) :
    get? key (fs ++ gs) = (get? key fs).or (get? key gs) := by
  induction fs with
  | nil => rfl
  | cons f rest ih =>
    obtain ⟨k, v⟩ := f
    rw [List.cons_append, get?_cons, get?_cons]
    split
    · rfl
    · exact ih

theorem get?_eq_none {key : String} {fs : Fields} (h : key ∉ fs.map Prod.fst) :
    get? key fs = none := by
  induction fs with
  | nil => rfl
  | cons f rest ih =>
    obtain ⟨k, v⟩ := f
    obtain ⟨hne, hrest⟩ := not_or.1 (mt List.mem_cons.2 h)
    rw [get?_cons, if_neg (Ne.symm hne), ih hrest]

theorem get?_of_mem {pairs : List (String × Json)} (h : (pairs.map Prod.fst).Nodup)
    {p : String × Json} (hp : p ∈ pairs) : get? p.1 pairs = some p.2 := by
  induction pairs with
  | nil => cases hp
  | cons q rest ih =>
    obtain ⟨k, v⟩ := q
    rw [List.map_cons, List.nodup_cons] at h
    rw [get?_cons]
    rcases List.mem_cons.1 hp with rfl | hp
    · exact if_pos rfl
    · have hmem : p.1 ∈ rest.map Prod.fst := List.mem_map_of_mem hp
      have hne : k ≠ p.1 := by
        rintro rfl
        exact h.1 hmem
      rw [if_neg hne]
      exact ih h.2 hp

/-- Fields that pairs are laid over have the values of the pairs, and their own under other keys. -/
theorem get?_laid (pairs : List (String × Json)) (fs : Fields) (key : String) :
    get? key (laid pairs fs) = (get? key (ofList pairs)).or (get? key fs) := by
  rw [ofList_eq_laid]
  induction pairs using List.reverseRecOn with
  | nil => rfl
  | append_singleton pairs p ih =>
    rw [laid_append_singleton, laid_append_singleton, get?_set, get?_set, ih]
    split <;> rfl

/-- A list of pairs with distinct keys has the values of its fields. -/
theorem get?_ofList {pairs : List (String × Json)} (h : (pairs.map Prod.fst).Nodup) (key : String) :
    get? key (ofList pairs) = get? key pairs := by
  induction pairs with
  | nil => rfl
  | cons p rest ih =>
    obtain ⟨k, v⟩ := p
    rw [List.map_cons, List.nodup_cons] at h
    rw [ofList_eq_laid, laid_cons, get?_laid, ih h.2, get?_cons, get?_set, get?_nil]
    by_cases heq : key = k
    · subst heq
      rw [if_pos rfl, if_pos rfl, get?_eq_none h.1, Option.none_or]
    · rw [if_neg heq, if_neg (Ne.symm heq), Option.or_none]

theorem Sorted.nodup {fs : Fields} (h : Sorted fs) : (fs.map Prod.fst).Nodup :=
  List.Pairwise.imp (fun hlt => String.ne_of_lt hlt) h

/-- Pairs that are collected first have the same effect. -/
theorem laid_ofList {fs : Fields} (h : Sorted fs) (pairs : List (String × Json)) :
    laid (ofList pairs) fs = laid pairs fs := by
  refine (h.laid _).ext (h.laid _) fun key => ?_
  rw [get?_laid, get?_laid, get?_ofList (sorted_ofList pairs).nodup]

theorem length_set_le (key : String) (value : Json) (fs : Fields) :
    (set key value fs).length ≤ fs.length + 1 := by
  induction fs with
  | nil => exact Nat.le_refl 1
  | cons f rest ih =>
    obtain ⟨k, v⟩ := f
    rw [set]
    split
    · exact Nat.le_succ _
    · split
      · exact Nat.le_refl _
      · exact Nat.succ_le_succ ih

theorem length_ofList_le (pairs : List (String × Json)) : (ofList pairs).length ≤ pairs.length := by
  rw [ofList_eq_laid]
  induction pairs using List.reverseRecOn with
  | nil => exact Nat.le_refl 0
  | append_singleton pairs p ih =>
    rw [laid_append_singleton, List.length_append, List.length_singleton]
    exact Nat.le_trans (length_set_le p.1 p.2 _) (Nat.succ_le_succ ih)

theorem perm_set {key : String} (value : Json) {fs : Fields} (h : key ∉ fs.map Prod.fst) :
    (set key value fs).Perm ((key, value) :: fs) := by
  induction fs with
  | nil => exact .refl _
  | cons f rest ih =>
    obtain ⟨k, v⟩ := f
    obtain ⟨hne, hrest⟩ := not_or.1 (mt List.mem_cons.2 h)
    rw [set, if_neg (Ne.symm hne)]
    split
    · exact .refl _
    · exact ((ih hrest).cons _).trans (.swap _ _ _)

/-- Pairs with distinct keys are the fields that are made of them, in another order. -/
theorem perm_ofList {pairs : List (String × Json)} (h : (pairs.map Prod.fst).Nodup) :
    (ofList pairs).Perm pairs := by
  rw [ofList_eq_laid]
  induction pairs using List.reverseRecOn with
  | nil => exact .refl _
  | append_singleton pairs p ih =>
    rw [List.map_append, List.nodup_append] at h
    obtain ⟨hpairs, -, hdisjoint⟩ := h
    have hperm := ih hpairs
    have hnew : p.1 ∉ (laid pairs []).map Prod.fst := by
      rw [(hperm.map Prod.fst).mem_iff]
      exact fun hmem => hdisjoint p.1 hmem p.1 (List.mem_singleton_self _) rfl
    rw [laid_append_singleton]
    exact (perm_set p.2 hnew).trans ((hperm.cons p).trans (List.perm_append_singleton p pairs).symm)

/-- What is left of fields when some keys are kept. -/
theorem get?_filterKeys (keep : String → Bool) (key : String) (fs : Fields) :
    get? key (List.filter (fun f => keep f.1) fs) = if keep key = true then get? key fs else none := by
  induction fs with
  | nil => simp
  | cons f rest ih =>
    obtain ⟨k, v⟩ := f
    rw [get?_cons]
    by_cases hk : keep k = true
    · rw [List.filter_cons_of_pos (by simpa using hk), get?_cons, ih]
      by_cases heq : k = key
      · subst heq
        simp [hk]
      · simp [heq]
    · rw [List.filter_cons_of_neg (by simpa using hk), ih]
      by_cases heq : k = key
      · subst heq
        simp [hk]
      · simp [heq]

theorem has_set (key other : String) (value : Json) (fs : Fields) :
    has other (set key value fs) = (decide (other = key) || has other fs) := by
  rw [has, get?_set]
  by_cases h : other = key
  · simp [h]
  · simp [h, has]

end Fields

namespace Json

theorem readWord_eq_some {word cs rest : List Char} {value v : Json}
    (h : readWord word value cs = some (v, rest)) : v = value := by
  unfold readWord at h
  split at h
  · cases h
    rfl
  · cases h

theorem exists_of_readItems {fuel depth : Nat} {done : List Json} {cs rest : List Char} {v : Json}
    (h : readItems fuel depth done cs = some (v, rest)) : ∃ items, v = .array items := by
  induction fuel generalizing depth done cs with
  | zero => simp [readItems] at h
  | succ fuel ih =>
    rw [readItems] at h
    split at h
    · cases h
    · split at h
      · exact ih h
      · cases h
        exact ⟨_, rfl⟩
      · cases h

/-- What is read of the fields of an object is an object whose fields are in order. -/
theorem exists_of_readFields {fuel depth : Nat} {done : Fields} {cs rest : List Char} {v : Json}
    (hdone : done.Sorted) (h : readFields fuel depth done cs = some (v, rest)) :
    ∃ fs : Fields, v = .object fs ∧ fs.Sorted := by
  induction fuel generalizing depth done cs with
  | zero => simp [readFields] at h
  | succ fuel ih =>
    rw [readFields.eq_def] at h
    simp only at h
    split at h
    · split at h
      · cases h
      · rename_i key _ _
        split at h
        · split at h
          · cases h
          · rename_i w _ _
            split at h
            · exact ih (hdone.set key w) h
            · cases h
              exact ⟨_, rfl, hdone.set key w⟩
            · cases h
        · cases h
    · cases h

theorem sorted_of_readValue {fuel depth : Nat} {cs rest : List Char} {fs : Fields}
    (h : readValue fuel depth cs = some (.object fs, rest)) : fs.Sorted := by
  cases fuel with
  | zero => simp [readValue] at h
  | succ fuel =>
    rw [readValue.eq_def] at h
    simp only at h
    split at h
    · cases h
    · simp at h
    · split at h
      · cases h
      · split at h
        · cases h
        · obtain ⟨items, hv⟩ := exists_of_readItems h
          cases hv
    · split at h
      · cases h
      · split at h
        · cases h
          exact Fields.sorted_nil
        · obtain ⟨gs, hv, hgs⟩ := exists_of_readFields Fields.sorted_nil h
          cases hv
          exact hgs
    · cases readWord_eq_some h
    · cases readWord_eq_some h
    · cases readWord_eq_some h
    · simp at h

theorem sorted_of_parse? {cs : List Char} {fs : Fields} (h : parse? cs = some (.object fs)) :
    fs.Sorted := by
  unfold parse? at h
  split at h
  · rename_i v rest hread
    split at h
    · cases h
      exact sorted_of_readValue hread
    · cases h
  · cases h

theorem sorted_of_parseBytes? {bytes : List UInt8} {fs : Fields}
    (h : parseBytes? bytes = some (.object fs)) : fs.Sorted := by
  obtain ⟨cs, -, hparse⟩ := Option.bind_eq_some_iff.1 h
  exact sorted_of_parse? hparse

/-! ## Members -/

variable {fs : Fields} {name : String}

theorem required_readText_eq_some_iff {s : String} :
    required readText fs name = some s ↔ Fields.get? name fs = some (.string s) := by
  rw [required]
  constructor
  · intro h
    obtain ⟨v, hget, hread⟩ := Option.bind_eq_some_iff.1 h
    cases v with
    | string t =>
      cases hread
      exact hget
    | _ => cases hread
  · intro h
    rw [h]
    rfl

theorem optional_readText_eq_some_iff {o : Option String} :
    optional readText fs name = some o ↔
      (Fields.get? name fs).getD .null = (o.map Json.string).getD .null := by
  rw [optional]
  cases Fields.get? name fs with
  | none => cases o <;> simp
  | some v => cases v <;> cases o <;> simp [readText]

theorem optional_readFloat_eq_some_iff {o : Option Binary64} :
    optional readFloat fs name = some o ↔
      ((Fields.get? name fs).getD .null = .null ∧ o = none) ∨
        ∃ n, Fields.get? name fs = some (.number n) ∧ o = some n.toFloat := by
  rw [optional]
  cases Fields.get? name fs with
  | none => simp [eq_comm]
  | some v => cases v <;> simp [readFloat, eq_comm]

end Json
end Weblog
