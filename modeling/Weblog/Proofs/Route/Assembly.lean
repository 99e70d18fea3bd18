import Weblog.Proofs.Route.Registry

/-!
# Weblog.Proofs.Route.Assembly

How the router gathers the paths of a table.

* `Assembly.Holds`: what is gathered are these paths in this order, each with its handlers.
* `holds_gather`: one entry, if the slot of its verb is free; `holds_foldlM`: all entries of a table
  in which no verb and path stands twice.
* `resources_eq`: the handlers are taken out again in the order of their paths.
* `Assembled`: the paths of a table in the order of their first entries, and what their slots hold.
* `assembled`: the table of every registry is assembled, and no slot is claimed twice.
-/

namespace Weblog
namespace Resource

variable {rs : List Resource} {e : Entry} {p q : String}

theorem at?_cons_self (r : Resource) (rs : List Resource) : at? r.path (r :: rs) = some r :=
  List.find?_cons_of_pos (by simp)

theorem at?_cons_of_ne {r : Resource} (h : r.path ≠ p) (rs : List Resource) :
    at? p (r :: rs) = at? p rs := List.find?_cons_of_neg (by simpa using h)

theorem at?_eq_none_iff : at? p rs = none ↔ p ∉ rs.map path := by
  simp [at?]

theorem of_at? {r : Resource} (h : at? p rs = some r) : r ∈ rs ∧ r.path = p :=
  ⟨List.mem_of_find?_eq_some h, by simpa using List.find?_some h⟩

theorem at?_filter_self : at? p (rs.filter fun r => r.path ≠ p) = none := by
  simp [at?]

theorem at?_filter_of_ne (h : p ≠ q) : at? p (rs.filter fun r => r.path ≠ q) = at? p rs := by
  rw [at?, at?, List.find?_filter]
  refine congrArg (List.find? · rs) ?_
  funext r
  by_cases hp : r.path = p
  · simp [hp, h]
  · simp [hp]

theorem at?_insert_self :
    at? e.path (insert e rs) = some (((at? e.path rs).getD (ofPath e.path)).put e) := by
  induction rs with
  | nil =>
    have hself := at?_cons_self ((ofPath e.path).put e) []
    rw [path_put] at hself
    exact hself
  | cons r rest ih =>
    rw [insert]
    by_cases h : r.path = e.path
    · have hpath : (r.put e).path = e.path := (path_put r e).trans h
      rw [if_pos h, ← hpath, at?_cons_self, hpath, ← h, at?_cons_self]
      rfl
    · rw [if_neg h, at?_cons_of_ne h, at?_cons_of_ne h, ih]

theorem at?_insert_of_ne (h : p ≠ e.path) : at? p (insert e rs) = at? p rs := by
  induction rs with
  | nil =>
    rw [insert]
    exact at?_cons_of_ne (path_put (ofPath e.path) e ▸ h.symm) []
  | cons r rest ih =>
    rw [insert]
    by_cases hr : r.path = e.path
    · rw [if_pos hr, at?_cons_of_ne (path_put r e ▸ hr ▸ h.symm), at?_cons_of_ne (hr ▸ h.symm)]
    · rw [if_neg hr]
      by_cases hp : r.path = p
      · rw [← hp, at?_cons_self, at?_cons_self]
      · rw [at?_cons_of_ne hp, at?_cons_of_ne hp, ih]

theorem put?_of_free {r : Resource} (h : r.slot e.verb = none) : r.put? e = some (r.put e) := by
  rw [put?]
  cases hv : e.verb <;> rw [hv] at h <;> simp_all [slot]

theorem resources_append_singleton (t : RouteTable) (e : Entry) :
    RouteTable.resources (t ++ [e]) = insert e t.resources := List.foldl_append

end Resource

namespace Assembly

open Resource

variable {a : Assembly} {rs : List Resource} {e : Entry}

/-- What is gathered are these paths in this order, and each leads to its handlers. -/
structure Holds (a : Assembly) (rs : List Resource) : Prop where
  order_eq : a.order = rs.map path
  at?_eq : ∀ p, at? p a.byPath = at? p rs

/-- The handlers that are put back are those that a path leads to, and the others stay. -/
theorem at?_put_back {r : Resource} {byPath : List Resource} (hpath : r.path = e.path)
    (hself : at? e.path (insert e rs) = some r) (h : ∀ p, at? p byPath = at? p rs) (p : String) :
    at? p (r :: byPath.filter fun s => s.path ≠ e.path) = at? p (insert e rs) := by
  by_cases hp : p = e.path
  · subst hp
    rw [hself, ← hpath, at?_cons_self]
  · rw [at?_cons_of_ne (hpath ▸ Ne.symm hp), at?_filter_of_ne hp, at?_insert_of_ne hp, h]

theorem gather?_of_new (hat : at? e.path a.byPath = none) :
    a.gather? e = some ⟨a.order ++ [e.path],
      (ofPath e.path).put e :: a.byPath.filter fun s => s.path ≠ e.path⟩ := by
  have hfree : (ofPath e.path).slot e.verb = none := by cases e.verb <;> rfl
  simp only [gather?, remove, hat, put?_of_free hfree, Option.map_some]

theorem gather?_of_free {r : Resource} (hat : at? e.path a.byPath = some r)
    (hfree : r.slot e.verb = none) :
    a.gather? e = some ⟨a.order, r.put e :: a.byPath.filter fun s => s.path ≠ e.path⟩ := by
  simp only [gather?, remove, hat, put?_of_free hfree, Option.map_some]

/-- One turn of the loop, if the slot of the entry is free. -/
theorem holds_gather (h : a.Holds rs)
    (hfree : ∀ r ∈ rs, r.path = e.path → r.slot e.verb = none) :
    ∃ a', a.gather? e = some a' ∧ a'.Holds (insert e rs) := by
  have hself : at? e.path (insert e rs) = some (((at? e.path rs).getD (ofPath e.path)).put e) :=
    at?_insert_self
  cases hat : at? e.path rs with
  | none =>
    rw [hat] at hself
    refine ⟨_, gather?_of_new ((h.at?_eq _).trans hat), ?_, ?_⟩
    · rw [map_path_insert, withPath, if_neg (at?_eq_none_iff.1 hat), h.order_eq]
    · exact at?_put_back (path_put _ e) hself h.at?_eq
  | some r =>
    obtain ⟨hr, hpath⟩ := of_at? hat
    rw [hat] at hself
    refine ⟨_, gather?_of_free ((h.at?_eq _).trans hat) (hfree r hr hpath), ?_, ?_⟩
    · have hmem : e.path ∈ rs.map path := hpath ▸ List.mem_map_of_mem hr
      rw [map_path_insert, withPath, if_pos hmem, h.order_eq]
    · exact at?_put_back ((path_put r e).trans hpath) hself h.at?_eq

/-- The slot of an entry is free before it, in a table where no verb and path stands twice. -/
theorem slot_eq_none {t u : RouteTable} (hdistinct : ((t ++ e :: u).map Entry.key).Nodup) :
    ∀ r ∈ t.resources, r.path = e.path → r.slot e.verb = none := by
  intro r hr hpath
  have hbefore : (t.map Entry.key).Nodup := by
    rw [List.map_append, List.nodup_append] at hdistinct
    exact hdistinct.1
  cases hslot : r.slot e.verb with
  | none => rfl
  | some f =>
    have hverb : f.verb = e.verb := filed_foldl (List.forall_mem_nil _) t r hr _ f hslot
    rw [← hverb] at hslot
    obtain ⟨hf, hsame⟩ := ((grouped_resources hbefore).slots r hr f).1 hslot
    have hkey : f.key = e.key := by rw [Entry.key, Entry.key, hverb, hsame, hpath]
    exact absurd (hkey ▸ List.mem_map_of_mem hf) (RouteTable.key_not_mem_of_nodup hdistinct)

/-- The whole loop, from any point of a table in which no verb and path stands twice. -/
theorem holds_foldlM {t u : RouteTable} (hdistinct : ((t ++ u).map Entry.key).Nodup)
    (h : a.Holds t.resources) :
    ∃ a', u.foldlM gather? a = some a' ∧ a'.Holds (RouteTable.resources (t ++ u)) := by
  induction u generalizing t a with
  | nil => exact ⟨a, rfl, by rwa [List.append_nil]⟩
  | cons e u ih =>
    obtain ⟨b, hb, hholds⟩ := holds_gather h (slot_eq_none hdistinct)
    rw [← resources_append_singleton] at hholds
    have hsplit : t ++ e :: u = (t ++ [e]) ++ u := by simp
    rw [hsplit] at hdistinct ⊢
    obtain ⟨c, hc, hlast⟩ := ih hdistinct hholds
    refine ⟨c, ?_, hlast⟩
    rw [List.foldlM_cons, hb]
    exact hc

theorem holds_nil : Holds {} (RouteTable.resources []) := ⟨rfl, fun _ => rfl⟩

/-- Handlers are taken out in the order of their paths. -/
theorem resources_eq {byPath : List Resource} (hdistinct : (rs.map path).Nodup)
    (h : ∀ p, at? p byPath = at? p rs) : resources (rs.map path) byPath = rs := by
  induction rs generalizing byPath with
  | nil => rfl
  | cons r rest ih =>
    obtain ⟨hnew, hrest⟩ := List.nodup_cons.1 hdistinct
    have hat : at? r.path byPath = some r := (h r.path).trans (at?_cons_self r rest)
    have hothers : ∀ p, at? p (byPath.filter fun s => s.path ≠ r.path) = at? p rest := by
      intro p
      by_cases hp : p = r.path
      · rw [hp, at?_filter_self, at?_eq_none_iff.2 hnew]
      · rw [at?_filter_of_ne hp, h, at?_cons_of_ne (Ne.symm hp)]
    rw [List.map_cons, resources]
    simp only [remove, hat]
    rw [ih hrest hothers]

end Assembly

/-- The paths of a table are assembled where no verb and path stands twice in it. -/
theorem RouteTable.assemble?_eq {t : RouteTable} (hdistinct : (t.map Entry.key).Nodup) :
    t.assemble? = some t.resources := by
  obtain ⟨a, ha, horder, hat⟩ :=
    Assembly.holds_foldlM (t := []) (u := t) hdistinct Assembly.holds_nil
  rw [assemble?, ha, Option.map_some, horder]
  exact congrArg some (Assembly.resources_eq (Resource.grouped_resources hdistinct).distinct hat)

/-! ## The paths of a table -/

theorem Resource.mem_foldl_withPath_nil {ps : List String} {q : String} :
    q ∈ ps.foldl withPath [] ↔ q ∈ ps :=
  mem_foldl_withPath.trans (or_iff_right List.not_mem_nil)

/-- Paths that are put together one by one stand in the order of their first occurrences. -/
theorem Resource.pairwise_withPath (ps : List String) :
    (ps.foldl withPath []).Pairwise fun p q => ps.idxOf p < ps.idxOf q := by
  induction ps using List.reverseRecOn with
  | nil => exact .nil
  | append_singleton ps x ih =>
    have hold : (ps.foldl withPath []).Pairwise fun p q =>
        (ps ++ [x]).idxOf p < (ps ++ [x]).idxOf q := by
      refine ih.imp_of_mem fun hp hq hlt => ?_
      rw [mem_foldl_withPath_nil] at hp hq
      rwa [List.idxOf_append_of_mem hp, List.idxOf_append_of_mem hq]
    rw [List.foldl_append, List.foldl_cons, List.foldl_nil, withPath]
    split
    · exact hold
    · next hnew =>
      rw [mem_foldl_withPath_nil] at hnew
      refine List.pairwise_append.2 ⟨hold, List.pairwise_singleton _ _, fun p hp q hq => ?_⟩
      rw [mem_foldl_withPath_nil] at hp
      obtain rfl := List.mem_singleton.1 hq
      rw [List.idxOf_append_of_mem hp, List.idxOf_append_of_notMem hnew]
      exact Nat.lt_of_lt_of_le (List.idxOf_lt_length_of_mem hp) (Nat.le_add_right _ _)

/-- The paths of a table with their handlers. -/
structure Assembled (t : RouteTable) (rs : List Resource) : Prop where
  /-- Every path stands there, -/
  mem_paths_iff : ∀ p, p ∈ rs.map Resource.path ↔ p ∈ t.map Entry.path
  /-- once, -/
  distinct : (rs.map Resource.path).Nodup
  /-- in the order of the first entry of each. -/
  ordered : (rs.map Resource.path).Pairwise fun p q =>
    (t.map Entry.path).idxOf p < (t.map Entry.path).idxOf q
  /-- A slot holds the entry of its verb and path, -/
  slot_eq_some_iff : ∀ r ∈ rs, ∀ v e, r.slot v = some e ↔ e ∈ t ∧ e.verb = v ∧ e.path = r.path
  /-- and nothing if there is none. -/
  slot_eq_none_iff : ∀ r ∈ rs, ∀ v, r.slot v = none ↔ ∀ e ∈ t, e.path = r.path → e.verb ≠ v

/-- The paths of a table where no verb and path stands twice. -/
theorem RouteTable.assembled_resources {t : RouteTable} (hdistinct : (t.map Entry.key).Nodup) :
    Assembled t t.resources := by
  have hgrouped := Resource.grouped_resources hdistinct
  have hfiled := Resource.filed_foldl (List.forall_mem_nil _) t
  have hslot : ∀ r ∈ t.resources, ∀ v e,
      r.slot v = some e ↔ e ∈ t ∧ e.verb = v ∧ e.path = r.path := by
    intro r hr v e
    constructor
    · intro h
      obtain rfl := hfiled r hr v e h
      obtain ⟨he, hpath⟩ := (hgrouped.slots r hr e).1 h
      exact ⟨he, rfl, hpath⟩
    · rintro ⟨he, rfl, hpath⟩
      exact (hgrouped.slots r hr e).2 ⟨he, hpath⟩
  refine ⟨fun p => ?_, hgrouped.distinct, ?_, hslot, fun r hr v => ?_⟩
  · rw [Resource.map_path_resources, Resource.mem_foldl_withPath_nil]
  · rw [Resource.map_path_resources]
    exact Resource.pairwise_withPath _
  · rw [Option.eq_none_iff_forall_ne_some]
    constructor
    · rintro hnone e he hpath rfl
      exact hnone e ((hslot r hr _ e).2 ⟨he, rfl, hpath⟩)
    · intro hnone e h
      obtain ⟨he, hverb, hpath⟩ := (hslot r hr v e).1 h
      exact hnone e he hpath hverb

/-- The table of every registry is assembled, however the routes of a path are interleaved with
others: at the turn of an entry the slot of its verb is free in the handlers that its path leads
to. -/
theorem Registry.assembled (declared : List Route) :
    ∃ rs, (empty.after declared).entries.assemble? = some rs ∧
      Assembled (empty.after declared).entries rs ∧
      ∀ before e rest, (empty.after declared).entries = before ++ e :: rest →
        ∃ a : Assembly, before.foldlM Assembly.gather? {} = some a ∧
          ∀ r, Resource.at? e.path a.byPath = some r → r.slot e.verb = none := by
  have hdistinct := (coherent_empty.after declared).distinct
  refine ⟨_, RouteTable.assemble?_eq hdistinct, RouteTable.assembled_resources hdistinct, ?_⟩
  intro before e rest hsplit
  rw [hsplit] at hdistinct
  have hbefore : (before.map Entry.key).Nodup := by
    rw [List.map_append] at hdistinct
    exact (List.nodup_append.1 hdistinct).1
  obtain ⟨a, ha, -, hat⟩ := Assembly.holds_foldlM (t := []) hbefore Assembly.holds_nil
  refine ⟨a, ha, fun r hr => ?_⟩
  obtain ⟨hr, hpath⟩ := Resource.of_at? ((hat e.path).symm.trans hr)
  exact Assembly.slot_eq_none hdistinct r hr hpath

end Weblog
