import Weblog.Route.Table

/-!
# Weblog.Proofs.Route.Table

Tables of routes and the paths that they are grouped by.

* `Route.Yields r e`: the checks of a route succeed and yield an entry.
* `Grouped t rs`: the paths are distinct, every entry of the table has its path among them, and the
  slot of a verb at a path holds the entry of the table with this verb and path.
* `grouped_resources`, `Grouped.reserve`: the paths of a table are grouped, also with further ones.
* `Filed`: the entries of a path stand in the slots of their own verbs.
* `withPath`: what an entry and a reservation do to the paths.
-/

namespace Weblog

def Entry.key (e : Entry) : Verb × String := (e.verb, e.path)

/-- The checks of a route succeed and yield an entry. -/
structure Route.Yields (r : Route) (e : Entry) : Prop where
  verb_eq : e.verb = r.verb
  inspected : r.signature.inspect r.pattern = .ok e.spec
  converted : Pattern.convert r.pattern = .ok e.path
  handler_eq : e.handler = r.handler

namespace RouteTable

theorem key_not_mem_of_nodup {t u : RouteTable} {e : Entry}
    (h : ((t ++ e :: u).map Entry.key).Nodup) : e.key ∉ t.map Entry.key := by
  intro hmem
  rw [List.map_append, List.nodup_append] at h
  exact h.2.2 _ hmem _ (List.mem_map_of_mem List.mem_cons_self) rfl

end RouteTable

namespace Resource

def slot (r : Resource) : Verb → Option Entry
  | .get => r.get
  | .post => r.post

theorem path_put (r : Resource) (e : Entry) : (r.put e).path = r.path := by
  rw [put]
  split <;> rfl

theorem slot_put_self (r : Resource) (e : Entry) : (r.put e).slot e.verb = some e := by
  rw [put]
  cases e.verb <;> rfl

theorem slot_put_of_ne (r : Resource) (e : Entry) {v : Verb} (h : v ≠ e.verb) :
    (r.put e).slot v = r.slot v := by
  rw [put]
  cases he : e.verb <;> cases v <;> first | rfl | exact absurd he.symm h

/-- Every path has the entries of the table in its slots, and no path stands twice. -/
structure Grouped (t : RouteTable) (rs : List Resource) : Prop where
  distinct : (rs.map path).Nodup
  covered : ∀ e ∈ t, e.path ∈ rs.map path
  slots : ∀ r ∈ rs, ∀ e : Entry, r.slot e.verb = some e ↔ e ∈ t ∧ e.path = r.path

/-- Paths with one that stands at the end unless it is among them. -/
def withPath (paths : List String) (p : String) : List String :=
  if p ∈ paths then paths else paths ++ [p]

theorem nodup_withPath {paths : List String} (h : paths.Nodup) (p : String) :
    (withPath paths p).Nodup := by
  rw [withPath]
  split
  · exact h
  · rename_i hnone
    rw [List.nodup_append]
    refine ⟨h, List.pairwise_singleton _ _, ?_⟩
    rintro q hq q' hq' rfl
    exact hnone (List.mem_singleton.1 hq' ▸ hq)

theorem mem_withPath {paths : List String} {p q : String} :
    q ∈ withPath paths p ↔ q ∈ paths ∨ q = p := by
  rw [withPath]
  split
  · rename_i hp
    constructor
    · exact .inl
    · rintro (hq | rfl)
      · exact hq
      · exact hp
  · rw [List.mem_append, List.mem_singleton]

theorem mem_foldl_withPath {ps paths : List String} {q : String} :
    q ∈ ps.foldl withPath paths ↔ q ∈ paths ∨ q ∈ ps := by
  induction ps generalizing paths with
  | nil => simp
  | cons p ps ih => rw [List.foldl_cons, ih, mem_withPath, List.mem_cons, or_assoc]

theorem map_path_insert (e : Entry) (rs : List Resource) :
    (insert e rs).map path = withPath (rs.map path) e.path := by
  rw [withPath]
  induction rs with
  | nil => simp [insert, path_put, ofPath]
  | cons r rest ih =>
    rw [insert]
    by_cases h : r.path = e.path
    · rw [if_pos h, List.map_cons, path_put, if_pos (by simp [h])]
      rfl
    · rw [if_neg h, List.map_cons, ih]
      have hne : e.path ≠ r.path := fun he => h he.symm
      by_cases hmem : e.path ∈ rest.map path
      · have hmem' : e.path ∈ (r :: rest).map path := List.mem_cons_of_mem r.path hmem
        rw [if_pos hmem, if_pos hmem']
        rfl
      · have hnone : e.path ∉ (r :: rest).map path := by
          rw [List.map_cons, List.mem_cons, not_or]
          exact ⟨hne, hmem⟩
        rw [if_neg hmem, if_neg hnone]
        rfl

theorem map_path_reserve (p : String) (rs : List Resource) :
    (Resource.reserve p rs).map path = withPath (rs.map path) p := by
  have hany : (rs.any fun r => r.path = p) = true ↔ p ∈ rs.map path := by
    rw [List.any_eq_true, List.mem_map]
    simp
  rw [Resource.reserve, withPath]
  by_cases h : p ∈ rs.map path
  · rw [if_pos h, if_pos (hany.2 h)]
  · rw [if_neg h, if_neg (mt hany.1 h), List.map_append]
    rfl

theorem map_path_resources (t : RouteTable) :
    t.resources.map path = (t.map Entry.path).foldl withPath [] := by
  have hfold : ∀ (t : RouteTable) (rs : List Resource),
      (t.foldl (fun rs e => Resource.insert e rs) rs).map path =
        (t.map Entry.path).foldl withPath (rs.map path) := by
    intro t
    induction t with
    | nil => exact fun rs => rfl
    | cons e t ih =>
      intro rs
      rw [List.foldl_cons, ih, map_path_insert]
      rfl
  exact hfold t []

/-- A path after an insert is the one that the entry was put into, or it was there before. -/
theorem of_mem_insert {e : Entry} {rs : List Resource} (hdistinct : (rs.map path).Nodup)
    {r : Resource} (h : r ∈ insert e rs) :
    (r.path = e.path ∧ (r = (ofPath e.path).put e ∧ e.path ∉ rs.map path ∨
        ∃ old ∈ rs, old.path = e.path ∧ r = old.put e)) ∨
      (r.path ≠ e.path ∧ r ∈ rs) := by
  induction rs with
  | nil =>
    obtain rfl := List.mem_singleton.1 h
    exact .inl ⟨path_put _ e, .inl ⟨rfl, by simp⟩⟩
  | cons s rest ih =>
    rw [List.map_cons, List.nodup_cons] at hdistinct
    rw [insert] at h
    by_cases hs : s.path = e.path
    · rw [if_pos hs] at h
      rcases List.mem_cons.1 h with rfl | h
      · exact .inl ⟨(path_put s e).trans hs, .inr ⟨s, List.mem_cons_self, hs, rfl⟩⟩
      · have hne : r.path ≠ e.path := by
          intro he
          exact hdistinct.1 (hs ▸ he ▸ List.mem_map_of_mem h)
        exact .inr ⟨hne, List.mem_cons_of_mem s h⟩
    · rw [if_neg hs] at h
      rcases List.mem_cons.1 h with rfl | h
      · exact .inr ⟨hs, List.mem_cons_self⟩
      · rcases ih hdistinct.2 h with ⟨hpath, hput⟩ | ⟨hne, hmem⟩
        · refine .inl ⟨hpath, ?_⟩
          rcases hput with ⟨rfl, hnone⟩ | ⟨old, hold, ho, rfl⟩
          · refine .inl ⟨rfl, ?_⟩
            rw [List.map_cons, List.mem_cons, not_or]
            exact ⟨fun he => hs he.symm, hnone⟩
          · exact .inr ⟨old, List.mem_cons_of_mem s hold, ho, rfl⟩
        · exact .inr ⟨hne, List.mem_cons_of_mem s hmem⟩

theorem Grouped.insert {t : RouteTable} {rs : List Resource} (h : Grouped t rs) {e : Entry}
    (hnew : e.key ∉ t.map Entry.key) : Grouped (t ++ [e]) (insert e rs) where
  distinct := by
    rw [map_path_insert]
    exact nodup_withPath h.distinct e.path
  covered := by
    intro f hf
    rw [map_path_insert, mem_withPath]
    rcases List.mem_append.1 hf with hf | hf
    · exact .inl (h.covered f hf)
    · exact .inr (congrArg Entry.path (List.mem_singleton.1 hf))
  slots := by
    intro r hr f
    rw [List.mem_append, List.mem_singleton]
    rcases of_mem_insert h.distinct hr with ⟨hpath, hput⟩ | ⟨hne, hmem⟩
    · have hbefore : (f ∈ t ∧ f.path = r.path) → f.verb ≠ e.verb := by
        rintro ⟨hf, hp⟩ hv
        exact hnew (by
          rw [Entry.key, ← hpath, ← hp, ← hv]
          exact List.mem_map_of_mem hf)
      have hother : f.verb ≠ e.verb → (r.slot f.verb = some f ↔ f ∈ t ∧ f.path = r.path) := by
        intro hv
        rcases hput with ⟨rfl, hnone⟩ | ⟨old, hold, ho, rfl⟩
        · rw [slot_put_of_ne _ e hv, path_put]
          constructor
          · intro hslot
            cases hverb : f.verb <;> rw [hverb] at hslot <;> cases hslot
          · rintro ⟨hf, hp⟩
            have hp : f.path = e.path := hp
            exact absurd (hp ▸ h.covered f hf) hnone
        · rw [slot_put_of_ne _ e hv, path_put]
          exact h.slots old hold f
      have hsame : f.verb = e.verb → (r.slot f.verb = some f ↔ f = e) := by
        intro hv
        have hslot : r.slot e.verb = some e := by
          rcases hput with ⟨rfl, -⟩ | ⟨old, -, -, rfl⟩
          · exact slot_put_self _ e
          · exact slot_put_self old e
        rw [hv, hslot, Option.some.injEq]
        exact eq_comm
      by_cases hv : f.verb = e.verb
      · rw [hsame hv]
        constructor
        · rintro rfl
          exact ⟨.inr rfl, hpath.symm⟩
        · rintro ⟨hf | rfl, hp⟩
          · exact absurd hv (hbefore ⟨hf, hp⟩)
          · rfl
      · rw [hother hv]
        constructor
        · rintro ⟨hf, hp⟩
          exact ⟨.inl hf, hp⟩
        · rintro ⟨hf | rfl, hp⟩
          · exact ⟨hf, hp⟩
          · exact absurd rfl hv
    · rw [h.slots r hmem f]
      constructor
      · rintro ⟨hf, hp⟩
        exact ⟨.inl hf, hp⟩
      · rintro ⟨hf | rfl, hp⟩
        · exact ⟨hf, hp⟩
        · exact absurd hp.symm hne

theorem Grouped.foldl {t : RouteTable} {rs : List Resource} (h : Grouped t rs) {u : RouteTable}
    (hdistinct : ((t ++ u).map Entry.key).Nodup) :
    Grouped (t ++ u) (u.foldl (fun rs e => Resource.insert e rs) rs) := by
  induction u generalizing t rs with
  | nil =>
    rw [List.append_nil]
    exact h
  | cons e u ih =>
    have hsplit : t ++ e :: u = (t ++ [e]) ++ u := by
      rw [List.append_assoc]
      rfl
    have hnew : e.key ∉ t.map Entry.key := RouteTable.key_not_mem_of_nodup hdistinct
    rw [hsplit] at hdistinct ⊢
    exact ih (h.insert hnew) hdistinct

/-- The paths of a table are grouped, if its verbs and paths are distinct. -/
theorem grouped_resources {t : RouteTable} (hdistinct : (t.map Entry.key).Nodup) :
    Grouped t t.resources := by
  have hnil : Grouped [] [] := ⟨List.nodup_nil, by simp, by simp⟩
  exact hnil.foldl hdistinct

/-- A path that is reserved has no entries of its own. -/
theorem Grouped.reserve {t : RouteTable} {rs : List Resource} (h : Grouped t rs) (p : String) :
    Grouped t (Resource.reserve p rs) where
  distinct := by
    rw [map_path_reserve]
    exact nodup_withPath h.distinct p
  covered := by
    intro e he
    rw [map_path_reserve, mem_withPath]
    exact .inl (h.covered e he)
  slots := by
    intro r hr e
    rw [Resource.reserve] at hr
    split at hr
    · exact h.slots r hr e
    · rename_i hany
      rcases List.mem_append.1 hr with hr | hr
      · exact h.slots r hr e
      · obtain rfl := List.mem_singleton.1 hr
        constructor
        · intro hslot
          cases hverb : e.verb <;> rw [hverb] at hslot <;> cases hslot
        · rintro ⟨he, hp⟩
          obtain ⟨r, hr, hrp⟩ := List.mem_map.1 (h.covered e he)
          have hsame : r.path = p := hrp.trans hp
          exact absurd (List.any_eq_true.2 ⟨r, hr, by simp [hsame]⟩) hany

/-- Every entry stands in the slot of its own verb. -/
def Filed (r : Resource) : Prop := ∀ v e, r.slot v = some e → e.verb = v

theorem filed_ofPath (p : String) : Filed (ofPath p) := by
  intro v e h
  cases v <;> cases h

theorem Filed.put {r : Resource} (h : Filed r) (e : Entry) : Filed (r.put e) := by
  intro v f hf
  by_cases hv : v = e.verb
  · subst hv
    rw [slot_put_self] at hf
    cases hf
    rfl
  · rw [slot_put_of_ne r e hv] at hf
    exact h v f hf

theorem filed_insert {rs : List Resource} (h : ∀ r ∈ rs, Filed r) (e : Entry) :
    ∀ r ∈ insert e rs, Filed r := by
  induction rs with
  | nil => exact List.forall_mem_singleton.2 ((filed_ofPath e.path).put e)
  | cons r rest ih =>
    obtain ⟨hr, hrest⟩ := List.forall_mem_cons.1 h
    rw [insert]
    split
    · exact List.forall_mem_cons.2 ⟨hr.put e, hrest⟩
    · exact List.forall_mem_cons.2 ⟨hr, ih hrest⟩

theorem filed_foldl {rs : List Resource} (h : ∀ r ∈ rs, Filed r) (t : RouteTable) :
    ∀ r ∈ t.foldl (fun rs e => insert e rs) rs, Filed r := by
  induction t generalizing rs with
  | nil => exact h
  | cons e t ih => exact ih (filed_insert h e)

theorem filed_reserve {rs : List Resource} (h : ∀ r ∈ rs, Filed r) (p : String) :
    ∀ r ∈ reserve p rs, Filed r := by
  rw [reserve]
  split
  · exact h
  · exact List.forall_mem_append.2 ⟨h, List.forall_mem_singleton.2 (filed_ofPath p)⟩

end Resource
end Weblog
