import Mathlib.Data.List.Forall2
import Mathlib.Data.List.Induction
import Mathlib.Data.List.Nodup
import Weblog.Proofs.Route.Table
import Weblog.Route.Registry

/-!
# Weblog.Proofs.Route.Registry

How registration keeps the entries and what is taken in step.

* `Registry.Coherent`: what is taken are the verbs and paths of the entries, each once.
* `Registry.Adds`: what comes of one route; `adds_add`: no more and no less comes of it.
* `Registry.after`: the registry after routes, accepted or not.
* `Registry.Selects`: the entries are those of the routes that are first of their verb and path.
* `Registry.AddsAll`: what comes of routes that are added up to the first that is refused.
* `consistent_after`: all of this after every sequence of routes.
* `RouteTable.registered_ofRoutes`, `RouteTable.ofRoutes_eq`: what the table of registered routes
  holds.
-/

namespace Weblog

theorem Route.Yields.unique {r : Route} {e e' : Entry} (h : r.Yields e) (h' : r.Yields e') :
    e = e' := by
  obtain ⟨verb, path, spec, handler⟩ := e
  obtain ⟨verb', path', spec', handler'⟩ := e'
  obtain rfl : verb = verb' := h.verb_eq.trans h'.verb_eq.symm
  obtain rfl : handler = handler' := h.handler_eq.trans h'.handler_eq.symm
  cases h.inspected.symm.trans h'.inspected
  cases h.converted.symm.trans h'.converted
  rfl

namespace Registry

variable {g : Registry} {r : Route}

/-- What is taken are the verbs and paths of the entries, and no two of these are the same. -/
structure Coherent (g : Registry) : Prop where
  mem_taken_iff : ∀ key, key ∈ g.taken ↔ key ∈ g.entries.map Entry.key
  distinct : (g.entries.map Entry.key).Nodup

theorem coherent_empty : empty.Coherent := ⟨fun _ => Iff.rfl, List.nodup_nil⟩

/-! ## One route -/

/-- What comes of a route. A fault of its parameters is reported before one of its pattern, and this
before a verb and path that an entry has already; then nothing is changed. -/
inductive Adds (g : Registry) (r : Route) : Registry × Except RouteError Unit → Prop where
  | misplaced {err : RouteError} : r.signature.inspect r.pattern = .error err →
      Adds g r (g, .error err)
  | malformed {spec : ArgSpec} {err : RouteError} : r.signature.inspect r.pattern = .ok spec →
      Pattern.convert r.pattern = .error err → Adds g r (g, .error err)
  | duplicate {e : Entry} : r.Yields e → e.key ∈ g.entries.map Entry.key →
      Adds g r (g, .error (.duplicateRoute r.verb.text r.pattern))
  | accepted {e : Entry} : r.Yields e → e.key ∉ g.entries.map Entry.key →
      Adds g r (⟨g.entries ++ [e], e.key :: g.taken⟩, .ok ())

/-- One step of registration. -/
theorem adds_add (h : g.Coherent) (r : Route) : Adds g r (g.add r) := by
  rw [add]
  cases hspec : r.signature.inspect r.pattern with
  | error err => exact .misplaced hspec
  | ok spec =>
    cases hpath : Pattern.convert r.pattern with
    | error err => exact .malformed hspec hpath
    | ok path =>
      have hyields : r.Yields ⟨r.verb, path, spec, r.handler⟩ := ⟨rfl, hspec, hpath, rfl⟩
      by_cases htaken : (r.verb, path) ∈ g.taken
      · simp only [take, if_pos htaken]
        exact .duplicate hyields ((h.mem_taken_iff _).1 htaken)
      · simp only [take, if_neg htaken]
        exact .accepted hyields (mt (h.mem_taken_iff _).2 htaken)

theorem Coherent.add (h : g.Coherent) (r : Route) : (g.add r).1.Coherent := by
  have hadds := adds_add h r
  generalize g.add r = out at hadds ⊢
  cases hadds with
  | misplaced => exact h
  | malformed => exact h
  | duplicate => exact h
  | @accepted e hyields hnew =>
    constructor
    · intro key
      simp [h.mem_taken_iff key, or_comm]
    · rw [List.map_append, List.map_singleton, ← List.concat_eq_append]
      exact h.distinct.concat hnew

/-! ## Routes one after the other -/

/-- The registry after routes, whether they were accepted or not. -/
def after (g : Registry) (declared : List Route) : Registry :=
  declared.foldl (fun g r => (g.add r).1) g

theorem after_append_singleton (g : Registry) (declared : List Route) (r : Route) :
    g.after (declared ++ [r]) = ((g.after declared).add r).1 := List.foldl_append

theorem Coherent.after (h : g.Coherent) (declared : List Route) : (g.after declared).Coherent := by
  induction declared generalizing g with
  | nil => exact h
  | cons r rest ih => exact ih (h.add r)

/-- The entries are those of declared routes, in their order: the one at a position is picked
exactly if its checks succeed and none that is picked before it has its verb and path. -/
structure Selects (declared : List Route) (picked : List (Nat × Entry)) (entries : RouteTable) :
    Prop where
  entries_eq : picked.map Prod.snd = entries
  ascending : (picked.map Prod.fst).Pairwise (· < ·)
  mem_iff : ∀ i e, (i, e) ∈ picked ↔ ∃ r, declared[i]? = some r ∧ r.Yields e ∧
    ∀ p ∈ picked, p.1 < i → p.2.key ≠ e.key

theorem Selects.lt_length {declared : List Route} {picked : List (Nat × Entry)}
    {entries : RouteTable} (h : Selects declared picked entries) {p : Nat × Entry}
    (hp : p ∈ picked) : p.1 < declared.length := by
  obtain ⟨r, hr, -⟩ := (h.mem_iff p.1 p.2).1 hp
  exact (List.getElem?_eq_some_iff.1 hr).1

theorem getElem?_append_singleton_iff {declared : List Route} {r r' : Route} {i : Nat} :
    (declared ++ [r])[i]? = some r' ↔
      declared[i]? = some r' ∨ i = declared.length ∧ r = r' := by
  rw [List.getElem?_append]
  split
  · next hlt => simp [Nat.ne_of_lt hlt]
  · next hge =>
    have hnone : declared[i]? = none := List.getElem?_eq_none (Nat.le_of_not_lt hge)
    rw [hnone, List.getElem?_singleton]
    split
    · next hzero =>
      have hi : i = declared.length := by omega
      simp [hi]
    · next hzero =>
      have hi : i ≠ declared.length := by omega
      simp [hi]

/-- A route that is refused is not picked. -/
theorem Selects.refused {declared : List Route} {picked : List (Nat × Entry)}
    {entries : RouteTable} (h : Selects declared picked entries)
    (hr : ∀ e, r.Yields e → e.key ∈ entries.map Entry.key) :
    Selects (declared ++ [r]) picked entries := by
  refine ⟨h.entries_eq, h.ascending, fun i e => ?_⟩
  rw [h.mem_iff]
  constructor
  · rintro ⟨r', hr', hyields⟩
    exact ⟨r', getElem?_append_singleton_iff.2 (.inl hr'), hyields⟩
  · rintro ⟨r', hr', hyields, hfirst⟩
    rcases getElem?_append_singleton_iff.1 hr' with hr' | ⟨rfl, rfl⟩
    · exact ⟨r', hr', hyields, hfirst⟩
    · have hkey := hr e hyields
      rw [← h.entries_eq, List.map_map] at hkey
      obtain ⟨p, hp, hsame⟩ := List.mem_map.1 hkey
      exact absurd hsame (hfirst p hp (h.lt_length hp))

/-- A route that is accepted is picked last. -/
theorem Selects.accepted {declared : List Route} {picked : List (Nat × Entry)}
    {entries : RouteTable} (h : Selects declared picked entries) {e : Entry} (hyields : r.Yields e)
    (hnew : e.key ∉ entries.map Entry.key) :
    Selects (declared ++ [r]) (picked ++ [(declared.length, e)]) (entries ++ [e]) where
  entries_eq := by rw [List.map_append, h.entries_eq, List.map_singleton]
  ascending := by
    rw [List.map_append, List.pairwise_append]
    refine ⟨h.ascending, List.pairwise_singleton _ _, ?_⟩
    intro i hi j hj
    obtain ⟨p, hp, rfl⟩ := List.mem_map.1 hi
    obtain rfl := List.mem_singleton.1 hj
    exact h.lt_length hp
  mem_iff := by
    intro i e'
    rw [List.mem_append, h.mem_iff, List.mem_singleton]
    constructor
    · rintro (⟨r', hr', hyields', hfirst⟩ | hlast)
      · have hlt : i < declared.length := (List.getElem?_eq_some_iff.1 hr').1
        refine ⟨r', getElem?_append_singleton_iff.2 (.inl hr'), hyields', ?_⟩
        refine List.forall_mem_append.2 ⟨hfirst, List.forall_mem_singleton.2 fun hbefore => ?_⟩
        exact absurd hbefore (Nat.lt_asymm hlt)
      · cases hlast
        refine ⟨r, getElem?_append_singleton_iff.2 (.inr ⟨rfl, rfl⟩), hyields, ?_⟩
        refine List.forall_mem_append.2 ⟨fun p hp _ hsame => hnew ?_, ?_⟩
        · rw [← hsame, ← h.entries_eq]
          exact List.mem_map_of_mem (List.mem_map_of_mem hp)
        · exact List.forall_mem_singleton.2 fun hbefore => absurd hbefore (Nat.lt_irrefl _)
    · rintro ⟨r', hr', hyields', hfirst⟩
      obtain ⟨hfirst, -⟩ := List.forall_mem_append.1 hfirst
      rcases getElem?_append_singleton_iff.1 hr' with hr' | ⟨rfl, rfl⟩
      · exact .inl ⟨r', hr', hyields', hfirst⟩
      · obtain rfl := hyields.unique hyields'
        exact .inr rfl

/-- The entries after routes are those that are first of their verb and path. -/
theorem exists_selects_after (declared : List Route) :
    ∃ picked, Selects declared picked (empty.after declared).entries := by
  induction declared using List.reverseRecOn with
  | nil => exact ⟨[], rfl, .nil, fun i e => by simp⟩
  | append_singleton declared r ih =>
    obtain ⟨picked, hpicked⟩ := ih
    have hadds := adds_add (coherent_empty.after declared) r
    rw [after_append_singleton]
    generalize (empty.after declared).add r = out at hadds ⊢
    cases hadds with
    | misplaced hfault =>
      refine ⟨picked, hpicked.refused fun e he => ?_⟩
      cases hfault.symm.trans he.inspected
    | malformed _ hfault =>
      refine ⟨picked, hpicked.refused fun e he => ?_⟩
      cases hfault.symm.trans he.converted
    | duplicate hyields htaken =>
      exact ⟨picked, hpicked.refused fun e he => hyields.unique he ▸ htaken⟩
    | accepted hyields hnew => exact ⟨_, hpicked.accepted hyields hnew⟩

/-! ## Routes up to the first that is refused -/

/-- All of these routes are registered, each with its entry behind the others. -/
def Accepts (g : Registry) (rs : List Route) : Prop :=
  ∃ es, List.Forall₂ Route.Yields rs es ∧ (g.after rs).entries = g.entries ++ es

/-- What comes of routes that are added up to the first that is refused: its error, and the registry
with all before it. -/
inductive AddsAll (g : Registry) (rs : List Route) : Registry × Except RouteError Unit → Prop where
  | all : g.Accepts rs → AddsAll g rs (g.after rs, .ok ())
  | stopped {before : List Route} {r : Route} {rest : List Route} {err : RouteError} :
      rs = before ++ r :: rest → g.Accepts before →
      (g.after before).add r = (g.after before, .error err) →
      AddsAll g rs (g.after before, .error err)

theorem accepts_nil (g : Registry) : g.Accepts [] := ⟨[], .nil, (List.append_nil _).symm⟩

theorem after_cons {g' : Registry} (hadd : g.add r = (g', .ok ())) (rs : List Route) :
    g.after (r :: rs) = g'.after rs := by
  rw [after, List.foldl_cons, hadd, after]

theorem Accepts.cons {g' : Registry} {e : Entry} {rs : List Route} (h : g'.Accepts rs)
    (hadd : g.add r = (g', .ok ())) (hyields : r.Yields e)
    (hentries : g'.entries = g.entries ++ [e]) : g.Accepts (r :: rs) := by
  obtain ⟨es, hes, hafter⟩ := h
  refine ⟨e :: es, .cons hyields hes, ?_⟩
  rw [after_cons hadd, hafter, hentries, List.append_assoc, List.singleton_append]

/-- A route that is accepted stands before those that come after it. -/
theorem AddsAll.cons {g' : Registry} {e : Entry} {rs : List Route}
    {out : Registry × Except RouteError Unit} (h : AddsAll g' rs out)
    (hadd : g.add r = (g', .ok ())) (hyields : r.Yields e)
    (hentries : g'.entries = g.entries ++ [e]) : AddsAll g (r :: rs) out := by
  cases h with
  | all haccepts =>
    rw [← after_cons hadd]
    exact .all (haccepts.cons hadd hyields hentries)
  | stopped hsplit haccepts hrefused =>
    rw [← after_cons hadd] at hrefused ⊢
    exact .stopped (congrArg (r :: ·) hsplit) (haccepts.cons hadd hyields hentries) hrefused

/-- The first of the routes is refused. -/
theorem AddsAll.refused {rest : List Route} {err : RouteError}
    (hadd : g.add r = (g, .error err)) : AddsAll g (r :: rest) (g, .error err) := by
  have hsplit : r :: rest = [] ++ r :: rest := rfl
  exact .stopped hsplit (accepts_nil g) hadd

theorem addsAll_addAll (h : g.Coherent) (rs : List Route) : AddsAll g rs (g.addAll rs) := by
  induction rs generalizing g with
  | nil => exact .all (accepts_nil g)
  | cons r rest ih =>
    have hadds := adds_add h r
    have hcoherent := h.add r
    rw [addAll]
    generalize hadd : g.add r = out at hadds hcoherent ⊢
    cases hadds with
    | misplaced => exact .refused hadd
    | malformed => exact .refused hadd
    | duplicate => exact .refused hadd
    | accepted hyields => exact (ih hcoherent).cons hadd hyields rfl

/-- Of routes that are added up to the first that is refused, the ones at the beginning are. -/
theorem exists_after_addAll (h : g.Coherent) (rs : List Route) :
    ∃ before, before ⊆ rs ∧ (g.addAll rs).1 = g.after before := by
  have hadds := addsAll_addAll h rs
  generalize g.addAll rs = out at hadds ⊢
  cases hadds with
  | all _ => exact ⟨rs, List.Subset.refl rs, rfl⟩
  | @stopped before _ _ _ hsplit _ _ =>
    exact ⟨before, hsplit ▸ List.subset_append_left before _, rfl⟩

/-- A route whose checks succeed is registered, if no entry has its verb and path. -/
theorem add_eq_of_yields (h : g.Coherent) {e : Entry} (hyields : r.Yields e)
    (hnew : e.key ∉ g.entries.map Entry.key) :
    g.add r = (⟨g.entries ++ [e], e.key :: g.taken⟩, .ok ()) := by
  have hadds := adds_add h r
  generalize g.add r = out at hadds ⊢
  cases hadds with
  | misplaced hfault => cases hfault.symm.trans hyields.inspected
  | malformed _ hfault => cases hfault.symm.trans hyields.converted
  | duplicate hyields' htaken => exact absurd (hyields.unique hyields' ▸ htaken) hnew
  | accepted hyields' _ => rw [hyields.unique hyields']

/-- Routes whose checks succeed are all registered, if their verbs and paths are distinct. -/
theorem entries_addAll (h : g.Coherent) {rs : List Route} {entry : Route → Entry}
    (hyields : ∀ r ∈ rs, r.Yields (entry r))
    (hdistinct : ((g.entries ++ rs.map entry).map Entry.key).Nodup) :
    (g.addAll rs).1.entries = g.entries ++ rs.map entry := by
  induction rs generalizing g with
  | nil => rw [addAll, List.map_nil, List.append_nil]
  | cons r rest ih =>
    obtain ⟨hr, hrest⟩ := List.forall_mem_cons.1 hyields
    have hadd := add_eq_of_yields h hr (RouteTable.key_not_mem_of_nodup hdistinct)
    have hcoherent := h.add r
    rw [hadd] at hcoherent
    rw [List.map_cons, List.append_cons] at hdistinct ⊢
    rw [addAll, hadd]
    exact ih hcoherent hrest hdistinct

/-- After every sequence of routes, accepted or not: the entries are those of the routes whose
checks succeed and that are first of their verb and path, in order, and what is taken are their verbs
and paths. Each further route is registered, or is refused for the first of its faults and changes
nothing; routes that are added together are registered up to the first that is refused. -/
theorem consistent_after (declared : List Route) :
    (∃ picked, Selects declared picked (empty.after declared).entries) ∧
    (empty.after declared).Coherent ∧
    (∀ r, Adds (empty.after declared) r ((empty.after declared).add r)) ∧
    ∀ rs, AddsAll (empty.after declared) rs ((empty.after declared).addAll rs) :=
  have hcoherent := coherent_empty.after declared
  ⟨exists_selects_after declared, hcoherent, adds_add hcoherent, addsAll_addAll hcoherent⟩

end Registry

namespace RouteTable

open Registry

/-- Registration leaves entries of declared routes, each verb and path once. -/
theorem registered_ofRoutes (declared : List Route) :
    ((ofRoutes declared).map Entry.key).Nodup ∧
      ∀ e ∈ ofRoutes declared, ∃ r ∈ declared, r.Yields e := by
  obtain ⟨before, hbefore, hafter⟩ := exists_after_addAll coherent_empty declared
  rw [ofRoutes, hafter]
  refine ⟨(coherent_empty.after before).distinct, fun e he => ?_⟩
  obtain ⟨picked, hpicked⟩ := exists_selects_after before
  rw [← hpicked.entries_eq] at he
  obtain ⟨⟨i, e⟩, hmem, rfl⟩ := List.mem_map.1 he
  obtain ⟨r, hr, hyields, -⟩ := (hpicked.mem_iff i e).1 hmem
  exact ⟨r, hbefore (List.mem_of_getElem? hr), hyields⟩

/-- Routes whose checks succeed are all in the table, if their verbs and paths are distinct. -/
theorem ofRoutes_eq {rs : List Route} {entry : Route → Entry}
    (hyields : ∀ r ∈ rs, r.Yields (entry r)) (hdistinct : ((rs.map entry).map Entry.key).Nodup) :
    ofRoutes rs = rs.map entry :=
  entries_addAll coherent_empty hyields hdistinct

end RouteTable
end Weblog
