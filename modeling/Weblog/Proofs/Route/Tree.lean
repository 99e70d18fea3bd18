import Weblog.Route.Tree

/-!
# Weblog.Proofs.Route.Tree

How a path is looked up does not depend on what the paths lead to.

* `Branch.map`, `Walk.map`: a tree, and what a walk comes to, with other values in the same places.
* `walk_map`, `find?_map`: looking up in the one and looking up in the other correspond, so that a
  lookup may be computed over plain labels.
-/

namespace Weblog

variable {α β : Type}

namespace Walk

/-- What a walk comes to, with another value. -/
def map (f : α → β) : Walk α → Walk β
  | .found value captured => .found (f value) captured
  | .lost => .lost
  | .ended => .ended

theorem map_lostAt (f : α → β) (left : List Char) : (lostAt left : Walk α).map f = lostAt left := by
  rw [lostAt, lostAt]
  split <;> rfl

theorem map_capture (f : α → β) (captured : List Char) (w : Walk α) :
    (w.capture captured).map f = (w.map f).capture captured := by
  cases w <;> rfl

theorem map_orElse (f : α → β) (first : Walk α) (next : Unit → Walk α) :
    (first.orElse next).map f = (first.map f).orElse fun u => (next u).map f := by
  cases first <;> rfl

end Walk

namespace Branch

def map (f : α → β) (b : Branch α) : Branch β := ⟨b.left, f b.value⟩

variable (f : α → β)

theorem here?_map (bs : List (Branch α)) : here? (bs.map (map f)) = (here? bs).map f := by
  rw [here?, here?, List.find?_map, Option.map_map, Option.map_map]
  rfl

theorem rest?_map (bs : List (Branch α)) : rest? (bs.map (map f)) = (rest? bs).map f := by
  rw [rest?, rest?, List.find?_map, Option.map_map, Option.map_map]
  rfl

theorem past?_map (c : Char) (b : Branch α) : past? c (map f b) = (past? c b).map (map f) := by
  obtain ⟨left, value⟩ := b
  cases left with
  | nil => rfl
  | cons part left =>
    cases part with
    | char d =>
      simp only [past?, map]
      split <;> rfl
    | param name => rfl
    | rest name => rfl

theorem past_map (c : Char) (bs : List (Branch α)) :
    past c (bs.map (map f)) = (past c bs).map (map f) := by
  rw [past, past, List.filterMap_map, List.map_filterMap]
  refine congrArg (List.filterMap · bs) ?_
  funext b
  exact past?_map f c b

theorem pastParam_map (bs : List (Branch α)) :
    pastParam (bs.map (map f)) = (pastParam bs).map (map f) := by
  rw [pastParam, pastParam, List.filterMap_map, List.map_filterMap]
  refine congrArg (List.filterMap · bs) ?_
  funext b
  obtain ⟨left, value⟩ := b
  cases left with
  | nil => rfl
  | cons part left => cases part <;> rfl

theorem shared_map (left : List PathPart) (bs : List (Branch α)) :
    shared left (bs.map (map f)) = ((shared left bs).1, (shared left bs).2.map (map f)) := by
  induction left generalizing bs with
  | nil => rfl
  | cons part left ih =>
    cases part with
    | char c =>
      have hall : ((bs.map (map f)).all fun b => (past? c b).isSome) =
          bs.all fun b => (past? c b).isSome := by
        rw [List.all_map]
        refine congrArg bs.all ?_
        funext b
        simp [past?_map]
      rw [shared, shared, hall]
      split
      · rw [past_map, ih]
      · rfl
    | param name => rfl
    | rest name => rfl

theorem run_map (bs : List (Branch α)) :
    run (bs.map (map f)) = ((run bs).1, (run bs).2.map (map f)) := by
  cases bs with
  | nil => rfl
  | cons b bs => exact shared_map f b.left (b :: bs)

theorem partsAtOnce_map (bs : List (Branch α)) :
    partsAtOnce (bs.map (map f)) = partsAtOnce bs := by
  rw [partsAtOnce, run_map, partsAtOnce]

theorem endsInSlash_map (bs : List (Branch α)) :
    endsInSlash (bs.map (map f)) = endsInSlash bs := by
  rw [endsInSlash, past_map, partsAtOnce_map, here?_map, Option.isSome_map, endsInSlash]

theorem extraSlash_map (left : List Char) (before next : List (Branch α)) :
    extraSlash left (before.map (map f)) (next.map (map f)) = extraSlash left before next := by
  rw [extraSlash, here?_map, Option.isSome_map, partsAtOnce_map, extraSlash]

theorem atEnd_map (bs : List (Branch α)) (passed : List Char) :
    atEnd (bs.map (map f)) passed = (atEnd bs passed).map f := by
  rw [atEnd, here?_map, atEnd]
  cases here? bs with
  | none => exact (Walk.map_lostAt f passed).symm
  | some value => rfl

theorem atParamEnd_map (bs : List (Branch α)) (captured : List Char) :
    atParamEnd (bs.map (map f)) captured = (atParamEnd bs captured).map f := by
  rw [atParamEnd, here?_map, endsInSlash_map, atParamEnd]
  cases here? bs with
  | some value => rfl
  | none =>
    simp only [Option.map_none]
    split <;> rfl

/-- A walk comes to the same place whatever the values are. -/
theorem walk_map (bs : List (Branch α)) (c : Char) (cs : List Char) :
    walk (bs.map (map f)) c cs = (walk bs c cs).map f := by
  induction hn : cs.length using Nat.strongRecOn generalizing bs c cs with
  | ind n ih =>
    subst hn
    rw [walk, walk, run_map]
    simp only
    split
    · split
      · exact atEnd_map f (run bs).2 (c :: cs)
      · rename_i d ds hdrop
        have hlength : (d :: ds).length ≤ cs.length := by
          rw [← hdrop, List.length_drop]
          omega
        rw [Walk.map_orElse]
        congr 1
        · rw [past_map, extraSlash_map, List.isEmpty_map]
          split
          · rfl
          · split
            · rfl
            · exact ih ds.length hlength _ d ds rfl
        · funext _
          rw [rest?_map]
          cases rest? (run bs).2 with
          | some value => rfl
          | none =>
            simp only [Option.map_none]
            rw [pastParam_map, List.isEmpty_map]
            split
            · exact (Walk.map_lostAt f _).symm
            · split
              · exact atParamEnd_map f _ _
              · rename_i captured e es hsegment
                have hshorter : es.length < cs.length := by
                  have hle := PathPart.length_segment_snd_le (d :: ds)
                  rw [hsegment] at hle
                  simp only [List.length_cons] at hle hlength
                  omega
                rw [past_map, List.isEmpty_map, extraSlash_map]
                split
                · exact (Walk.map_lostAt f _).symm
                · split
                  · rfl
                  · rw [Walk.map_capture, ih es.length hshorter _ '/' es rfl]
    · rw [here?_map, Option.isSome_map]
      split
      · rfl
      · exact (Walk.map_lostAt f _).symm

/-- A path leads to the same place whatever the values are. -/
theorem find?_map (bs : List (Branch α)) (path : List Char) :
    find? (bs.map (map f)) path = (find? bs path).map fun p => (f p.1, p.2) := by
  cases path with
  | nil => rfl
  | cons c cs =>
    rw [find?, past_map, walk_map, find?]
    cases walk (past c bs) c cs <;> rfl

end Branch
end Weblog
