import Weblog.Route.Path

/-!
# Weblog.Route.Tree

How a requested path is looked up among the paths that lead to something.

The paths form a tree. Those that begin alike share a run of characters, and a run ends where they
part, where one of them ends, or before a parameter. A path is followed through the tree, runs of
characters first.

* `Branch`: what is left of a path at a point of the tree, and what it leads to.
* `Walk`: what a walk along a path comes to.
* `Branch.walk`: walks along a path. Where it is lost among characters, it turns back to the last
  parameter passed over on the way, unless all that the path lacks, or has too much, is a slash at
  its end.
* `Branch.find?`: what a path leads to, with the values of the parameters.
* `fits_of_find?`: a path that leads to something fits the parts of a path in the tree.
-/

namespace Weblog

/-- What is left of a path at a point of the tree, and what it leads to. -/
structure Branch (α : Type) where
  left : List PathPart
  value : α
  deriving DecidableEq, Repr

/-- What a walk along a path comes to. -/
inductive Walk (α : Type) where
  /-- It leads to a value, with these values of the parameters. -/
  | found (value : α) (captured : List (List Char))
  /-- It is lost, and a parameter passed over on the way may still take it up. -/
  | lost
  /-- It leads to nothing. -/
  | ended
  deriving DecidableEq, Repr

namespace Walk

/-- Puts the value of a parameter before the others. -/
def capture {α : Type} (captured : List Char) : Walk α → Walk α
  | .found value rest => .found value (captured :: rest)
  | .lost => .lost
  | .ended => .ended

/-- Goes on with another way where a path is lost. -/
def orElse {α : Type} (first : Walk α) (next : Unit → Walk α) : Walk α :=
  match first with
  | .lost => next ()
  | _ => first

/-- A path is lost at a point where this is left of it; nothing takes up a slash at the end. -/
def lostAt {α : Type} (left : List Char) : Walk α := if left = ['/'] then .ended else .lost

theorem orElse_found {α : Type} {first : Walk α} {next : Unit → Walk α} {value : α}
    {captured : List (List Char)} (h : first.orElse next = .found value captured) :
    first = .found value captured ∨ next () = .found value captured := by
  cases first with
  | found => exact .inl h
  | lost => exact .inr h
  | ended => cases h

theorem capture_found {α : Type} {l : Walk α} {first : List Char} {value : α}
    {captured : List (List Char)} (h : l.capture first = .found value captured) :
    ∃ rest, l = .found value rest ∧ captured = first :: rest := by
  cases l with
  | found v rest => cases h; exact ⟨rest, rfl, rfl⟩
  | lost => cases h
  | ended => cases h

theorem lostAt_ne_found {α : Type} {left : List Char} {value : α} {captured : List (List Char)} :
    (lostAt left : Walk α) ≠ .found value captured := by
  unfold lostAt
  intro h
  split at h <;> cases h

end Walk

namespace Branch

variable {α : Type}

/-- What a branch leads to where it ends. -/
def here? (bs : List (Branch α)) : Option α :=
  (bs.find? fun b => b.left.isEmpty).map value

def past? (c : Char) (b : Branch α) : Option (Branch α) :=
  match b.left with
  | .char d :: left => if d = c then some ⟨left, b.value⟩ else none
  | _ => none

def past (c : Char) (bs : List (Branch α)) : List (Branch α) := bs.filterMap (past? c)

def pastParam? (b : Branch α) : Option (Branch α) :=
  match b.left with
  | .param _ :: left => some ⟨left, b.value⟩
  | _ => none

def pastParam (bs : List (Branch α)) : List (Branch α) := bs.filterMap pastParam?

def takesRest (b : Branch α) : Bool :=
  match b.left with
  | .rest _ :: _ => true
  | _ => false

def rest? (bs : List (Branch α)) : Option α := (bs.find? takesRest).map value

/-- The run of characters of the first branch that all share, and the branches past it. -/
def shared : List PathPart → List (Branch α) → List Char × List (Branch α)
  | .char c :: left, bs =>
    if bs.all fun b => (past? c b).isSome then
      let (run, bs) := shared left (past c bs)
      (c :: run, bs)
    else ([], bs)
  | _, bs => ([], bs)

/-- The run of characters that the branches share, and the branches past it. -/
def run (bs : List (Branch α)) : List Char × List (Branch α) :=
  match bs with
  | [] => ([], [])
  | b :: _ => shared b.left bs

/-- All that the branches share is what stands before them. -/
def partsAtOnce (bs : List (Branch α)) : Bool := (run bs).1.isEmpty

/-- A slash and nothing more leads on from the branches to a value. -/
def endsInSlash (bs : List (Branch α)) : Bool :=
  partsAtOnce (past '/' bs) && (here? (past '/' bs)).isSome

/-- A slash is all that is left of a path; without it the path leads to a value, and with it there
is more to come. -/
def extraSlash (left : List Char) (before next : List (Branch α)) : Bool :=
  left == ['/'] && (here? before).isSome && !partsAtOnce next

def atEnd (bs : List (Branch α)) (passed : List Char) : Walk α :=
  match here? bs with
  | some value => .found value []
  | none => .lostAt passed

def atParamEnd (bs : List (Branch α)) (captured : List Char) : Walk α :=
  match here? bs with
  | some value => .found value [captured]
  | none => if endsInSlash bs then .ended else .lost

/-- Walks along a path of which a character is passed, with the branches past that character. -/
def walk (bs : List (Branch α)) (c : Char) (cs : List Char) : Walk α :=
  let (shared, bs) := run bs
  if shared.isPrefixOf cs then
    match _h : cs.drop shared.length with
    | [] => atEnd bs (c :: cs)
    | d :: ds =>
      let literal :=
        if (past d bs).isEmpty then .lost
        else if extraSlash (d :: ds) bs (past d bs) then .ended
        else walk (past d bs) d ds
      literal.orElse fun _ =>
        match rest? bs with
        | some value => .found value [d :: ds]
        | none =>
          if (pastParam bs).isEmpty then .lostAt (d :: ds)
          else
            match _h' : PathPart.segment (d :: ds) with
            | (captured, []) => atParamEnd (pastParam bs) captured
            | (captured, e :: es) =>
              let onward := past '/' (pastParam bs)
              if onward.isEmpty then .lostAt (e :: es)
              else if extraSlash (e :: es) (pastParam bs) onward then .ended
              else (walk onward '/' es).capture captured
  else if shared = cs ++ ['/'] && (here? bs).isSome then .ended
  else .lostAt (c :: cs)
termination_by cs.length
decreasing_by
  · have := congrArg List.length _h
    simp only [List.length_drop, List.length_cons] at this
    omega
  · have passed := congrArg List.length _h
    have left := PathPart.length_segment_snd_le (d :: ds)
    rw [_h'] at left
    simp only [List.length_drop, List.length_cons] at passed left
    omega

theorem exists_of_here? {bs : List (Branch α)} {value : α} (h : here? bs = some value) :
    ∃ b ∈ bs, b.left = [] ∧ b.value = value := by
  obtain ⟨b, hb, hv⟩ := Option.map_eq_some_iff.1 h
  exact ⟨b, List.mem_of_find?_eq_some hb, by simpa using List.find?_some hb, hv⟩

theorem exists_of_rest? {bs : List (Branch α)} {value : α} (h : rest? bs = some value) :
    ∃ b ∈ bs, (∃ n parts, b.left = .rest n :: parts) ∧ b.value = value := by
  obtain ⟨b, hb, hv⟩ := Option.map_eq_some_iff.1 h
  refine ⟨b, List.mem_of_find?_eq_some hb, ?_, hv⟩
  have takes := List.find?_some hb
  unfold takesRest at takes
  split at takes
  · next n parts hl => exact ⟨n, parts, hl⟩
  · cases takes

theorem exists_of_mem_past {c : Char} {bs : List (Branch α)} {b : Branch α} (h : b ∈ past c bs) :
    ∃ a ∈ bs, a.left = .char c :: b.left ∧ a.value = b.value := by
  obtain ⟨a, ha, hb⟩ := List.mem_filterMap.1 h
  unfold past? at hb
  split at hb
  · next d left hl =>
    split at hb
    · next hd => cases hb; exact ⟨a, ha, by rw [hl, hd], rfl⟩
    · cases hb
  · cases hb

theorem exists_of_mem_pastParam {bs : List (Branch α)} {b : Branch α} (h : b ∈ pastParam bs) :
    ∃ a ∈ bs, (∃ n, a.left = .param n :: b.left) ∧ a.value = b.value := by
  obtain ⟨a, ha, hb⟩ := List.mem_filterMap.1 h
  unfold pastParam? at hb
  split at hb
  · next n left hl => cases hb; exact ⟨a, ha, ⟨n, hl⟩, rfl⟩
  · cases hb

theorem exists_of_mem_shared (left : List PathPart) (bs : List (Branch α)) {b : Branch α}
    (h : b ∈ (shared left bs).2) :
    ∃ a ∈ bs, a.left = (shared left bs).1.map .char ++ b.left ∧ a.value = b.value := by
  induction left generalizing bs with
  | nil => exact ⟨b, h, rfl, rfl⟩
  | cons part left ih =>
    cases part with
    | char c =>
      unfold shared at h ⊢
      split at h
      · next all =>
        obtain ⟨a', ha', hl', hv'⟩ := ih (past c bs) h
        obtain ⟨a, ha, hl, hv⟩ := exists_of_mem_past ha'
        refine ⟨a, ha, ?_, hv.trans hv'⟩
        rw [if_pos all, hl, hl']
        rfl
      · next all =>
        rw [if_neg all]
        exact ⟨b, h, rfl, rfl⟩
    | param n => exact ⟨b, h, rfl, rfl⟩
    | rest n => exact ⟨b, h, rfl, rfl⟩

theorem exists_of_mem_run {bs : List (Branch α)} {b : Branch α} (h : b ∈ (run bs).2) :
    ∃ a ∈ bs, a.left = (run bs).1.map .char ++ b.left ∧ a.value = b.value := by
  cases bs with
  | nil => cases h
  | cons a bs => exact exists_of_mem_shared a.left (a :: bs) h

theorem fits_atEnd {bs : List (Branch α)} {passed : List Char} {value : α}
    {captured : List (List Char)} (h : atEnd bs passed = .found value captured) :
    ∃ b ∈ bs, b.value = value ∧ PathPart.Fits b.left captured [] := by
  unfold atEnd at h
  split at h
  · next v hv =>
    cases h
    obtain ⟨b, hb, hl, hv⟩ := exists_of_here? hv
    exact ⟨b, hb, hv, hl ▸ .nil⟩
  · cases Walk.lostAt_ne_found h

theorem fits_atParamEnd {bs : List (Branch α)} {last : List Char} {value : α}
    {captured : List (List Char)} (h : atParamEnd bs last = .found value captured) :
    captured = [last] ∧ ∃ b ∈ bs, b.value = value ∧ PathPart.Fits b.left [] [] := by
  unfold atParamEnd at h
  split at h
  · next v hv =>
    cases h
    obtain ⟨b, hb, hl, hv⟩ := exists_of_here? hv
    exact ⟨rfl, b, hb, hv, hl ▸ .nil⟩
  · split at h <;> cases h

theorem fits_of_walk {bs : List (Branch α)} {c : Char} {cs : List Char} {value : α}
    {captured : List (List Char)} (h : walk bs c cs = .found value captured) :
    ∃ b ∈ bs, b.value = value ∧ PathPart.Fits b.left captured cs := by
  induction hn : cs.length using Nat.strongRecOn generalizing bs c cs captured with
  | ind n ih =>
    subst hn
    rw [walk] at h
    simp only at h
    split at h
    · next hp =>
      obtain ⟨left, rfl⟩ := List.isPrefixOf_iff_prefix.1 hp
      have onRun : (∃ b ∈ (run bs).2, b.value = value ∧ PathPart.Fits b.left captured left) →
          ∃ b ∈ bs, b.value = value ∧ PathPart.Fits b.left captured ((run bs).1 ++ left) := by
        rintro ⟨b, hb, hv, hf⟩
        obtain ⟨a, ha, hl, hv'⟩ := exists_of_mem_run hb
        exact ⟨a, ha, hv'.trans hv, hl ▸ hf.run _⟩
      apply onRun
      clear onRun hp
      split at h
      · next hl =>
        rw [List.drop_left] at hl
        exact hl ▸ fits_atEnd h
      · next d ds hl =>
        rw [List.drop_left] at hl
        subst hl
        rcases Walk.orElse_found h with h | h
        · split at h
          · cases h
          · split at h
            · cases h
            · obtain ⟨b, hb, hv, hf⟩ := ih _ (by simp; omega) h rfl
              obtain ⟨a, ha, hl, hv'⟩ := exists_of_mem_past hb
              exact ⟨a, ha, hv'.trans hv, hl ▸ hf.char d⟩
        · split at h
          · next v hv =>
            cases h
            obtain ⟨b, hb, ⟨n, parts, hl⟩, hv⟩ := exists_of_rest? hv
            exact ⟨b, hb, hv, hl ▸ .rest n _ (by simp)⟩
          · split at h
            · cases Walk.lostAt_ne_found h
            · have whole := PathPart.segment_append (d :: ds)
              have noSlash := PathPart.segment_no_slash (d :: ds)
              split at h
              · next last hs =>
                rw [hs] at whole noSlash
                obtain ⟨rfl, b, hb, hv, hf⟩ := fits_atParamEnd h
                obtain ⟨a, ha, ⟨n, hl⟩, hv'⟩ := exists_of_mem_pastParam hb
                refine ⟨a, ha, hv'.trans hv, ?_⟩
                rw [hl, ← whole]
                refine .param n last noSlash ?_ hf
                intro _ empty
                rw [empty] at whole
                cases whole
              · next first e es hs =>
                split at h
                · cases Walk.lostAt_ne_found h
                · split at h
                  · cases h
                  · obtain ⟨rest, hr, rfl⟩ := Walk.capture_found h
                    have slash := PathPart.segment_snd_head (congrArg Prod.snd hs)
                    rw [hs] at whole noSlash
                    have shorter := congrArg List.length whole
                    simp only [List.length_append, List.length_cons] at shorter
                    obtain ⟨b, hb, hv, hf⟩ := ih es.length (by simp; omega) hr rfl
                    obtain ⟨b', hb', hl', hv'⟩ := exists_of_mem_past hb
                    obtain ⟨a, ha, ⟨n, hl⟩, hv''⟩ := exists_of_mem_pastParam hb'
                    refine ⟨a, ha, (hv''.trans hv').trans hv, ?_⟩
                    rw [hl, hl', ← whole, slash]
                    exact .param n first noSlash (fun h => by cases h) (hf.char '/')
    · split at h
      · cases h
      · cases Walk.lostAt_ne_found h

/-- What a path leads to, with the values of the parameters. -/
def find? (bs : List (Branch α)) (path : List Char) : Option (α × List (List Char)) :=
  match path with
  | [] => none
  | c :: cs =>
    match walk (past c bs) c cs with
    | .found value captured => some (value, captured)
    | _ => none

/-- A path that leads to something fits the parts of a path in the tree. -/
theorem fits_of_find? {bs : List (Branch α)} {path : List Char} {value : α}
    {captured : List (List Char)} (h : find? bs path = some (value, captured)) :
    ∃ b ∈ bs, b.value = value ∧ PathPart.Fits b.left captured path := by
  unfold find? at h
  split at h
  · cases h
  · next c cs =>
    split at h
    · next v vs hl =>
      cases h
      obtain ⟨b, hb, hv, hf⟩ := fits_of_walk hl
      obtain ⟨a, ha, hl, hv'⟩ := exists_of_mem_past hb
      exact ⟨a, ha, hv'.trans hv, hl ▸ hf.char c⟩
    · cases h

end Branch
end Weblog
