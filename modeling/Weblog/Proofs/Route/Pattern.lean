import Weblog.Proofs.Text.Split
import Weblog.Route.Pattern

/-!
# Weblog.Proofs.Route.Pattern

The grammar of path patterns.

* `Piece`: a character of a pattern, or a name in braces; `Piece.WellFormed`: what may stand there.
* `Pattern.Spells ps pattern`: well-formed pieces, written one after the other, are the pattern.
* `replaceGroups_append_group`, `replaceGroups_of_not_mem`: one turn from brace to brace, and the
  last one.
* `replaceGroups_written`: the path of pieces; `exists_pieces`: every path is one of pieces.
* `Spells.unique`: a pattern is spelled by no other pieces.
* `Spells.convert_eq`, `convert_eq_error`: the path of a pattern that is spelled, and the error of
  one that is not.
* `convert_exact`: which patterns have a path, what it is, and what the others are refused with.
-/

namespace Weblog

/-- A piece of a pattern. -/
inductive Piece where
  | char (c : Char)
  /-- A name in braces. -/
  | name (n : List Char)
  deriving DecidableEq, Repr

namespace Piece

/-- A piece as it stands in a pattern. -/
def written : Piece → List Char
  | .char c => [c]
  | .name n => '\x7b' :: (n ++ ['\x7d'])

/-- A piece as it stands in the path that the router keeps. -/
def kept : Piece → List Char
  | .char c => [c]
  | .name n => ':' :: n

def name? : Piece → Option (List Char)
  | .char _ => none
  | .name n => some n

/-- An ASCII letter. -/
def IsLetter (c : Char) : Prop := ('a' ≤ c ∧ c ≤ 'z') ∨ ('A' ≤ c ∧ c ≤ 'Z')

/-- An ASCII digit. -/
def IsDigit (c : Char) : Prop := '0' ≤ c ∧ c ≤ '9'

/-- Text holds no braces. A name is a letter or an underscore, then letters, digits and
underscores. -/
inductive WellFormed : Piece → Prop where
  | char {c : Char} : c ≠ '\x7b' → c ≠ '\x7d' → WellFormed (.char c)
  | name {c : Char} {rest : List Char} : IsLetter c ∨ c = '_' →
      (∀ d ∈ rest, IsLetter d ∨ IsDigit d ∨ d = '_') → WellFormed (.name (c :: rest))

end Piece

namespace Pattern

def written (ps : List Piece) : List Char := ps.flatMap Piece.written

def kept (ps : List Piece) : List Char := ps.flatMap Piece.kept

/-- The names in braces, in their order. -/
def names (ps : List Piece) : List (List Char) := ps.filterMap Piece.name?

/-- Well-formed pieces, written one after the other, are the pattern, and it begins with a slash. -/
structure Spells (ps : List Piece) (pattern : String) : Prop where
  begins : pattern.toList.head? = some '/'
  wellFormed : ∀ p ∈ ps, p.WellFormed
  written_eq : written ps = pattern.toList

/-! ## Names -/

theorem isAlpha_iff {c : Char} : c.isAlpha = true ↔ Piece.IsLetter c := by
  have hletters : c.isAlpha = (decide ('A' ≤ c ∧ c ≤ 'Z') ||
      decide ('a' ≤ c) && decide (c ≤ 'z')) := rfl
  rw [hletters, Bool.or_eq_true, or_comm]
  simp only [Bool.and_eq_true, decide_eq_true_eq]
  exact Iff.rfl

theorem isDigit_iff {c : Char} : c.isDigit = true ↔ Piece.IsDigit c := by
  have hdigits : c.isDigit = (decide ('0' ≤ c) && decide (c ≤ '9')) := rfl
  rw [hdigits, Bool.and_eq_true, decide_eq_true_eq, decide_eq_true_eq]
  exact Iff.rfl

theorem beginsName_iff {c : Char} : beginsName c = true ↔ Piece.IsLetter c ∨ c = '_' := by
  rw [beginsName, Bool.or_eq_true, isAlpha_iff, beq_iff_eq]

theorem inName_iff {c : Char} :
    inName c = true ↔ Piece.IsLetter c ∨ Piece.IsDigit c ∨ c = '_' := by
  rw [inName, Char.isAlphanum, Bool.or_eq_true, Bool.or_eq_true, isAlpha_iff, isDigit_iff,
    beq_iff_eq, or_assoc]

theorem inName_of_beginsName {c : Char} (h : beginsName c = true) : inName c = true := by
  rcases beginsName_iff.1 h with hletter | hunderscore
  · exact inName_iff.2 (.inl hletter)
  · exact inName_iff.2 (.inr (.inr hunderscore))

theorem isName_iff {n : List Char} : isName n = true ↔ (Piece.name n).WellFormed := by
  constructor
  · intro h
    obtain ⟨hbegins, hall⟩ := Bool.and_eq_true_iff.1 h
    cases n with
    | nil => cases hbegins
    | cons c rest =>
      obtain ⟨-, hrest⟩ := List.forall_mem_cons.1 (List.all_eq_true.1 hall)
      exact .name (beginsName_iff.1 hbegins) fun d hd => inName_iff.1 (hrest d hd)
  · rintro (_ | ⟨hbegins, hrest⟩)
    have hbegins := beginsName_iff.2 hbegins
    refine Bool.and_eq_true_iff.2 ⟨hbegins, List.all_eq_true.2 (List.forall_mem_cons.2 ?_)⟩
    exact ⟨inName_of_beginsName hbegins, fun d hd => inName_iff.2 (hrest d hd)⟩

theorem inName_of_mem {n : List Char} (h : (Piece.name n).WellFormed) {c : Char} (hc : c ∈ n) :
    inName c = true :=
  List.all_eq_true.1 (Bool.and_eq_true_iff.1 (isName_iff.2 h)).2 c hc

/-- A character that no name holds. -/
theorem not_mem_name {n : List Char} (h : (Piece.name n).WellFormed) {c : Char}
    (hc : inName c = false) : c ∉ n := by
  intro hmem
  rw [inName_of_mem h hmem] at hc
  cases hc

/-! ## From brace to brace -/

variable {path left literal name : List Char} {ps : List Piece}

/-- The last turn: no group is left. -/
theorem replaceGroups_of_not_mem (h : '\x7b' ∉ left) :
    replaceGroups path left = if '\x7d' ∈ left then none else some (path ++ left) := by
  have hsplit := Text.splitOnce_of_not_mem h
  rw [replaceGroups]
  split
  · rfl
  · next hsome =>
    rw [hsplit] at hsome
    cases hsome

/-- One turn: text without braces, and a group. -/
theorem replaceGroups_append_group (hopen : '\x7b' ∉ literal) (hclose : '\x7d' ∉ literal)
    (hname : (Piece.name name).WellFormed) :
    replaceGroups path (literal ++ '\x7b' :: (name ++ '\x7d' :: left)) =
      replaceGroups (path ++ literal ++ ':' :: name) left := by
  have hsplit := Text.splitOnce_append_cons hopen (name ++ '\x7d' :: left)
  have hsplit' := Text.splitOnce_append_cons (not_mem_name hname (c := '\x7d') rfl) left
  rw [replaceGroups]
  split
  · next hnone =>
    rw [hsplit] at hnone
    cases hnone
  · next hsome =>
    rw [hsplit] at hsome
    cases hsome
    rw [if_neg hclose]
    split
    · next hnone =>
      rw [hsplit'] at hnone
      cases hnone
    · next hsome =>
      rw [hsplit'] at hsome
      cases hsome
      rw [if_pos (isName_iff.2 hname)]

/-- Pieces lead to their path. Characters are gathered until the next group, with those that stand
before the pieces. -/
theorem replaceGroups_written (hps : ∀ p ∈ ps, p.WellFormed) (hopen : '\x7b' ∉ literal)
    (hclose : '\x7d' ∉ literal) :
    replaceGroups path (literal ++ written ps) = some (path ++ literal ++ kept ps) := by
  induction ps generalizing path literal with
  | nil =>
    have hnil : literal ++ written [] = literal := List.append_nil literal
    rw [hnil, replaceGroups_of_not_mem hopen, if_neg hclose]
    exact congrArg some (List.append_nil _).symm
  | cons p ps ih =>
    obtain ⟨hp, hrest⟩ := List.forall_mem_cons.1 hps
    cases p with
    | char c =>
      obtain ⟨hleft, hright⟩ := hp
      have hopen' : '\x7b' ∉ literal ++ [c] := by simp [hopen, Ne.symm hleft]
      have hclose' : '\x7d' ∉ literal ++ [c] := by simp [hclose, Ne.symm hright]
      calc replaceGroups path (literal ++ written (.char c :: ps))
          = replaceGroups path ((literal ++ [c]) ++ written ps) := by simp [written, Piece.written]
        _ = some (path ++ (literal ++ [c]) ++ kept ps) := ih hrest hopen' hclose'
        _ = some (path ++ literal ++ kept (.char c :: ps)) := by simp [kept, Piece.kept]
    | name n =>
      calc replaceGroups path (literal ++ written (.name n :: ps))
          = replaceGroups path (literal ++ '\x7b' :: (n ++ '\x7d' :: written ps)) := by
            simp [written, Piece.written]
        _ = replaceGroups (path ++ literal ++ ':' :: n) ([] ++ written ps) :=
            replaceGroups_append_group hopen hclose hp
        _ = some (path ++ literal ++ ':' :: n ++ [] ++ kept ps) :=
            ih hrest List.not_mem_nil List.not_mem_nil
        _ = some (path ++ literal ++ kept (.name n :: ps)) := by simp [kept, Piece.kept]

/-- Text without braces, as pieces. -/
theorem wellFormed_of_not_mem (hopen : '\x7b' ∉ literal) (hclose : '\x7d' ∉ literal) :
    ∀ p ∈ literal.map Piece.char, p.WellFormed := by
  intro p hp
  obtain ⟨c, hc, rfl⟩ := List.mem_map.1 hp
  exact .char (fun h => hopen (h ▸ hc)) fun h => hclose (h ▸ hc)

theorem written_append (ps qs : List Piece) : written (ps ++ qs) = written ps ++ written qs :=
  List.flatMap_append

theorem kept_append (ps qs : List Piece) : kept (ps ++ qs) = kept ps ++ kept qs :=
  List.flatMap_append

theorem written_map_char (cs : List Char) : written (cs.map .char) = cs := by
  rw [written, List.flatMap_map]
  exact List.flatMap_singleton' cs

theorem kept_map_char (cs : List Char) : kept (cs.map .char) = cs := by
  rw [kept, List.flatMap_map]
  exact List.flatMap_singleton' cs

/-- Every path is one of pieces that were read, by the turns of the search. -/
theorem exists_pieces {out : List Char} (h : replaceGroups path left = some out) :
    ∃ ps, (∀ p ∈ ps, p.WellFormed) ∧ written ps = left ∧ out = path ++ kept ps := by
  fun_induction replaceGroups path left with
  | case1 => cases h
  | case2 path left hsplit hclose =>
    cases h
    have hopen : '\x7b' ∉ left := Text.splitOnce_eq_none_iff.1 hsplit
    exact ⟨left.map .char, wellFormed_of_not_mem hopen hclose, written_map_char left,
      congrArg (path ++ ·) (kept_map_char left).symm⟩
  | case3 => cases h
  | case4 => cases h
  | case5 path left literal tail hsplit hclose name left' hsplit' hname ih =>
    obtain ⟨rfl, hopen⟩ := Text.splitOnce_eq_some_iff.1 hsplit
    obtain ⟨rfl, -⟩ := Text.splitOnce_eq_some_iff.1 hsplit'
    obtain ⟨ps, hps, rfl, rfl⟩ := ih h
    refine ⟨literal.map .char ++ .name name :: ps, ?_, ?_, ?_⟩
    · refine List.forall_mem_append.2 ⟨wellFormed_of_not_mem hopen hclose, ?_⟩
      exact List.forall_mem_cons.2 ⟨isName_iff.1 hname, hps⟩
    · rw [written_append, written_map_char]
      simp [written, Piece.written]
    · rw [kept_append, kept_map_char]
      simp [kept, Piece.kept]
  | case6 => cases h

/-! ## Pieces and their pattern -/

/-- Where a piece ends is seen from the piece alone. -/
theorem written_append_inj {p q : Piece} (hp : p.WellFormed) (hq : q.WellFormed)
    {xs ys : List Char} (h : p.written ++ xs = q.written ++ ys) : p = q ∧ xs = ys := by
  cases p with
  | char c =>
    obtain ⟨hc, -⟩ := hp
    cases q with
    | char d =>
      obtain ⟨rfl, hrest⟩ := List.cons.inj h
      exact ⟨rfl, hrest⟩
    | name m => exact absurd (List.cons.inj h).1 hc
  | name n =>
    cases q with
    | char d =>
      obtain ⟨hd, -⟩ := hq
      exact absurd (List.cons.inj h).1.symm hd
    | name m =>
      have hsame : n ++ '\x7d' :: xs = m ++ '\x7d' :: ys := by
        simpa [Piece.written] using h
      have hn := Text.splitOnce_append_cons (not_mem_name hp (c := '\x7d') rfl) xs
      have hm := Text.splitOnce_append_cons (not_mem_name hq (c := '\x7d') rfl) ys
      rw [hsame, hm] at hn
      cases hn
      exact ⟨rfl, rfl⟩

theorem written_ne_nil (p : Piece) : p.written ≠ [] := by
  cases p <;> exact List.cons_ne_nil _ _

/-- Well-formed pieces are read back from what is written. -/
theorem written_inj {ps qs : List Piece} (hps : ∀ p ∈ ps, p.WellFormed)
    (hqs : ∀ q ∈ qs, q.WellFormed) (h : written ps = written qs) : ps = qs := by
  induction ps generalizing qs with
  | nil =>
    cases qs with
    | nil => rfl
    | cons q qs => exact absurd (List.append_eq_nil_iff.1 h.symm).1 (written_ne_nil q)
  | cons p ps ih =>
    cases qs with
    | nil => exact absurd (List.append_eq_nil_iff.1 h).1 (written_ne_nil p)
    | cons q qs =>
      obtain ⟨hp, hpsRest⟩ := List.forall_mem_cons.1 hps
      obtain ⟨hq, hqsRest⟩ := List.forall_mem_cons.1 hqs
      obtain ⟨rfl, hrest⟩ := written_append_inj hp hq h
      rw [ih hpsRest hqsRest hrest]

/-- A pattern is spelled by no other pieces. -/
theorem Spells.unique {pattern : String} {qs : List Piece} (h : Spells ps pattern)
    (h' : Spells qs pattern) : qs = ps :=
  written_inj h'.wellFormed h.wellFormed (h'.written_eq.trans h.written_eq.symm)

theorem Spells.convert_eq {pattern : String} (h : Spells ps pattern) :
    convert pattern = .ok (String.ofList (kept ps)) := by
  have hpath : replaceGroups [] ([] ++ written ps) = some (kept ps) :=
    replaceGroups_written h.wellFormed List.not_mem_nil List.not_mem_nil
  rw [List.nil_append, h.written_eq] at hpath
  rw [convert, if_pos h.begins, hpath]

theorem convert_eq_error {pattern : String} (h : ∀ ps, ¬ Spells ps pattern) :
    convert pattern = .error (.invalidPattern pattern) := by
  rw [convert]
  split
  · next hbegins =>
    split
    · next path hpath =>
      obtain ⟨ps, hps, hwritten, -⟩ := exists_pieces hpath
      exact absurd ⟨hbegins, hps, hwritten⟩ (h ps)
    · rfl
  · rfl

theorem exists_spells_of_convert {pattern path : String} (h : convert pattern = .ok path) :
    ∃ ps, Spells ps pattern ∧ path = String.ofList (kept ps) := by
  have hspelled : ∃ ps, Spells ps pattern := by
    refine Classical.byContradiction fun hnone => ?_
    rw [convert_eq_error (not_exists.1 hnone)] at h
    cases h
  obtain ⟨ps, hps⟩ := hspelled
  cases h.symm.trans hps.convert_eq
  exact ⟨ps, hps, rfl⟩

/-- For every pattern: it has a path exactly if it is spelled by pieces, the path is then that of
the pieces, and every other pattern is refused as a whole. -/
theorem convert_exact (pattern : String) :
    ((∃ path, convert pattern = .ok path) ↔ ∃ ps, Spells ps pattern) ∧
    (∀ ps, Spells ps pattern → convert pattern = .ok (String.ofList (kept ps))) ∧
    ((∀ ps, ¬ Spells ps pattern) → convert pattern = .error (.invalidPattern pattern)) := by
  refine ⟨⟨?_, ?_⟩, fun ps => Spells.convert_eq, convert_eq_error⟩
  · rintro ⟨path, hpath⟩
    obtain ⟨ps, hps, -⟩ := exists_spells_of_convert hpath
    exact ⟨ps, hps⟩
  · rintro ⟨ps, hps⟩
    exact ⟨_, hps.convert_eq⟩

end Pattern
end Weblog
