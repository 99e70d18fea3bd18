import Mathlib.Data.List.Chain
import Weblog.Proofs.Route.Captured
import Weblog.Proofs.Route.Pattern

/-!
# Weblog.Proofs.Route.Delimited

The names that the router reads in the path of a pattern, against those that the pattern has in
braces.

* `Pattern.Delimited`: the text holds no colon and no segment of it begins with an asterisk, and
  each group ends its segment.
* `readFrom_text`, `readFrom_name`, `names_readFrom_param`: the path of pieces as the router reads
  it, one piece after the other.
* `length_names_le`: where no name that is read holds a colon, there is one at least for each group.
* `names_read_iff`: the names that are read are those in braces exactly if the pieces are delimited.
-/

namespace Weblog

/-- What may stand behind a piece: only a slash behind a group, and no asterisk behind a slash. -/
def Piece.Precedes : Piece → Piece → Prop
  | .name _, q => q = .char '/'
  | .char c, q => c = '/' → q ≠ .char '*'

namespace Pattern

/-- The text holds no colon and no segment of it begins with an asterisk, and each group ends its
segment. -/
structure Delimited (ps : List Piece) : Prop where
  no_colon : .char ':' ∉ ps
  apart : ps.IsChain Piece.Precedes

theorem delimited_nil : Delimited [] := ⟨List.not_mem_nil, .nil⟩

theorem delimited_cons_iff {p : Piece} {ps : List Piece} :
    Delimited (p :: ps) ↔
      p ≠ .char ':' ∧ (∀ q ∈ ps.head?, p.Precedes q) ∧ Delimited ps := by
  constructor
  · rintro ⟨hcolon, hapart⟩
    obtain ⟨hp, hps⟩ := not_or.1 (mt List.mem_cons.2 hcolon)
    obtain ⟨hnext, hrest⟩ := List.isChain_cons.1 hapart
    exact ⟨Ne.symm hp, hnext, hps, hrest⟩
  · rintro ⟨hp, hnext, hcolon, hapart⟩
    refine ⟨fun hmem => ?_, List.isChain_cons.2 ⟨hnext, hapart⟩⟩
    exact (List.mem_cons.1 hmem).elim (fun h => hp h.symm) hcolon

end Pattern

namespace PathPart

open Pattern

variable {c p : Char} {cs acc n : List Char} {ps : List Piece}

/-! ## The path of pieces as it is read -/

theorem readFrom_text (hcolon : c ≠ ':') (hstar : ¬ (c = '*' ∧ p = '/')) :
    readFrom (.after p) (c :: cs) = .char c :: readFrom (.after c) cs := by
  rw [readFrom, if_neg hcolon, if_neg hstar]

theorem readFrom_colon : readFrom (.after p) (':' :: cs) = readFrom (.param []) cs := by
  rw [readFrom, if_pos rfl]

theorem readFrom_star : readFrom (.after '/') ('*' :: cs) = [.rest cs] := by
  rw [readFrom, if_neg (by decide), if_pos ⟨rfl, rfl⟩]

/-- A parameter goes on to the next slash. -/
theorem readFrom_param (hn : '/' ∉ n) :
    readFrom (.param acc) (n ++ cs) = readFrom (.param (n.reverse ++ acc)) cs := by
  induction n generalizing acc with
  | nil => rfl
  | cons c n ih =>
    obtain ⟨hc, hn⟩ := not_or.1 (mt List.mem_cons.2 hn)
    rw [List.cons_append, readFrom, if_neg (Ne.symm hc), ih hn, List.reverse_cons,
      List.append_assoc, List.singleton_append]

/-- A group begins a parameter with its name. -/
theorem readFrom_name (hn : (Piece.name n).WellFormed) :
    readFrom (.after p) (kept (.name n :: ps)) = readFrom (.param n.reverse) (kept ps) := by
  have hslash : '/' ∉ n := not_mem_name hn rfl
  have hkept : kept (.name n :: ps) = ':' :: (n ++ kept ps) := rfl
  rw [hkept, readFrom_colon, readFrom_param hslash, List.append_nil]

/-- The name of a parameter has in it all that stands before the next slash. -/
theorem names_readFrom_param :
    names (readFrom (.param acc) cs) =
      (acc.reverse ++ (segment cs).1) :: names (readFrom (.after ' ') (segment cs).2) := by
  induction cs generalizing acc with
  | nil => simp [readFrom, names, segment]
  | cons c cs ih =>
    rw [readFrom]
    by_cases hc : c = '/'
    · subst hc
      rw [if_pos rfl]
      simp [names, segment, readFrom]
    · rw [if_neg hc, ih]
      simp [segment, hc]

/-! ## How many names are read -/

/-- A group leaves a colon in the path. -/
theorem names_eq_nil (h : ':' ∉ kept ps) : Pattern.names ps = [] := by
  refine List.filterMap_eq_nil_iff.2 fun p hp => ?_
  cases p with
  | char c => rfl
  | name n => exact absurd (List.mem_flatMap.2 ⟨_, hp, List.mem_cons_self⟩) h

/-- How many names are sure to come of what was begun. -/
def Reading.pending : Reading → Nat
  | .after _ => 0
  | .param _ => 1

/-- Where no name that is read holds a colon, there is one at least for each group, and one more for
a parameter that was begun before. -/
theorem length_names_le (hps : ∀ p ∈ ps, p.WellFormed) (w : Reading)
    (hread : ∀ m ∈ names (readFrom w (kept ps)), ':' ∉ m) :
    (Pattern.names ps).length + w.pending ≤ (names (readFrom w (kept ps))).length := by
  induction ps generalizing w with
  | nil => cases w <;> exact Nat.le_refl _
  | cons piece ps ih =>
    obtain ⟨hpiece, hrest⟩ := List.forall_mem_cons.1 hps
    cases piece with
    | char c =>
      have hkept : kept (.char c :: ps) = c :: kept ps := rfl
      have hnames : Pattern.names (.char c :: ps) = Pattern.names ps := rfl
      rw [hkept] at hread ⊢
      rw [hnames]
      cases w with
      | after p =>
        by_cases hcolon : c = ':'
        · subst hcolon
          rw [readFrom_colon] at hread ⊢
          exact Nat.le_of_succ_le (ih hrest (.param []) hread)
        · by_cases hstar : c = '*' ∧ p = '/'
          · obtain ⟨rfl, rfl⟩ := hstar
            rw [readFrom_star] at hread ⊢
            rw [names_eq_nil (hread _ List.mem_cons_self)]
            exact Nat.zero_le _
          · rw [readFrom_text hcolon hstar] at hread ⊢
            exact ih hrest (.after c) hread
      | param acc =>
        rw [readFrom] at hread ⊢
        by_cases hslash : c = '/'
        · rw [if_pos hslash] at hread ⊢
          have hmore := ih hrest (.after c) fun m hm => hread m (List.mem_cons_of_mem _ hm)
          exact Nat.succ_le_succ hmore
        · rw [if_neg hslash] at hread ⊢
          exact ih hrest (.param (c :: acc)) hread
    | name n =>
      cases w with
      | after p =>
        rw [readFrom_name hpiece] at hread ⊢
        exact ih hrest (.param n.reverse) hread
      | param acc =>
        -- the colon of the group goes to the name that was begun
        have hkept : kept (.name n :: ps) = ':' :: (n ++ kept ps) := rfl
        rw [names_readFrom_param, hkept] at hread
        refine absurd ?_ (hread _ List.mem_cons_self)
        simp [segment]

/-! ## Which names are read -/

/-- A parameter ends at once where its group ends the segment. -/
theorem segment_kept_eq_nil_iff :
    (segment (kept ps)).1 = [] ↔ ∀ q ∈ ps.head?, q = .char '/' := by
  cases ps with
  | nil => simp [kept, segment]
  | cons piece ps =>
    cases piece with
    | char c => by_cases hc : c = '/' <;> simp [kept, Piece.kept, segment, hc]
    | name n => simp [kept, Piece.kept, segment]

theorem colon_not_mem (hps : ∀ p ∈ ps, p.WellFormed) : ∀ m ∈ Pattern.names ps, ':' ∉ m := by
  intro m hm
  obtain ⟨piece, hpiece, hname⟩ := List.mem_filterMap.1 hm
  cases piece with
  | char c => cases hname
  | name n =>
    cases hname
    exact not_mem_name (hps _ hpiece) rfl

/-- A colon in the text is read as a name too many. -/
theorem names_readFrom_param_ne (hps : ∀ p ∈ ps, p.WellFormed) :
    names (readFrom (.param []) (kept ps)) ≠ Pattern.names ps := by
  intro hsame
  have hmore := length_names_le hps (.param []) (hsame ▸ colon_not_mem hps)
  rw [hsame] at hmore
  exact Nat.not_succ_le_self _ hmore

/-- What an asterisk takes is no name of a group. -/
theorem rest_ne_names (hps : ∀ p ∈ ps, p.WellFormed) : [kept ps] ≠ Pattern.names ps := by
  intro hsame
  have hnone := names_eq_nil (colon_not_mem hps (kept ps) (hsame ▸ List.mem_cons_self))
  rw [hnone] at hsame
  cases hsame

/-- The names that are read in the path of pieces, behind a character, are those in braces exactly
if the pieces are delimited, with that character before them. -/
theorem names_readFrom_iff (hps : ∀ p ∈ ps, p.WellFormed) :
    names (readFrom (.after p) (kept ps)) = Pattern.names ps ↔
      Delimited ps ∧ (p = '/' → ps.head? ≠ some (.char '*')) := by
  induction ps generalizing p with
  | nil => simp [delimited_nil, kept, readFrom, names, Pattern.names]
  | cons piece ps ih =>
    obtain ⟨hpiece, hrest⟩ := List.forall_mem_cons.1 hps
    rw [delimited_cons_iff]
    cases piece with
    | char c =>
      have hkept : kept (.char c :: ps) = c :: kept ps := rfl
      have hnames : Pattern.names (.char c :: ps) = Pattern.names ps := rfl
      rw [hkept, hnames]
      by_cases hcolon : c = ':'
      · subst hcolon
        rw [readFrom_colon]
        exact iff_of_false (names_readFrom_param_ne hrest) fun h => h.1.1 rfl
      by_cases hstar : c = '*' ∧ p = '/'
      · obtain ⟨rfl, rfl⟩ := hstar
        rw [readFrom_star]
        exact iff_of_false (rest_ne_names hrest) fun h => h.2 rfl rfl
      have hread : names (.char c :: readFrom (.after c) (kept ps)) =
          names (readFrom (.after c) (kept ps)) := rfl
      have hnext : (∀ q ∈ ps.head?, (Piece.char c).Precedes q) ↔
          (c = '/' → ps.head? ≠ some (.char '*')) := by
        cases ps with
        | nil => simp
        | cons q ps => simp [Piece.Precedes]
      rw [readFrom_text hcolon hstar, hread, ih hrest, hnext]
      constructor
      · rintro ⟨hmore, hafter⟩
        refine ⟨⟨fun h => hcolon (Piece.char.inj h), hafter, hmore⟩, fun hp hc => hstar ⟨?_, hp⟩⟩
        exact Piece.char.inj (Option.some.inj hc)
      · rintro ⟨⟨-, hafter, hmore⟩, -⟩
        exact ⟨hmore, hafter⟩
    | name n =>
      have hnames : Pattern.names (.name n :: ps) = n :: Pattern.names ps := rfl
      rw [readFrom_name hpiece, names_readFrom_param, List.reverse_reverse, hnames,
        List.cons.injEq, List.append_right_eq_self]
      have hname : Piece.name n ≠ .char ':' := by simp
      have hhead : (Piece.name n :: ps).head? ≠ some (.char '*') := by simp
      have hnext : (∀ q ∈ ps.head?, (Piece.name n).Precedes q) ↔ (segment (kept ps)).1 = [] :=
        segment_kept_eq_nil_iff.symm
      have hafter : (segment (kept ps)).1 = [] →
          (names (readFrom (.after ' ') (segment (kept ps)).2) = Pattern.names ps ↔
            Delimited ps) := by
        intro hend
        have hwhole := segment_append (kept ps)
        rw [hend, List.nil_append] at hwhole
        rw [hwhole, ih hrest]
        exact and_iff_left fun h => absurd h (by decide)
      rw [hnext]
      constructor
      · rintro ⟨hend, hmore⟩
        exact ⟨⟨hname, hend, (hafter hend).1 hmore⟩, fun _ => hhead⟩
      · rintro ⟨⟨-, hend, hmore⟩, -⟩
        exact ⟨hend, (hafter hend).2 hmore⟩

/-- The router reads the names in braces, and no others, exactly in the paths of delimited
pieces. -/
theorem names_read_iff (hps : ∀ p ∈ ps, p.WellFormed) :
    names (read (String.ofList (kept ps))) = Pattern.names ps ↔ Delimited ps := by
  rw [read, String.toList_ofList, names_readFrom_iff hps]
  exact and_iff_left fun h => absurd h (by decide)

end PathPart
end Weblog
