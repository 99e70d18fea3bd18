import Weblog.Proofs.Text.Split
import Weblog.Route.Path

/-!
# Weblog.Proofs.Route.Captured

Where in a requested path the value of a parameter stands.

* `EndsAtRest`, `endsAtRest_read`: what takes the rest of a path stands last among the parts of one.
* `segments`, `names_flatten_segments`: the parts between slashes, which hold all names.
* `Fits.eq_of_chars`: parts without parameters fit one path alone.
* `Fits.captured_segment`: the value of a parameter with a segment of its own is the segment at the
  same place of the requested path.
* `decodeAll_eq_map`, `decodeAll_eq_nil`: all parameters are decoded, or there are none.
* `exists_decodeAll`: a parameter among those that are decoded.
-/

namespace Weblog
namespace PathPart

/-- What takes the rest stands last. -/
def EndsAtRest : List PathPart → Prop
  | [] => True
  | .rest _ :: parts => parts = []
  | .char _ :: parts => EndsAtRest parts
  | .param _ :: parts => EndsAtRest parts

theorem endsAtRest_readFrom (w : Reading) (cs : List Char) : EndsAtRest (readFrom w cs) := by
  induction cs generalizing w with
  | nil => cases w <;> trivial
  | cons c cs ih =>
    cases w with
    | after p =>
      rw [readFrom]
      split
      · exact ih _
      · split
        · rfl
        · exact ih _
    | param n =>
      rw [readFrom]
      split
      · exact ih _
      · exact ih _

theorem endsAtRest_read (path : String) : EndsAtRest (read path) := endsAtRest_readFrom _ _

def segments (parts : List PathPart) : List (List PathPart) := Text.splitAll (.char '/') parts

theorem segments_slash (parts : List PathPart) :
    segments (.char '/' :: parts) = [] :: segments parts := Text.splitAll_cons_sep _ _

theorem segments_cons {part : PathPart} (h : part ≠ .char '/') (parts : List PathPart) :
    segments (part :: parts) = (segments parts).modifyHead (part :: ·) := by
  have hpart : .char '/' ∉ [part] := by simpa using Ne.symm h
  exact Text.splitAll_append_of_not_mem hpart parts

theorem names_append (parts more : List PathPart) :
    names (parts ++ more) = names parts ++ names more := List.filterMap_append

theorem names_flatten_segments (parts : List PathPart) :
    names (segments parts).flatten = names parts := by
  induction parts with
  | nil => rfl
  | cons part parts ih =>
    by_cases hslash : part = .char '/'
    · rw [hslash, segments_slash]
      exact ih
    · obtain ⟨first, more, hsegments⟩ := List.exists_cons_of_ne_nil
        (Text.splitAll_ne_nil (.char '/') parts)
      have hsegments : segments parts = first :: more := hsegments
      rw [segments_cons hslash, hsegments]
      rw [hsegments] at ih
      calc names (part :: first ++ more.flatten)
          = names [part] ++ names (first ++ more.flatten) := names_append [part] _
        _ = names [part] ++ names parts := congrArg (names [part] ++ ·) ih
        _ = names (part :: parts) := (names_append [part] parts).symm

/-- Parts without parameters fit one path alone. -/
theorem Fits.eq_of_chars {run cs : List Char} {values : List (List Char)}
    (h : Fits (run.map .char) values cs) : cs = run := by
  induction run generalizing cs with
  | nil =>
    cases h
    rfl
  | cons c run ih =>
    cases h with
    | char c h => rw [ih h]

/-- Where a segment of the parts ends at once, so does the one of the path. -/
theorem Fits.head_segment {parts : List PathPart} {values : List (List Char)} {cs : List Char}
    (h : Fits parts values cs) (hparts : (segments parts).head? = some []) :
    (Text.splitAll '/' cs).head? = some [] := by
  have hnext : ∀ {part : PathPart} {parts : List PathPart}, part ≠ .char '/' →
      (segments (part :: parts)).head? ≠ some [] := by
    intro part parts hne hhead
    rw [segments_cons hne] at hhead
    cases hs : segments parts <;> simp [hs] at hhead
  cases h with
  | nil => rfl
  | char c h =>
    by_cases hc : c = '/'
    · rw [hc, Text.splitAll_cons_sep]
      rfl
    · exact absurd hparts (hnext (by simpa using hc))
  | param n value _ _ h => exact absurd hparts (hnext (by simp))
  | rest n value h => exact absurd hparts (hnext (by simp))

/-- The value of a parameter with a segment of its own is the segment at the same place of the path,
and the names after it are those of the segments after it. -/
theorem Fits.captured_segment {parts : List PathPart} {values : List (List Char)} {cs : List Char}
    (h : Fits parts values cs) (hrest : EndsAtRest parts) {i : Nat} {p : List Char}
    (hown : (segments parts)[i]? = some [.param p]) :
    ∃ (k : Nat) (value : List Char), (names parts)[k]? = some p ∧ values[k]? = some value ∧
      (Text.splitAll '/' cs)[i]? = some value ∧
      (names parts).drop (k + 1) = names ((segments parts).drop (i + 1)).flatten := by
  induction h generalizing i with
  | nil =>
    have hone : segments [] = [[]] := rfl
    rw [hone] at hown
    cases i <;> simp at hown
  | @char parts values cs c h ih =>
    by_cases hc : c = '/'
    · subst hc
      rw [segments_slash] at hown ⊢
      rw [Text.splitAll_cons_sep]
      cases i with
      | zero => simp at hown
      | succ i => exact ih hrest (by simpa using hown)
    · have hslash : '/' ∉ [c] := by simpa using Ne.symm hc
      have hsplit := Text.splitAll_append_of_not_mem hslash cs
      rw [List.singleton_append] at hsplit
      rw [segments_cons (by simpa using hc)] at hown ⊢
      rw [hsplit]
      cases i with
      | zero =>
        rw [List.getElem?_modifyHead_zero] at hown
        obtain ⟨first, -, hfirst⟩ := Option.map_eq_some_iff.1 hown
        cases hfirst
      | succ i =>
        rw [List.getElem?_modifyHead_succ] at hown ⊢
        rw [List.drop_modifyHead_of_pos (Nat.succ_pos _)]
        exact ih hrest hown
  | @param parts values cs n value hslash hend h ih =>
    have hnone : '/' ∉ value := fun hmem => hslash _ hmem rfl
    have hsplit := Text.splitAll_append_of_not_mem hnone cs
    rw [segments_cons (by simp)] at hown ⊢
    rw [hsplit, List.drop_modifyHead_of_pos (Nat.succ_pos _)]
    cases i with
    | zero =>
      rw [List.getElem?_modifyHead_zero] at hown
      obtain ⟨first, hfirst, hsame⟩ := Option.map_eq_some_iff.1 hown
      cases hsame
      have hempty : (segments parts).head? = some [] := by rw [List.head?_eq_getElem?, hfirst]
      refine ⟨0, value, rfl, rfl, ?_, ?_⟩
      · rw [List.getElem?_modifyHead_zero, ← List.head?_eq_getElem?, h.head_segment hempty]
        exact congrArg some (List.append_nil value)
      · obtain ⟨more, hsegments⟩ := List.head?_eq_some_iff.1 hempty
        have hnames := names_flatten_segments parts
        rw [hsegments] at hnames ⊢
        exact hnames.symm
    | succ i =>
      rw [List.getElem?_modifyHead_succ] at hown ⊢
      obtain ⟨k, v, hk, hv, hi, hafter⟩ := ih hrest hown
      exact ⟨k + 1, v, hk, hv, hi, hafter⟩
  | @rest parts n value hvalue =>
    obtain rfl : parts = [] := hrest
    have hone : segments [.rest n] = [[.rest n]] := rfl
    rw [hone] at hown
    cases i <;> simp at hown

theorem Fits.length_eq {parts : List PathPart} {values : List (List Char)} {cs : List Char}
    (h : Fits parts values cs) (hrest : EndsAtRest parts) :
    values.length = (names parts).length := by
  induction h with
  | nil => rfl
  | char c h ih => exact ih hrest
  | param n value _ _ h ih => exact congrArg (· + 1) (ih hrest)
  | rest n value _ =>
    cases hrest
    rfl

theorem decodeAll_eq_map {captured : List (List Char × List Char)}
    (h : ∀ p ∈ captured, (decode? p.2).isSome = true) :
    decodeAll captured =
      captured.map fun p => (String.ofList p.1, (decode? p.2).getD "") := by
  have hall : (captured.mapM fun p => (decode? p.2).map fun v => (String.ofList p.1, v)) =
      some (captured.map fun p => (String.ofList p.1, (decode? p.2).getD "")) := by
    induction captured with
    | nil => rfl
    | cons p captured ih =>
      obtain ⟨v, hv⟩ := Option.isSome_iff_exists.1 (h p List.mem_cons_self)
      rw [List.mapM_cons, ih fun q hq => h q (List.mem_cons_of_mem p hq), List.map_cons, hv]
      rfl
  rw [decodeAll, hall]
  rfl

/-- Where every value is decoded, the text of a parameter is its decoded value, and none after it has
its name if none of the names after it is the same. -/
theorem exists_decodeAll {ns values : List (List Char)} {k : Nat} {p value : List Char}
    (hname : ns[k]? = some p) (hvalue : values[k]? = some value) (hlast : p ∉ ns.drop (k + 1))
    (hall : ∀ v ∈ values, (decode? v).isSome = true) :
    ∃ before text after, decode? value = some text ∧
      decodeAll (ns.zip values) = before ++ (String.ofList p, text) :: after ∧
      String.ofList p ∉ after.map Prod.fst := by
  rw [decodeAll_eq_map fun q hq => hall q.2 (List.of_mem_zip hq).2]
  induction k generalizing ns values with
  | zero =>
    obtain ⟨ns, rfl⟩ := List.head?_eq_some_iff.1 (List.head?_eq_getElem?.trans hname)
    obtain ⟨values, rfl⟩ := List.head?_eq_some_iff.1 (List.head?_eq_getElem?.trans hvalue)
    obtain ⟨text, htext⟩ := Option.isSome_iff_exists.1 (hall value List.mem_cons_self)
    refine ⟨[], text, _, htext, by rw [List.zip_cons_cons, List.map_cons, htext]; rfl, ?_⟩
    intro hmem
    rw [List.map_map] at hmem
    obtain ⟨q, hq, hsame⟩ := List.mem_map.1 hmem
    exact hlast (String.ofList_injective hsame ▸ (List.of_mem_zip hq).1)
  | succ k ih =>
    cases ns with
    | nil => cases hname
    | cons n ns =>
      cases values with
      | nil => cases hvalue
      | cons v values =>
        rw [List.getElem?_cons_succ] at hname hvalue
        obtain ⟨before, text, after, htext, hsplit, hnone⟩ :=
          ih hname hvalue hlast fun v hv => hall v (List.mem_cons_of_mem _ hv)
        refine ⟨(String.ofList n, (decode? v).getD "") :: before, text, after, htext, ?_, hnone⟩
        rw [List.zip_cons_cons, List.map_cons, hsplit, List.cons_append]

theorem decodeAll_eq_nil {captured : List (List Char × List Char)} {p : List Char × List Char}
    (hp : p ∈ captured) (h : decode? p.2 = none) : decodeAll captured = [] := by
  have hnone :
      (captured.mapM fun p => (decode? p.2).map fun v => (String.ofList p.1, v)) = none := by
    induction captured with
    | nil => cases hp
    | cons q captured ih =>
      rw [List.mapM_cons]
      rcases List.mem_cons.1 hp with rfl | hp
      · rw [h]
        rfl
      · rw [ih hp]
        cases (decode? q.2) <;> rfl
  rw [decodeAll, hnone]
  rfl

end PathPart
end Weblog
