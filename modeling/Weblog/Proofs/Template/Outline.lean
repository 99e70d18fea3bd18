import Mathlib.Tactic.SplitIfs
import Weblog.Proofs.Template.Pieces

/-!
# Weblog.Proofs.Template.Outline

Pages that have the same shape whatever texts they show.

* `Shape`: what is known of a value without its texts and numbers; `Shape.Fits` says of which values.
* `Node.outline`: the pieces of a template with holes for what is shown, out of shapes alone.
* `Drawn`: pieces with an outline that show nothing with a meaning in HTML.
* `Node.exists_pieces`, `exists_piecesAll`: where there is an outline, a template is rendered in every
  scope of these shapes, and its pieces are drawn so.
-/

namespace Weblog
namespace Template

/-- What is known of a value, which may be undefined: the truth values, the number of items and the
values under keys, and neither texts nor numbers. -/
inductive Shape where
  | unknown
  | null
  | flag (b : Bool)
  | text
  | whole
  | number
  | items (count : Nat) (item : Shape)
  | record (field : String → Shape)

def Shape.Fits : Shape → Option Json → Prop
  | .unknown, _ => True
  | .null, v => v = some .null
  | .flag b, v => v = some (.bool b)
  | .text, v => ∃ s, v = some (.string s)
  | .whole, v => ∃ i, v = some (.ofInt i)
  | .number, v => ∃ n, v = some (.number n)
  | .items count item, v =>
    ∃ vs, v = some (.array vs) ∧ vs.length = count ∧ ∀ w ∈ vs, item.Fits (some w)
  | .record field, v =>
    ∃ fs, v = some (.object fs) ∧ fs ≠ [] ∧ ∀ key, (field key).Fits (Fields.get? key fs)

/-- The shapes of the values under names. -/
abbrev Shapes : Type := String → Shape

/-- Shapes under some names; nothing is known of the values under others. -/
def Shapes.ofList : List (String × Shape) → Shapes
  | [] => fun _ => .unknown
  | (name, σ) :: rest => fun n => if n = name then σ else ofList rest n

def Shapes.bind (env : Shapes) (name : String) (σ : Shape) : Shapes :=
  fun n => if n = name then σ else env n

/-- The values of a scope have these shapes. -/
def Scope.Fits (s : Scope) (env : Shapes) : Prop := ∀ name, (env name).Fits (s.lookup name)

/-- The shape of an expression; none where it may be an error. -/
def Expr.shape? (env : Shapes) : Expr → Option Shape
  | .var name => some (env name)
  | .attr e name =>
    match e.shape? env with
    | some (.record field) => some (field name)
    | _ => none
  | .age e =>
    match e.shape? env with
    | some .number | some .whole => some .text
    | _ => none
  | .plus e _ =>
    match e.shape? env with
    | some .whole => some .whole
    | _ => none

/-- Whether a value of the shape counts as true, where that does not depend on texts and numbers. -/
def Shape.truth? : Shape → Option Bool
  | .null => some false
  | .flag b => some b
  | .items count _ => some (count != 0)
  | .record _ => some true
  | .unknown | .text | .whole | .number => none

/-- A value of the shape is a text or an integer. -/
def Shape.isShown : Shape → Bool
  | .text | .whole => true
  | _ => false

/-- A text of a template, or the place of what is shown. -/
inductive Mark where
  | literal (s : String)
  | hole
  deriving DecidableEq, Repr

def Piece.mark : Piece → Mark
  | .literal s => .literal s
  | .shown _ => .hole

abbrev OutlineFillings : Type := String → Option (Shapes → Option (List Mark))

mutual

/-- The outline of a node, where it depends on shapes alone and no expression can be an error. -/
def Node.outline (fill : OutlineFillings) (env : Shapes) : Node → Option (List Mark)
  | .text t => some [.literal t]
  | .value e =>
    match e.shape? env with
    | some σ => if σ.isShown then some [.hole] else none
    | none => none
  | .cond e yes no =>
    match (e.shape? env).bind Shape.truth? with
    | some b => if b then outlineAll fill env yes else outlineAll fill env no
    | none => none
  | .each name e body otherwise =>
    match e.shape? env with
    | some (.items 0 _) => outlineAll fill env otherwise
    | some (.items (count + 1) item) =>
      (outlineAll fill (env.bind name item) body).map fun ms =>
        (List.replicate (count + 1) ms).flatten
    | _ => none
  | .place name initial =>
    match fill name with
    | some content => content env
    | none => outlineAll fill env initial

def outlineAll (fill : OutlineFillings) (env : Shapes) : List Node → Option (List Mark)
  | [] => some []
  | n :: rest =>
    match n.outline fill env with
    | none => none
    | some ms => (outlineAll fill env rest).map (ms ++ ·)

end

/-! ## What is shown -/

/-- The characters that end a text or a quoted attribute in HTML. -/
def special : List Char := ['<', '>', '"', Char.ofNat 39]

/-- What is shown has no special characters. -/
def Piece.Harmless : Piece → Prop
  | .literal _ => True
  | .shown s => ∀ c ∈ s.toList, c ∉ special

theorem not_special_of_mem_escapeChar {c d : Char} (h : d ∈ escapeChar c) : d ∉ special := by
  have hall : (escapeChar c).all (· ∉ special) = true := by
    unfold escapeChar
    split_ifs with hlt hgt _ hquote hapostrophe _
    case neg => simpa [special] using ⟨hlt, hgt, hquote, hapostrophe⟩
    all_goals decide
  exact of_decide_eq_true (List.all_eq_true.1 hall d h)

theorem not_special_of_mem_escape {s : String} {c : Char} (h : c ∈ (escape s).toList) :
    c ∉ special := by
  rw [escape, String.toList_ofList] at h
  obtain ⟨d, -, hd⟩ := List.mem_flatMap.1 h
  exact not_special_of_mem_escapeChar hd

theorem not_special_of_mem_ofInt {i : Int} {c : Char} (h : c ∈ (Text.ofInt i).toList) :
    c ∉ special := by
  rw [Text.toList_ofInt] at h
  rcases Text.mem_intChars h with rfl | hdigit
  · decide
  · intro hspecial
    simp only [special, List.mem_cons, List.not_mem_nil, or_false] at hspecial
    rcases hspecial with rfl | rfl | rfl | rfl <;> exact absurd hdigit (by decide)

theorem harmless_shown {σ : Shape} {v : Option Json} (hσ : σ.isShown = true) (h : σ.Fits v) :
    (Piece.shown (shown v)).Harmless := by
  cases σ with
  | text =>
    obtain ⟨s, rfl⟩ := h
    exact fun c hc => not_special_of_mem_escape hc
  | whole =>
    obtain ⟨i, rfl⟩ := h
    exact fun c hc => not_special_of_mem_ofInt hc
  | unknown => cases hσ
  | null => cases hσ
  | flag b => cases hσ
  | number => cases hσ
  | items count item => cases hσ
  | record field => cases hσ

/-- Pieces with an outline, of which those that are shown are harmless. -/
structure Drawn (ps : List Piece) (ms : List Mark) : Prop where
  marks : ps.map Piece.mark = ms
  harmless : ∀ p ∈ ps, p.Harmless

theorem drawn_nil : Drawn [] [] := ⟨rfl, List.forall_mem_nil _⟩

theorem drawn_literal (t : String) : Drawn [.literal t] [.literal t] :=
  ⟨rfl, List.forall_mem_singleton.2 trivial⟩

theorem Drawn.append {ps qs : List Piece} {ms ns : List Mark} (hp : Drawn ps ms) (hq : Drawn qs ns) :
    Drawn (ps ++ qs) (ms ++ ns) where
  marks := by rw [List.map_append, hp.marks, hq.marks]
  harmless := List.forall_mem_append.2 ⟨hp.harmless, hq.harmless⟩

/-! ## Expressions -/

variable {s : Scope} {env : Shapes}

theorem Scope.Fits.bind (h : s.Fits env) {σ : Shape} {v : Json} (hv : σ.Fits (some v))
    (name : String) : (s.bind name v).Fits (env.bind name σ) := by
  intro n
  by_cases hn : n = name
  · simpa [Scope.bind, Shapes.bind, hn] using hv
  · simpa [Scope.bind, Shapes.bind, hn] using h n

theorem fits_ofList {pairs : List (String × Shape)} {fs : Fields}
    (h : ∀ p ∈ pairs, p.2.Fits (Fields.get? p.1 fs)) (name : String) :
    (Shapes.ofList pairs name).Fits (Fields.get? name fs) := by
  induction pairs with
  | nil => exact trivial
  | cons p pairs ih =>
    obtain ⟨other, σ⟩ := p
    obtain ⟨hfirst, hrest⟩ := List.forall_mem_cons.1 h
    unfold Shapes.ofList
    by_cases hname : name = other
    · subst hname
      rw [if_pos rfl]
      exact hfirst
    · rw [if_neg hname]
      exact ih hrest

/-- An object with a key, whose values under some keys have these shapes. -/
theorem fits_record {pairs : List (String × Shape)} {fs : Fields} {key : String} {v : Json}
    (hkey : Fields.get? key fs = some v) (h : ∀ p ∈ pairs, p.2.Fits (Fields.get? p.1 fs)) :
    (Shape.record (Shapes.ofList pairs)).Fits (some (.object fs)) := by
  refine ⟨fs, rfl, ?_, fits_ofList h⟩
  rintro rfl
  cases hkey

/-- Where an expression has a shape, it is no error, and its value has this shape. -/
theorem Expr.exists_eval (h : s.Fits env) {e : Expr} {σ : Shape} (hσ : e.shape? env = some σ) :
    ∃ v, e.eval s = some v ∧ σ.Fits v := by
  induction e generalizing σ with
  | var name =>
    cases hσ
    exact ⟨s.lookup name, rfl, h name⟩
  | attr e name ih =>
    unfold shape? at hσ
    split at hσ
    · rename_i field hrecord
      cases hσ
      obtain ⟨v, heval, fs, rfl, -, hfields⟩ := ih hrecord
      refine ⟨Fields.get? name fs, ?_, hfields name⟩
      rw [eval, heval]
      rfl
    · cases hσ
  | age e ih =>
    unfold shape? at hσ
    split at hσ
    · rename_i hnumber
      cases hσ
      obtain ⟨v, heval, n, rfl⟩ := ih hnumber
      exact ⟨_, by rw [eval, heval], _, rfl⟩
    · rename_i hwhole
      cases hσ
      obtain ⟨v, heval, i, rfl⟩ := ih hwhole
      exact ⟨_, by rw [eval, heval]; rfl, _, rfl⟩
    · cases hσ
  | plus e n ih =>
    unfold shape? at hσ
    split at hσ
    · rename_i hwhole
      cases hσ
      obtain ⟨v, heval, i, rfl⟩ := ih hwhole
      exact ⟨some (.ofInt (i + n)), by rw [eval, heval]; rfl, i + n, rfl⟩
    · cases hσ

theorem Shape.truth_eq {σ : Shape} {b : Bool} {v : Option Json} (hσ : σ.truth? = some b)
    (h : σ.Fits v) : truth v = b := by
  cases σ with
  | null =>
    cases hσ
    rw [show v = some .null from h]
    rfl
  | flag c =>
    cases hσ
    rw [show v = some (.bool b) from h]
    rfl
  | items count item =>
    cases hσ
    obtain ⟨vs, rfl, rfl, -⟩ := h
    cases vs <;> rfl
  | record field =>
    cases hσ
    obtain ⟨fs, rfl, hne, -⟩ := h
    cases fs with
    | nil => exact absurd rfl hne
    | cons f fs => rfl
  | unknown => cases hσ
  | text => cases hσ
  | whole => cases hσ
  | number => cases hσ

/-! ## Templates -/

/-- What stands in the places of a template is drawn as its outline says. -/
structure PieceFillings.Follows (fill : PieceFillings) (outlines : OutlineFillings) : Prop where
  unfilled : ∀ name, outlines name = none → fill name = none
  filled : ∀ name outline, outlines name = some outline → ∃ content, fill name = some content ∧
    ∀ s env ms, Scope.Fits s env → outline env = some ms → ∃ ps, content s = some ps ∧ Drawn ps ms

theorem exists_mapM {items : List Json} {f : Json → Option (List Piece)} (ms : List Mark)
    (h : ∀ v ∈ items, ∃ ps, f v = some ps ∧ Drawn ps ms) :
    ∃ pss, items.mapM f = some pss ∧ Drawn pss.flatten (List.replicate items.length ms).flatten := by
  induction items with
  | nil => exact ⟨[], rfl, drawn_nil⟩
  | cons v items ih =>
    obtain ⟨ps, hps, hdrawn⟩ := h v List.mem_cons_self
    obtain ⟨pss, hpss, hrest⟩ := ih fun w hw => h w (List.mem_cons_of_mem v hw)
    refine ⟨ps :: pss, by rw [List.mapM_cons, hps, hpss]; rfl, ?_⟩
    rw [List.flatten_cons, List.length_cons, List.replicate_succ, List.flatten_cons]
    exact hdrawn.append hrest

mutual

/-- Where a node has an outline, it is rendered in every scope of these shapes, and its pieces are
drawn so. -/
theorem Node.exists_pieces {fill : PieceFillings} {outlines : OutlineFillings}
    (hfill : fill.Follows outlines) {s : Scope} {env : Shapes} (hs : s.Fits env) :
    (n : Node) → ∀ {ms : List Mark}, n.outline outlines env = some ms →
      ∃ ps, n.pieces fill s = some ps ∧ Drawn ps ms
  | .text t, ms, h => by
    rw [Node.outline] at h
    cases h
    exact ⟨[.literal t], by rw [Node.pieces], drawn_literal t⟩
  | .value e, ms, h => by
    rw [Node.outline] at h
    split at h
    · rename_i σ hσ
      split at h
      · rename_i hshown
        cases h
        obtain ⟨v, heval, hv⟩ := Expr.exists_eval hs hσ
        refine ⟨[.shown (shown v)], by rw [Node.pieces, heval]; rfl, rfl, ?_⟩
        exact List.forall_mem_singleton.2 (harmless_shown hshown hv)
      · cases h
    · cases h
  | .cond e yes no, ms, h => by
    rw [Node.outline] at h
    split at h
    · rename_i b hb
      obtain ⟨σ, hσ, htruth⟩ := Option.bind_eq_some_iff.1 hb
      obtain ⟨v, heval, hv⟩ := Expr.exists_eval hs hσ
      rw [Node.pieces, heval]
      dsimp only
      rw [Shape.truth_eq htruth hv]
      cases b with
      | true => exact exists_piecesAll hfill hs yes h
      | false => exact exists_piecesAll hfill hs no h
    · cases h
  | .each name e body otherwise, ms, h => by
    rw [Node.outline] at h
    split at h
    · rename_i item hitems
      obtain ⟨v, heval, vs, rfl, hlength, -⟩ := Expr.exists_eval hs hitems
      obtain rfl := List.length_eq_zero_iff.1 hlength
      rw [Node.pieces, heval]
      exact exists_piecesAll hfill hs otherwise h
    · rename_i count item hitems
      obtain ⟨v, heval, vs, rfl, hlength, hvs⟩ := Expr.exists_eval hs hitems
      obtain ⟨ns, hns, rfl⟩ := Option.map_eq_some_iff.1 h
      obtain ⟨pss, hpss, hdrawn⟩ := exists_mapM ns fun w hw =>
        exists_piecesAll hfill (hs.bind (hvs w hw) name) body hns
      rw [hlength] at hdrawn
      refine ⟨pss.flatten, ?_, hdrawn⟩
      cases vs with
      | nil => cases hlength
      | cons w vs =>
        rw [Node.pieces, heval]
        dsimp only [Option.bind_some, items?]
        rw [hpss]
        rfl
    · cases h
  | .place name initial, ms, h => by
    rw [Node.outline] at h
    split at h
    · rename_i outline houtline
      obtain ⟨content, hcontent, hdraws⟩ := hfill.filled name outline houtline
      rw [Node.pieces, hcontent]
      exact hdraws s env ms hs h
    · rename_i hnone
      rw [Node.pieces, hfill.unfilled name hnone]
      exact exists_piecesAll hfill hs initial h

theorem exists_piecesAll {fill : PieceFillings} {outlines : OutlineFillings}
    (hfill : fill.Follows outlines) {s : Scope} {env : Shapes} (hs : s.Fits env) :
    (nodes : List Node) → ∀ {ms : List Mark}, outlineAll outlines env nodes = some ms →
      ∃ ps, piecesAll fill s nodes = some ps ∧ Drawn ps ms
  | [], ms, h => by
    rw [outlineAll] at h
    cases h
    exact ⟨[], by rw [piecesAll], drawn_nil⟩
  | n :: rest, ms, h => by
    rw [outlineAll] at h
    split at h
    · cases h
    · rename_i ns hns
      obtain ⟨ns', hrest, rfl⟩ := Option.map_eq_some_iff.1 h
      obtain ⟨ps, hps, hdrawn⟩ := Node.exists_pieces hfill hs n hns
      obtain ⟨qs, hqs, hdrawnRest⟩ := exists_piecesAll hfill hs rest hrest
      exact ⟨ps ++ qs, by rw [piecesAll, hps, hqs]; rfl, hdrawn.append hdrawnRest⟩

end

/-! ## Pages -/

/-- The pieces of the page of a name. -/
def pagePieces (name : String) (context : Json) (now : Int) : Option (List Piece) :=
  (find? name).bind fun blocks => piecesAll
    (fun place => (blocks.find? fun b => b.1 = place).map fun b s => piecesAll (fun _ => none) s b.2)
    (.ofContext context now) layout

/-- The outline of the page of a name. -/
def pageOutline (name : String) (env : Shapes) : Option (List Mark) :=
  (find? name).bind fun blocks => outlineAll
    (fun place => (blocks.find? fun b => b.1 = place).map fun b env =>
      outlineAll (fun _ => none) env b.2) env layout

/-- What the blocks of a page put into the places of the layout, in pieces. -/
def blockPieces (blocks : Blocks) : PieceFillings := fun place =>
  (blocks.find? fun b => b.1 = place).map fun b s => piecesAll (fun _ => none) s b.2

def blockOutlines (blocks : Blocks) : OutlineFillings := fun place =>
  (blocks.find? fun b => b.1 = place).map fun b env => outlineAll (fun _ => none) env b.2

theorem make_blockPieces (blocks : Blocks) : (blockPieces blocks).Make (fillings blocks) := by
  have hempty : PieceFillings.Make (fun _ => none) (fun _ => none) := fun _ => rfl
  intro place
  rw [fillings, blockPieces, Option.map_map]
  refine congrArg (Option.map · _) (funext fun b => funext fun s => ?_)
  exact renderAll_eq hempty s b.2

theorem follows_none : PieceFillings.Follows (fun _ => none) (fun _ => none) :=
  ⟨fun _ _ => rfl, fun _ _ hnone => nomatch hnone⟩

theorem follows_blockPieces (blocks : Blocks) :
    (blockPieces blocks).Follows (blockOutlines blocks) := by
  constructor
  · intro place hnone
    unfold blockOutlines at hnone
    unfold blockPieces
    rw [Option.map_eq_none_iff] at hnone ⊢
    exact hnone
  · intro place outline hsome
    obtain ⟨b, hb, rfl⟩ := Option.map_eq_some_iff.1 hsome
    refine ⟨_, by rw [blockPieces, hb]; rfl, fun s env ms hs hms => ?_⟩
    exact exists_piecesAll follows_none hs b.2 hms

theorem pagePieces_eq {name : String} {blocks : Blocks} (h : find? name = some blocks)
    (context : Json) (now : Int) :
    pagePieces name context now =
      piecesAll (blockPieces blocks) (.ofContext context now) layout := by
  rw [pagePieces, h]
  rfl

/-- A page is its pieces one after the other, and an error where there are none. -/
theorem render_eq {name : String} {blocks : Blocks} (h : find? name = some blocks)
    (context : Json) (now : Int) :
    render name context now =
      match pagePieces name context now with
      | some ps => .ok (joined ps)
      | none => .error (.failed name) := by
  rw [render, pagePieces_eq h, h]
  dsimp only
  rw [renderAll_eq (make_blockPieces blocks)]
  cases piecesAll (blockPieces blocks) (Scope.ofContext context now) layout <;> rfl

theorem render_eq_joined {name : String} {context : Json} {now : Int} {ps : List Piece}
    (h : pagePieces name context now = some ps) : render name context now = .ok (joined ps) := by
  obtain ⟨blocks, hblocks, -⟩ := Option.bind_eq_some_iff.1 h
  rw [render_eq hblocks, h]

/-- Where a page has an outline, it is rendered out of every context of these shapes, and its pieces
are drawn so. -/
theorem exists_pagePieces {name : String} {env : Shapes} {ms : List Mark}
    (h : pageOutline name env = some ms) {context : Json} {now : Int}
    (hcontext : (Scope.ofContext context now).Fits env) :
    ∃ ps, pagePieces name context now = some ps ∧ Drawn ps ms := by
  obtain ⟨blocks, hblocks, houtline⟩ := Option.bind_eq_some_iff.1 h
  rw [pagePieces_eq hblocks]
  exact exists_piecesAll (follows_blockPieces blocks) hcontext layout houtline

end Template
end Weblog
