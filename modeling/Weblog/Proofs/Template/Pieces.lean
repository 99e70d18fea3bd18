import Weblog.Proofs.Text.Numeral
import Weblog.Template.Pages

/-!
# Weblog.Proofs.Template.Pieces

What a page is put together from.

* `Piece`: a text of the template, or what is shown of a value.
* `Node.pieces`, `piecesAll`: the pieces of a template, found as its text is.
* `Node.render_eq`, `renderAll_eq`: the text of a template is its pieces one after the other.
-/

namespace Weblog
namespace Template

/-! ## Pieces -/

/-- A part of a page. -/
inductive Piece where
  | literal (s : String)
  | shown (s : String)
  deriving DecidableEq, Repr

def Piece.text : Piece → String
  | .literal s => s
  | .shown s => s

/-- Pieces one after the other. -/
def joined : List Piece → String
  | [] => ""
  | p :: ps => p.text ++ joined ps

theorem joined_append (ps qs : List Piece) : joined (ps ++ qs) = joined ps ++ joined qs := by
  induction ps with
  | nil => exact String.empty_append.symm
  | cons p ps ih => rw [List.cons_append, joined, ih, joined, String.append_assoc]

theorem joined_flatten (pss : List (List Piece)) :
    joined pss.flatten = "".intercalate (pss.map joined) := by
  refine String.toList_injective ?_
  rw [String.toList_intercalate]
  induction pss with
  | nil => rfl
  | cons ps pss ih =>
    rw [List.flatten_cons, joined_append, String.toList_append, ih]
    cases pss with
    | nil => simp
    | cons qs pss =>
      simp only [List.map_cons]
      rw [List.intercalate_cons_cons]
      simp

/-- What stands in the places of a template, in pieces. -/
abbrev PieceFillings : Type := String → Option (Scope → Option (List Piece))

mutual

/-- The pieces of a node, unless an expression in it is an error. -/
def Node.pieces (fill : PieceFillings) (s : Scope) : Node → Option (List Piece)
  | .text t => some [.literal t]
  | .value e => (e.eval s).map fun v => [.shown (Template.shown v)]
  | .cond e yes no =>
    match e.eval s with
    | none => none
    | some v => if truth v then piecesAll fill s yes else piecesAll fill s no
  | .each name e body otherwise =>
    match (e.eval s).bind items? with
    | none => none
    | some [] => piecesAll fill s otherwise
    | some items => (items.mapM fun v => piecesAll fill (s.bind name v) body).map List.flatten
  | .place name initial =>
    match fill name with
    | some content => content s
    | none => piecesAll fill s initial

/-- The pieces of nodes one after another. -/
def piecesAll (fill : PieceFillings) (s : Scope) : List Node → Option (List Piece)
  | [] => some []
  | n :: rest =>
    match n.pieces fill s with
    | none => none
    | some ps => (piecesAll fill s rest).map (ps ++ ·)

end

theorem mapM_map_joined {items : List Json} {f : Json → Option (List Piece)} :
    (items.mapM fun v => (f v).map joined) = (items.mapM f).map (List.map joined) := by
  induction items with
  | nil => rfl
  | cons v items ih =>
    rw [List.mapM_cons, List.mapM_cons, ih]
    cases f v with
    | none => rfl
    | some ps => cases items.mapM f <;> rfl

/-- The texts that stand in the places of a template are made of the pieces that stand there. -/
def PieceFillings.Make (pieceFill : PieceFillings) (fill : Fillings) : Prop :=
  ∀ name, fill name = (pieceFill name).map fun content s => (content s).map joined

mutual

/-- The text of a node is its pieces one after the other. -/
theorem Node.render_eq {fill : Fillings} {pieceFill : PieceFillings} (hfill : pieceFill.Make fill)
    (s : Scope) : (n : Node) →
    n.render fill s = (n.pieces pieceFill s).map joined
  | .text t => by
    rw [Node.render, Node.pieces, Option.map_some, joined, joined, Piece.text, String.append_empty]
  | .value e => by
    rw [Node.render, Node.pieces, Option.map_map]
    refine congrArg (Option.map · (e.eval s)) (funext fun v => ?_)
    exact String.append_empty.symm
  | .cond e yes no => by
    rw [Node.render, Node.pieces]
    cases e.eval s with
    | none => rfl
    | some v =>
      cases hv : truth v with
      | true =>
        simp only [hv, if_true]
        exact renderAll_eq hfill s yes
      | false =>
        simp only [hv]
        exact renderAll_eq hfill s no
  | .each name e body otherwise => by
    rw [Node.render, Node.pieces]
    cases (e.eval s).bind items? with
    | none => rfl
    | some items =>
      cases items with
      | nil => exact renderAll_eq hfill s otherwise
      | cons v items =>
        have hbody : (fun w => renderAll fill (s.bind name w) body) =
            fun w => (piecesAll pieceFill (s.bind name w) body).map joined :=
          funext fun w => renderAll_eq hfill (s.bind name w) body
        dsimp only
        rw [hbody, mapM_map_joined, Option.map_map, Option.map_map]
        exact congrArg (Option.map · _) (funext fun pss => (joined_flatten pss).symm)
  | .place name initial => by
    rw [Node.render, Node.pieces, hfill name]
    cases pieceFill name with
    | some content => rfl
    | none => exact renderAll_eq hfill s initial

theorem renderAll_eq {fill : Fillings} {pieceFill : PieceFillings} (hfill : pieceFill.Make fill)
    (s : Scope) : (nodes : List Node) →
    renderAll fill s nodes = (piecesAll pieceFill s nodes).map joined
  | [] => by rw [renderAll, piecesAll]; rfl
  | n :: rest => by
    rw [renderAll, piecesAll, Node.render_eq hfill s n]
    cases n.pieces pieceFill s with
    | none => rfl
    | some ps =>
      dsimp only [Option.map_some]
      rw [renderAll_eq hfill s rest, Option.map_map, Option.map_map]
      exact congrArg (Option.map · _) (funext fun qs => (joined_append ps qs).symm)

end

theorem piecesAll_append (fill : PieceFillings) (s : Scope) (nodes more : List Node) :
    piecesAll fill s (nodes ++ more) =
      (piecesAll fill s nodes).bind fun ps => (piecesAll fill s more).map (ps ++ ·) := by
  induction nodes with
  | nil =>
    rw [List.nil_append, piecesAll, Option.bind_some]
    cases piecesAll fill s more <;> rfl
  | cons n rest ih =>
    rw [List.cons_append, piecesAll, piecesAll, ih]
    cases n.pieces fill s with
    | none => rfl
    | some ps =>
      cases piecesAll fill s rest with
      | none => rfl
      | some qs =>
        cases piecesAll fill s more with
        | none => rfl
        | some rs => exact congrArg some (List.append_assoc ps qs rs).symm

end Template
end Weblog
