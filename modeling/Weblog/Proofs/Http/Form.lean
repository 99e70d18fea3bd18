import Mathlib.Data.List.Forall2
import Weblog.Http.Form
import Weblog.Proofs.Text.Split
import Weblog.Proofs.Text.Utf8

/-!
# Weblog.Proofs.Http.Form

Names and values are read as they were encoded, whatever the encoder escapes.

* `Encodes`: octets that stand for others: each for itself unless it has a meaning of its own, a
  plus sign for a space, and an escape for any.
* `Encodes.decode_eq`, `pairs_intercalate`: what is read of a text and of pairs.
* `query`, `pairs_query`: the pairs with everything escaped, as a query.
-/

namespace Weblog
namespace Http

variable {done rest : List UInt8}

theorem percentDecodeOnto_cons {a : UInt8} (h : a ≠ 0x25) (rest : List UInt8) :
    percentDecodeOnto done (a :: rest) = percentDecodeOnto (a :: done) rest := by
  match rest with
  | [] => rfl
  | [_] => rfl
  | _ :: _ :: _ => rw [percentDecodeOnto, if_neg h]

theorem percentDecodeOnto_escape {x y : UInt8} {m n : Nat} (hx : hexOctet? x = some m)
    (hy : hexOctet? y = some n) (rest : List UInt8) :
    percentDecodeOnto done (0x25 :: x :: y :: rest) =
      percentDecodeOnto (UInt8.ofNat (16 * m + n) :: done) rest := by
  rw [percentDecodeOnto, if_pos rfl, hx, hy]

namespace Form

/-- The octets that have a meaning of their own. -/
def marks : List UInt8 := [0x25, 0x2B, 0x26, 0x3D]

/-- Octets stand for others. -/
inductive Encodes : List UInt8 → List UInt8 → Prop where
  | nil : Encodes [] []
  | plain {b : UInt8} {ws bs : List UInt8} : b ∉ marks → Encodes ws bs → Encodes (b :: ws) (b :: bs)
  | space {ws bs : List UInt8} : Encodes ws bs → Encodes (0x2B :: ws) (0x20 :: bs)
  | escape {x y : UInt8} {m n : Nat} {ws bs : List UInt8} : hexOctet? x = some m →
      hexOctet? y = some n → Encodes ws bs →
      Encodes (0x25 :: x :: y :: ws) (UInt8.ofNat (16 * m + n) :: bs)

theorem not_mem_marks_of_hexOctet? {x : UInt8} {m : Nat} (h : hexOctet? x = some m) :
    x ∉ marks := by
  intro hx
  simp only [marks, List.mem_cons, List.not_mem_nil, or_false] at hx
  rcases hx with rfl | rfl | rfl | rfl <;> cases h

theorem plusToSpace_of_not_mem {b : UInt8} (h : b ∉ marks) : plusToSpace b = b := by
  refine if_neg ?_
  rintro rfl
  exact h (by decide)

theorem Encodes.percentDecodeOnto_eq {ws bs : List UInt8} (h : Encodes ws bs) :
    percentDecodeOnto done (ws.map plusToSpace) = done.reverse ++ bs := by
  -- plus signs go first, but no digit of an escape is one
  induction h generalizing done with
  | nil => simp [percentDecodeOnto]
  | @plain b _ _ hb _ ih =>
    have hne : b ≠ 0x25 := fun heq => hb (heq ▸ by decide)
    rw [List.map_cons, plusToSpace_of_not_mem hb, percentDecodeOnto_cons hne, ih]
    simp
  | space _ ih =>
    have hspace : plusToSpace 0x2B = 0x20 := rfl
    rw [List.map_cons, hspace, percentDecodeOnto_cons (by decide), ih]
    simp
  | escape hx hy _ ih =>
    have hmark : plusToSpace 0x25 = 0x25 := rfl
    rw [List.map_cons, List.map_cons, List.map_cons, hmark,
      plusToSpace_of_not_mem (not_mem_marks_of_hexOctet? hx),
      plusToSpace_of_not_mem (not_mem_marks_of_hexOctet? hy), percentDecodeOnto_escape hx hy, ih]
    simp

theorem Encodes.decode_eq {ws : List UInt8} {s : String} (h : Encodes ws (Text.Utf8.bytesOf s)) :
    decode ws = s := by
  rw [decode, percentDecode, h.percentDecodeOnto_eq]
  exact Text.Utf8.textLossy_bytesOf s

/-- Neither an ampersand nor an equals sign stands in what is encoded. -/
theorem Encodes.not_mem {ws bs : List UInt8} (h : Encodes ws bs) : 0x26 ∉ ws ∧ 0x3D ∉ ws := by
  induction h with
  | nil => simp
  | plain hb _ ih =>
    simp only [marks, List.mem_cons, not_or] at hb
    simp only [List.mem_cons, not_or]
    exact ⟨⟨Ne.symm hb.2.2.1, ih.1⟩, ⟨Ne.symm hb.2.2.2.1, ih.2⟩⟩
  | space _ ih => simpa using ih
  | escape hx hy _ ih =>
    have hx := not_mem_marks_of_hexOctet? hx
    have hy := not_mem_marks_of_hexOctet? hy
    simp only [marks, List.mem_cons, not_or] at hx hy
    simp only [List.mem_cons, not_or]
    exact ⟨⟨by decide, Ne.symm hx.2.2.1, Ne.symm hy.2.2.1, ih.1⟩,
      ⟨by decide, Ne.symm hx.2.2.2.1, Ne.symm hy.2.2.2.1, ih.2⟩⟩

/-- A name and a value with an equals sign between them. -/
def EncodesPair (piece : List UInt8) (p : String × String) : Prop :=
  ∃ ns vs, piece = ns ++ 0x3D :: vs ∧ Encodes ns (Text.Utf8.bytesOf p.1) ∧
    Encodes vs (Text.Utf8.bytesOf p.2)

namespace EncodesPair

variable {piece : List UInt8} {p : String × String}

theorem pair_eq (h : EncodesPair piece p) : pair piece = p := by
  obtain ⟨ns, vs, rfl, hname, hvalue⟩ := h
  rw [pair, Text.splitOnce_append_cons hname.not_mem.2]
  simp only [hname.decode_eq, hvalue.decode_eq]

theorem ne_nil (h : EncodesPair piece p) : piece ≠ [] := by
  obtain ⟨ns, vs, rfl, -, -⟩ := h
  simp

theorem not_mem (h : EncodesPair piece p) : 0x26 ∉ piece := by
  obtain ⟨ns, vs, rfl, hname, hvalue⟩ := h
  simp [hname.not_mem.1, hvalue.not_mem.1]

end EncodesPair

/-- Pairs that are encoded with ampersands between them are read in order. -/
theorem pairs_intercalate {pieces : List (List UInt8)} {ps : List (String × String)}
    (h : List.Forall₂ EncodesPair pieces ps) : pairs ([0x26].intercalate pieces) = ps := by
  have hread : (pieces.filter fun piece => !piece.isEmpty).map pair = ps := by
    induction h with
    | nil => rfl
    | cons hp _ ih =>
      rw [List.filter_cons_of_pos (by simpa using hp.ne_nil), List.map_cons, ih, hp.pair_eq]
  have hplain : ∀ piece ∈ pieces, 0x26 ∉ piece := by
    clear hread
    induction h with
    | nil => exact List.forall_mem_nil _
    | cons hp _ ih => exact List.forall_mem_cons.2 ⟨hp.not_mem, ih⟩
  cases pieces with
  | nil => exact hread
  | cons piece rest =>
    rw [pairs, Text.splitAll_intercalate hplain (List.cons_ne_nil _ _), hread]

/-- A text with each octet escaped. -/
def escaped (s : String) : List Char :=
  (Text.Utf8.bytesOf s).flatMap fun b =>
    ['%', Text.hexDigit (b.toNat / 16), Text.hexDigit (b.toNat % 16)]

/-- Pairs as a query. -/
def query (ps : List (String × String)) : String :=
  String.ofList (['&'].intercalate (ps.map fun p => escaped p.1 ++ '=' :: escaped p.2))

theorem encode_hexDigit : ∀ n < 16, ∃ x : UInt8,
    String.utf8EncodeChar (Text.hexDigit n) = [x] ∧ hexOctet? x = some n := by
  intro n hn
  refine ⟨UInt8.ofNat (Text.hexDigit n).toNat, ?_⟩
  revert n
  decide

theorem encodes_escaped (s : String) :
    Encodes (Text.Utf8.encode (escaped s)) (Text.Utf8.bytesOf s) := by
  rw [escaped]
  generalize Text.Utf8.bytesOf s = bs
  induction bs with
  | nil => exact .nil
  | cons b rest ih =>
    have hb : b.toNat < 256 := b.toNat_lt
    obtain ⟨x, hx, hhigh⟩ := encode_hexDigit (b.toNat / 16) (by omega)
    obtain ⟨y, hy, hlow⟩ := encode_hexDigit (b.toNat % 16) (by omega)
    have hoctet : UInt8.ofNat (16 * (b.toNat / 16) + b.toNat % 16) = b := by
      rw [Nat.div_add_mod, UInt8.ofNat_toNat]
    have hmark : String.utf8EncodeChar '%' = [0x25] := rfl
    rw [List.flatMap_cons, Text.Utf8.encode_append]
    simp only [Text.Utf8.encode, List.flatMap_cons, List.flatMap_nil, hmark, hx, hy,
      List.append_nil, List.cons_append, List.nil_append]
    have hnext := Encodes.escape hhigh hlow ih
    rwa [hoctet] at hnext

theorem encode_intercalate (pieces : List (List Char)) :
    Text.Utf8.encode (['&'].intercalate pieces) =
      [0x26].intercalate (pieces.map Text.Utf8.encode) := by
  induction pieces with
  | nil => rfl
  | cons piece rest ih =>
    cases rest with
    | nil => simp
    | cons next rest =>
      rw [List.intercalate_cons_cons, Text.Utf8.encode_append, Text.Utf8.encode_append, ih,
        List.map_cons, List.map_cons, List.map_cons, List.intercalate_cons_cons]
      rfl

/-- Every list of pairs can be sent as a query. -/
theorem pairs_query (ps : List (String × String)) :
    pairs (Text.Utf8.bytesOf (query ps)) = ps := by
  rw [Text.Utf8.bytesOf, query, String.toList_ofList, encode_intercalate]
  refine pairs_intercalate ?_
  induction ps with
  | nil => exact .nil
  | cons p rest ih =>
    refine .cons ⟨_, _, ?_, encodes_escaped p.1, encodes_escaped p.2⟩ ih
    rw [Text.Utf8.encode_append]
    rfl

end Form
end Http
end Weblog
