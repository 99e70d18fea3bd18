import Weblog.Http.Multipart
import Weblog.Proofs.Text.Split

/-!
# Weblog.Proofs.Http.Multipart

Bodies of several parts are read as they are written.

* `Part`, `bodyOf`: the lines of headers and the content of a part, and the body that parts make.
* `Part.Reads`: the lines of a part are read as headers, and its content holds no carriage return.
* `readParts_tailOf`, `pairs?_bodyOf`: what is read of such a body.
-/

namespace Weblog
namespace Http
namespace Multipart

/-- A part as it is written. -/
structure Part where
  lines : List UInt8
  content : List UInt8

/-- What follows a delimiter. -/
def tailOf (boundary : List UInt8) : List Part → List UInt8
  | [] => [0x2D, 0x2D] ++ lineEnd
  | p :: rest => lineEnd ++ (p.lines ++ blankLine ++
      (p.content ++ (lineEnd ++ delimiter boundary ++ tailOf boundary rest)))

/-- The body that parts make. -/
def bodyOf (boundary : List UInt8) (parts : List Part) : List UInt8 :=
  delimiter boundary ++ tailOf boundary parts

/-- The lines of a part end at its first empty line and are read as headers. The content holds no
carriage return, so that no delimiter begins in it. -/
structure Part.Reads (p : Part) (headers : List Header) : Prop where
  cut : Text.cutAt blankLine (p.lines ++ blankLine) = some (p.lines, blankLine)
  headers : readHeaders headerLimit (Text.splitAll 10 (p.lines ++ blankLine)) = some headers
  plain : 13 ∉ p.content

theorem readPart_of_reads {p : Part} {headers : List Header} (h : p.Reads headers)
    (boundary rest : List UInt8) :
    readPart boundary (p.lines ++ blankLine ++
        (p.content ++ (lineEnd ++ delimiter boundary ++ rest))) =
      some (headers, p.content, rest) := by
  have hcontent : Text.cutAt (lineEnd ++ delimiter boundary)
      (p.content ++ (lineEnd ++ delimiter boundary ++ rest)) =
        some (p.content, lineEnd ++ delimiter boundary ++ rest) := by
    have hmark : lineEnd ++ delimiter boundary = 13 :: 10 :: delimiter boundary := rfl
    rw [hmark, Text.cutAt_append_of_not_mem h.plain, ← hmark, Text.cutAt_append_self]
    simp
  simp only [readPart, Text.cutAt_append h.cut, h.headers, bind, Option.bind, List.drop_left,
    hcontent, pure]

theorem readParts_lineEnd (boundary : List UInt8) (fuel : Nat) (done : List (String × String))
    (octets : List UInt8) : readParts boundary (fuel + 1) done (lineEnd ++ octets) =
      match readPart boundary octets with
      | some (headers, content, rest) => readParts boundary fuel (addPart done headers content) rest
      | none => none := rfl

/-- After the parts before it, a part is added to them, and the rest follows. -/
theorem readParts_tailOf_cons {p : Part} {headers : List Header} (h : p.Reads headers)
    (boundary : List UInt8) (fuel : Nat) (done : List (String × String)) (rest : List Part) :
    readParts boundary (fuel + 1) done (tailOf boundary (p :: rest)) =
      readParts boundary fuel (addPart done headers p.content) (tailOf boundary rest) := by
  rw [tailOf, readParts_lineEnd, readPart_of_reads h]

theorem readParts_tailOf {boundary : List UInt8} {parts : List (Part × List Header)}
    (h : ∀ p ∈ parts, p.1.Reads p.2) {fuel : Nat} (hfuel : parts.length < fuel)
    (done : List (String × String)) :
    readParts boundary fuel done (tailOf boundary (parts.map Prod.fst)) =
      some (parts.foldl (fun done p => addPart done p.2 p.1.content) done).reverse := by
  -- each part takes one unit of fuel, and the end of the body one more
  induction parts generalizing fuel done with
  | nil =>
    obtain ⟨fuel, rfl⟩ := Nat.exists_eq_succ_of_ne_zero (Nat.ne_zero_of_lt hfuel)
    rfl
  | cons p rest ih =>
    obtain ⟨fuel, rfl⟩ := Nat.exists_eq_succ_of_ne_zero (Nat.ne_zero_of_lt hfuel)
    rw [List.forall_mem_cons] at h
    rw [List.map_cons, readParts_tailOf_cons h.1,
      ih h.2 (Nat.lt_of_succ_lt_succ (by simpa using hfuel))]
    rfl

theorem length_le_tailOf (boundary : List UInt8) (parts : List Part) :
    parts.length ≤ (tailOf boundary parts).length := by
  induction parts with
  | nil => simp
  | cons p rest ih =>
    simp only [tailOf, List.length_append, List.length_cons, lineEnd, List.length_nil]
    omega

/-- How long a body of one part is. -/
theorem length_bodyOf_singleton (boundary : List UInt8) (p : Part) :
    (bodyOf boundary [p]).length =
      p.lines.length + p.content.length + (2 * boundary.length + 16) := by
  simp only [bodyOf, tailOf, delimiter, lineEnd, blankLine, List.length_append, List.length_cons,
    List.length_nil]
  omega

/-- A body of parts is read as their names and texts. -/
theorem pairs?_bodyOf (boundary : List UInt8) {parts : List (Part × List Header)}
    (h : ∀ p ∈ parts, p.1.Reads p.2) :
    pairs? boundary (bodyOf boundary (parts.map Prod.fst)) =
      some (parts.foldl (fun done p => addPart done p.2 p.1.content) []).reverse := by
  have hlength := length_le_tailOf boundary (parts.map Prod.fst)
  have hfuel : parts.length < (bodyOf boundary (parts.map Prod.fst)).length + 1 := by
    simp only [bodyOf, List.length_append, List.length_map] at hlength ⊢
    omega
  rw [pairs?, bodyOf, Text.cutAt_append_self]
  simp only [List.drop_left]
  exact readParts_tailOf h hfuel []

end Multipart
end Http
end Weblog
