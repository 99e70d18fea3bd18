/-!
# Weblog.Text.Utf8

UTF-8 text as octets.

* `encode`: the octets of a text.
* `scan`: the characters of a list of octets. Where the octets are not UTF-8 it yields `none` for
  each longest part that could still have begun a character.
* `decode?`: the text, if every octet belongs to a character.
* `decodeLossy`: the text with U+FFFD for each part that is no character.
-/

namespace Weblog
namespace Text
namespace Utf8

/-- The octets of a text. -/
def encode (cs : List Char) : List UInt8 := cs.flatMap String.utf8EncodeChar

/-- A character begun and not ended: the value of the octets so far, the range admitted for the
next octet, and how many octets are owed after that one. -/
structure Pending where
  value : Nat
  least : Nat
  greatest : Nat
  owed : Nat
  deriving DecidableEq, Repr

/-- What the first octet of a character says. -/
inductive Lead where
  | char (c : Char)
  | more (p : Pending)
  | refused
  deriving DecidableEq, Repr

/-- Reads the first octet of a character. The ranges leave out long forms, surrogates and all
above U+10FFFF. -/
def lead (b : UInt8) : Lead :=
  let n := b.toNat
  if n < 0x80 then .char (Char.ofNat n)
  else if n < 0xC2 then .refused
  else if n < 0xE0 then .more ⟨n - 0xC0, 0x80, 0xBF, 0⟩
  else if n = 0xE0 then .more ⟨0, 0xA0, 0xBF, 1⟩
  else if n = 0xED then .more ⟨13, 0x80, 0x9F, 1⟩
  else if n < 0xF0 then .more ⟨n - 0xE0, 0x80, 0xBF, 1⟩
  else if n = 0xF0 then .more ⟨0, 0x90, 0xBF, 2⟩
  else if n < 0xF4 then .more ⟨n - 0xF0, 0x80, 0xBF, 2⟩
  else if n = 0xF4 then .more ⟨4, 0x80, 0x8F, 2⟩
  else .refused

/-- Where the first octet of a character leads, and what is read by it. -/
def Lead.outcome : Lead → List (Option Char) × Option Pending
  | .char c => ([some c], none)
  | .more p => ([], some p)
  | .refused => ([none], none)

/-- One octet: what is read by it, in order, and the character begun after it. An octet that
cannot continue the character begun ends it as `none` and is read as a first octet. -/
def step : Option Pending → UInt8 → List (Option Char) × Option Pending
  | none, b => (lead b).outcome
  | some p, b =>
    if p.least ≤ b.toNat ∧ b.toNat ≤ p.greatest then
      let value := 64 * p.value + (b.toNat - 0x80)
      match p.owed with
      | 0 => ([some (Char.ofNat value)], none)
      | owed + 1 => ([], some ⟨value, 0x80, 0xBF, owed⟩)
    else
      (none :: (lead b).outcome.1, (lead b).outcome.2)

/-- What the end of the octets reads: a character begun and not ended is none. -/
def finish : Option Pending → List (Option Char)
  | none => []
  | some _ => [none]

/-- Reads octets after a character that may have been begun; `done` is what was read before, last
first. -/
def scanOnto (done : List (Option Char)) : Option Pending → List UInt8 → List (Option Char)
  | p, [] => (finish p ++ done).reverse
  | p, b :: rest => scanOnto ((step p b).1.reverse ++ done) (step p b).2 rest

/-- The characters of the octets, `none` for each longest part that is no character. -/
def scan (bytes : List UInt8) : List (Option Char) := scanOnto [] none bytes

/-- The characters, if there is no `none` among them, after those in `done`, last first. -/
def allOnto (done : List Char) : List (Option Char) → Option (List Char)
  | [] => some done.reverse
  | none :: _ => none
  | some c :: rest => allOnto (c :: done) rest

/-- The text of the octets, if they are UTF-8. -/
def decode? (bytes : List UInt8) : Option (List Char) := allOnto [] (scan bytes)

/-- The text of the octets, with U+FFFD where they are not UTF-8. -/
def decodeLossy (bytes : List UInt8) : List Char := (scan bytes).map (·.getD '\uFFFD')

/-- The octets of a text. -/
def bytesOf (s : String) : List UInt8 := encode s.toList

/-- The text of the octets, if they are UTF-8. -/
def text? (bytes : List UInt8) : Option String := (decode? bytes).map String.ofList

/-- The text of the octets, with U+FFFD where they are not UTF-8. -/
def textLossy (bytes : List UInt8) : String := String.ofList (decodeLossy bytes)

/-- What was read before stays in front. -/
theorem scanOnto_eq (done : List (Option Char)) (p : Option Pending) (bytes : List UInt8) :
    scanOnto done p bytes = done.reverse ++ scanOnto [] p bytes := by
  induction bytes generalizing done p with
  | nil => cases p <;> simp [scanOnto, finish]
  | cons b rest ih =>
    rw [scanOnto, ih, scanOnto, ih ((step p b).1.reverse ++ [])]
    simp

theorem allOnto_eq (done : List Char) (cs : List (Option Char)) :
    allOnto done cs = (allOnto [] cs).map (done.reverse ++ ·) := by
  induction cs generalizing done with
  | nil => simp [allOnto]
  | cons c rest ih =>
    cases c with
    | none => rfl
    | some c =>
      rw [allOnto, ih, allOnto, ih [c], Option.map_map]
      congr 1
      funext tail
      simp

@[simp] theorem scan_nil : scan [] = [] := rfl

@[simp] theorem encode_nil : encode [] = [] := rfl

theorem encode_append (xs ys : List Char) : encode (xs ++ ys) = encode xs ++ encode ys := by
  simp [encode]

end Utf8
end Text
end Weblog
