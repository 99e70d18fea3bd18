/-!
# Weblog.Text.Charset.Table

Tables of characters, and readers of octets.

* `CharTable`: characters by their number.
* `OctetReader`: a way to read octets one after another.
* `DoubleByte`: what octets from 128 on stand for, alone or in pairs; `DoubleByte.reader` reads by
  it.
-/

namespace Weblog
namespace Text

/-- Characters by their number, in lines of sixty-four. A space, or the end of a line, stands where
there is no character. -/
abbrev CharTable : Type := List String

def CharTable.char? (t : CharTable) (n : Nat) : Option Char :=
  (t[n / 64]?.bind fun line => line.toList[n % 64]?).filter (· ≠ ' ')

/-- A way to read octets: what is read at an octet and the state after it, and what is read at the
end. -/
structure OctetReader (σ : Type) where
  start : σ
  step : σ → UInt8 → List Char × σ
  finish : σ → List Char

namespace OctetReader

variable {σ : Type}

/-- Reads octets from a state on; `done` is what was read before, last first. -/
def readOnto (r : OctetReader σ) (done : List Char) : σ → List UInt8 → List Char
  | s, [] => ((r.finish s).reverse ++ done).reverse
  | s, b :: rest => r.readOnto ((r.step s b).1.reverse ++ done) (r.step s b).2 rest

def read (r : OctetReader σ) (octets : List UInt8) : List Char := r.readOnto [] r.start octets

end OctetReader

def asciiChar (b : UInt8) : Char := Char.ofNat b.toNat

/-- An octet that continues nothing: it is an error, and below 128 it still stands for itself. -/
def stray (b : UInt8) : List Char :=
  if b < 0x80 then ['\uFFFD', asciiChar b] else ['\uFFFD']

def octetIn (least greatest : UInt8) (b : UInt8) : Bool := least ≤ b && b ≤ greatest

/-- What octets from 128 on stand for, alone or in pairs. -/
structure DoubleByte where
  /-- The first octet of a pair. -/
  isLead : UInt8 → Bool
  /-- The character of an octet that stands alone. -/
  single : UInt8 → Option Char
  /-- The characters of a pair, none where it is no pair. -/
  pair : UInt8 → UInt8 → List Char

namespace DoubleByte

/-- Reads an octet that no other one waits for. -/
def first (d : DoubleByte) (b : UInt8) : List Char × Option UInt8 :=
  if b < 0x80 then ([asciiChar b], none)
  else if d.isLead b then ([], some b)
  else ([(d.single b).getD '\uFFFD'], none)

/-- Reads an octet, with the first of a pair that may wait for it. -/
def step (d : DoubleByte) : Option UInt8 → UInt8 → List Char × Option UInt8
  | none, b => d.first b
  | some lead, b =>
    match d.pair lead b with
    | [] => (stray b, none)
    | cs => (cs, none)

def reader (d : DoubleByte) : OctetReader (Option UInt8) where
  start := none
  step := d.step
  finish s := if s.isSome then ['\uFFFD'] else []

end DoubleByte
end Text
end Weblog
