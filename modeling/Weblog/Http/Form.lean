import Weblog.Text.Hex
import Weblog.Text.Split
import Weblog.Text.Utf8

/-!
# Weblog.Http.Form

Names and values in queries and form bodies.

* `percentDecode`: escapes replaced by their octets; an escape that is malformed stays as it is.
* `Form.pairs`: pieces between ampersands, each split at its first equals sign. Plus signs are
  spaces, and what is not UTF-8 becomes U+FFFD.
-/

namespace Weblog
namespace Http

def hexOctet? (b : UInt8) : Option Nat := Text.hexValue? (Char.ofNat b.toNat)

/-- Replaces escapes by their octets; `done` is what was read before, last first. -/
def percentDecodeOnto (done : List UInt8) : List UInt8 → List UInt8
  | [] => done.reverse
  | [a] => (a :: done).reverse
  | [a, b] => (b :: a :: done).reverse
  | a :: b :: c :: rest =>
    if a = 0x25 then
      match hexOctet? b, hexOctet? c with
      | some x, some y => percentDecodeOnto (UInt8.ofNat (16 * x + y) :: done) rest
      | _, _ => percentDecodeOnto (a :: done) (b :: c :: rest)
    else percentDecodeOnto (a :: done) (b :: c :: rest)

/-- Replaces escapes by their octets; an escape that is malformed stays as it is. -/
def percentDecode (octets : List UInt8) : List UInt8 := percentDecodeOnto [] octets

namespace Form

def plusToSpace (b : UInt8) : UInt8 := if b = 0x2B then 0x20 else b

/-- The text of an encoded name or value. -/
def decode (octets : List UInt8) : String :=
  Text.Utf8.textLossy (percentDecode (octets.map plusToSpace))

/-- The name and the value of a piece; without an equals sign the value is empty. -/
def pair (piece : List UInt8) : String × String :=
  match Text.splitOnce 0x3D piece with
  | some (name, value) => (decode name, decode value)
  | none => (decode piece, "")

/-- The names and values of an encoded form in order. -/
def pairs (octets : List UInt8) : List (String × String) :=
  ((Text.splitAll 0x26 octets).filter fun piece => !piece.isEmpty).map pair

end Form
end Http
end Weblog
