/-!
# Weblog.Text.Utf16

UTF-16 text as octets.

* `Utf16.decode`: the characters of octets in pairs; a surrogate without its partner, or an octet
  left over, becomes U+FFFD.
-/

namespace Weblog
namespace Text
namespace Utf16

/-- Words of sixteen bits out of pairs of octets, last first, and whether an octet is left over. -/
def wordsOnto (bigEndian : Bool) (done : List Nat) : List UInt8 → List Nat × Bool
  | [] => (done, false)
  | [_] => (done, true)
  | a :: b :: rest =>
    let word := if bigEndian then 256 * a.toNat + b.toNat else 256 * b.toNat + a.toNat
    wordsOnto bigEndian (word :: done) rest

/-- A word that begins a pair. -/
def isHigh (w : Nat) : Bool := decide (0xD800 ≤ w) && decide (w ≤ 0xDBFF)

/-- A word that ends a pair. -/
def isLow (w : Nat) : Bool := decide (0xDC00 ≤ w) && decide (w ≤ 0xDFFF)

/-- Reads words; `high` is a word that awaits its partner, and `odd` tells whether an octet is left
over at the end. What was read is in `done`, last first. -/
def charsOnto (odd : Bool) (done : List Char) (high : Option Nat) : List Nat → List Char
  | [] => (if high.isSome || odd then '\uFFFD' :: done else done).reverse
  | w :: rest =>
    match high with
    | some h =>
      if isLow w then
        charsOnto odd (Char.ofNat (0x10000 + 1024 * (h - 0xD800) + (w - 0xDC00)) :: done) none rest
      else if isHigh w then charsOnto odd ('\uFFFD' :: done) (some w) rest
      else charsOnto odd (Char.ofNat w :: '\uFFFD' :: done) none rest
    | none =>
      if isHigh w then charsOnto odd done (some w) rest
      else if isLow w then charsOnto odd ('\uFFFD' :: done) none rest
      else charsOnto odd (Char.ofNat w :: done) none rest

def decode (bigEndian : Bool) (octets : List UInt8) : List Char :=
  let (words, odd) := wordsOnto bigEndian [] octets
  charsOnto odd [] none words.reverse

end Utf16

end Text
end Weblog
