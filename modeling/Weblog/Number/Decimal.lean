import Weblog.Number.Binary64

/-!
# Weblog.Number.Decimal

Reading decimals in double precision in two roundings: the significand is kept in 64 bits and
rounded, then multiplied or divided by a rounded power of ten. For significands below 2 to the
53rd and powers up to 22 that is the nearest number; beyond, it may be its neighbour.

* `significand`: digits are taken while the significand fits 64 bits and are counted or skipped
  from then on.
* `scale?`: the number, if it is finite.
-/

namespace Weblog
namespace Binary64

/-- The number nearest to a power of ten that double precision holds. -/
def powerOfTen (k : Nat) : Binary64 := nearest false (Nat.pow 10 k) 1

/-- The greatest exponent whose power of ten is finite. -/
def greatestPower : Nat := 308

/-- Divides by the greatest power of ten again and again, until zero. -/
def descend (f : Binary64) : Nat → Binary64
  | 0 => f
  | n + 1 =>
    if f.isZero then f
    else descend ((f.div? (powerOfTen greatestPower)).getD zero) n

/-- Multiplies by a power of ten, or divides by it when the exponent is negative. A power beyond
the greatest one is divided by in steps; multiplication by it is beyond every finite number unless
the factor is zero. -/
def scaleBy? (f : Binary64) : Int → Option Binary64
  | .ofNat e =>
    if e ≤ greatestPower then f.mul? (powerOfTen e)
    else if f.isZero then some f
    else none
  | .negSucc e =>
    let steps := e / greatestPower
    (descend f steps).div? (powerOfTen (e + 1 - greatestPower * steps))

/-- The number of a significand below 2 to the 64th and a power of ten, if it is finite. -/
def scale? (negative : Bool) (significand : Nat) (exponent : Int) : Option Binary64 :=
  (scaleBy? (nearest false significand 1) exponent).map fun f => if negative then f.negate else f

/-- A significand keeps 64 bits. -/
def significandLimit : Nat := Nat.pow 2 64

end Binary64
end Weblog
