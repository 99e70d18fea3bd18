import Weblog.Number.Binary64

/-!
# Weblog.Number.Bounded

Decimals whose coefficient has 96 bits, out of decimals of any length.

A decimal of any length is a row of digits to the base ten thousand, aligned at the point and
without zeros at its two ends. Its digits are added up from the first on, each in its place.

* `groups`: the digits to the base ten thousand.
* `BoundedDecimal.fit`: the decimal nearest to a sum, with as many places as its coefficient allows.
* `BoundedDecimal.ofDecimal?`: the sum of the digits in the places of the decimal. None where a
  digit stands too far from the point, or where the sum before the point is too large.
* `BoundedDecimal.toFloat`: the decimal in double precision.
-/

namespace Weblog

/-- The digits of a number to the base ten thousand, last first. -/
def groups (n : Nat) : List Nat :=
  if h : n = 0 then [] else n % 10000 :: groups (n / 10000)
termination_by n
decreasing_by exact Nat.div_lt_self (Nat.pos_of_ne_zero h) (by decide)

/-- A digit to the base ten thousand with its place: the digit stands for
`digit * 10000 ^ place`. -/
structure PlacedGroup where
  digit : Nat
  place : Int
  deriving DecidableEq, Repr

/-- Digits with their places, last first, the last of them at a given place. -/
def placeFrom (place : Int) : List Nat → List PlacedGroup
  | [] => []
  | d :: rest => ⟨d, place⟩ :: placeFrom (place + 1) rest

/-- The digits of `coefficient / 10 ^ scale`, first digit first, without zeros at the two ends. -/
def placedGroups (coefficient scale : Nat) : List PlacedGroup :=
  let behind := (scale + 3) / 4
  let digits := groups (coefficient * Nat.pow 10 (4 * behind - scale))
  ((placeFrom (-behind) digits).dropWhile fun g => g.digit == 0).reverse

/-- The greatest place, on either side of the point, that a power of 96 bits can have. -/
def greatestPlace : Nat := 7

/-- A quotient of natural numbers, rounded to the nearest and a half to even. -/
def roundEven (a b : Nat) : Nat :=
  let twice := 2 * (a % b)
  if twice < b ∨ (twice = b ∧ a / b % 2 = 0) then a / b else a / b + 1

/-- A decimal `coefficient / 10 ^ scale`. -/
structure BoundedDecimal where
  coefficient : Nat
  scale : Nat
  deriving DecidableEq, Repr

namespace BoundedDecimal

/-- What every coefficient lies below. -/
def limit : Nat := Nat.pow 2 96

/-- A decimal with so many places fewer. -/
def withFewer (coefficient scale fewer : Nat) : BoundedDecimal :=
  ⟨roundEven coefficient (Nat.pow 10 fewer), scale - fewer⟩

/-- The decimal nearest to a given one that has as many places as the coefficient allows. -/
def fit (coefficient scale : Nat) : Option BoundedDecimal :=
  ((List.range (scale + 1)).map (withFewer coefficient scale)).find? fun d => d.coefficient < limit

def add (d : BoundedDecimal) (g : PlacedGroup) : Option BoundedDecimal :=
  match g.place with
  | .ofNat n =>
    if greatestPlace < n then none
    else fit (d.coefficient + g.digit * Nat.pow 10 (4 * n) * Nat.pow 10 d.scale) d.scale
  | .negSucc n =>
    if greatestPlace < n + 1 then none
    else
      let scale := max d.scale (4 * (n + 1))
      fit (d.coefficient * Nat.pow 10 (scale - d.scale) +
        g.digit * Nat.pow 10 (scale - 4 * (n + 1))) scale

def sum (d : BoundedDecimal) : List PlacedGroup → Option BoundedDecimal
  | [] => some d
  | g :: rest => (d.add g).bind fun d => d.sum rest

/-- Adds zeros behind the last place while the coefficient allows them, at most so many. -/
def extend (d : BoundedDecimal) : Nat → BoundedDecimal
  | 0 => d
  | n + 1 =>
    if d.coefficient * 10 < limit then extend ⟨d.coefficient * 10, d.scale + 1⟩ n else d

/-- The decimal in given places: with zeros behind it, or rounded, a half going up. -/
def rescale (d : BoundedDecimal) (scale : Nat) : BoundedDecimal :=
  if d.scale ≤ scale then d.extend (scale - d.scale)
  else
    let power := Nat.pow 10 (d.scale - scale)
    ⟨(2 * d.coefficient + power) / (2 * power), scale⟩

/-- The decimal out of one of any length, in the same places where they can be kept. -/
def ofDecimal? (coefficient scale : Nat) : Option BoundedDecimal :=
  match placedGroups coefficient scale with
  | [] => some ⟨0, 0⟩
  | digits => (sum ⟨0, 0⟩ digits).map fun d => d.rescale scale

/-- The part before the point. -/
def whole (d : BoundedDecimal) : Nat := d.coefficient / Nat.pow 10 d.scale

/-- There is nothing behind the point but zeros. -/
def isWhole (d : BoundedDecimal) : Bool := d.coefficient % Nat.pow 10 d.scale == 0

/-- An integer nearest to a number that is not negative, a half going up. -/
def roundHalfUp (x : Binary64) : Binary64 :=
  let (a, b) := x.ratio
  Binary64.nearest false ((2 * a + b) / (2 * b)) 1

/-- The decimal in double precision: its integer part and its fraction are added, and the sum is
rounded to the places of the decimal. -/
def toFloat (d : BoundedDecimal) : Binary64 :=
  let power := Binary64.nearest false (Nat.pow 10 d.scale) 1
  let whole := Binary64.nearest false d.whole 1
  let rest := Binary64.nearest false (d.coefficient % Nat.pow 10 d.scale) 1
  let fraction := (rest.div? power).getD Binary64.zero
  if fraction.isZero then whole
  else
    let sum := (whole.add? fraction).getD whole
    ((sum.mul? power).bind fun scaled => (roundHalfUp scaled).div? power).getD sum

end BoundedDecimal
end Weblog
