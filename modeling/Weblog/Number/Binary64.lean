/-!
# Weblog.Number.Binary64

Finite numbers in double precision.

* `Binary64`: a finite number, by its 64 bits.
* `ofRatio?`: the number nearest to a quotient, a half going to the even neighbour; none where it
  is beyond the greatest finite number.
* `mantissa`, `exponent`: the magnitude is `mantissa * 2 ^ exponent`.
* `truncate`: the integer part.

All of it is arithmetic on natural numbers, so that statements about it need no theory of machine
floating point.
-/

namespace Weblog

/-- A finite number in double precision: the bits of its sign, its exponent and its fraction. An
exponent field of 2047 would be an infinity or no number. -/
structure Binary64 where
  bits : Nat
  finite : bits / Nat.pow 2 52 % 2048 ≠ 2047
  bounded : bits < Nat.pow 2 64

namespace Binary64

theorem ext {x y : Binary64} (h : x.bits = y.bits) : x = y := by
  cases x; cases y; cases h; rfl

instance : DecidableEq Binary64 := fun x y =>
  if h : x.bits = y.bits then isTrue (ext h) else isFalse fun e => h (congrArg bits e)

instance : Repr Binary64 where
  reprPrec x _ := "Binary64 of bits " ++ repr x.bits

/-- The number of the bits, if they are of a finite one. -/
def ofBits? (bits : Nat) : Option Binary64 :=
  if h : bits / Nat.pow 2 52 % 2048 ≠ 2047 ∧ bits < Nat.pow 2 64 then some ⟨bits, h.1, h.2⟩
  else none

def zero : Binary64 := ⟨0, by decide, by decide⟩

instance : Inhabited Binary64 := ⟨zero⟩

def isNegative (x : Binary64) : Bool := decide (Nat.pow 2 63 ≤ x.bits)

def field (x : Binary64) : Nat := x.bits / Nat.pow 2 52 % 2048

/-- The significand as an integer; the magnitude of the number is this times a power of two. -/
def mantissa (x : Binary64) : Nat :=
  if x.field = 0 then x.bits % Nat.pow 2 52 else Nat.pow 2 52 + x.bits % Nat.pow 2 52

/-- The power of two that belongs to the integer significand. -/
def exponent (x : Binary64) : Int :=
  if x.field = 0 then -1074 else (x.field : Int) - 1075

def isZero (x : Binary64) : Bool := x.mantissa == 0

/-- The quotient `num / den` of the magnitude. -/
def ratio (x : Binary64) : Nat × Nat :=
  match x.exponent with
  | .ofNat e => (x.mantissa * Nat.pow 2 e, 1)
  | .negSucc e => (x.mantissa, Nat.pow 2 (e + 1))

/-- A quotient rounded to the nearest integer, a half going to the even neighbour. -/
def roundDiv (num den : Nat) : Nat :=
  let q := num / den
  let r := num % den
  if 2 * r < den then q
  else if den < 2 * r then q + 1
  else if q % 2 = 0 then q else q + 1

/-- The quotient `num / den * 2 ^ (-e)` as a quotient of natural numbers. -/
def scaled (num den : Nat) : Int → Nat × Nat
  | .ofNat e => (num, den * Nat.pow 2 e)
  | .negSucc e => (num * Nat.pow 2 (e + 1), den)

/-- The exponent for which a positive quotient has a significand of 53 bits, or the least one. -/
def exponentFor (num den : Nat) : Int :=
  let guess : Int := (num.log2 : Int) - den.log2 - 52
  let (n, d) := scaled num den guess
  let exact := if n < Nat.pow 2 52 * d then guess - 1 else guess
  max exact (-1074)

/-- The bits of the nonnegative number nearest to a quotient, and of infinity or more beyond the
greatest one. -/
def magnitudeBits (num den : Nat) : Nat :=
  if num = 0 then 0
  else
    let e := exponentFor num den
    let (n, d) := scaled num den e
    (e + 1074).toNat * Nat.pow 2 52 + roundDiv n d

/-- The number nearest to a quotient with the given sign, if it is finite. -/
def ofRatio? (negative : Bool) (num den : Nat) : Option Binary64 :=
  let m := magnitudeBits num den
  if m < 2047 * Nat.pow 2 52 then ofBits? (if negative then Nat.pow 2 63 + m else m) else none

/-- The number nearest to a quotient of natural numbers, where that is known to be finite. -/
def nearest (negative : Bool) (num den : Nat) : Binary64 :=
  (ofRatio? negative num den).getD zero

/-- The number nearest to an integer; zero beyond the finite range, which no integer of 64 bits
reaches. -/
def ofInt (i : Int) : Binary64 := nearest (decide (i < 0)) i.natAbs 1

/-- The number with the other sign. -/
def negate (x : Binary64) : Binary64 :=
  (ofBits? (if x.isNegative then x.bits - Nat.pow 2 63 else x.bits + Nat.pow 2 63)).getD x

/-- The product, if it is finite. -/
def mul? (x y : Binary64) : Option Binary64 :=
  let (a, b) := x.ratio
  let (c, d) := y.ratio
  ofRatio? (x.isNegative != y.isNegative) (a * c) (b * d)

/-- The quotient by a number that is not zero, if it is finite. -/
def div? (x y : Binary64) : Option Binary64 :=
  let (a, b) := x.ratio
  let (c, d) := y.ratio
  if c = 0 then none else ofRatio? (x.isNegative != y.isNegative) (a * d) (b * c)

/-- The exact value as a quotient with a positive denominator. -/
def signedRatio (x : Binary64) : Int × Nat :=
  let (a, b) := x.ratio
  (if x.isNegative then -(a : Int) else a, b)

/-- The sum, if it is finite. An exact zero is positive unless both terms are negative. -/
def add? (x y : Binary64) : Option Binary64 :=
  let (a, b) := x.signedRatio
  let (c, d) := y.signedRatio
  let num := a * d + c * b
  if num = 0 then some (if x.isNegative && y.isNegative then x.negate.negate else zero)
  else ofRatio? (decide (num < 0)) num.natAbs (b * d)

/-- The integer part. -/
def truncate (x : Binary64) : Int :=
  let (a, b) := x.signedRatio
  Int.tdiv a b

/-- Rounds to 24 bits of significand, as single precision keeps it; none beyond its greatest
finite number. -/
def toSingle? (x : Binary64) : Option Binary64 :=
  let (a, b) := x.ratio
  if a = 0 then some x
  else
    let guess : Int := (a.log2 : Int) - b.log2 - 23
    let (n, d) := scaled a b guess
    let e := max (if n < Nat.pow 2 23 * d then guess - 1 else guess) (-149)
    let (n, d) := scaled a b e
    let q := roundDiv n d
    let (n, d) := match e with
      | .ofNat k => (q * Nat.pow 2 k, 1)
      | .negSucc k => (q, Nat.pow 2 (k + 1))
    if n < Nat.pow 2 128 * d then ofRatio? x.isNegative n d else none

end Binary64
end Weblog
