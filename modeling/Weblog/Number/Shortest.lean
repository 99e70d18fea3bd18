import Weblog.Number.Binary64

/-!
# Weblog.Number.Shortest

The shortest decimal that reads back as a given number in double precision, and how it is written.

* `shortest`: the digits and the power of ten. The decimal lies among the reals that round to the
  number, on the coarsest decimal grid that meets them; of two on that grid it is the nearer.
* `Layout`: which decimals are written positionally and how the others are.
* `jsonLayout`: the layout of numbers in JSON texts.
* `plainLayout`: the layout of numbers among other values.
* `positionalLayout`: digits and a point, whatever the magnitude.
-/

namespace Weblog
namespace Binary64

/-- A decimal: `digits * 10 ^ power`. -/
structure Decimal where
  digits : Nat
  power : Int
  deriving DecidableEq, Repr

/-- The reals that round to a positive number, in quarters of its last place: from `low` to
`high`, with the number itself at `4 * mantissa`. The ends belong to it iff the significand is
even; below a power of two the distance is half. -/
structure Interval where
  low : Nat
  value : Nat
  high : Nat
  closed : Bool
  unit : Int
  deriving DecidableEq, Repr

def interval (x : Binary64) : Interval where
  low := 4 * x.mantissa - (if x.mantissa = Nat.pow 2 52 ∧ 1 < x.field then 1 else 2)
  value := 4 * x.mantissa
  high := 4 * x.mantissa + 2
  closed := x.mantissa % 2 == 0
  unit := x.exponent - 2

/-- A power as a quotient of natural numbers. -/
def powerRatio (base : Nat) : Int → Nat × Nat
  | .ofNat e => (Nat.pow base e, 1)
  | .negSucc e => (1, Nat.pow base (e + 1))

/-- A quantity in units of the interval against a multiple of a power of ten: both multiplied by
the denominators, so that they are natural numbers. -/
def Interval.common (iv : Interval) (k : Int) (quarters multiple : Nat) : Nat × Nat :=
  let (un, ud) := powerRatio 2 iv.unit
  let (tn, td) := powerRatio 10 k
  (quarters * un * td, multiple * tn * ud)

def Interval.holds (iv : Interval) (k : Int) (multiple : Nat) : Bool :=
  let (l, m) := iv.common k iv.low multiple
  let (h, _) := iv.common k iv.high multiple
  if iv.closed then decide (l ≤ m) && decide (m ≤ h) else decide (l < m) && decide (m < h)

/-- The better of the two neighbours of the number on a decimal grid that lie in the interval. -/
def Interval.onGrid (iv : Interval) (k : Int) : Option Nat :=
  let (v, one) := iv.common k iv.value 1
  let below := v / one
  let lower := decide (0 < below) && iv.holds k below
  let upper := iv.holds k (below + 1)
  match lower, upper with
  | true, true =>
    let twice := 2 * (v % one)
    if twice < one then some below
    else if one < twice then some (below + 1)
    else some (if below % 2 = 0 then below else below + 1)
  | true, false => some below
  | false, true => some (below + 1)
  | false, false => none

/-- The first grid that meets the interval, from coarse to fine. -/
def Interval.search (iv : Interval) (k : Int) : Nat → Decimal
  | 0 => ⟨0, 0⟩
  | n + 1 =>
    match iv.onGrid k with
    | some d => ⟨d, k⟩
    | none => iv.search (k - 1) n

/-- The shortest decimal that reads back as the magnitude of the number. -/
def shortest (x : Binary64) : Decimal :=
  if x.isZero then ⟨0, 0⟩
  else
    let top : Int := ((x.mantissa.log2 : Int) + x.exponent + 1) * 30103 / 100000 + 2
    x.interval.search top 24

/-- How a decimal is laid out. -/
structure Layout where
  /-- Scientific exponents below this are written with a mark. -/
  leastPositional : Int
  /-- Scientific exponents from this on are written with a mark. -/
  firstMarked : Int
  /-- A positional integer is followed by this. -/
  pointZero : String
  /-- The mark before the exponent. -/
  mark : String
  /-- The sign of an exponent that is not negative. -/
  plus : String
  deriving DecidableEq, Repr

/-- Numbers in JSON texts: positional from 0.00001 to below 10 to the 16th, always with a point or
an exponent, and the exponent with its sign. -/
def jsonLayout : Layout := ⟨-5, 16, ".0", "e", "+"⟩

/-- Numbers among other values: positional from 0.0001 to below 10 to the 16th, and an exponent
without a plus. -/
def plainLayout : Layout := ⟨-4, 16, ".0", "e", ""⟩

/-- Digits and a point, whatever the magnitude. -/
def positionalLayout : Layout := ⟨-400, 400, ".0", "e", "+"⟩

def Layout.write (l : Layout) (negative : Bool) (d : Decimal) : String :=
  let ds := Nat.toDigits 10 d.digits
  let n : Int := ds.length
  let sci := n - 1 + d.power
  let sign := if negative then "-" else ""
  if sci < l.leastPositional ∨ l.firstMarked ≤ sci then
    let lead := String.ofList (ds.take 1)
    let rest := ds.drop 1
    let fraction := if rest.isEmpty then "" else "." ++ String.ofList rest
    let power := if sci < 0 then "-" ++ toString sci.natAbs else l.plus ++ toString sci.natAbs
    sign ++ lead ++ fraction ++ l.mark ++ power
  else if 0 ≤ d.power then
    sign ++ String.ofList (ds ++ List.replicate d.power.toNat '0') ++ l.pointZero
  else if 0 ≤ sci then
    let whole := (n + d.power).toNat
    sign ++ String.ofList (ds.take whole) ++ "." ++ String.ofList (ds.drop whole)
  else
    sign ++ "0." ++ String.ofList (List.replicate (-sci - 1).toNat '0' ++ ds)

def format (l : Layout) (x : Binary64) : String := l.write x.isNegative x.shortest

end Binary64
end Weblog
