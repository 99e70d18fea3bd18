/-!
# Weblog.Text.Numeral

Decimal numerals in ASCII digits.

* `nat?`: one digit or more, nothing else.
* `int?`: an optional sign before the digits.
* `ranged?`: an integer whose value lies in a given range; the unsigned ranges refuse a minus sign.
* `padded`: at least so many digits, filled with zeros on the left.
-/

namespace Weblog
namespace Text

def digit? (c : Char) : Option Nat :=
  if '0' ≤ c ∧ c ≤ '9' then some (c.toNat - '0'.toNat) else none

/-- Extends the numeral read so far by further digits. -/
def digitsFrom (acc : Nat) : List Char → Option Nat
  | [] => some acc
  | c :: rest => (digit? c).bind fun d => digitsFrom (10 * acc + d) rest

/-- Reads one ASCII digit or more. -/
def nat? : List Char → Option Nat
  | [] => none
  | cs => digitsFrom 0 cs

/-- Reads an optional sign followed by ASCII digits. -/
def int? : List Char → Option Int
  | '-' :: cs => (nat? cs).map fun n => -(n : Int)
  | '+' :: cs => (nat? cs).map fun n => (n : Int)
  | cs => (nat? cs).map fun n => (n : Int)

/-- A range of machine integers. -/
structure IntRange where
  least : Int
  greatest : Int
  deriving DecidableEq, Repr

/-- Signed integers of 64 bits. -/
def IntRange.i64 : IntRange := ⟨-9223372036854775808, 9223372036854775807⟩

/-- Unsigned integers of 32 bits. -/
def IntRange.u32 : IntRange := ⟨0, 4294967295⟩

/-- Unsigned integers of 16 bits. -/
def IntRange.u16 : IntRange := ⟨0, 65535⟩

/-- Unsigned integers of 64 bits. -/
def IntRange.u64 : IntRange := ⟨0, 18446744073709551615⟩

def IntRange.has (r : IntRange) (i : Int) : Bool :=
  decide (r.least ≤ i) && decide (i ≤ r.greatest)

/-- Reads an integer of the range. A range without negative members refuses a minus sign, also
before zero. -/
def ranged? (r : IntRange) (s : String) : Option Int :=
  if 0 ≤ r.least ∧ s.toList.head? = some '-' then none
  else (int? s.toList).filter r.has

def digits (n : Nat) : List Char := Nat.toDigits 10 n

/-- The decimal digits of a number, filled with zeros on the left up to the width. -/
def padded (width n : Nat) : List Char :=
  List.replicate (width - (digits n).length) '0' ++ digits n

/-- The decimal numeral of an integer, with a minus sign when it is negative. -/
def intChars : Int → List Char
  | .ofNat n => digits n
  | .negSucc n => '-' :: digits (n + 1)

def ofInt (i : Int) : String := String.ofList (intChars i)

theorem nat?_eq_digitsFrom {cs : List Char} (h : cs ≠ []) : nat? cs = digitsFrom 0 cs := by
  cases cs with
  | nil => exact absurd rfl h
  | cons c cs => rfl

end Text
end Weblog
