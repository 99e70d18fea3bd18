import Weblog.Json.Basic
import Weblog.Number.Decimal
import Weblog.Text.Hex
import Weblog.Text.Numeral
import Weblog.Text.Utf8

/-!
# Weblog.Json.Parser

Reading JSON texts strictly: no byte order mark, no trailing comma, no lone surrogate, no number
beyond double precision, and at most 127 levels of nesting.

* `readNumber`, `readString`, `readValue`: read one item at the start of a text and return it with
  the rest.
* `parse?`: reads a whole text.
* `parseBytes?`: reads octets, which must be UTF-8.

An integer that fits 64 bits, with or without a sign, is an integer; every other number is in
double precision. The exception is negative zero, which only double precision has.
-/

namespace Weblog
namespace Json

/-- The white space of JSON texts. -/
def isSpace (c : Char) : Bool := c == ' ' || c == '\n' || c == '\t' || c == '\r'

def skip (cs : List Char) : List Char := cs.dropWhile isSpace

/-- Reads digits into a significand of 64 bits. The first digit that would make it longer is left
where it is. -/
def readSignificand (significand count : Nat) : List Char → Nat × Nat × List Char
  | [] => (significand, count, [])
  | c :: rest =>
    match Text.digit? c with
    | none => (significand, count, c :: rest)
    | some d =>
      if 10 * significand + d < Binary64.significandLimit then
        readSignificand (10 * significand + d) (count + 1) rest
      else (significand, count, c :: rest)

def countDigits (count : Nat) : List Char → Nat × List Char
  | [] => (count, [])
  | c :: rest =>
    match Text.digit? c with
    | none => (count, c :: rest)
    | some _ => countDigits (count + 1) rest

/-- The digits of an exponent, none when they exceed 32 bits with a sign. -/
def readExponentDigits (acc : Option Nat) : List Char → Option Nat × List Char
  | [] => (acc, [])
  | c :: rest =>
    match Text.digit? c with
    | none => (acc, c :: rest)
    | some d =>
      let next := acc.bind fun e => if 10 * e + d < Nat.pow 2 31 then some (10 * e + d) else none
      readExponentDigits next rest

/-- A number in double precision out of its parts. -/
def makeFloat? (negative : Bool) (significand : Nat) (exponent : Int) : Option Number :=
  (Binary64.scale? negative significand exponent).map .float

/-- An integer within 64 bits, or in the absence of one the number in double precision. -/
def makeInteger (negative : Bool) (n : Nat) : Number :=
  if negative then
    if n = 0 ∨ Nat.pow 2 63 < n then .float (Binary64.nearest true n 1) else .integer (-(n : Int))
  else .integer n

/-- Limits an exponent to 32 bits with a sign. -/
def clampExponent (e : Int) : Int := max (-2147483648) (min e 2147483647)

def readExponent (negative : Bool) (significand : Nat) (start : Int) (cs : List Char) :
    Option (Number × List Char) :=
  let (minus, cs) := match cs with
    | '+' :: rest => (false, rest)
    | '-' :: rest => (true, rest)
    | _ => (false, cs)
  match cs with
  | [] => none
  | c :: _ =>
    match Text.digit? c with
    | none => none
    | some _ =>
      match readExponentDigits (some 0) cs with
      | (some e, rest) =>
        let exponent := clampExponent (if minus then start - e else start + e)
        (makeFloat? negative significand exponent).map fun n => (n, rest)
      | (none, rest) =>
        if significand ≠ 0 ∧ minus = false then none
        else some (.float (if negative then Binary64.zero.negate else Binary64.zero), rest)

/-- Makes the number, after the exponent if there is one. -/
def finishFloat (negative : Bool) (significand : Nat) (exponent : Int) :
    List Char → Option (Number × List Char)
  | 'e' :: rest => readExponent negative significand exponent rest
  | 'E' :: rest => readExponent negative significand exponent rest
  | rest => (makeFloat? negative significand exponent).map fun n => (n, rest)

/-- Reads the digits after the point. -/
def readFraction (negative : Bool) (significand : Nat) (start : Int) (cs : List Char) :
    Option (Number × List Char) :=
  match cs with
  | [] => none
  | c :: _ =>
    match Text.digit? c with
    | none => none
    | some _ =>
      let (s, count, rest) := readSignificand significand 0 cs
      let (_, rest) := countDigits 0 rest
      finishFloat negative s (start - count) rest

/-- Reads a number without its sign. -/
def readMagnitude (negative : Bool) (cs : List Char) : Option (Number × List Char) :=
  let (significand, count, rest) := readSignificand 0 0 cs
  let zeroFirst := cs.head? == some '0'
  if count = 0 ∨ (zeroFirst ∧ 1 < count) then none
  else
    let (further, rest) := countDigits 0 rest
    match rest with
    | '.' :: rest => readFraction negative significand further rest
    | 'e' :: rest => readExponent negative significand further rest
    | 'E' :: rest => readExponent negative significand further rest
    | _ =>
      if further = 0 then some (makeInteger negative significand, rest)
      else (makeFloat? negative significand further).map fun n => (n, rest)

def readNumber : List Char → Option (Number × List Char)
  | '-' :: rest => readMagnitude true rest
  | cs => readMagnitude false cs

/-- The value of four hexadecimal digits. -/
def hexWord? (a b c d : Char) : Option Nat :=
  match Text.hexValue? a, Text.hexValue? b, Text.hexValue? c, Text.hexValue? d with
  | some w, some x, some y, some z => some (4096 * w + 256 * x + 16 * y + z)
  | _, _, _, _ => none

/-- Reads a string after its opening quote; `done` is what was read before, last first. -/
def readStringOnto (done : List Char) : List Char → Option (List Char × List Char)
  | [] => none
  | '"' :: rest => some (done.reverse, rest)
  | '\\' :: '"' :: rest => readStringOnto ('"' :: done) rest
  | '\\' :: '\\' :: rest => readStringOnto ('\\' :: done) rest
  | '\\' :: '/' :: rest => readStringOnto ('/' :: done) rest
  | '\\' :: 'b' :: rest => readStringOnto ('\x08' :: done) rest
  | '\\' :: 'f' :: rest => readStringOnto ('\x0c' :: done) rest
  | '\\' :: 'n' :: rest => readStringOnto ('\n' :: done) rest
  | '\\' :: 'r' :: rest => readStringOnto ('\r' :: done) rest
  | '\\' :: 't' :: rest => readStringOnto ('\t' :: done) rest
  | '\\' :: 'u' :: a :: b :: c :: d :: rest =>
    match hexWord? a b c d with
    | none => none
    | some n =>
      if 0xD800 ≤ n ∧ n ≤ 0xDBFF then
        match rest with
        | '\\' :: 'u' :: e :: f :: g :: h :: rest =>
          match hexWord? e f g h with
          | none => none
          | some m =>
            if 0xDC00 ≤ m ∧ m ≤ 0xDFFF then
              readStringOnto
                (Char.ofNat (0x10000 + 1024 * (n - 0xD800) + (m - 0xDC00)) :: done) rest
            else none
        | _ => none
      else if 0xDC00 ≤ n ∧ n ≤ 0xDFFF then none
      else readStringOnto (Char.ofNat n :: done) rest
  | '\\' :: _ => none
  | c :: rest => if c.toNat < 32 then none else readStringOnto (c :: done) rest

def readString (cs : List Char) : Option (String × List Char) :=
  (readStringOnto [] cs).map fun p => (String.ofList p.1, p.2)

def readWord (word : List Char) (value : Json) (cs : List Char) : Option (Json × List Char) :=
  if word.isPrefixOf cs then some (value, cs.drop word.length) else none

mutual

/-- Reads a value at the start of a text; the first argument bounds the work, the second the
nesting that may still follow. -/
def readValue : Nat → Nat → List Char → Option (Json × List Char)
  | 0, _, _ => none
  | fuel + 1, depth, cs =>
    match cs with
    | [] => none
    | '"' :: rest => (readString rest).map fun p => (.string p.1, p.2)
    | '[' :: rest =>
      match depth with
      | 0 => none
      | depth + 1 =>
        match skip rest with
        | ']' :: rest => some (.array [], rest)
        | rest => readItems fuel depth [] rest
    | '\x7b' :: rest =>
      match depth with
      | 0 => none
      | depth + 1 =>
        match skip rest with
        | '\x7d' :: rest => some (.object [], rest)
        | rest => readFields fuel depth [] rest
    | 't' :: _ => readWord ['t', 'r', 'u', 'e'] (.bool true) cs
    | 'f' :: _ => readWord ['f', 'a', 'l', 's', 'e'] (.bool false) cs
    | 'n' :: _ => readWord ['n', 'u', 'l', 'l'] .null cs
    | _ => (readNumber cs).map fun p => (.number p.1, p.2)

/-- Reads the items of an array from the first one on; `done` holds those read, last first. -/
def readItems : Nat → Nat → List Json → List Char → Option (Json × List Char)
  | 0, _, _, _ => none
  | fuel + 1, depth, done, cs =>
    match readValue fuel depth cs with
    | none => none
    | some (v, rest) =>
      match skip rest with
      | ',' :: rest => readItems fuel depth (v :: done) (skip rest)
      | ']' :: rest => some (.array (v :: done).reverse, rest)
      | _ => none

/-- Reads the fields of an object from the first key on, into those read before. -/
def readFields : Nat → Nat → Fields → List Char → Option (Json × List Char)
  | 0, _, _, _ => none
  | fuel + 1, depth, done, cs =>
    match cs with
    | '"' :: rest =>
      match readString rest with
      | none => none
      | some (key, rest) =>
        match skip rest with
        | ':' :: rest =>
          match readValue fuel depth (skip rest) with
          | none => none
          | some (v, rest) =>
            match skip rest with
            | ',' :: rest => readFields fuel depth (Fields.set key v done) (skip rest)
            | '\x7d' :: rest => some (.object (Fields.set key v done), rest)
            | _ => none
        | _ => none
    | _ => none

end

/-- The nesting that a text may have. -/
def nestingLimit : Nat := 127

/-- Reads a whole text. -/
def parse? (cs : List Char) : Option Json :=
  match readValue (2 * cs.length + 2) nestingLimit (skip cs) with
  | some (v, rest) => if (skip rest).isEmpty then some v else none
  | none => none

/-- Reads a text given in octets, which must be UTF-8. -/
def parseBytes? (bytes : List UInt8) : Option Json := (Text.Utf8.decode? bytes).bind parse?

end Json
end Weblog
