import Weblog.Number.Binary64
import Weblog.Text.Numeral

/-!
# Weblog.Calendar

Dates of the proleptic Gregorian calendar and ages in words.

* `Date.ofDays`: the date a number of days after 1 January 1970.
* `Date.text`: year, month and day; a year outside 0 to 9999 has a sign.
* `dateTimeText`: date and time of day of a number of microseconds, with as many digits of the
  second as it needs.
* `age`: how long ago an instant was; from a week on, its date.
-/

namespace Weblog
namespace Calendar

/-- A date. -/
structure Date where
  year : Int
  month : Nat
  day : Nat
  deriving DecidableEq, Repr

/-- The date a number of days after 1 January 1970. Days are counted from 1 March of year 0, in
eras of 400 years, so that a leap day is the last day of its year. -/
def Date.ofDays (days : Int) : Date :=
  let z := days + 719468
  let era := z.fdiv 146097
  let dayOfEra := (z - era * 146097).toNat
  let yearOfEra := (dayOfEra - dayOfEra / 1460 + dayOfEra / 36524 - dayOfEra / 146096) / 365
  let dayOfYear := dayOfEra - (365 * yearOfEra + yearOfEra / 4 - yearOfEra / 100)
  let shifted := (5 * dayOfYear + 2) / 153
  let day := dayOfYear - (153 * shifted + 2) / 5 + 1
  let month := if shifted < 10 then shifted + 3 else shifted - 9
  let year := (yearOfEra : Int) + era * 400 + (if month ≤ 2 then 1 else 0)
  ⟨year, month, day⟩

/-- A number with at least so many digits. -/
def padded (width n : Nat) : String := String.ofList (Text.padded width n)

/-- The year: four digits, and outside 0 to 9999 a sign before them. -/
def yearText (year : Int) : String :=
  if 0 ≤ year ∧ year ≤ 9999 then padded 4 year.toNat
  else (if year < 0 then "-" else "+") ++ padded 4 year.natAbs

/-- Year, month and day. -/
def Date.text (d : Date) : String :=
  yearText d.year ++ "-" ++ padded 2 d.month ++ "-" ++ padded 2 d.day

/-- The digits of a second after the point: none, three or six, whichever suffices. -/
def fractionText (micros : Nat) : String :=
  if micros = 0 then ""
  else if micros % 1000 = 0 then "." ++ padded 3 (micros / 1000)
  else "." ++ padded 6 micros

/-- Date and time of day of a number of microseconds since the epoch. -/
def dateTimeText (micros : Int) : String :=
  let seconds := micros.fdiv 1000000
  let fraction := (micros - seconds * 1000000).toNat
  let days := seconds.fdiv 86400
  let ofDay := (seconds - days * 86400).toNat
  (Date.ofDays days).text ++ "T" ++ padded 2 (ofDay / 3600) ++ ":" ++
    padded 2 (ofDay / 60 % 60) ++ ":" ++ padded 2 (ofDay % 60) ++ fractionText fraction

def hasYear (year : Int) : Bool := decide (-262143 ≤ year) && decide (year ≤ 262142)

/-- An integer brought into the range of 64 bits with a sign. -/
def saturate (i : Int) : Int := max (-9223372036854775808) (min i 9223372036854775807)

/-- The difference of an integer and a number in double precision, rounded, then cut to its integer
part and brought into 64 bits. -/
def elapsed (now : Int) (t : Binary64) : Int :=
  match (Binary64.ofInt now).add? t.negate with
  | some x => saturate x.truncate
  | none => if t.isNegative then 9223372036854775807 else -9223372036854775808

/-- The date of a number of seconds since the epoch, empty where there is none. -/
def dateOfSeconds (seconds : Int) : String :=
  let date := Date.ofDays (seconds.fdiv 86400)
  if hasYear date.year then date.text else ""

/-- How long before `now` an instant was, both in seconds since the epoch. -/
def age (t : Binary64) (now : Int) : String :=
  let delta := elapsed now t
  if delta < 60 then "1 minute ago"
  else if delta < 3600 then Text.ofInt (delta / 60) ++ " minutes ago"
  else if delta < 86400 then Text.ofInt (delta / 3600) ++ " hours ago"
  else if delta < 604800 then Text.ofInt (delta / 86400) ++ " days ago"
  else dateOfSeconds (saturate t.truncate)

end Calendar
end Weblog
