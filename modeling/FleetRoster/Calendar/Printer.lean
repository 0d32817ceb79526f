import FleetRoster.Calendar.Instant

/-!
# Texts of instants

Two texts of an instant: the one of RFC 3339, used in messages and records, and the one with blanks
used in logs. Both show as many of three, six or nine decimal places as they need, and a leap second as
the second sixty.
-/

namespace FleetRoster.Calendar

/-- A number with at least `width` digits. -/
def padded (width n : Nat) : List Char :=
  let ds := Nat.toDigits 10 n
  List.replicate (width - ds.length) '0' ++ ds

/-- A year: four digits, and outside 0 to 9999 a sign before them. -/
def yearText (year : Int) : List Char :=
  if 0 ≤ year && year ≤ 9999 then padded 4 year.toNat
  else (if year < 0 then '-' else '+') :: padded 4 year.natAbs

/-- A date with dashes. -/
def Date.text (d : Date) : List Char :=
  yearText d.year ++ '-' :: padded 2 d.month ++ '-' :: padded 2 d.day

/-- The decimal places of a second. -/
def fractionText (nano : Nat) : List Char :=
  if nano = 0 then []
  else if nano % 1000000 = 0 then '.' :: padded 3 (nano / 1000000)
  else if nano % 1000 = 0 then '.' :: padded 6 (nano / 1000)
  else '.' :: padded 9 nano

namespace Instant

/-- The day of an instant. -/
def date (a : Instant) : Date :=
  Date.ofDays (a.second / secondsPerDay)

/-- The time of day with colons. -/
def clockText (a : Instant) : List Char :=
  let time := a.timeOfDay.toNat
  let leap := nanosPerSecond ≤ a.nano
  let second := time % 60 + (if leap then 1 else 0)
  let nano := if leap then a.nano - nanosPerSecond else a.nano
  padded 2 (time / 3600) ++ ':' :: padded 2 (time / 60 % 60) ++ ':' :: padded 2 second
    ++ fractionText nano

/-- The text of RFC 3339. -/
def text (a : Instant) : String :=
  String.ofList (a.date.text ++ 'T' :: a.clockText ++ ['Z'])

/-- The text in logs. -/
def logText (a : Instant) : String :=
  String.ofList (a.date.text ++ ' ' :: a.clockText ++ [' ', 'U', 'T', 'C'])

end Instant

end FleetRoster.Calendar
