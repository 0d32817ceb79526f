import FleetRoster.Calendar.Date

/-!
# Instants

A moment of universal time by its second and the nanoseconds in it. During a leap second the
second does not advance and the nanoseconds run on to two thousand million. Instants are ordered by
second, then by nanosecond.
-/

namespace FleetRoster.Calendar

/-- A moment of universal time. -/
structure Instant where
  /-- Seconds since 1 January 1970, leap seconds not counted. -/
  second : Int
  /-- Nanoseconds in the second; one thousand million and more are in a leap second. -/
  nano : Nat
  deriving DecidableEq, Repr, Inhabited

/-- The nanoseconds of a second. -/
def nanosPerSecond : Nat := 1000000000

/-- The seconds of a day. -/
def secondsPerDay : Nat := 86400

/-- The first representable second. -/
def firstSecond : Int :=
  (⟨yearRange.1, 1, 1⟩ : Date).toDays * secondsPerDay

/-- The last representable second. -/
def lastSecond : Int :=
  ((⟨yearRange.2, 12, 31⟩ : Date).toDays + 1) * secondsPerDay - 1

namespace Instant

/-- Whether one instant is before another. -/
def before (a b : Instant) : Bool :=
  a.second < b.second || (a.second = b.second && a.nano < b.nano)

/-- Whether an instant has a representable date. -/
def isRepresentable (a : Instant) : Bool :=
  firstSecond ≤ a.second && a.second ≤ lastSecond

/-- The second of the day. -/
def timeOfDay (a : Instant) : Int :=
  a.second % secondsPerDay

/-- The nanoseconds from one instant to a later one, negative if it is earlier. A leap second
counts when its second of the day lies before the other's. -/
def since (a b : Instant) : Int :=
  let leap :=
    if b.timeOfDay < a.timeOfDay && nanosPerSecond ≤ b.nano then 1
    else if a.timeOfDay < b.timeOfDay && nanosPerSecond ≤ a.nano then -1
    else 0
  (a.second - b.second + leap) * nanosPerSecond + ((a.nano : Int) - b.nano)

/-- The instant so many nanoseconds earlier, if it is representable. -/
def earlier? (a : Instant) (span : Nat) : Option Instant :=
  if nanosPerSecond ≤ a.nano && span < nanosPerSecond then some ⟨a.second, a.nano - span⟩
  else
    let start : Int :=
      if nanosPerSecond ≤ a.nano then (a.second + 1) * nanosPerSecond + (a.nano - nanosPerSecond : Nat)
      else a.second * nanosPerSecond + a.nano
    let moved := start - span
    let b : Instant := ⟨moved / nanosPerSecond, (moved % nanosPerSecond).toNat⟩
    if b.isRepresentable then some b else none

/-- The instant so many seconds earlier; the range is left to the caller. -/
def minusSeconds (a : Instant) (n : Int) : Instant :=
  ⟨a.second - n, a.nano⟩

end Instant

end FleetRoster.Calendar
