import FleetRoster.Calendar.Printer
import FleetRoster.Calendar.Reader
import FleetRoster.Json.Decode

/-!
# Instants in JSON

An instant is written as a string in the form of RFC 3339, and read from any string that the
calendar reads.
-/

namespace FleetRoster.Json

/-- An instant. -/
def Decoder.timestamp : Decoder Calendar.Instant
  | _, .string (some s) =>
    match Calendar.Instant.read s with
    | .ok a => .ok a
    | .error e => .error (.mismatch (.refused e.message))
  | _, s => s.unlike .timestamp

/-- The string of an instant. -/
def Value.timestamp (a : Calendar.Instant) : Value :=
  .string a.text

end FleetRoster.Json
