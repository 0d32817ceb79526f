import FleetRoster.Fault
import FleetRoster.Json.Decode

/-!
# Topics

A topic takes messages in batches. A batch is taken whole or refused whole, and both are counted.
-/

namespace FleetRoster

/-- An outgoing topic with what it has taken. -/
structure Topic where
  name : String
  /-- The messages, the oldest first. -/
  messages : List String := []
  /-- The number of batches taken. -/
  taken : Nat := 0
  /-- The number of batches refused. -/
  refused : Nat := 0
  /-- Which batches are refused, by their number from zero on. -/
  outage : Nat → Bool := fun _ => false

namespace Topic

/-- Offers one batch. A batch without messages is not offered at all. -/
def write (t : Topic) (batch : List String) : Topic × Except Fault Nat :=
  if batch.isEmpty then (t, .ok 0)
  else if t.outage (t.taken + t.refused) then
    ({ t with refused := t.refused + 1 }, .error (.send t.name "writer unavailable"))
  else
    ({ t with messages := t.messages ++ batch, taken := t.taken + 1 }, .ok batch.length)

/-- From now on every batch is refused, or none is. -/
def setFailing (t : Topic) (failing : Bool) : Topic :=
  { t with outage := fun _ => failing }

/-- The values of the messages, or the fault of the first that has none. -/
def payloads {α : Type} (t : Topic) (d : Json.Decoder α) : Except Fault (List α) :=
  t.messages.mapM fun message =>
    match Json.decode d (Text.payload message) with
    | .ok a => .ok a
    | .error why => .error (.payload why)

end Topic

end FleetRoster
