import FleetRoster.Event.Host
import FleetRoster.Flow.Basic

/-!
# Deletions

A deletion leaves a marker, marks the rows of the host stale, and clears away the markers that are
past the threshold. It is done once the rows are marked: clearing may fail.
-/

namespace FleetRoster

/-- The threshold of the settings in nanoseconds, in which handlers reckon. -/
def Settings.thresholdNanos (s : Settings) : Nat :=
  s.deletionThreshold * Calendar.nanosPerSecond

/-- Whether handlers take so many nanoseconds for a threshold: the longest one has the milliseconds
of sixty-three bits. -/
def isThreshold (nanos : Nat) : Bool :=
  nanos ≤ (Nat.pow 2 63 - 1) * 1000000

/-- Refuses settings with a threshold that handlers do not take. -/
def Settings.checkThreshold (s : Settings) : Except Fault Unit :=
  if isThreshold s.thresholdNanos then .ok ()
  else .error (.settings
    "deletion threshold: Source duration value is out of range for the target type")

/-- Clears away the markers from before an instant. -/
def pruneMarkers (about : Log.Context) (limit : Calendar.Instant) : Flow Unit := do
  match ← (Flow.store (.pruneDeleted limit)).attempt with
  | .ok (count : Nat) => if count = 0 then pure () else Flow.log (.markersPruned about count)
  | .error why => Flow.log (.pruningFailed about why)

/-- Handles a deletion, with a threshold in nanoseconds. It crashes when the threshold reaches back
before the first representable instant. -/
def handleDelete (threshold : Nat) (about : Log.Context) (event : HostEvent) : Flow Outcome :=
  match event.inventoryId with
  | none => .fail (.host "delete event without id")
  | some inventoryId => do
    let now ← Flow.now
    Flow.store (.upsertDeleted inventoryId now)
    let rows : Nat ← Flow.store (.markStale inventoryId now)
    if rows = 0 then
      Flow.log (.nothingDeleted about inventoryId)
      Flow.count .delete .noRows
    else
      Flow.log (.deleted about inventoryId rows)
      Flow.count .delete .deleted
    match now.earlier? threshold with
    | none => .crash
    | some limit =>
      pruneMarkers about limit
      pure (.deleted rows)

end FleetRoster
