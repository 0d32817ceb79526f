import FleetRoster.Rehearsal.Run

/-!
# Setting the stage

The two ways to begin a rehearsal. A session has every part at hand and its script calls them one by
one; a listener runs by itself, and its script only feeds it.
-/

namespace FleetRoster.Rehearsal

open Calendar (Instant)

/-- What the stage is like. -/
structure Stage where
  clock : Nat → Instant
  /-- Milliseconds that a call of the store takes. -/
  latency : Nat := 0

/-- A world at its start. -/
def World.ofSettings (stage : Stage) (s : Settings) (evaluations audits : String) : World where
  clock := stage.clock
  latency := stage.latency
  buffer := .ofCapacity s.bufferSize s.batchSize s.idleInterval
  evaluations := { name := evaluations }
  audits := { name := audits }
  requests := { name := "recalc" }

/-- The entry for setting the stage. -/
def begin (r : Rehearsal) : Rehearsal × Entry :=
  let blank : Rehearsal := { r with world := { r.world with log := [] } }
  let settled := r.settle
  (settled, entrySince blank settled .nothing 0)

/-- Begins a rehearsal, unless a part of it cannot be made from the settings. The buffer is made
first, then the handlers. -/
def setUp (r : Rehearsal) : Ending (Rehearsal × Entry) :=
  if Buffer.isPossible r.settings.bufferSize then
    match r.settings.checkThreshold with
    | .ok () => .done r.begin
    | .error why => .failed why
  else .crashed

/-- A session. -/
def session (stage : Stage) (s : Settings) (timed forgetsAccounts : Bool) :
    Ending (Rehearsal × Entry) :=
  let world := World.ofSettings stage s "eval" "tracker"
  let timer := if timed then some .looking else none
  let r : Rehearsal :=
    if s.evaluationRequests then
      { settings := s, world, timer, forgetsAccounts, takesRequests := some true
        queue := some { batchSize := s.batchSize } }
    else
      { settings := s, world := world.note .requestsDisabled, timer, forgetsAccounts
        takesRequests := some false }
  r.setUp

/-- A listener. -/
def listener (stage : Stage) (s : Settings) (shutdown : Bool) :
    Ending (Rehearsal × Entry) :=
  let world := World.ofSettings stage s s.evaluationTopic s.auditTopic
  let (consumer, world) := Consumer.start s { value := shutdown } (world.note (.configured s))
  let r : Rehearsal := { settings := s, world, consumer := some consumer }
  r.setUp

end FleetRoster.Rehearsal
