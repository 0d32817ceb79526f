import FleetRoster.Consumer
import FleetRoster.Rehearsal.Step
import FleetRoster.RequestQueue

/-!
# Rehearsals

A rehearsal is the whole listener around one world, with the tasks in its background: the idle timer,
the writer of evaluation requests, outages that were announced, and the consumer. Time is virtual. It
stands still while anything can go on, and then jumps to the next moment that something waits for.
-/

namespace FleetRoster

/-- An outage that begins or ends at a moment. -/
structure Switch where
  due : Nat
  part : Rehearsal.Part
  on : Bool
  deriving Repr

/-- The listener under rehearsal. -/
structure Rehearsal where
  settings : Settings
  world : World
  /-- The idle timer, where it runs without a consumer. -/
  timer : Option IdleTimer := none
  /-- The queue of evaluation requests, until it is closed. -/
  queue : Option RequestQueue := none
  /-- Whether evaluation can be requested; nothing once the queue is closed. -/
  takesRequests : Option Bool := none
  switches : List Switch := []
  consumer : Option Consumer := none
  /-- Whether every lookup of an account reaches a store that takes it for another organization. -/
  forgetsAccounts : Bool := false
  /-- Whether something crashed. -/
  isCrashed : Bool := false

namespace Rehearsal

/-- The world with a part out or back. -/
def setOutage (w : World) (on : Bool) : Part → World
  | .store => { w with outage := fun _ => on }
  | .channel channel => w.setTopic channel ((w.topic channel).setFailing on)

/-- A flow of which every lookup of an account is numbered and names the organization with its
number. -/
def forgetting {α : Type} : Flow α → Flow α
  | .stop ending => .stop ending
  | .ask (.store (.upsertAccount org)) next =>
    .ask (.next .lookups) fun (n : Nat) =>
      .ask (.store (.upsertAccount (org ++ "#" ++ toString n))) fun answer =>
        forgetting (next answer)
  | .ask effect next => .ask effect fun answer => forgetting (next answer)

/-- A flow as it goes in a rehearsal. -/
def adapt {α : Type} (r : Rehearsal) (flow : Flow α) : Flow α :=
  if r.forgetsAccounts then forgetting flow else flow

/-! ## The background -/

/-- What the timer does next. -/
def timerMove? (r : Rehearsal) : Option Rehearsal :=
  match r.timer with
  | none => none
  | some timer =>
    (timer.moves r.world).head?.map fun (timer, world) => { r with timer := some timer, world }

/-- What the writer of evaluation requests does next. -/
def queueMove? (r : Rehearsal) : Option Rehearsal :=
  match r.queue with
  | none => none
  | some queue => (queue.move? r.world).map fun (queue, world) =>
    { r with queue := some queue, world }

/-- The next announced outage, if its moment has come. -/
def switchMove? (r : Rehearsal) : Option Rehearsal :=
  match r.switches.find? (·.due ≤ r.world.time) with
  | none => none
  | some s =>
    some { r with
      switches := r.switches.eraseP (·.due ≤ r.world.time)
      world := setOutage r.world s.on s.part }

/-- What the consumer or its timer does next. -/
def consumerMove? (r : Rehearsal) : Option Rehearsal :=
  match r.consumer with
  | none => none
  | some consumer =>
    ((consumer.timerMove? r.world).or (consumer.move? r.world)).map fun (consumer, world) =>
      let crashed := match consumer.phase with
        | .crashed => true
        | _ => false
      { r with consumer := some consumer, world, isCrashed := r.isCrashed || crashed }

/-- What happens next in the background. -/
def move? (r : Rehearsal) : Option Rehearsal :=
  r.timerMove?.or <| r.queueMove?.or <| r.switchMove?.or r.consumerMove?

/-- Lets the background go on until everything waits, in at most `fuel` moves. -/
def settleWithin : Nat → Rehearsal → Rehearsal
  | 0, r => r
  | fuel + 1, r =>
    match r.move? with
    | some r => settleWithin fuel r
    | none => r

/-- More moves than any script leads to. -/
def fuel : Nat := 1000000000

/-- Lets the background go on until everything waits. -/
def settle (r : Rehearsal) : Rehearsal :=
  settleWithin fuel r

/-- The moments for which the background waits. -/
def dues (r : Rehearsal) : List Nat :=
  (r.timer.bind (·.due)).toList ++ (r.queue.bind (·.due)).toList ++ r.switches.map (·.due)
    ++ (match r.consumer with
      | some consumer => consumer.dues
      | none => [])

end Rehearsal

end FleetRoster
