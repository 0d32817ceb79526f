import FleetRoster.Proofs.Requests.Service

/-!
# Requests are served in order

The queue of requests for recalculation and the writer that serves it. Any number of callers make
requests, and one writer works on them, effect by effect, while others do what they like with
anything but the topic of the requests. A request is accepted when it gets the one place in the
queue; those that find it taken stand in a line. The writer takes the accepted requests as they were
accepted, finishes each before it takes another, and stops only when all are finished.
-/

namespace FleetRoster

/-- A request that the writer works on, the world in which it was taken, and what was done since. -/
structure Undertaking where
  request : Request
  before : World
  deeds : List Deed := []

/-- The queue of requests in its world, with a record of what came in and what became of it. -/
structure Bureau (κ : Type) where
  world : World
  queue : RequestQueue
  /-- The requests that were made, with who made them, the first one first. -/
  calls : List (κ × Request) := []
  /-- Those that have got the place. -/
  accepted : List (κ × Request) := []
  /-- Those that wait for the place. -/
  line : List (κ × Request) := []
  /-- The request that the writer works on. -/
  current : Option Undertaking := none
  /-- Those that the writer has finished, the first one first. -/
  history : List (Entry Request Unit) := []

namespace Bureau

variable {κ : Type}

/-! ## What can happen -/

/-- Someone makes a request, which gets the place if it is free. -/
def call (b : Bureau κ) (caller : κ) (r : Request) : Bureau κ :=
  let made := b.queue.submit b.world r
  let isFree := b.queue.queued.isNone && b.queue.waiting.isEmpty
  { b with
    queue := made.1
    world := made.2
    calls := b.calls ++ [(caller, r)]
    accepted := if isFree then b.accepted ++ [(caller, r)] else b.accepted
    line := if isFree then b.line else b.line ++ [(caller, r)] }

/-- The writer takes the request in the place, which goes to the first in the line. -/
def take (b : Bureau κ) (r : Request) : Bureau κ :=
  { b with
    queue := b.queue.take r
    accepted := b.accepted ++ b.line.head?.toList
    line := b.line.tail
    current := some { request := r, before := b.world } }

/-- The work of the writer in another state. -/
def withWork (b : Bureau κ) (work : Option (Task Unit)) : Bureau κ :=
  { b with queue := { b.queue with work } }

/-- The next effect of the work happens. -/
def act (b : Bureau κ) (u : Undertaking) (effect : Effect) (next : effect.Answer → Flow Unit) :
    Bureau κ :=
  let happened := World.happen effect b.world
  { b.withWork (some { flow := next happened.2 }) with
    world := happened.1
    current := some { u with deeds := u.deeds ++ [⟨effect, happened.2⟩] } }

/-- The work is over. -/
def finish (b : Bureau κ) (u : Undertaking) (ending : Ending Unit) : Bureau κ :=
  { b.withWork none with
    current := none
    history := b.history ++ [⟨u.request, u.before, u.deeds, b.world, ending⟩] }

/-- Nobody is left to make a request. -/
def close (b : Bureau κ) : Bureau κ :=
  { b with queue := { b.queue with isOpen := false } }

/-- The writer stops. -/
def stop (b : Bureau κ) : Bureau κ :=
  { b with queue := { b.queue with isWriting := false }, world := b.world.note .requestsEnded }

/-- What can happen next. -/
inductive Step : Bureau κ → Bureau κ → Prop
  | call {b : Bureau κ} (isOpen : b.queue.isOpen) (caller : κ) (r : Request) :
      Step b (b.call caller r)
  | take {b : Bureau κ} {r : Request} (isWriting : b.queue.isWriting)
      (idle : b.queue.work = none) (queued : b.queue.queued = some r) : Step b (b.take r)
  /-- An effect may take some time. -/
  | pause {b : Bureau κ} {flow : Flow Unit} {due : Option Nat}
      (work : b.queue.work = some ⟨flow, due⟩) (later : Option Nat) :
      Step b (b.withWork (some ⟨flow, later⟩))
  | act {b : Bureau κ} {u : Undertaking} {effect : Effect} {next : effect.Answer → Flow Unit}
      {due : Option Nat} (work : b.queue.work = some ⟨.ask effect next, due⟩)
      (current : b.current = some u) : Step b (b.act u effect next)
  | finish {b : Bureau κ} {u : Undertaking} {ending : Ending Unit} {due : Option Nat}
      (work : b.queue.work = some ⟨.stop ending, due⟩) (current : b.current = some u) :
      Step b (b.finish u ending)
  | close (b : Bureau κ) : Step b b.close
  | stop {b : Bureau κ} (isWriting : b.queue.isWriting) (closed : b.queue.isOpen = false)
      (idle : b.queue.work = none) (empty : b.queue.queued = none) : Step b b.stop
  | others {b : Bureau κ} {w : World} (apart : b.world.Elsewhere w) : Step b { b with world := w }

/-- What can happen in the end. -/
def Reaches : Bureau κ → Bureau κ → Prop :=
  Relation.ReflTransGen Step

/-! ## The order of things -/

/-- How far the writer has come: what it has finished, and the part of its work that is done. -/
inductive Progress (start : World) (batchSize : Nat) (history : List (Entry Request Unit))
    (w : World) : Option Undertaking → Option (Task Unit) → Prop
  | idle (finished : Handled (processRequest batchSize) World.Elsewhere start history w) :
      Progress start batchSize history w none none
  | busy {u : Undertaking} {flow : Flow Unit} {due : Option Nat}
      (finished : Handled (processRequest batchSize) World.Elsewhere start history u.before)
      (comes : (processRequest batchSize u.request).Comes World.Elsewhere u.before u.deeds flow
        w) : Progress start batchSize history w (some u) (some ⟨flow, due⟩)

/-- The record and the queue agree. -/
structure Orderly (start : World) (b : Bureau κ) : Prop where
  calls : b.calls = b.accepted ++ b.line
  waiting : b.queue.waiting = b.line.map (·.2)
  room : b.queue.queued = none → b.line = []
  accepted : b.accepted.map (·.2) = b.history.map (·.event) ++
    ((b.current.map (·.request)).toList ++ b.queue.queued.toList)
  progress : Progress start b.queue.batchSize b.history b.world b.current b.queue.work
  writing : b.queue.isWriting = false →
    b.queue.isOpen = false ∧ b.current = none ∧ b.queue.queued = none

namespace Orderly

variable {start : World} {b b' : Bureau κ}

theorem initial (start : World) (batchSize : Nat) :
    Orderly start ({ world := start, queue := { batchSize } } : Bureau κ) where
  calls := rfl
  waiting := rfl
  room _ := rfl
  accepted := rfl
  progress := .idle .start
  writing stopped := absurd stopped (by simp)

/-- As long as requests can be made the writer is there. -/
theorem isWriting (orderly : Orderly start b) (isOpen : b.queue.isOpen) : b.queue.isWriting := by
  cases writing : b.queue.isWriting with
  | true => rfl
  | false => simp [(orderly.writing writing).1] at isOpen

/-- The writer works as long as a request is in its place. -/
theorem isWriting_of_queued (orderly : Orderly start b) {r : Request}
    (queued : b.queue.queued = some r) : b.queue.isWriting := by
  cases writing : b.queue.isWriting with
  | true => rfl
  | false => simp [(orderly.writing writing).2.2] at queued

/-- A request that finds the place free gets it. -/
theorem call_of_free (orderly : Orderly start b) (isOpen : b.queue.isOpen)
    (free : b.queue.queued = none) (caller : κ) (r : Request) :
    b.call caller r =
      { b with
        queue := { b.queue with queued := some r }
        calls := b.calls ++ [(caller, r)]
        accepted := b.accepted ++ [(caller, r)] } := by
  simp [Bureau.call, RequestQueue.submit, orderly.isWriting isOpen, free, orderly.waiting,
    orderly.room free]

/-- A request that finds the place taken stands in the line. -/
theorem call_of_taken (orderly : Orderly start b) (isOpen : b.queue.isOpen) {other : Request}
    (taken : b.queue.queued = some other) (caller : κ) (r : Request) :
    b.call caller r =
      { b with
        queue := { b.queue with waiting := b.queue.waiting ++ [r] }
        calls := b.calls ++ [(caller, r)]
        line := b.line ++ [(caller, r)] } := by
  simp [Bureau.call, RequestQueue.submit, orderly.isWriting isOpen, taken]

theorem call (orderly : Orderly start b) (isOpen : b.queue.isOpen) (caller : κ) (r : Request) :
    Orderly start (b.call caller r) := by
  have writing := orderly.isWriting isOpen
  cases queued : b.queue.queued with
  | none =>
      have empty := orderly.room queued
      have accepted := orderly.accepted
      rw [orderly.call_of_free isOpen queued]
      constructor
      case calls => simp [orderly.calls, empty]
      case waiting => exact orderly.waiting
      case room => exact fun _ => empty
      case accepted => simp [accepted, queued]
      case progress => exact orderly.progress
      case writing => exact fun stopped => absurd (writing.symm.trans stopped) (by decide)
  | some other =>
      rw [orderly.call_of_taken isOpen queued]
      constructor
      case calls => simp [orderly.calls]
      case waiting => simp [orderly.waiting]
      case room => exact fun none => absurd (queued.symm.trans none) (by simp)
      case accepted => exact orderly.accepted
      case progress => exact orderly.progress
      case writing => exact fun stopped => absurd (writing.symm.trans stopped) (by decide)

/-- Without any work all that was taken is finished. -/
theorem idle (orderly : Orderly start b) (idle : b.queue.work = none) : b.current = none ∧
    Handled (processRequest b.queue.batchSize) World.Elsewhere start b.history b.world := by
  have progress := orderly.progress
  rw [idle] at progress
  generalize b.current = current at progress
  cases progress with
  | idle finished => exact ⟨rfl, finished⟩

/-- Work is work on a request. -/
theorem busy (orderly : Orderly start b) {flow : Flow Unit} {due : Option Nat}
    (work : b.queue.work = some ⟨flow, due⟩) : ∃ u, b.current = some u ∧
      Handled (processRequest b.queue.batchSize) World.Elsewhere start b.history u.before ∧
      (processRequest b.queue.batchSize u.request).Comes World.Elsewhere u.before u.deeds flow
        b.world := by
  have progress := orderly.progress
  rw [work] at progress
  generalize b.current = current at progress
  cases progress with
  | @busy u _ _ finished comes => exact ⟨u, rfl, finished, comes⟩

theorem isWriting_of_current (orderly : Orderly start b) {u : Undertaking}
    (current : b.current = some u) : b.queue.isWriting := by
  cases writing : b.queue.isWriting with
  | true => rfl
  | false => simp [(orderly.writing writing).2.1] at current

theorem take (orderly : Orderly start b) (idle : b.queue.work = none) {r : Request}
    (queued : b.queue.queued = some r) : Orderly start (b.take r) := by
  have writing := orderly.isWriting_of_queued queued
  have waiting := orderly.waiting
  have accepted := orderly.accepted
  obtain ⟨none, finished⟩ := orderly.idle idle
  rw [none, queued] at accepted
  constructor
  case calls =>
    rw [Bureau.take, orderly.calls, List.append_assoc]
    cases b.line <;> rfl
  case waiting => simp only [Bureau.take, RequestQueue.take, waiting, List.map_tail]
  case room =>
    simp only [Bureau.take, RequestQueue.take, waiting]
    cases b.line with
    | nil => exact fun _ => rfl
    | cons first rest => simp
  case accepted =>
    simp only [Bureau.take, RequestQueue.take, waiting, List.map_append, accepted]
    cases b.line <;> simp
  case progress => exact .busy finished .start
  case writing => exact fun stopped => absurd (writing.symm.trans stopped) (by decide)

theorem act (orderly : Orderly start b) {effect : Effect} {next : effect.Answer → Flow Unit}
    {due : Option Nat} (work : b.queue.work = some ⟨.ask effect next, due⟩) {u : Undertaking}
    (current : b.current = some u) : Orderly start (b.act u effect next) := by
  have writing := orderly.isWriting_of_current current
  obtain ⟨_, same, finished, comes⟩ := orderly.busy work
  cases current.symm.trans same
  have accepted := orderly.accepted
  rw [current] at accepted
  exact {
    calls := orderly.calls
    waiting := orderly.waiting
    room := orderly.room
    accepted := accepted
    progress := .busy finished (.ask comes)
    writing := fun stopped => absurd (writing.symm.trans stopped) (by decide) }

theorem finish (orderly : Orderly start b) {ending : Ending Unit} {due : Option Nat}
    (work : b.queue.work = some ⟨.stop ending, due⟩) {u : Undertaking}
    (current : b.current = some u) : Orderly start (b.finish u ending) := by
  have writing := orderly.isWriting_of_current current
  obtain ⟨_, same, finished, comes⟩ := orderly.busy work
  cases current.symm.trans same
  have accepted := orderly.accepted
  rw [current] at accepted
  constructor
  case calls => exact orderly.calls
  case waiting => exact orderly.waiting
  case room => exact orderly.room
  case accepted =>
    simp only [Bureau.finish, Bureau.withWork, accepted]
    simp
  case progress => exact .idle (.event finished comes.ended)
  case writing => exact fun stopped => absurd (writing.symm.trans stopped) (by decide)

theorem pause (orderly : Orderly start b) {flow : Flow Unit} {due : Option Nat}
    (work : b.queue.work = some ⟨flow, due⟩) (later : Option Nat) :
    Orderly start (b.withWork (some ⟨flow, later⟩)) := by
  obtain ⟨u, current, finished, comes⟩ := orderly.busy work
  exact {
    calls := orderly.calls
    waiting := orderly.waiting
    room := orderly.room
    accepted := orderly.accepted
    progress := by
      change Progress start b.queue.batchSize b.history b.world b.current _
      rw [current]
      exact .busy finished comes
    writing := orderly.writing }

theorem close (orderly : Orderly start b) : Orderly start b.close where
  calls := orderly.calls
  waiting := orderly.waiting
  room := orderly.room
  accepted := orderly.accepted
  progress := orderly.progress
  writing stopped := ⟨rfl, (orderly.writing stopped).2⟩

/-- Whatever others do, the work goes on from there. -/
theorem others (orderly : Orderly start b) {w : World} (apart : b.world.Elsewhere w) :
    Orderly start { b with world := w } where
  calls := orderly.calls
  waiting := orderly.waiting
  room := orderly.room
  accepted := orderly.accepted
  progress := by
    have progress := orderly.progress
    generalize b.current = current, b.queue.work = work at progress ⊢
    cases progress with
    | idle finished => exact .idle (.aside finished apart)
    | busy finished comes => exact .busy finished (.aside comes apart)
  writing := orderly.writing

theorem stop (orderly : Orderly start b) (closed : b.queue.isOpen = false)
    (idle : b.queue.work = none) (empty : b.queue.queued = none) : Orderly start b.stop := by
  obtain ⟨none, finished⟩ := orderly.idle idle
  exact {
    calls := orderly.calls
    waiting := orderly.waiting
    room := orderly.room
    accepted := orderly.accepted
    progress := (orderly.others (b.world.elsewhere_note .requestsEnded)).progress
    writing := fun _ => ⟨closed, none, empty⟩ }

/-- The record and the queue agree whatever happens next. -/
theorem step (orderly : Orderly start b) (step : Step b b') : Orderly start b' := by
  cases step with
  | call isOpen caller r => exact orderly.call isOpen caller r
  | take isWriting idle queued => exact orderly.take idle queued
  | pause work later => exact orderly.pause work later
  | act work current => exact orderly.act work current
  | finish work current => exact orderly.finish work current
  | close => exact orderly.close
  | stop isWriting closed idle empty => exact orderly.stop closed idle empty
  | others apart => exact orderly.others apart

theorem reaches (orderly : Orderly start b) (reaches : b.Reaches b') : Orderly start b' := by
  induction reaches with
  | refl => exact orderly
  | tail _ step ih => exact ih.step step

end Orderly

end Bureau

end FleetRoster
