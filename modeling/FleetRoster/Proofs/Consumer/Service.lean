import Mathlib.Logic.Relation
import FleetRoster.Consumer
import FleetRoster.Proofs.Flow.History
import FleetRoster.Proofs.Flow.Runs

/-!
# The consumer in service

The consumer goes on step by step, a message effect by effect, while its timer runs, messages and
failures are fed, the signal is given, commits begin or cease to be refused, and anything else happens
to the world but a change of its clock. What happens in the loop is put on record.
-/

namespace FleetRoster

/-- What happens in the loop of the consumer. -/
inductive Incident
  /-- A message was read, while this was the signal. -/
  | read (message : Inbound) (signal : Signal)
  | handled (message : Inbound)
  | committed (offset : Int) (accepted : Bool)
  | timedOut
  /-- The signal was given, but did not say to stop. -/
  | stirred
  /-- The signal was seen to say to stop, or to be dropped. -/
  | stopSeen (signal : Signal)
  /-- The reader could not go on, because of a failure in the feed or because the feed was over. -/
  | readFailed (why : String) (inFeed : Bool)
  | closed

/-- A message that is being handled, the world in which it was read, and what was done since. -/
structure Handling where
  message : Inbound
  before : World
  deeds : List Deed := []

/-- The consumer in its world, with a record of what came in and what happened. -/
structure Service where
  consumer : Consumer
  world : World
  /-- What was fed, the first one first. -/
  fed : List Arrival := []
  /-- What happened in the loop, the first one first. -/
  incidents : List Incident := []
  /-- The message that is being handled. -/
  current : Option Handling := none
  /-- The messages that were handled, the first one first. -/
  history : List (Entry Inbound Unit) := []

/-- The clock is the same. -/
def World.SameClock (w w' : World) : Prop :=
  w'.clock = w.clock

/-! ## Reading -/

namespace Consumer

variable {c c' : Consumer} {w w' : World} {deadline : Nat}

/-- The consumer after it has taken notice of the signal. -/
def noticing (c : Consumer) : Consumer :=
  { c with signal := { c.signal with isNew := false } }

/-- The consumer after something was read. -/
def reading (c : Consumer) (arrivals : List Arrival) : Consumer :=
  { c with reader := { c.reader with arrivals } }

/-- The signal keeps the consumer neither from a message nor from waiting for one. -/
def IsUndisturbed (c : Consumer) : Prop :=
  c.signal.isNew = false ∧ c.signal.isDropped = false

/-- What ends the waiting for a message. -/
def heard (c : Consumer) : Incident :=
  if c.signal.isNew then if c.signal.value then .stopSeen c.signal else .stirred
  else if c.signal.isDropped then .stopSeen c.signal
  else
    match c.reader.arrivals with
    | .message m :: _ => .read m c.signal
    | .failure why :: _ => .readFailed why true
    | [] => if c.reader.feedOpen then .timedOut else .readFailed "feed closed" false

/-- How waiting for a message can come to an end. -/
inductive Reads (c : Consumer) (w : World) (deadline : Nat) : Consumer → World → Incident → Prop
  | stop (seen : if c.signal.isNew then c.signal.value else c.signal.isDropped) :
      Reads c w deadline (c.noticing.enter (.closing (.ok ()))) w (.stopSeen c.signal)
  | stir (isNew : c.signal.isNew) (stays : c.signal.value = false) :
      Reads c w deadline (c.noticing.enter .checking) w .stirred
  | message {m : Inbound} {rest : List Arrival} (undisturbed : c.IsUndisturbed)
      (arrivals : c.reader.arrivals = .message m :: rest) :
      Reads c w deadline
        ((c.reading rest).enter (.handling m.offset { flow := handleMessage c.settings m })) w
        (.read m c.signal)
  | failure {why : String} {rest : List Arrival} (undisturbed : c.IsUndisturbed)
      (arrivals : c.reader.arrivals = .failure why :: rest) :
      Reads c w deadline ((c.reading rest).enter (.closing (.error (.read why))))
        (w.note (.readFailed (.read why))) (.readFailed why true)
  | ended (undisturbed : c.IsUndisturbed) (arrivals : c.reader.arrivals = [])
      (closed : c.reader.feedOpen = false) :
      Reads c w deadline (c.enter (.closing (.error (.read "feed closed"))))
        (w.note (.readFailed (.read "feed closed"))) (.readFailed "feed closed" false)
  | timeOut (undisturbed : c.IsUndisturbed) (arrivals : c.reader.arrivals = [])
      (feedOpen : c.reader.feedOpen) (passed : deadline ≤ w.time) :
      Reads c w deadline (c.enter .checking) (w.note .readTimedOut) .timedOut

/-- A signal that is new or dropped is heard before anything is read. -/
theorem reads_of_disturbed (disturbed : ¬ c.IsUndisturbed)
    (reads : c.read? w deadline = some (c', w')) : c.Reads w deadline c' w' c.heard := by
  cases isNew : c.signal.isNew with
  | true =>
      cases value : c.signal.value with
      | true =>
          have next : c.read? w deadline = some (c.noticing.enter (.closing (.ok ())), w) := by
            simp [read?, isNew, value, noticing]
          have heard : c.heard = .stopSeen c.signal := by simp [heard, isNew, value]
          cases next.symm.trans reads
          exact heard ▸ .stop (by simp [isNew, value])
      | false =>
          have next : c.read? w deadline = some (c.noticing.enter .checking, w) := by
            simp [read?, isNew, value, noticing]
          have heard : c.heard = .stirred := by simp [heard, isNew, value]
          cases next.symm.trans reads
          exact heard ▸ .stir isNew value
  | false =>
      have isDropped : c.signal.isDropped := by simpa [IsUndisturbed, isNew] using disturbed
      have same : c.noticing = c := by
        rw [noticing, ← isNew]
      have next : c.read? w deadline = some (c.noticing.enter (.closing (.ok ())), w) := by
        simp [read?, isNew, isDropped, same]
      have heard : c.heard = .stopSeen c.signal := by simp [heard, isNew, isDropped]
      cases next.symm.trans reads
      exact heard ▸ .stop (by simp [isNew, isDropped])

/-- Otherwise the reader decides, and where it has nothing, the deadline. -/
theorem reads_of_undisturbed (undisturbed : c.IsUndisturbed)
    (reads : c.read? w deadline = some (c', w')) : c.Reads w deadline c' w' c.heard := by
  obtain ⟨isNew, isDropped⟩ := id undisturbed
  cases arrivals : c.reader.arrivals with
  | nil =>
      cases feedOpen : c.reader.feedOpen with
      | false =>
          have next : c.read? w deadline = some (c.fail w (.read "feed closed")) := by
            simp [read?, isNew, isDropped, arrivals, feedOpen]
          have heard : c.heard = .readFailed "feed closed" false := by
            simp [heard, isNew, isDropped, arrivals, feedOpen]
          cases next.symm.trans reads
          exact heard ▸ .ended undisturbed arrivals feedOpen
      | true =>
          have heard : c.heard = .timedOut := by simp [heard, isNew, isDropped, arrivals, feedOpen]
          by_cases passed : deadline ≤ w.time
          · have next : c.read? w deadline = some (c.enter .checking, w.note .readTimedOut) := by
              simp [read?, isNew, isDropped, arrivals, feedOpen, passed]
            cases next.symm.trans reads
            exact heard ▸ .timeOut undisturbed arrivals feedOpen passed
          · simp [read?, isNew, isDropped, arrivals, feedOpen, passed] at reads
  | cons first rest =>
      cases first with
      | message m =>
          have next : c.read? w deadline = some ((c.reading rest).enter
              (.handling m.offset { flow := handleMessage c.settings m }), w) := by
            simp [read?, isNew, isDropped, arrivals, reading]
          have heard : c.heard = .read m c.signal := by simp [heard, isNew, isDropped, arrivals]
          cases next.symm.trans reads
          exact heard ▸ .message undisturbed arrivals
      | failure why =>
          have next : c.read? w deadline = some ((c.reading rest).fail w (.read why)) := by
            simp [read?, isNew, isDropped, arrivals, reading]
          have heard : c.heard = .readFailed why true := by
            simp [heard, isNew, isDropped, arrivals]
          cases next.symm.trans reads
          exact heard ▸ .failure undisturbed arrivals

/-- Waiting for a message comes to an end in one of these ways. -/
theorem reads_of_read? (reads : c.read? w deadline = some (c', w')) :
    c.Reads w deadline c' w' c.heard := by
  by_cases undisturbed : c.IsUndisturbed
  · exact reads_of_undisturbed undisturbed reads
  · exact reads_of_disturbed undisturbed reads

/-- What is read and when does not change what the signal says. -/
theorem Reads.keeps {i : Incident} (reads : c.Reads w deadline c' w' i) :
    c'.signal.value = c.signal.value ∧ c'.signal.isDropped = c.signal.isDropped := by
  cases reads with
  | _ => exact ⟨rfl, rfl⟩

/-- Where the waiting goes on, there is nothing to read, and nothing keeps the consumer from it. -/
theorem waits_of_read? (waits : c.read? w deadline = none) :
    c.IsUndisturbed ∧ c.reader.arrivals = [] ∧ c.reader.feedOpen := by
  cases isNew : c.signal.isNew with
  | true => simp [read?, isNew] at waits
  | false =>
      cases isDropped : c.signal.isDropped with
      | true => simp [read?, isNew, isDropped] at waits
      | false =>
          cases arrivals : c.reader.arrivals with
          | nil =>
              cases feedOpen : c.reader.feedOpen with
              | true => exact ⟨⟨isNew, isDropped⟩, rfl, rfl⟩
              | false => simp [read?, isNew, isDropped, arrivals, feedOpen] at waits
          | cons first rest =>
              cases first <;> simp [read?, isNew, isDropped, arrivals] at waits

end Consumer

/-! ## What can happen -/

/-- The phase after the handler has gone on. -/
def Phase.after (offset : Int) : Task Unit ⊕ Ending Unit → Phase
  | .inl work => .handling offset work
  | .inr .crashed => .crashed
  | .inr _ => .committing offset

/-- The consumer goes on with a message as its task does. -/
theorem Consumer.handle_eq (c : Consumer) (w : World) (offset : Int) (work : Task Unit) :
    c.handle w offset work =
      (c.enter (.after offset (work.advance w).2), (work.advance w).1) := by
  rw [handle]
  rcases work.advance w with ⟨w', later | ending⟩
  · rfl
  · cases ending <;> rfl

namespace Service

/-- Something happened in the loop. -/
def record (s : Service) (i : Incident) : Service :=
  { s with incidents := s.incidents ++ [i] }

/-- The consumer looks at the signal before it reads. -/
def look (s : Service) : Service :=
  let looked := { s with consumer := s.consumer.check s.world }
  if s.consumer.signal.value then looked.record (.stopSeen s.consumer.signal) else looked

theorem look_of_stop {s : Service} (value : s.consumer.signal.value = true) :
    s.look = { s.record (.stopSeen s.consumer.signal) with
      consumer := s.consumer.enter (.closing (.ok ())) } := by
  simp [look, Consumer.check, value, record]

theorem look_of_go {s : Service} (value : s.consumer.signal.value = false) :
    s.look = { s with
      consumer := s.consumer.enter (.reading (s.world.time + s.consumer.settings.readTimeout)) } := by
  simp [look, Consumer.check, value]

/-- Waiting for a message has come to an end. -/
def hear (s : Service) (c : Consumer) (w : World) (i : Incident) : Service :=
  { s.record i with
    consumer := c
    world := w
    current := match i with
      | .read m _ => some { message := m, before := w }
      | _ => s.current }

/-- The next effect of the handler happens. -/
def act (s : Service) (h : Handling) (offset : Int) (effect : Effect)
    (next : effect.Answer → Flow Unit) : Service :=
  let happened := World.happen effect s.world
  { s with
    consumer := s.consumer.enter (.handling offset { flow := next happened.2 })
    world := happened.1
    current := some { h with deeds := h.deeds ++ [⟨effect, happened.2⟩] } }

/-- The handler has come to its end. -/
def finish (s : Service) (h : Handling) (offset : Int) (ending : Ending Unit) : Service :=
  { s.record (.handled h.message) with
    consumer := s.consumer.enter (.after offset (.inr ending))
    current := none
    history := s.history ++ [⟨h.message, h.before, h.deeds, s.world, ending⟩] }

/-- The offset of a message is committed. -/
def commit (s : Service) (offset : Int) : Service :=
  { s.record (.committed offset !s.consumer.reader.refusesCommits) with
    consumer := (s.consumer.commit s.world offset).1
    world := (s.consumer.commit s.world offset).2 }

/-- The timer is stopped and the reader closed. -/
def close (s : Service) (result : Except Fault Unit) : Service :=
  { s.record .closed with
    consumer := (s.consumer.close s.world result).1
    world := (s.consumer.close s.world result).2 }

/-- The reader of the consumer in another state. -/
def withReader (s : Service) (reader : Reader) : Service :=
  { s with consumer := { s.consumer with reader } }

/-- The signal of the consumer in another state. -/
def withSignal (s : Service) (signal : Signal) : Service :=
  { s with consumer := { s.consumer with signal } }

/-- A message is fed. -/
def push (s : Service) (payload : Text.Payload) : Service :=
  let reader := s.consumer.reader
  { s.withReader (reader.push payload).1 with
    fed := if reader.isClosed then s.fed
      else s.fed ++ [.message ⟨reader.nextOffset, payload⟩] }

/-- A failure is fed. -/
def pushFailure (s : Service) (why : String) : Service :=
  let reader := s.consumer.reader
  { s.withReader (reader.pushFailure why).1 with
    fed := if reader.isClosed then s.fed else s.fed ++ [.failure why] }

/-- What the consumer does on its own. -/
inductive Turn : Service → Service → Prop
  | look {s : Service} (phase : s.consumer.phase = .checking) : Turn s s.look
  | hear {s : Service} {deadline : Nat} {c : Consumer} {w : World}
      (phase : s.consumer.phase = .reading deadline)
      (reads : s.consumer.read? s.world deadline = some (c, w)) :
      Turn s (s.hear c w s.consumer.heard)
  | act {s : Service} {h : Handling} {offset : Int} {effect : Effect}
      {next : effect.Answer → Flow Unit} {due : Option Nat}
      (phase : s.consumer.phase = .handling offset ⟨.ask effect next, due⟩)
      (current : s.current = some h) : Turn s (s.act h offset effect next)
  | finish {s : Service} {h : Handling} {offset : Int} {ending : Ending Unit} {due : Option Nat}
      (phase : s.consumer.phase = .handling offset ⟨.stop ending, due⟩)
      (current : s.current = some h) : Turn s (s.finish h offset ending)
  | commit {s : Service} {offset : Int} (phase : s.consumer.phase = .committing offset) :
      Turn s (s.commit offset)
  | close {s : Service} {result : Except Fault Unit} (phase : s.consumer.phase = .closing result) :
      Turn s (s.close result)

/-- What can happen next. -/
inductive Step : Service → Service → Prop
  | turn {s s' : Service} (turn : Turn s s') : Step s s'
  /-- An effect may take some time. -/
  | pause {s : Service} {offset : Int} {flow : Flow Unit} {due : Option Nat}
      (phase : s.consumer.phase = .handling offset ⟨flow, due⟩) (later : Option Nat) :
      Step s { s with consumer := s.consumer.enter (.handling offset ⟨flow, later⟩) }
  | timer {s : Service} {timer next : IdleTimer} {w : World}
      (running : s.consumer.timer = some timer) (moves : (next, w) ∈ timer.moves s.world) :
      Step s { s with consumer := { s.consumer with timer := some next }, world := w }
  | push {s : Service} (feedOpen : s.consumer.reader.feedOpen) (payload : Text.Payload) :
      Step s (s.push payload)
  | pushFailure {s : Service} (feedOpen : s.consumer.reader.feedOpen) (why : String) :
      Step s (s.pushFailure why)
  | closeFeed (s : Service) : Step s (s.withReader { s.consumer.reader with feedOpen := false })
  | refuse (s : Service) (refusesCommits refusesClosing : Bool) :
      Step s (s.withReader { s.consumer.reader with refusesCommits, refusesClosing })
  | signal {s : Service} (given : s.consumer.signal.isDropped = false) (value : Bool) :
      Step s (s.withSignal { s.consumer.signal with value, isNew := true })
  | drop (s : Service) : Step s (s.withSignal { s.consumer.signal with isDropped := true })
  | others {s : Service} {w : World} (apart : s.world.SameClock w) : Step s { s with world := w }

/-- What can happen in the end. -/
def Reaches : Service → Service → Prop :=
  Relation.ReflTransGen Step

/-- A consumer that starts, with nothing fed to it yet. -/
def start (settings : Settings) (signal : Signal) (w : World) : Service where
  consumer := (Consumer.start settings signal w).1
  world := (Consumer.start settings signal w).2

end Service

end FleetRoster
