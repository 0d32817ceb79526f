import FleetRoster.Handler.Message
import FleetRoster.IdleTimer
import FleetRoster.Task

/-!
# The consumer

The consumer reads a message, handles it and commits its offset, and only then reads the next one.
It ends when it is told to, between two messages or while it waits for one, or when the reader cannot
go on. A message that has been read is always committed, whatever became of it.
-/

namespace FleetRoster

/-! ## The reader -/

/-- What comes out of a feed. -/
inductive Arrival
  | message (message : Inbound)
  /-- The reader cannot go on. -/
  | failure (why : String)
  deriving Repr

/-- A reader with its feed. -/
structure Reader where
  /-- What has not been read yet, the first one first. -/
  arrivals : List Arrival := []
  /-- The offset of the next message. -/
  nextOffset : Nat := 0
  /-- Whether more can come. -/
  feedOpen : Bool := true
  isClosed : Bool := false
  /-- The committed offsets, the oldest first. -/
  committed : List Int := []
  /-- Whether commits are refused. -/
  refusesCommits : Bool := false
  /-- Whether closing reports a failure. -/
  refusesClosing : Bool := false
  deriving Repr

namespace Reader

/-- Feeds a message, which takes the next offset, and says whether the reader is there to take it. -/
def push (r : Reader) (payload : Text.Payload) : Reader × Bool :=
  let next := { r with nextOffset := r.nextOffset + 1 }
  if r.isClosed then (next, false)
  else ({ next with arrivals := r.arrivals ++ [.message ⟨r.nextOffset, payload⟩] }, true)

/-- Feeds a failure. -/
def pushFailure (r : Reader) (why : String) : Reader × Bool :=
  if r.isClosed then (r, false) else ({ r with arrivals := r.arrivals ++ [.failure why] }, true)

end Reader

/-! ## The signal to stop -/

/-- A signal that can be given again and again. -/
structure Signal where
  /-- Whether the consumer is to stop. -/
  value : Bool := false
  /-- Whether the value was set since the consumer last took notice. -/
  isNew : Bool := false
  /-- Whether nobody can set it any more. -/
  isDropped : Bool := false
  deriving DecidableEq, Repr

/-! ## The loop -/

/-- Where the consumer is. -/
inductive Phase
  /-- It looks at the signal before it reads. -/
  | checking
  /-- It waits for a message, up to a deadline. -/
  | reading (deadline : Nat)
  | handling (offset : Int) (work : Task Unit)
  | committing (offset : Int)
  | closing (result : Except Fault Unit)
  | finished (result : Except Fault Unit)
  /-- A handler crashed. -/
  | crashed

/-- The consumer. -/
structure Consumer where
  settings : Settings
  reader : Reader := {}
  signal : Signal := {}
  phase : Phase := .checking
  /-- The idle timer, while it runs. -/
  timer : Option IdleTimer := some .looking

namespace Consumer

/-- A consumer that starts to read. -/
def start (settings : Settings) (signal : Signal) (w : World) : Consumer × World :=
  ({ settings, signal }, w.note (.started settings.retries))

/-- The consumer in another phase. -/
def enter (c : Consumer) (phase : Phase) : Consumer :=
  { c with phase }

/-- Looks at the signal before reading. -/
def check (c : Consumer) (w : World) : Consumer :=
  c.enter (if c.signal.value then .closing (.ok ()) else .reading (w.time + c.settings.readTimeout))

/-- The reader cannot go on. -/
def fail (c : Consumer) (w : World) (why : Fault) : Consumer × World :=
  (c.enter (.closing (.error why)), w.note (.readFailed why))

/-- Waits for a message. The signal goes before a message, and a message before the deadline. A
signal that does not say to stop only makes the consumer wait anew. -/
def read? (c : Consumer) (w : World) (deadline : Nat) : Option (Consumer × World) :=
  if c.signal.isNew then
    let c := { c with signal := { c.signal with isNew := false } }
    some (c.enter (if c.signal.value then .closing (.ok ()) else .checking), w)
  else if c.signal.isDropped then some (c.enter (.closing (.ok ())), w)
  else
    match c.reader.arrivals with
    | .message m :: rest =>
      let c := { c with reader := { c.reader with arrivals := rest } }
      some (c.enter (.handling m.offset { flow := handleMessage c.settings m }), w)
    | .failure why :: rest =>
      some (({ c with reader := { c.reader with arrivals := rest } }).fail w (.read why))
    | [] =>
      if !c.reader.feedOpen then some (c.fail w (.read "feed closed"))
      else if deadline ≤ w.time then some (c.enter .checking, w.note .readTimedOut)
      else none

/-- Goes on with a message. -/
def handle (c : Consumer) (w : World) (offset : Int) (work : Task Unit) : Consumer × World :=
  match work.advance w with
  | (w, .inl work) => (c.enter (.handling offset work), w)
  | (w, .inr .crashed) => (c.enter .crashed, w)
  | (w, .inr _) => (c.enter (.committing offset), w)

/-- Commits an offset. -/
def commit (c : Consumer) (w : World) (offset : Int) : Consumer × World :=
  if c.reader.refusesCommits then
    (c.enter .checking, w.note (.commitFailed offset (.read "commit refused")))
  else
    let reader := { c.reader with committed := c.reader.committed ++ [offset] }
    (({ c with reader }).enter .checking, w)

/-- Stops the timer and closes the reader. What is in the buffer stays there. -/
def close (c : Consumer) (w : World) (result : Except Fault Unit) : Consumer × World :=
  let w := if c.reader.refusesClosing then w.note (.closeFailed (.read "close refused")) else w
  let c := { c with timer := none, reader := { c.reader with isClosed := true } }
  (c.enter (.finished result), w.note (.stopped result.toBool))

/-- What the consumer does next, unless it has to wait. -/
def move? (c : Consumer) (w : World) : Option (Consumer × World) :=
  match c.phase with
  | .checking => some (c.check w, w)
  | .reading deadline => c.read? w deadline
  | .handling offset work => if work.isReady w then some (c.handle w offset work) else none
  | .committing offset => some (c.commit w offset)
  | .closing result => some (c.close w result)
  | .finished _ => none
  | .crashed => none

/-- What the timer of the consumer does next, unless it has to wait. -/
def timerMove? (c : Consumer) (w : World) : Option (Consumer × World) :=
  match c.timer with
  | none => none
  | some timer => (timer.moves w).head?.map fun (timer, w) => ({ c with timer := some timer }, w)

/-- The moments for which the consumer and its timer wait. -/
def dues (c : Consumer) : List Nat :=
  (match c.phase with
    | .reading deadline => [deadline]
    | .handling _ work => work.due.toList
    | _ => [])
    ++ (c.timer.bind (·.due)).toList

/-- Whether the consumer still listens to the signal. -/
def isListening (c : Consumer) : Bool :=
  match c.phase with
  | .finished _ => false
  | .crashed => false
  | _ => true

end Consumer

end FleetRoster
