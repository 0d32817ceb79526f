import FleetRoster.Proofs.Buffer.Conservation
import FleetRoster.Proofs.Consumer.Protocol
import FleetRoster.Proofs.Handler.Tallies

/-!
# The consumer keeps to its protocol

At every moment the record of what happened has led to the phase in which the consumer is, agrees with
the feed, the commits and the messages that were handled, and the timer runs and the reader is open up
to the end. Every turn of the consumer keeps that, and so does whatever goes on beside it.
-/

namespace FleetRoster

open FleetRoster.Flow
open Relation (ReflTransGen)

/-! ## The clock -/

section

variable {w w' : World}

/-- Nothing that is sent moves the clock. -/
theorem World.isApart_sameClock : World.IsApart World.SameClock where
  trans first second := Eq.trans second first
  readClock _ := rfl
  send _ channel _ := by cases channel <;> rfl
  note _ _ := rfl
  countFailedSend _ _ := rfl
  setBuffer _ _ := rfl

/-- The timer leaves the clock alone. -/
theorem IdleTimer.sameClock_of_moves {timer next : IdleTimer}
    (moves : (next, w') ∈ timer.moves w) : w.SameClock w' := by
  by_cases awake : timer = .awake
  · subst awake
    simp only [IdleTimer.moves, List.mem_singleton, Prod.mk.injEq] at moves
    rw [moves.2, IdleTimer.check]
    split
    · exact World.isApart_sameClock.flush w _
    · exact rfl
  · rcases IdleTimer.moves_spec awake moves with rfl | rfl
    · exact rfl
    · exact rfl

/-- A run leaves the clock alone. -/
theorem Flow.Takes.sameClock {α : Type} {x : Flow α} {deeds : List Deed} {ending : Ending α}
    (takes : x.Takes World.SameClock w deeds w' ending) : w.SameClock w' := by
  induction takes with
  | stop => exact rfl
  | aside others _ ih => exact ih.trans others
  | ask _ ih => exact ih.trans (World.counted_happen _ _).clock

/-- However many messages are handled, the clock stays as it was. -/
theorem Handled.sameClock {ε α : Type} {handler : ε → Flow α} {history : List (Entry ε α)}
    (handled : Handled handler World.SameClock w history w') : w.SameClock w' :=
  handled.invariant (w.SameClock ·) rfl (fun others same => others.trans same)
    (fun takes _ same => takes.sameClock.trans same)

end

/-! ## Work on messages -/

/-- How far the consumer has come with its messages. -/
inductive HandledSoFar (settings : Settings) (start : World)
    (history : List (Entry Inbound Unit)) (w : World) : Phase → Option Handling → Prop
  | between {phase : Phase} (idle : phase.isHandling = false)
      (handled : Handled (handleMessage settings) World.SameClock start history w) :
      HandledSoFar settings start history w phase none
  | within {h : Handling} {offset : Int} {flow : Flow Unit} {due : Option Nat}
      (handled : Handled (handleMessage settings) World.SameClock start history h.before)
      (comes : (handleMessage settings h.message).Comes World.SameClock h.before h.deeds flow w) :
      HandledSoFar settings start history w (.handling offset ⟨flow, due⟩) (some h)

/-- While the consumer waits for a message, a signal that says to stop is one that is new. -/
def Phase.Minds (phase : Phase) (signal : Signal) : Prop :=
  match phase with
  | .reading _ => signal.isNew = false → signal.value = false
  | _ => True

theorem Phase.minds_of_isNew {signal : Signal} (isNew : signal.isNew = true) (phase : Phase) :
    phase.Minds signal := by
  cases phase with
  | reading deadline => exact fun isOld => absurd (isNew.symm.trans isOld) (by simp)
  | _ => trivial

/-- The timer runs and the reader is open until the consumer has ended. -/
structure Consumer.IsUp (c : Consumer) : Prop where
  timer : c.timer.isNone = c.phase.isFinished
  closed : c.reader.isClosed = c.phase.isFinished

theorem Consumer.IsUp.same {c c' : Consumer} (isUp : c.IsUp) (timer : c'.timer = c.timer)
    (closed : c'.reader.isClosed = c.reader.isClosed)
    (goesOn : c'.phase.isFinished = c.phase.isFinished) : c'.IsUp := by
  constructor
  · rw [timer, goesOn]
    exact isUp.timer
  · rw [closed, goesOn]
    exact isUp.closed

namespace Service

/-- The record and the consumer agree. -/
structure Regular (settings : Settings) (begin : World) (s : Service) : Prop where
  settled : s.consumer.settings = settings
  follows : Follows s.consumer.phase s.current s.incidents
  progress : HandledSoFar settings begin s.history s.world s.consumer.phase s.current
  ledger : Ledger s.incidents s.fed s.consumer.reader.arrivals s.consumer.reader.committed s.history
  numbered : IsNumbered s.fed
  next : s.consumer.reader.isClosed = false →
    s.consumer.reader.nextOffset = (messagesOf s.fed).length
  minds : s.consumer.phase.Minds s.consumer.signal
  isUp : s.consumer.IsUp

namespace Regular

variable {settings : Settings} {begin : World} {s s' : Service}

theorem initial (settings : Settings) (signal : Signal) (w : World) :
    Regular settings (start settings signal w).world (start settings signal w) where
  settled := rfl
  follows := .checking .start
  progress := .between rfl .start
  ledger := ⟨rfl, rfl, rfl, fun _ mem => absurd mem List.not_mem_nil⟩
  numbered := rfl
  next _ := rfl
  minds := trivial
  isUp := ⟨rfl, rfl⟩

/-- Whatever others do, the work goes on from there. -/
theorem others (regular : Regular settings begin s) {w : World} (apart : s.world.SameClock w) :
    Regular settings begin { s with world := w } :=
  { regular with
    progress := by
      change HandledSoFar settings begin s.history w s.consumer.phase s.current
      have progress := regular.progress
      generalize s.consumer.phase = phase, s.current = current at progress ⊢
      cases progress with
      | between idle handled => exact .between idle (.aside handled apart)
      | within handled comes => exact .within handled (.aside comes apart) }

/-- While no message is handled, those that were handled have led to the world as it is. -/
theorem between (regular : Regular settings begin s)
    (idle : s.consumer.phase.isHandling = false) : s.current = none ∧
      Handled (handleMessage settings) World.SameClock begin s.history s.world := by
  have progress := regular.progress
  generalize s.consumer.phase = phase, s.current = current at progress idle
  cases progress with
  | between _ handled => exact ⟨rfl, handled⟩
  | within => contradiction

/-- While a message is handled, its handler is on its way. -/
theorem within (regular : Regular settings begin s) {offset : Int} {flow : Flow Unit}
    {due : Option Nat} (phase : s.consumer.phase = .handling offset ⟨flow, due⟩) :
    ∃ h, s.current = some h ∧
      Handled (handleMessage settings) World.SameClock begin s.history h.before ∧
      (handleMessage settings h.message).Comes World.SameClock h.before h.deeds flow s.world := by
  have progress := regular.progress
  rw [phase] at progress
  generalize s.current = current at progress
  cases progress with
  | between idle _ => contradiction
  | @within h _ _ _ handled comes => exact ⟨h, rfl, handled, comes⟩

/-- Between messages the consumer passes from phase to phase. -/
theorem passes (regular : Regular settings begin s) {i : Incident} {arrivals : List Arrival}
    {committed : List Int} {signal : Signal} {phase : Phase} {w : World}
    (idle : s.consumer.phase.isHandling = false)
    (follows : Follows phase none (s.incidents ++ [i]))
    (ledger : Ledger (s.incidents ++ [i]) s.fed arrivals committed s.history)
    (goesOn : phase.isFinished = s.consumer.phase.isFinished)
    (minds : phase.Minds signal) (apart : s.world.SameClock w) :
    Regular settings begin { s.record i with
      consumer := { s.consumer with
        reader := { s.consumer.reader with arrivals, committed }
        signal, phase }
      world := w } := by
  obtain ⟨nobody, handled⟩ := regular.between idle
  constructor
  case settled => exact regular.settled
  case follows => exact nobody ▸ follows
  case progress =>
    change HandledSoFar settings begin s.history w phase s.current
    rw [nobody]
    exact .between follows.idle (.aside handled apart)
  case ledger => exact ledger
  case numbered => exact regular.numbered
  case next => exact regular.next
  case minds => exact minds
  case isUp => exact regular.isUp.same rfl rfl goesOn

theorem look (regular : Regular settings begin s) (phase : s.consumer.phase = .checking) :
    Regular settings begin s.look := by
  obtain ⟨nobody, handled⟩ := regular.between (phase ▸ rfl)
  have rounds := (phase ▸ nobody ▸ regular.follows).of_checking
  cases value : s.consumer.signal.value with
  | true =>
      rw [look_of_stop value]
      exact regular.passes (phase ▸ rfl) (.closing rounds rfl)
        (regular.ledger.silent (.inl value) rfl rfl rfl) (phase ▸ rfl) trivial rfl
  | false =>
      rw [look_of_go value]
      exact { regular with
        follows := nobody ▸ .reading rounds _
        progress := nobody ▸ .between rfl handled
        minds := fun _ => value
        isUp := regular.isUp.same rfl rfl (phase ▸ rfl) }

/-- Whatever ends the waiting for a message, the record tells of it. -/
theorem hear (regular : Regular settings begin s) {deadline : Nat} {c : Consumer} {w : World}
    {i : Incident} (phase : s.consumer.phase = .reading deadline)
    (reads : s.consumer.Reads s.world deadline c w i) : Regular settings begin (s.hear c w i) := by
  have idle : s.consumer.phase.isHandling = false := phase ▸ rfl
  obtain ⟨nobody, handled⟩ := regular.between idle
  have rounds := (phase ▸ nobody ▸ regular.follows).of_reading
  have goesOn : s.consumer.phase.isFinished = false := phase ▸ rfl
  cases reads with
  | stop seen =>
      have heeds : s.consumer.signal.value ∨ s.consumer.signal.isDropped := by
        cases isNew : s.consumer.signal.isNew
        · exact .inr (by simpa [isNew] using seen)
        · exact .inl (by simpa [isNew] using seen)
      exact regular.passes idle (.closing rounds rfl)
        (regular.ledger.silent heeds rfl rfl rfl) goesOn.symm trivial rfl
  | stir isNew stays =>
      exact regular.passes idle (.checking rounds.stirred)
        (regular.ledger.silent trivial rfl rfl rfl) goesOn.symm trivial rfl
  | @message m rest undisturbed arrivals =>
      have minds := regular.minds
      rw [phase] at minds
      have recorded := regular.ledger.take (i := .read m s.consumer.signal)
        ⟨minds undisturbed.1, undisturbed.2⟩ arrivals rfl rfl
      obtain rfl := regular.settled
      exact { regular with
        follows := .handling rounds ⟨m, s.world, []⟩ _ _
        progress := .within handled .start
        ledger := recorded
        minds := trivial
        isUp := regular.isUp.same rfl rfl (phase ▸ rfl) }
  | @failure why rest undisturbed arrivals =>
      exact regular.passes idle (.closing rounds rfl)
        (regular.ledger.take trivial arrivals rfl rfl) goesOn.symm trivial rfl
  | ended undisturbed arrivals feedClosed =>
      exact regular.passes idle (.closing rounds rfl)
        (regular.ledger.silent trivial rfl rfl rfl) goesOn.symm trivial rfl
  | timeOut undisturbed arrivals feedOpen passed =>
      exact regular.passes idle (.checking rounds.timedOut)
        (regular.ledger.silent trivial rfl rfl rfl) goesOn.symm trivial rfl

theorem act (regular : Regular settings begin s) {h : Handling} {offset : Int} {effect : Effect}
    {next : effect.Answer → Flow Unit} {due : Option Nat}
    (phase : s.consumer.phase = .handling offset ⟨.ask effect next, due⟩)
    (current : s.current = some h) : Regular settings begin (s.act h offset effect next) := by
  obtain ⟨h', same, handled, comes⟩ := regular.within phase
  cases current.symm.trans same
  have follows := (phase ▸ current ▸ regular.follows).works
  exact { regular with
    follows := follows _ _
    progress := .within handled comes.ask
    minds := trivial
    isUp := regular.isUp.same rfl rfl (phase ▸ rfl) }

theorem pause (regular : Regular settings begin s) {offset : Int} {flow : Flow Unit}
    {due : Option Nat} (phase : s.consumer.phase = .handling offset ⟨flow, due⟩)
    (later : Option Nat) : Regular settings begin
      { s with consumer := s.consumer.enter (.handling offset ⟨flow, later⟩) } := by
  obtain ⟨h, current, handled, comes⟩ := regular.within phase
  have follows := (phase ▸ current ▸ regular.follows).works
  exact { regular with
    follows := current ▸ follows _ h.deeds
    progress := current ▸ .within handled comes
    minds := trivial
    isUp := regular.isUp.same rfl rfl (phase ▸ rfl) }

/-- A handler comes to its end without a crash while the threshold is safe. -/
theorem finish (regular : Regular settings begin s) (safe : IsSafe begin.clock settings.thresholdNanos)
    {h : Handling} {offset : Int} {ending : Ending Unit} {due : Option Nat}
    (phase : s.consumer.phase = .handling offset ⟨.stop ending, due⟩)
    (current : s.current = some h) : Regular settings begin (s.finish h offset ending) := by
  obtain ⟨h', same, handled, comes⟩ := regular.within phase
  cases current.symm.trans same
  obtain ⟨verdict, isCounted⟩ := Entry.isCounted_of_takes (e := ⟨h.message, h.before, h.deeds,
    s.world, ending⟩) id (handled.sameClock ▸ safe) comes.ended
  obtain rfl := isCounted.ends
  have follows := (phase ▸ current ▸ regular.follows).finishes
  have recorded := regular.ledger.record (i := .handled h.message) trivial
    s.consumer.reader.arrivals [] [⟨h.message, h.before, h.deeds, s.world, .done ()⟩] rfl rfl rfl
  rw [List.append_nil] at recorded
  exact { regular with
    follows
    progress := .between rfl (.event handled comes.ended)
    ledger := recorded
    minds := trivial
    isUp := regular.isUp.same rfl rfl (phase ▸ rfl) }

/-- Whether or not a commit is refused, the round is over. -/
theorem commit (regular : Regular settings begin s) {offset : Int}
    (phase : s.consumer.phase = .committing offset) : Regular settings begin (s.commit offset) := by
  have idle : s.consumer.phase.isHandling = false := phase ▸ rfl
  obtain ⟨nobody, handled⟩ := regular.between idle
  have follows := (phase ▸ nobody ▸ regular.follows).commits
  have goesOn : s.consumer.phase.isFinished = false := phase ▸ rfl
  cases refuses : s.consumer.reader.refusesCommits with
  | true =>
      have committed : s.commit offset = { s.record (.committed offset false) with
          consumer := s.consumer.enter .checking
          world := s.world.note (.commitFailed offset (.read "commit refused")) } := by
        simp [Service.commit, Consumer.commit, refuses, Service.record]
      rw [committed]
      exact regular.passes idle (follows false) (regular.ledger.silent trivial rfl rfl rfl)
        goesOn.symm trivial rfl
  | false =>
      have committed : s.commit offset = { s.record (.committed offset true) with
          consumer := { s.consumer with
            reader := { s.consumer.reader with
              committed := s.consumer.reader.committed ++ [offset] }
            phase := .checking } } := by
        simp [Service.commit, Consumer.commit, refuses, Service.record, Consumer.enter]
      have recorded := regular.ledger.record (i := .committed offset true) trivial
        s.consumer.reader.arrivals [offset] [] rfl rfl rfl
      rw [List.append_nil] at recorded
      rw [committed]
      exact regular.passes idle (follows true) recorded goesOn.symm trivial rfl

/-- At the end the timer is stopped and the reader is closed. -/
theorem close (regular : Regular settings begin s) {result : Except Fault Unit}
    (phase : s.consumer.phase = .closing result) : Regular settings begin (s.close result) := by
  obtain ⟨nobody, handled⟩ := regular.between (phase ▸ rfl)
  have follows := (phase ▸ nobody ▸ regular.follows).closes
  have apart : s.world.SameClock (s.close result).world := by
    simp only [Service.close, Consumer.close]
    split <;> exact rfl
  exact { regular with
    follows := nobody ▸ follows
    progress := nobody ▸ .between rfl (.aside handled apart)
    ledger := regular.ledger.silent trivial rfl rfl rfl
    next := fun isOpen => absurd isOpen (by simp [Service.close, Consumer.close, Consumer.enter])
    minds := trivial
    isUp := ⟨rfl, rfl⟩ }

/-- A turn of the consumer. -/
theorem turn (regular : Regular settings begin s) (safe : IsSafe begin.clock settings.thresholdNanos)
    (turn : Turn s s') : Regular settings begin s' := by
  cases turn with
  | look phase => exact regular.look phase
  | hear phase reads => exact regular.hear phase (Consumer.reads_of_read? reads)
  | act phase current => exact regular.act phase current
  | finish phase current => exact regular.finish safe phase current
  | commit phase => exact regular.commit phase
  | close phase => exact regular.close phase

/-! ### Whatever else goes on -/

theorem timer_moves (regular : Regular settings begin s) {timer next : IdleTimer} {w : World}
    (running : s.consumer.timer = some timer) (moves : (next, w) ∈ timer.moves s.world) :
    Regular settings begin
      { s with consumer := { s.consumer with timer := some next }, world := w } :=
  { regular.others (IdleTimer.sameClock_of_moves moves) with
    isUp := by
      have still := regular.isUp.timer
      rw [running] at still
      exact ⟨still, regular.isUp.closed⟩ }

/-- A message that is fed takes the next offset, unless the reader is closed. -/
theorem push (regular : Regular settings begin s) (payload : Text.Payload) :
    Regular settings begin (s.push payload) := by
  cases isClosed : s.consumer.reader.isClosed with
  | true =>
      have pushed : s.push payload = s.withReader { s.consumer.reader with
          nextOffset := s.consumer.reader.nextOffset + 1 } := by
        simp [Service.push, Reader.push, isClosed, withReader]
      rw [pushed]
      exact { regular with
        next := fun isOpen => absurd (isClosed.symm.trans isOpen) (by simp)
        isUp := regular.isUp.same rfl rfl rfl }
  | false =>
      have next : s.consumer.reader.nextOffset = (messagesOf s.fed).length := regular.next isClosed
      have pushed : s.push payload = { s.withReader { s.consumer.reader with
            nextOffset := s.consumer.reader.nextOffset + 1
            arrivals := s.consumer.reader.arrivals ++
              [.message ⟨(messagesOf s.fed).length, payload⟩] } with
          fed := s.fed ++ [.message ⟨(messagesOf s.fed).length, payload⟩] } := by
        simp [Service.push, Reader.push, isClosed, withReader, next]
      rw [pushed]
      exact { regular with
        ledger := regular.ledger.push _
        numbered := isNumbered_message regular.numbered payload
        next := fun _ => by
          change s.consumer.reader.nextOffset + 1 = (messagesOf (s.fed ++ [.message _])).length
          rw [messagesOf_message, List.length_append, next]
          rfl
        isUp := regular.isUp.same rfl rfl rfl }

theorem pushFailure (regular : Regular settings begin s) (why : String) :
    Regular settings begin (s.pushFailure why) := by
  cases isClosed : s.consumer.reader.isClosed with
  | true =>
      have pushed : s.pushFailure why = s := by
        simp [Service.pushFailure, Reader.pushFailure, isClosed, withReader]
      rwa [pushed]
  | false =>
      have pushed : s.pushFailure why = { s.withReader { s.consumer.reader with
            arrivals := s.consumer.reader.arrivals ++ [.failure why] } with
          fed := s.fed ++ [.failure why] } := by
        simp [Service.pushFailure, Reader.pushFailure, isClosed, withReader]
      have same := messagesOf_failure s.fed why
      have numbered : IsNumbered (s.fed ++ [.failure why]) := by
        rw [IsNumbered, same]
        exact regular.numbered
      rw [pushed]
      exact { regular with
        ledger := regular.ledger.push _
        numbered
        next := fun isOpen => (regular.next isOpen).trans (congrArg List.length same.symm)
        isUp := regular.isUp.same rfl rfl rfl }

/-- Whatever happens next, the consumer keeps to its protocol. -/
theorem step (regular : Regular settings begin s) (safe : IsSafe begin.clock settings.thresholdNanos)
    (step : Step s s') : Regular settings begin s' := by
  cases step with
  | turn turn => exact regular.turn safe turn
  | pause phase later => exact regular.pause phase later
  | timer running moves => exact regular.timer_moves running moves
  | push _ payload => exact regular.push payload
  | pushFailure _ why => exact regular.pushFailure why
  | closeFeed => exact { regular with isUp := regular.isUp.same rfl rfl rfl }
  | refuse => exact { regular with isUp := regular.isUp.same rfl rfl rfl }
  | signal => exact { regular with minds := Phase.minds_of_isNew rfl _, isUp := regular.isUp.same rfl rfl rfl }
  | drop => exact { regular with isUp := regular.isUp.same rfl rfl rfl }
  | others apart => exact regular.others apart

/-- The consumer keeps to its protocol wherever it comes. -/
theorem reaches (regular : Regular settings begin s) (safe : IsSafe begin.clock settings.thresholdNanos)
    (reaches : s.Reaches s') : Regular settings begin s' := by
  induction reaches with
  | refl => exact regular
  | tail _ step ih => exact ih.step safe step

end Regular

end Service

end FleetRoster
