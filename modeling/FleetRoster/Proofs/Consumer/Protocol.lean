import FleetRoster.Proofs.Consumer.Service

/-!
# The protocol of the consumer

Each message that is read is handled and then committed, before anything else is read; a read that
times out and a commit that is refused change nothing of that. The loop ends where the signal was seen
or the reader could not go on, and nothing is read from then on. Up to there the messages are read as
they were fed, so what was committed is what was read, apart from what was refused.
-/

namespace FleetRoster

/-! ## The record -/

namespace Incident

/-- What was taken from the feed. -/
def arrival? : Incident → Option Arrival
  | read m _ => some (.message m)
  | readFailed why true => some (.failure why)
  | _ => none

/-- The message that was handled. -/
def handled? : Incident → Option Inbound
  | handled m => some m
  | _ => none

/-- The offset that was to be committed. -/
def offered? : Incident → Option Int
  | committed offset _ => some offset
  | _ => none

/-- The offset that was committed and not refused. -/
def accepted? : Incident → Option Int
  | committed offset true => some offset
  | _ => none

/-- The result with which the loop ends. -/
def result? : Incident → Option (Except Fault Unit)
  | stopSeen _ => some (.ok ())
  | readFailed why _ => some (.error (.read why))
  | _ => none

/-- Whether the reader was closed. -/
def isClosing : Incident → Bool
  | closed => true
  | _ => false

end Incident

/-- The message that has arrived. -/
def Arrival.message? : Arrival → Option Inbound
  | message m => some m
  | failure _ => none

/-- What was taken from the feed, the first one first. -/
def arrivalsOf (incidents : List Incident) : List Arrival :=
  incidents.filterMap (·.arrival?)

/-- The messages that were handled, the first one first. -/
def handledOf (incidents : List Incident) : List Inbound :=
  incidents.filterMap (·.handled?)

/-- The offsets that were to be committed, the first one first. -/
def offeredOf (incidents : List Incident) : List Int :=
  incidents.filterMap (·.offered?)

/-- The offsets that were committed and not refused, the first one first. -/
def acceptedOf (incidents : List Incident) : List Int :=
  incidents.filterMap (·.accepted?)

/-- The messages of a feed. -/
def messagesOf (arrivals : List Arrival) : List Inbound :=
  arrivals.filterMap (·.message?)

/-- The result that the consumer has come to. -/
def Phase.result? : Phase → Option (Except Fault Unit)
  | closing result => some result
  | finished result => some result
  | _ => none

/-- The offset that is to be committed next. -/
def Phase.offered? : Phase → Option Int
  | committing offset => some offset
  | _ => none

/-- Whether the consumer handles a message. -/
def Phase.isHandling : Phase → Bool
  | handling _ _ => true
  | _ => false

/-- Whether the consumer has ended. -/
def Phase.isFinished : Phase → Bool
  | finished _ => true
  | _ => false

/-! ## Rounds -/

/-- Rounds of the loop that are over: a message was read, handled and committed, or there was none. -/
inductive Rounds : List Incident → Prop
  | start : Rounds []
  | message {before : List Incident} (rounds : Rounds before) (m : Inbound) (signal : Signal)
      (accepted : Bool) :
      Rounds (before ++ [.read m signal, .handled m, .committed m.offset accepted])
  | timedOut {before : List Incident} (rounds : Rounds before) : Rounds (before ++ [.timedOut])
  | stirred {before : List Incident} (rounds : Rounds before) : Rounds (before ++ [.stirred])

/-- What has happened in the loop when the consumer is in a phase: rounds that are over, and the part
of the last one that has led there. -/
inductive Follows : Phase → Option Handling → List Incident → Prop
  | checking {before : List Incident} (rounds : Rounds before) : Follows .checking none before
  | reading {before : List Incident} (rounds : Rounds before) (deadline : Nat) :
      Follows (.reading deadline) none before
  | handling {before : List Incident} (rounds : Rounds before) (h : Handling) (signal : Signal)
      (work : Task Unit) :
      Follows (.handling h.message.offset work) (some h) (before ++ [.read h.message signal])
  | committing {before : List Incident} (rounds : Rounds before) (m : Inbound) (signal : Signal) :
      Follows (.committing m.offset) none (before ++ [.read m signal, .handled m])
  | closing {before : List Incident} (rounds : Rounds before) {last : Incident}
      {result : Except Fault Unit} (ends : last.result? = some result) :
      Follows (.closing result) none (before ++ [last])
  | finished {before : List Incident} (rounds : Rounds before) {last : Incident}
      {result : Except Fault Unit} (ends : last.result? = some result) :
      Follows (.finished result) none (before ++ [last, .closed])

namespace Follows

variable {incidents : List Incident}

theorem not_crashed {phase : Phase} {current : Option Handling}
    (follows : Follows phase current incidents) : phase ≠ .crashed := by
  rintro rfl
  cases follows

/-- While no message is in hand, none is handled. -/
theorem idle {phase : Phase} (follows : Follows phase none incidents) : phase.isHandling = false := by
  cases follows with
  | _ => rfl

theorem of_checking (follows : Follows .checking none incidents) : Rounds incidents := by
  cases follows with
  | checking rounds => exact rounds

theorem of_reading {deadline : Nat} (follows : Follows (.reading deadline) none incidents) :
    Rounds incidents := by
  cases follows with
  | reading rounds => exact rounds

/-- The handler may go on. -/
theorem works {offset : Int} {work : Task Unit} {h : Handling}
    (follows : Follows (.handling offset work) (some h) incidents) (later : Task Unit)
    (deeds : List Deed) :
    Follows (.handling offset later) (some { h with deeds }) incidents := by
  cases follows with
  | handling rounds _ signal => exact .handling rounds { h with deeds } signal later

/-- What was handled is committed next. -/
theorem finishes {offset : Int} {work : Task Unit} {h : Handling}
    (follows : Follows (.handling offset work) (some h) incidents) :
    Follows (.committing offset) none (incidents ++ [.handled h.message]) := by
  cases follows with
  | handling rounds _ signal =>
      rw [List.append_assoc]
      exact .committing rounds h.message signal

/-- With the commit the round is over, accepted or not. -/
theorem commits {offset : Int} (follows : Follows (.committing offset) none incidents)
    (accepted : Bool) : Follows .checking none (incidents ++ [.committed offset accepted]) := by
  cases follows with
  | committing rounds m signal =>
      rw [List.append_assoc]
      exact .checking (rounds.message m signal accepted)

/-- The reader is closed last. -/
theorem closes {result : Except Fault Unit} (follows : Follows (.closing result) none incidents) :
    Follows (.finished result) none (incidents ++ [.closed]) := by
  cases follows with
  | closing rounds ends =>
      rw [List.append_assoc]
      exact .finished rounds ends

end Follows

/-! ## What comes of the rounds -/

/-- What was read was handled, up to the message in hand, and what was handled was to be committed, up
to the offset in hand. What has ended the loop gives the result. -/
structure Yields (incidents : List Incident) (current : Option Inbound) (offset : Option Int)
    (result : Option (Except Fault Unit)) (closings : Nat) : Prop where
  handled : messagesOf (arrivalsOf incidents) = handledOf incidents ++ current.toList
  offered : (handledOf incidents).map (·.offset) = offeredOf incidents ++ offset.toList
  result : incidents.filterMap (·.result?) = result.toList
  closings : incidents.countP (·.isClosing) = closings

/-- After rounds that are over, something else is in hand. -/
theorem Yields.append {incidents more : List Incident} {m : Option Inbound} {offset : Option Int}
    {result : Option (Except Fault Unit)} {closings : Nat} (rounds : Yields incidents none none none 0)
    (next : Yields more m offset result closings) :
    Yields (incidents ++ more) m offset result closings where
  handled := by
    have first := rounds.handled
    have second := next.handled
    simp only [messagesOf, arrivalsOf, handledOf] at first second ⊢
    simp only [List.filterMap_append, first, second, Option.toList_none, List.append_nil,
      List.append_assoc]
  offered := by
    have first := rounds.offered
    have second := next.offered
    simp only [handledOf, offeredOf] at first second ⊢
    simp only [List.filterMap_append, List.map_append, first, second, Option.toList_none,
      List.append_nil, List.append_assoc]
  result := by rw [List.filterMap_append, rounds.result, next.result]; rfl
  closings := by rw [List.countP_append, rounds.closings, next.closings, Nat.zero_add]

/-- Nothing is in hand after rounds that are over. -/
theorem Rounds.yields {incidents : List Incident} (rounds : Rounds incidents) :
    Yields incidents none none none 0 := by
  induction rounds with
  | start => exact ⟨rfl, rfl, rfl, rfl⟩
  | message rounds m signal accepted ih => exact ih.append ⟨rfl, rfl, rfl, rfl⟩
  | timedOut rounds ih => exact ih.append ⟨rfl, rfl, rfl, rfl⟩
  | stirred rounds ih => exact ih.append ⟨rfl, rfl, rfl, rfl⟩

/-- What ends the loop gives the result, before and after the reader is closed. -/
theorem yields_of_result? {last : Incident} {result : Except Fault Unit}
    (ends : last.result? = some result) : Yields [last] none none (some result) 0 ∧
      Yields [last, .closed] none none (some result) 1 := by
  cases last with
  | stopSeen signal =>
      cases ends
      exact ⟨⟨rfl, rfl, rfl, rfl⟩, ⟨rfl, rfl, rfl, rfl⟩⟩
  | readFailed why inFeed =>
      cases ends
      cases inFeed <;> exact ⟨⟨rfl, rfl, rfl, rfl⟩, ⟨rfl, rfl, rfl, rfl⟩⟩
  | _ => cases ends

theorem Follows.yields {phase : Phase} {current : Option Handling} {incidents : List Incident}
    (follows : Follows phase current incidents) :
    Yields incidents (current.map (·.message)) phase.offered? phase.result?
      phase.isFinished.toNat := by
  cases follows with
  | checking rounds => exact rounds.yields
  | reading rounds deadline => exact rounds.yields
  | handling rounds h signal work => exact rounds.yields.append ⟨rfl, rfl, rfl, rfl⟩
  | committing rounds m signal => exact rounds.yields.append ⟨rfl, rfl, rfl, rfl⟩
  | closing rounds ends => exact rounds.yields.append (yields_of_result? ends).1
  | finished rounds ends => exact rounds.yields.append (yields_of_result? ends).2

/-! ## The feed and the ledger -/

/-- The messages of a feed have the offsets from zero on. -/
def IsNumbered (fed : List Arrival) : Prop :=
  (messagesOf fed).map (·.offset) = (List.range (messagesOf fed).length).map Int.ofNat

/-- Numbers from zero on are that up to any of them. -/
theorem eq_range_of_append {first rest : List Int} {n : Nat}
    (whole : first ++ rest = (List.range n).map Int.ofNat) :
    first = (List.range first.length).map Int.ofNat := by
  have length : first.length ≤ n := by
    have lengths := congrArg List.length whole
    simp only [List.length_append, List.length_map, List.length_range] at lengths
    omega
  calc
    first = (first ++ rest).take first.length := List.take_left.symm
    _ = ((List.range n).take first.length).map Int.ofNat := by rw [whole, List.map_take]
    _ = (List.range first.length).map Int.ofNat := by rw [List.take_range, Nat.min_eq_left length]

section

variable {fed : List Arrival}

theorem messagesOf_message (fed : List Arrival) (m : Inbound) :
    messagesOf (fed ++ [.message m]) = messagesOf fed ++ [m] :=
  List.filterMap_append

theorem messagesOf_failure (fed : List Arrival) (why : String) :
    messagesOf (fed ++ [.failure why]) = messagesOf fed := by
  rw [messagesOf, List.filterMap_append]
  exact List.append_nil _

/-- A message that is fed takes the next offset. -/
theorem isNumbered_message (numbered : IsNumbered fed) (payload : Text.Payload) :
    IsNumbered (fed ++ [.message ⟨(messagesOf fed).length, payload⟩]) := by
  rw [IsNumbered, messagesOf_message, List.map_append, numbered, List.length_append,
    List.length_singleton, List.range_succ, List.map_append]
  rfl

end

/-- What the signal was when something happened: a message is read only while the signal neither says to
stop nor is dropped, and one of these is what ends the loop. -/
def Incident.Heeds : Incident → Prop
  | .read _ signal => signal.value = false ∧ signal.isDropped = false
  | .stopSeen signal => signal.value ∨ signal.isDropped
  | _ => True

/-- The record of what happened agrees with what was fed and is still to be read, with the offsets that
were committed and with the messages that were handled. -/
structure Ledger (incidents : List Incident) (fed arrivals : List Arrival) (committed : List Int)
    (history : List (Entry Inbound Unit)) : Prop where
  feed : fed = arrivalsOf incidents ++ arrivals
  handled : history.map (·.event) = handledOf incidents
  committed : committed = acceptedOf incidents
  heeds : ∀ i ∈ incidents, i.Heeds

namespace Ledger

variable {incidents : List Incident} {fed arrivals : List Arrival} {committed : List Int}
  {history : List (Entry Inbound Unit)}

/-- Whatever happens leaves its traces. -/
theorem record (ledger : Ledger incidents fed arrivals committed history) {i : Incident}
    (heeds : i.Heeds) (rest : List Arrival) (offsets : List Int)
    (entries : List (Entry Inbound Unit)) (taken : arrivals = i.arrival?.toList ++ rest)
    (handled : entries.map (·.event) = i.handled?.toList)
    (accepted : offsets = i.accepted?.toList) :
    Ledger (incidents ++ [i]) fed rest (committed ++ offsets) (history ++ entries) where
  feed := by
    rw [ledger.feed, taken, ← List.append_assoc]
    cases taken : i.arrival? <;> simp [arrivalsOf, taken]
  handled := by
    rw [List.map_append, ledger.handled, handled]
    cases handled : i.handled? <;> simp [handledOf, handled]
  committed := by
    rw [ledger.committed, accepted]
    cases accepted : i.accepted? <;> simp [acceptedOf, accepted]
  heeds := by
    rw [List.forall_mem_append, List.forall_mem_singleton]
    exact ⟨ledger.heeds, heeds⟩

/-- What is taken from the feed is not to be read any more. -/
theorem take (ledger : Ledger incidents fed arrivals committed history) {i : Incident}
    {rest : List Arrival} (heeds : i.Heeds) (taken : arrivals = i.arrival?.toList ++ rest)
    (handled : i.handled? = none) (accepted : i.accepted? = none) :
    Ledger (incidents ++ [i]) fed rest committed history := by
  have recorded := ledger.record heeds rest [] [] taken (by rw [handled]; rfl)
    (by rw [accepted]; rfl)
  rwa [List.append_nil, List.append_nil] at recorded

/-- What leaves no trace elsewhere only goes on record. -/
theorem silent (ledger : Ledger incidents fed arrivals committed history) {i : Incident}
    (heeds : i.Heeds) (taken : i.arrival? = none) (handled : i.handled? = none)
    (accepted : i.accepted? = none) : Ledger (incidents ++ [i]) fed arrivals committed history :=
  ledger.take heeds (by rw [taken]; rfl) handled accepted

/-- What is fed is still to be read. -/
theorem push (ledger : Ledger incidents fed arrivals committed history) (a : Arrival) :
    Ledger incidents (fed ++ [a]) (arrivals ++ [a]) committed history :=
  { ledger with feed := by rw [ledger.feed, List.append_assoc] }

end Ledger

end FleetRoster
