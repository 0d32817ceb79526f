import Mathlib.Logic.Function.Iterate
import FleetRoster.Proofs.Requests.Bureau
import FleetRoster.Rehearsal.Run

/-!
# What the queue of requests promises

Whatever the queue does by the clock is a number of steps of its bureau. Left to itself the writer
finishes whatever was asked for. At every moment the requests that it has taken are those that were
accepted, each once and in order, at most two of them are not finished, and what the topic and the
counts have received is what the finished ones have come to.
-/

namespace FleetRoster.Bureau

variable {κ : Type}

/-! ## The writer on its own -/

/-- What the writer does next, if it has something to do. -/
def goOn (b : Bureau κ) : Bureau κ :=
  match b.queue.work, b.current, b.queue.queued with
  | some ⟨.ask effect next, _⟩, some u, _ => b.act u effect next
  | some ⟨.stop ending, _⟩, some u, _ => b.finish u ending
  | some _, none, _ => b
  | none, _, some r => b.take r
  | none, _, none => if b.queue.isWriting && !b.queue.isOpen then b.stop else b

/-- Going on with a task, up to its next pause, is a number of steps. -/
theorem reaches_proceed {flow : Flow Unit} {due : Option Nat} {u : Undertaking} {b : Bureau κ}
    (work : b.queue.work = some ⟨flow, due⟩) (current : b.current = some u) (paused : Bool) :
    ∃ b' : Bureau κ, b.Reaches b' ∧ b'.world = (Task.proceed paused flow b.world).1 ∧
      b'.queue = { b.queue with work := (Task.proceed paused flow b.world).2.getLeft? } := by
  induction flow generalizing b due u paused with
  | stop ending => exact ⟨b.finish u ending, .single (.finish work current), rfl, rfl⟩
  | ask effect next ih =>
      rw [Task.proceed]
      by_cases goes : paused || effect.pause b.world.latency = 0
      · obtain ⟨b', reaches, world, queue⟩ :=
          ih _ (b := b.act u effect next) rfl rfl false
        simp only [if_pos goes]
        exact ⟨b', .head (.act work current) reaches, world, queue⟩
      · simp only [if_neg goes]
        exact ⟨_, .single (.pause work _), rfl, rfl⟩

/-- Whatever the queue does next, by the clock, is a number of steps. -/
theorem reaches_move {start : World} {b : Bureau κ} {q : RequestQueue} {w : World}
    (orderly : Orderly start b) (moves : b.queue.move? b.world = some (q, w)) :
    ∃ b' : Bureau κ, b.Reaches b' ∧ b'.queue = q ∧ b'.world = w := by
  cases writing : b.queue.isWriting with
  | false => simp [RequestQueue.move?, writing] at moves
  | true =>
      cases work : b.queue.work with
      | some t =>
          rcases t with ⟨flow, due⟩
          obtain ⟨u, current, _, _⟩ := orderly.busy work
          obtain ⟨b', reaches, world, queue⟩ := reaches_proceed work current due.isSome
          cases ready : Task.isReady ⟨flow, due⟩ b.world with
          | false => simp [RequestQueue.move?, writing, work, ready] at moves
          | true =>
              have next : b.queue.move? b.world = some (b.queue.proceed b.world ⟨flow, due⟩) := by
                simp [RequestQueue.move?, writing, work, ready]
              have advance : Task.advance ⟨flow, due⟩ b.world =
                  Task.proceed due.isSome flow b.world := if_pos ready
              rw [next, RequestQueue.proceed, advance] at moves
              generalize Task.proceed due.isSome flow b.world = result at moves world queue
              rcases result with ⟨w', t | ending⟩
              · cases moves
                exact ⟨b', reaches, queue, world⟩
              · cases moves
                exact ⟨b', reaches, queue, world⟩
      | none =>
          cases queued : b.queue.queued with
          | some r =>
              have next : b.queue.move? b.world = some (b.queue.take r, b.world) := by
                simp [RequestQueue.move?, writing, work, queued]
              cases next.symm.trans moves
              exact ⟨_, .single (.take writing work queued), rfl, rfl⟩
          | none =>
              cases isOpen : b.queue.isOpen with
              | true => simp [RequestQueue.move?, writing, work, queued, isOpen] at moves
              | false =>
                  have next : b.queue.move? b.world = some (b.stop.queue, b.stop.world) := by
                    simp [RequestQueue.move?, writing, work, queued, isOpen, stop]
                  cases next.symm.trans moves
                  exact ⟨_, .single (.stop writing isOpen work queued), rfl, rfl⟩

/-- The requests that the writer has not taken yet. -/
def pending (b : Bureau κ) : Nat :=
  b.queue.queued.toList.length + b.line.length

section

variable {start : World} {b : Bureau κ}

theorem reaches_goOn (orderly : Orderly start b) : b.Reaches b.goOn := by
  unfold goOn
  split
  next work current => exact .single (.act work current)
  next work current => exact .single (.finish work current)
  next => exact .refl
  next work queued => exact .single (.take (orderly.isWriting_of_queued queued) work queued)
  next work queued =>
    split
    next ends =>
      simp only [Bool.and_eq_true, Bool.not_eq_true'] at ends
      exact .single (.stop ends.1 ends.2 work queued)
    next => exact .refl

theorem reaches_iterate (orderly : Orderly start b) (n : Nat) : b.Reaches (goOn^[n] b) := by
  induction n with
  | zero => exact .refl
  | succ n ih =>
      rw [Function.iterate_succ_apply']
      exact ih.trans (reaches_goOn (orderly.reaches ih))

/-- The writer makes no requests and does not keep others from making them. -/
theorem keeps_goOn (b : Bureau κ) :
    b.goOn.calls = b.calls ∧ b.goOn.queue.isOpen = b.queue.isOpen := by
  unfold goOn
  split
  next => exact ⟨rfl, rfl⟩
  next => exact ⟨rfl, rfl⟩
  next => exact ⟨rfl, rfl⟩
  next => exact ⟨rfl, rfl⟩
  next => split <;> exact ⟨rfl, rfl⟩

theorem keeps_iterate (b : Bureau κ) (n : Nat) :
    (goOn^[n] b).calls = b.calls ∧ (goOn^[n] b).queue.isOpen = b.queue.isOpen := by
  induction n with
  | zero => exact ⟨rfl, rfl⟩
  | succ n ih =>
      rw [Function.iterate_succ_apply']
      exact ⟨(keeps_goOn _).1.trans ih.1, (keeps_goOn _).2.trans ih.2⟩

/-- The writer finishes what it works on. -/
theorem finishes_work {flow : Flow Unit} {due : Option Nat} {u : Undertaking}
    (work : b.queue.work = some ⟨flow, due⟩) (current : b.current = some u) :
    ∃ n, (goOn^[n] b).queue.work = none ∧ (goOn^[n] b).pending = b.pending := by
  induction flow generalizing b due u with
  | stop ending =>
      have next : b.goOn = b.finish u ending := by rw [goOn, work, current]
      exact ⟨1, by rw [Function.iterate_one, next]; exact ⟨rfl, rfl⟩⟩
  | ask effect next ih =>
      have acts : b.goOn = b.act u effect next := by rw [goOn, work, current]
      obtain ⟨n, idle, same⟩ := ih _ (b := b.act u effect next) rfl rfl
      exact ⟨n + 1, by rw [Function.iterate_succ_apply, acts]; exact ⟨idle, same⟩⟩

theorem finishes_current (orderly : Orderly start b) :
    ∃ n, (goOn^[n] b).queue.work = none ∧ (goOn^[n] b).pending = b.pending := by
  cases work : b.queue.work with
  | none => exact ⟨0, work, rfl⟩
  | some t =>
      rcases t with ⟨flow, due⟩
      obtain ⟨u, current, _, _⟩ := orderly.busy work
      exact finishes_work work current

theorem pending_take {r : Request} (orderly : Orderly start b)
    (queued : b.queue.queued = some r) : (b.take r).pending + 1 = b.pending := by
  simp only [pending, take, RequestQueue.take, orderly.waiting, queued]
  cases b.line with
  | nil => rfl
  | cons first rest => simp [Nat.add_comm]

/-- A writer that is left to itself comes to have nothing to do. -/
theorem finishes_all (orderly : Orderly start b) :
    ∃ n, (goOn^[n] b).queue.work = none ∧ (goOn^[n] b).queue.queued = none := by
  induction left : b.pending using Nat.strongRecOn generalizing b with
  | ind k ih =>
      obtain ⟨n, idle, same⟩ := finishes_current orderly
      have met := orderly.reaches (reaches_iterate orderly n)
      cases queued : (goOn^[n] b).queue.queued with
      | none => exact ⟨n, idle, queued⟩
      | some r =>
          have takes : goOn^[n + 1] b = (goOn^[n] b).take r := by
            rw [Function.iterate_succ_apply', goOn, idle, queued]
          have fewer := pending_take met queued
          obtain ⟨m, done⟩ := ih _ (by omega) (met.take idle queued) rfl
          refine ⟨m + (n + 1), ?_⟩
          rwa [Function.iterate_add_apply, takes]

end

/-! ## What the queue promises -/

/-- What can be said of the requests at any moment. -/
structure Serves (start : World) (batchSize : Nat) (b : Bureau κ) : Prop where
  /-- Requests are accepted as they are made; only the last of them may still wait for it. -/
  order : b.calls = b.accepted ++ b.line
  /-- The writer takes those that are accepted, each once and in their order. -/
  taken : b.accepted.map (·.2) = b.history.map (·.event) ++
    ((b.current.map (·.request)).toList ++ b.queue.queued.toList)
  /-- No more than two are accepted and not finished. -/
  unfinished : b.accepted.length ≤ b.history.length + 2
  /-- What was taken was served. -/
  served : ∀ e ∈ b.history, e.before.tally.IsOrdered ∧ e.Served batchSize
  /-- Nothing else was sent: the attempts are those of the requests, one request after the other. -/
  sent : b.current = none → ∃ attempts : List (List Attempt),
    List.Forall₂ (fun e offered => Offers batchSize (e.event.targets e.deeds) offered) b.history
      attempts ∧
    start.Sends attempts.flatten (attempts.flatten.countP (!·.taken)) b.world
  /-- Whoever makes a request gets no error. -/
  welcome : b.queue.isOpen → ∀ r, (b.queue.submit b.world r).2 = b.world
  /-- The writer stops when nobody is left to make a request and all are finished. -/
  stopped : b.queue.isWriting = false →
    b.queue.isOpen = false ∧ b.calls.map (·.2) = b.history.map (·.event)
  /-- Left to itself it finishes all that was asked for, and then stops if nobody is left. -/
  finishes : ∃ n, (goOn^[n] b).history.map (·.event) = b.calls.map (·.2) ∧
    (b.queue.isOpen = false → (goOn^[n] b).queue.isWriting = false)

section

variable {start : World} {b b' : Bureau κ}

theorem Reaches.batchSize (reaches : b.Reaches b') : b'.queue.batchSize = b.queue.batchSize := by
  induction reaches with
  | refl => rfl
  | tail _ step ih =>
      rw [← ih]
      cases step with
      | call isOpen caller r =>
          simp only [call, RequestQueue.submit]
          split
          · rfl
          · split <;> rfl
      | _ => rfl

namespace Orderly

/-- What is finished was handled, one request after the other. -/
theorem handled (orderly : Orderly start b) : ∃ met,
    Handled (processRequest b.queue.batchSize) World.Elsewhere start b.history met ∧
      (b.current = none → met = b.world) := by
  have progress := orderly.progress
  generalize b.current = current, b.queue.work = work at progress
  cases progress with
  | idle finished => exact ⟨_, finished, fun _ => rfl⟩
  | busy finished comes => exact ⟨_, finished, by simp⟩

/-- When there is nothing to do, all that was asked for is finished. -/
theorem allFinished (orderly : Orderly start b) (nobody : b.current = none)
    (empty : b.queue.queued = none) : b.history.map (·.event) = b.calls.map (·.2) := by
  rw [orderly.calls, orderly.room empty, List.append_nil, orderly.accepted, nobody, empty]
  simp

theorem finishes (orderly : Orderly start b) :
    ∃ n, (goOn^[n] b).history.map (·.event) = b.calls.map (·.2) ∧
      (b.queue.isOpen = false → (goOn^[n] b).queue.isWriting = false) := by
  obtain ⟨n, idle, empty⟩ := finishes_all orderly
  have met := orderly.reaches (reaches_iterate orderly n)
  have finished := met.allFinished (met.idle idle).1 empty
  rw [(keeps_iterate b n).1] at finished
  have last : goOn^[n + 1] b = if (goOn^[n] b).queue.isWriting && !b.queue.isOpen
      then (goOn^[n] b).stop else goOn^[n] b := by
    rw [Function.iterate_succ_apply', goOn, idle, empty, (keeps_iterate b n).2]
  refine ⟨n + 1, ?_⟩
  rw [last]
  cases writing : (goOn^[n] b).queue.isWriting with
  | false => exact ⟨finished, fun _ => writing⟩
  | true =>
      cases isOpen : b.queue.isOpen with
      | false => exact ⟨finished, fun _ => rfl⟩
      | true => exact ⟨finished, by simp⟩

theorem serves (orderly : Orderly start b) (ordered : start.tally.IsOrdered) :
    Serves start b.queue.batchSize b := by
  obtain ⟨met, handled, same⟩ := orderly.handled
  constructor
  case order => exact orderly.calls
  case taken => exact orderly.accepted
  case unfinished =>
    have length := congrArg List.length orderly.accepted
    have current : (b.current.map (·.request)).toList.length ≤ 1 := by
      cases b.current <;> simp
    have queued : b.queue.queued.toList.length ≤ 1 := by
      cases b.queue.queued <;> simp
    simp only [List.length_map, List.length_append] at length
    omega
  case served =>
    intro e mem
    obtain ⟨earlier, later, cut⟩ := List.append_of_mem mem
    obtain ⟨before, takes, -⟩ := (cut ▸ handled).cut
    obtain ⟨_, _, sends⟩ := before.sends
    exact ⟨sends.ordered ordered, Entry.served_of_takes takes⟩
  case sent =>
    intro none
    rw [← same none]
    exact handled.sends
  case welcome =>
    intro isOpen r
    rw [RequestQueue.submit, orderly.isWriting isOpen]
    cases b.queue.queued.isNone && b.queue.waiting.isEmpty <;> rfl
  case stopped =>
    intro stopped
    obtain ⟨closed, none, empty⟩ := orderly.writing stopped
    exact ⟨closed, (orderly.allFinished none empty).symm⟩
  case finishes => exact orderly.finishes

end Orderly

/-- Wherever any number of callers, the writer and others have brought a fresh queue, its requests are
served, and a request is dropped without a trace where there is no queue. -/
theorem requests_served {batchSize : Nat} (ordered : start.tally.IsOrdered)
    (reaches : Reaches { world := start, queue := { batchSize } } b) :
    b.Serves start batchSize ∧ ∀ (r : Rehearsal) (request : Request), r.queue = none →
      r.submit request = (r, .replied .nothing) := by
  constructor
  · have size : b.queue.batchSize = batchSize := reaches.batchSize
    exact size ▸ ((Orderly.initial start batchSize).reaches reaches).serves ordered
  · intro r request disabled
    rw [Rehearsal.submit, disabled]

end

namespace Sample

/-- A world in which the topic of the requests refuses the first batch. -/
def world : World where
  clock _ := ⟨0, 0⟩
  buffer := Buffer.ofCapacity 2 10 1000
  evaluations := { name := "evaluations" }
  audits := { name := "audits" }
  requests := { name := "recalc", outage := fun n => n == 0 }

def fresh : Bureau Nat where
  world := world
  queue := { batchSize := 10 }

/-- Two callers make three requests, the second one for a baseline without systems, and leave. -/
def called : Bureau Nat :=
  (((fresh.call 0 (.systems [⟨"g", 1⟩, ⟨"h", 2⟩])).call 1 (.baseline 1 none)).call 0
    (.systems [⟨"i", 1⟩])).close

/-- The writer works until it stops. -/
def served : Bureau Nat :=
  goOn^[13] called

theorem reaches_called : Reaches fresh called :=
  .tail (.tail (.tail (.single (.call rfl _ _)) (.call rfl _ _)) (.call rfl _ _)) (.close _)

theorem reaches_served : Reaches fresh served :=
  reaches_called.trans
    (reaches_iterate ((Orderly.initial world 10).reaches reaches_called) 13)

end Sample

theorem requests_served_sample :
    Sample.served.Serves Sample.world 10 ∧
      Sample.served.history.map (·.event) =
        [.systems [⟨"g", 1⟩, ⟨"h", 2⟩], .baseline 1 none, .systems [⟨"i", 1⟩]] ∧
      Sample.served.world.requests.messages.length = 1 ∧
      Sample.served.world.tally.failedSends = [("recalc", 1)] ∧
      Sample.served.queue.isWriting = false :=
  have ordered : Sample.world.tally.IsOrdered := List.Pairwise.nil
  ⟨(requests_served ordered Sample.reaches_served).1, by decide +kernel, by decide +kernel,
    by decide +kernel, by decide +kernel⟩

end FleetRoster.Bureau
