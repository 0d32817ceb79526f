import FleetRoster.Proofs.Flow.History
import FleetRoster.Proofs.Handler.Conduct

/-!
# Histories of events

The events of a history are dispatched one at a time, while everything that leaves the books alone
may go on: time passes, the buffer is flushed, other topics are written to. Every entry takes one of
the courses of its event, and the clock that it reads has not gone back since the entries before it.
-/

namespace FleetRoster

open Calendar (Instant)

/-- The handler of an event. -/
def Job.handler (threshold : Nat) (job : Job) : Flow Outcome :=
  dispatch threshold job.about job.kind job.message

namespace Entry

/-- The readings of the clock that the handler took, the first one first. -/
def readings {ε α : Type} (e : Entry ε α) : List Instant :=
  readingsOf e.deeds

/-- The uploads that the handler queued, the first one first. -/
def items {ε α : Type} (e : Entry ε α) : List Item :=
  itemsOf e.deeds

/-- An upload was evaluated in an account. -/
def Evaluates (e : Entry Job Outcome) (r : Report) (account : Int) : Prop :=
  e.event.report? = some r ∧ e.ending = .done (.evaluated account)

/-- A deletion of a host was done. -/
def Deletes (inventoryId : String) (e : Entry Job Outcome) : Prop :=
  e.event.deletion? = some inventoryId ∧ ∃ rows, e.ending = .done (.deleted rows)

/-- The handler of an entry has taken one of the courses of its event. -/
def Follows (threshold : Nat) (e : Entry Job Outcome) : Prop :=
  Course threshold e.event e.before.books e.readings e.items e.ending e.after.books

theorem follows_of_takes {threshold : Nat} {e : Entry Job Outcome}
    (takes : (e.event.handler threshold).Takes World.Aside e.before e.deeds e.after e.ending) :
    e.Follows threshold :=
  (leads_dispatch threshold e.event).inBooks World.Aside.books takes

end Entry

/-! ## The clock -/

/-- The clock is the same and was not turned back. -/
structure World.Ticks (w w' : World) : Prop where
  clock : w'.clock = w.clock
  readings : w.readings ≤ w'.readings

/-- An instant that the clock has shown between two worlds. -/
def World.Shows (w w' : World) (time : Instant) : Prop :=
  ∃ n, w.readings ≤ n ∧ n < w'.readings ∧ w.clock n = time

namespace World

theorem Aside.ticks {w w' : World} (aside : w.Aside w') : w.Ticks w' :=
  ⟨aside.clock, aside.readings⟩

theorem Ticks.refl (w : World) : w.Ticks w :=
  ⟨rfl, Nat.le_refl _⟩

theorem Ticks.trans {w₁ w₂ w₃ : World} (first : w₁.Ticks w₂) (second : w₂.Ticks w₃) :
    w₁.Ticks w₃ :=
  ⟨second.clock.trans first.clock, Nat.le_trans first.readings second.readings⟩

theorem ticks_call (w : World) (call : Store.Call) : w.Ticks (w.call call).1 := by
  unfold World.call
  by_cases out : w.outage w.calls
  · rw [if_pos out]
    exact ⟨rfl, Nat.le_refl _⟩
  · rw [if_neg out]
    exact ⟨rfl, Nat.le_refl _⟩

theorem ticks_remember (w : World) (org : String) (account : Int) :
    w.Ticks (w.remember org account).1 := by
  unfold World.remember
  split
  · exact .refl w
  · exact ⟨rfl, Nat.le_refl _⟩

theorem ticks_happen (effect : Effect) (w : World) : w.Ticks (World.happen effect w).1 := by
  cases effect with
  | now => exact (isApart_aside.readClock w).ticks
  | next series => cases series <;> exact ⟨rfl, Nat.le_refl _⟩
  | store call => exact w.ticks_call call
  | known org => exact .refl w
  | remember org account => exact w.ticks_remember org account
  | buffer item audit => exact (isApart_aside.add w item audit).ticks
  | sendAudit audit => exact (isApart_aside.sendAudits w [audit]).ticks
  | sendTargets targets batchSize => exact (isApart_aside.sendTargets w targets batchSize).ticks
  | count lane verdict => exact ⟨rfl, Nat.le_refl _⟩
  | countFailedSend channel => exact ⟨rfl, Nat.le_refl _⟩
  | log notice => exact ⟨rfl, Nat.le_refl _⟩
  | sleep ms => exact .refl w

theorem Shows.widen {w w' outer outer' : World} {time : Instant} (shows : w.Shows w' time)
    (before : outer.Ticks w) (after : w'.Ticks outer') : outer.Shows outer' time := by
  rcases shows with ⟨n, ge, lt, shown⟩
  refine ⟨n, Nat.le_trans before.readings ge, Nat.lt_of_lt_of_le lt after.readings, ?_⟩
  rw [← before.clock]
  exact shown

end World

/-- While a flow runs the clock goes on, and the flow reads what it shows meanwhile. -/
theorem Flow.Takes.clock {α : Type} {x : Flow α} {w w' : World} {deeds : List Deed}
    {ending : Ending α} (takes : x.Takes World.Aside w deeds w' ending) :
    w.Ticks w' ∧ ∀ time ∈ readingsOf deeds, w.Shows w' time := by
  induction takes with
  | stop ending w =>
      constructor
      · exact .refl w
      · intro time mem
        contradiction
  | aside others rest ih =>
      constructor
      · exact others.ticks.trans ih.1
      · intro time mem
        exact (ih.2 time mem).widen others.ticks (.refl _)
  | @ask effect next w w' deeds ending rest ih =>
      have step := World.ticks_happen effect w
      have later : ∀ time ∈ readingsOf deeds, w.Shows w' time := by
        intro time mem
        exact (ih.2 time mem).widen step (.refl _)
      constructor
      · exact step.trans ih.1
      · intro time mem
        cases effect with
        | now =>
            rcases List.mem_cons.mp mem with rfl | mem
            · exact ⟨w.readings, Nat.le_refl _, ih.1.readings, rfl⟩
            · exact later time mem
        | _ => exact later time mem

namespace Handled

variable {threshold : Nat} {start w : World} {history : List (Entry Job Outcome)}

/-- The clock goes on all through a history. -/
theorem ticks (handled : Handled (Job.handler threshold) World.Aside start history w) :
    start.Ticks w :=
  handled.invariant start.Ticks (.refl start) (fun aside ticks => ticks.trans aside.ticks)
    (fun takes _ ticks => ticks.trans takes.clock.1)

/-- Every entry of a history has taken one of the courses of its event. -/
theorem follows (handled : Handled (Job.handler threshold) World.Aside start history w)
    {e : Entry Job Outcome} (mem : e ∈ history) : e.Follows threshold := by
  obtain ⟨earlier, later, rfl⟩ := List.append_of_mem mem
  exact Entry.follows_of_takes handled.cut.2.1

/-! ## What a run keeps -/

/-- A run keeps the store sound. -/
theorem isSound_store (handled : Handled (Job.handler threshold) World.Aside start history w)
    (sound : start.store.IsSound) : w.store.IsSound :=
  handled.invariant (fun w => w.books.store.IsSound) sound
    (fun aside sound => aside.books ▸ sound)
    (fun takes _ sound => (Entry.follows_of_takes takes).isSound_store sound)

/-- A run keeps the books sound. -/
theorem isSound (handled : Handled (Job.handler threshold) World.Aside start history w)
    (sound : start.books.IsSound) : w.books.IsSound :=
  handled.invariant (fun w => w.books.IsSound) sound
    (fun aside sound => aside.books ▸ sound)
    (fun takes _ sound => (Entry.follows_of_takes takes).isSound sound)

/-- A run keeps the accounts that are there. -/
theorem keepsAccount (handled : Handled (Job.handler threshold) World.Aside start history w)
    {org : String} {a : Account} (found : start.store.account? org = some a) :
    w.store.account? org = some a :=
  handled.invariant (fun w => w.books.store.account? org = some a) found
    (fun aside found => aside.books ▸ found)
    (fun takes _ found => (Entry.follows_of_takes takes).keepsAccount found)

end Handled

/-- A world in which nothing has happened, with room for two uploads and a clock that shows seconds and
stops at a hundred. -/
def Sample.world : World where
  clock n := ⟨min n 100, 0⟩
  buffer := Buffer.ofCapacity 2 10 1000
  evaluations := { name := "evaluations" }
  audits := { name := "audits" }
  requests := { name := "requests" }

end FleetRoster
