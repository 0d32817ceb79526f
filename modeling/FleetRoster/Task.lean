import FleetRoster.World.Perform

/-!
# Tasks

A task is a flow among others. It goes on until its next effect takes time, and waits until that
time is over; in the meantime the others may change the world.
-/

namespace FleetRoster

/-- A flow on its way. -/
structure Task (α : Type) where
  flow : Flow α
  /-- When the pause before the next effect is over, if it has begun. -/
  due : Option Nat := none

namespace Task

variable {α : Type}

/-- Whether a task can go on. -/
def isReady (t : Task α) (w : World) : Bool :=
  t.due.all (· ≤ w.time)

/-- Takes a flow on to the next pause or to its end. `paused` says that the pause before its first
effect is over. -/
def proceed : (paused : Bool) → Flow α → World → World × (Task α ⊕ Ending α)
  | _, .stop ending, w => (w, .inr ending)
  | paused, .ask effect next, w =>
    let pause := effect.pause w.latency
    if paused || pause = 0 then
      let (w, answer) := w.happen effect
      proceed false (next answer) w
    else (w, .inl ⟨.ask effect next, some (w.time + pause)⟩)

/-- Takes a task on to the next pause or to its end, if it can go on. -/
def advance (t : Task α) (w : World) : World × (Task α ⊕ Ending α) :=
  if t.isReady w then proceed t.due.isSome t.flow w else (w, .inl t)

end Task

end FleetRoster
