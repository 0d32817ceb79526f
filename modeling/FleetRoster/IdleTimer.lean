import FleetRoster.World.Flush

/-!
# The idle timer

The timer empties the buffer when nothing has been added for the idle interval. It looks at the
deadline, waits for it or for the note that it has moved, and looks again. Between looking and
waiting the deadline may move; the note makes the timer look again, and before it flushes, the timer
checks the deadline once more.
-/

namespace FleetRoster

/-- Where the timer is. -/
inductive IdleTimer
  | looking
  /-- Without a deadline, it waits for the note. -/
  | waiting
  /-- It waits for a deadline or the note. -/
  | asleep (deadline : Nat)
  /-- The deadline that it waited for is over. -/
  | awake
  deriving DecidableEq, Repr

namespace IdleTimer

/-- The world after the timer has taken the note. -/
def notice (w : World) : World :=
  { w with buffer := w.buffer.noticed }

/-- The world after the timer has checked the deadline once more. -/
def check (w : World) : World :=
  if w.buffer.isOverdue w.time then (w.flush .timeout).1 else w

/-- What the timer can do next. A deadline and the note may come together; then it does either. -/
def moves : IdleTimer → World → List (IdleTimer × World)
  | looking, w =>
    match w.buffer.deadline with
    | none => [(waiting, w)]
    | some deadline => [(asleep deadline, w)]
  | waiting, w => if w.buffer.rearmed then [(looking, notice w)] else []
  | asleep deadline, w =>
    (if deadline ≤ w.time then [(awake, w)] else [])
      ++ (if w.buffer.rearmed then [(looking, notice w)] else [])
  | awake, w => [(looking, check w)]

/-- The moment for which the timer waits. -/
def due : IdleTimer → Option Nat
  | asleep deadline => some deadline
  | _ => none

end IdleTimer

end FleetRoster
