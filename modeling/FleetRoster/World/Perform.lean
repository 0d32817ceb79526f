import FleetRoster.Flow.Basic
import FleetRoster.World.Flush

/-!
# Performing effects

What each effect does to the world and what it answers. Some effects take their time, and happen at
the end of it. A pause that would outlast every use of the world is cut short.
-/

namespace FleetRoster

/-- The longest pause in milliseconds: thirty years of 365 days. -/
def longestPause : Nat := 30 * 365 * 24 * 60 * 60 * 1000

/-- How long a pause lasts that was meant to last `ms` milliseconds. -/
def pauseLength (ms : Nat) : Nat := min ms longestPause

/-- Milliseconds that pass before an effect happens, where a call of the store takes `latency`. -/
def Effect.pause (latency : Nat) : Effect → Nat
  | .store _ => pauseLength latency
  | .sleep ms => pauseLength ms
  | _ => 0

namespace World

/-- What happens in an effect. -/
def happen : (effect : Effect) → World → World × effect.Answer
  | .now, w => w.readClock
  | .next series, w => w.next series
  | .store call, w => w.call call
  | .known org, w => (w, w.known org)
  | .remember org account, w => w.remember org account
  | .buffer item audit, w => w.add item audit
  | .sendAudit audit, w => w.sendAudits [audit]
  | .sendTargets targets batchSize, w => w.sendTargets targets batchSize
  | .count lane verdict, w => (w.count lane verdict, ())
  | .countFailedSend channel, w => (w.countFailedSend channel, ())
  | .log notice, w => (w.note notice, ())
  | .sleep _, w => (w, ())

/-- The world so many milliseconds later. -/
def after (w : World) (ms : Nat) : World :=
  { w with time := w.time + ms }

/-- Performs an effect while nothing else goes on. -/
def perform (effect : Effect) (w : World) : World × effect.Answer :=
  happen effect (w.after (effect.pause w.latency))

end World

/-- Runs a flow in a world in which nothing else goes on. -/
def Flow.runIn {α : Type} (flow : Flow α) (w : World) : World × Ending α :=
  flow.run World.perform w

end FleetRoster
