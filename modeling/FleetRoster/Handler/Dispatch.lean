import FleetRoster.Event.Kind
import FleetRoster.Handler.Upload

/-!
# From messages to handlers

The kind of a message decides its handler. A message without a handler is counted and skipped,
whatever else it holds.
-/

namespace FleetRoster

open Json (Value)

/-- The host event of a message. -/
def HostEvent.ofMessage (message : Value) : Except Fault HostEvent :=
  match Json.decodeValue HostEvent.decode message with
  | .ok event => .ok event
  | .error why => .error (.payload why)

/-- Hands a message to the handler of its kind. -/
def dispatch (threshold : Nat) (about : Log.Context) (kind : EventKind) (message : Value) :
    Flow Outcome :=
  match kind.lane with
  | .other => do
    Flow.count .other .otherKind
    pure .skipped
  | .delete => do
    let event ← Flow.ofExcept (HostEvent.ofMessage message)
    handleDelete threshold about event
  | .upload => do
    let event ← Flow.ofExcept (HostEvent.ofMessage message)
    handleUpload threshold about event

end FleetRoster
