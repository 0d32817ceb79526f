import FleetRoster.Handler.Dispatch

/-!
# Messages

A message is read, routed and handed to its handler. A fault that may pass is met by further
attempts, as many as the settings allow; whatever happens, the message is dealt with in the end and
counted once.
-/

namespace FleetRoster

open Json (Value)

/-- A message with its place in the feed. -/
structure Inbound where
  offset : Int
  payload : Text.Payload
  deriving Repr, Inhabited

/-- The name under which a kind of event is logged. -/
def EventKind.logName : EventKind → String
  | .missing => "missing"
  | kind => kind.text

/-- Gives a message up after so many attempts. -/
def abandonMessage (about : Log.Context) (id : String) (lane : Lane) (made : Nat) (why : Fault) :
    Flow Unit := do
  Flow.log (.abandoned about id made why)
  Flow.count lane .failed

/-- Handles a message in at most `further + 1` attempts, `made` of which have been made before. -/
def attemptMessage (delay : Nat) (about : Log.Context) (id : String) (lane : Lane)
    (work : Flow Outcome) : (further made : Nat) → Flow Unit
  | 0, made => do
    match ← work.attempt with
    | .ok outcome => Flow.log (.handled about id outcome)
    | .error why => abandonMessage about id lane (made + 1) why
  | further + 1, made => do
    match ← work.attempt with
    | .ok outcome => Flow.log (.handled about id outcome)
    | .error why =>
      if why.isPermanent then abandonMessage about id lane (made + 1) why
      else do
        Flow.log (.retrying about id (made + 1) why)
        Flow.perform (.sleep delay)
        attemptMessage delay about id lane work further (made + 1)

/-- Handles a message that has been read. -/
def handleValue (settings : Settings) (id : String) (message : Value) : Flow Unit := do
  let inventoryId := loggedInventoryId message
  Flow.log (Notice.ofMessage (Log.Context.ofMessage "received" inventoryId) message)
  let kind := EventKind.ofMessage message
  let about := Log.Context.ofMessage kind.logName inventoryId
  attemptMessage settings.retryDelay about id kind.lane
    (dispatch settings.thresholdNanos about kind message) settings.retries 0

/-- Handles a message. -/
def handleMessage (settings : Settings) (message : Inbound) : Flow Unit := do
  let serial ← Flow.perform (.next .messages)
  let id := Log.messageId serial
  match Json.readValue message.payload with
  | .error why =>
    Flow.log (.notJson (Log.Context.ofMessage Lane.other.text none) id message.offset why)
    Flow.count .other .failed
  | .ok value => handleValue settings id value

end FleetRoster
