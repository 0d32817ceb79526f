import FleetRoster.Json.Mismatch
import FleetRoster.Package.Identifier

/-!
# Faults

What can go wrong while events are taken in. A fault of the message itself is permanent: another
attempt would meet it again.
-/

namespace FleetRoster

/-- What went wrong. -/
inductive Fault
  /-- A message is not the JSON that is expected. -/
  | payload (why : Json.DecodeError)
  /-- An identity header cannot be decoded. -/
  | identity (why : String)
  /-- Nothing names the organization of a host. -/
  | noAccount
  /-- A host event lacks what its handler needs. -/
  | host (why : String)
  /-- A package has no proper identifier. -/
  | packages (why : Package.ReadError)
  /-- The store refused a call. -/
  | store (why : String)
  /-- Messages could not be sent to a topic. -/
  | send (topic why : String)
  /-- The reader cannot go on. -/
  | read (why : String)
  /-- No message came in time. -/
  | readTimeout
  /-- The settings cannot be used. -/
  | settings (why : String)
  deriving DecidableEq, Repr

namespace Fault

/-- The wording of a fault. -/
def message : Fault → String
  | payload why => "Message parse error: " ++ why.message
  | identity why => "Invalid identity: " ++ why
  | noAccount => "No account provided in host message"
  | host why => "Invalid host: " ++ why
  | packages why => "Malformed packages: " ++ why.message
  | store why => "Store error: " ++ why
  | send topic why => "Unable to send messages to " ++ topic ++ ": " ++ why
  | read why => "Broker read error: " ++ why
  | readTimeout => "Broker read timed out"
  | settings why => "Configuration error: " ++ why

/-- Whether the message itself is at fault. -/
def isPermanent : Fault → Bool
  | payload _ => true
  | identity _ => true
  | noAccount => true
  | host _ => true
  | packages _ => true
  | _ => false

end Fault

end FleetRoster
