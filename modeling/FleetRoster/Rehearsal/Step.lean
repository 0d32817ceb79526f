import FleetRoster.Handler.Message
import FleetRoster.World.Basic

/-!
# Scripts

A rehearsal follows a script. Some steps only look at the world or change it at once, some take their
time, and some start something that goes on in the background. Every step has a reply.
-/

namespace FleetRoster.Rehearsal

open Calendar (Instant)

/-- A part of the world that can be out. -/
inductive Part
  | store
  | channel (channel : Channel)
  deriving DecidableEq, Repr

/-- A step of a script. -/
inductive Step
  -- The store, asked directly
  | call (call : Store.Call)
  | showMarker (inventoryId : String)
  | setBaseline (account : Int) (inventoryId : String) (baseline : Option Int)
  | showSystem (account : Int) (inventoryId : String)
  | showSystems
  | showAccounts
  -- Outages and time
  | fail (part : Part) (on : Bool)
  | schedule (ms : Nat) (part : Part) (on : Bool)
  | advance (ms : Nat)
  -- Accounts, the buffer and counts
  | resolve (about : Log.Context) (org : String)
  | resolveMany (about : Log.Context) (orgs : List String)
  | remembered (org : String)
  | rememberedCount
  | add (item : Item) (audit : Audit)
  | flush
  | bufferLength
  | counter (lane verdict : String)
  | snapshot
  -- Handlers
  | dispatch (about : Log.Context) (payload : Text.Payload)
  | upload (about : Log.Context) (payload : Text.Payload)
  | delete (about : Log.Context) (payload : Text.Payload)
  | handle (message : Inbound)
  -- Requests for evaluation
  | request (request : Request)
  | requestsEnabled
  | abortRequests
  | closeRequests
  -- The feed and the signal of a listener
  | push (payload : Text.Payload)
  | failRead (why : String)
  | closeFeed
  | shutdown (on : Bool)
  | dropShutdown
  | refuseCommits (on : Bool)
  | refuseClosing (on : Bool)

/-- The reply to a step. -/
inductive Reply
  | nothing
  | flag (b : Bool)
  | number (n : Int)
  | fault (why : Fault)
  | outcome (outcome : Outcome)
  | row (row : SystemRow)
  | rows (rows : List SystemRow)
  | accounts (accounts : List Account)
  | marker (marker : Marker)
  | targets (targets : List Target)
  | size (n : Nat)
  | report (report : FlushReport)
  | several (replies : List Reply)
  | world (w : World)

namespace Reply

/-- A reply that may be absent. -/
def ofOption {α : Type} (reply : α → Reply) : Option α → Reply
  | some a => reply a
  | none => nothing

/-- The reply of a call's answer. -/
def ofAnswer : (call : Store.Call) → call.Answer → Reply
  | .upsertAccount _, id => number id
  | .upsertSystem _, r => row r
  | .getDeleted _, found => ofOption marker found
  | .upsertDeleted _ _, _ => nothing
  | .markStale _ _, n => number (Int.ofNat n)
  | .pruneDeleted _, n => number (Int.ofNat n)
  | .systemsForBaseline _ _, found => targets found

end Reply

end FleetRoster.Rehearsal
