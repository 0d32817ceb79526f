import FleetRoster.Json.Value

/-!
# Kinds of events

The kind of a message decides which handler it goes to. It is the text under `type`; a message
without such a text has no kind.
-/

namespace FleetRoster

open Json (Value)

/-- The kind of a message. -/
inductive EventKind
  | created
  | updated
  | delete
  /-- A kind that no handler knows. -/
  | unknown (name : String)
  | missing
  deriving DecidableEq, Repr

namespace EventKind

/-- The name of a kind; a missing one has the empty name. -/
def text : EventKind → String
  | created => "created"
  | updated => "updated"
  | delete => "delete"
  | unknown name => name
  | missing => ""

/-- The kind of a name. -/
def ofName (name : String) : EventKind :=
  if name = "created" then created
  else if name = "updated" then updated
  else if name = "delete" then delete
  else unknown name

/-- The kind of a message. -/
def ofMessage (message : Value) : EventKind :=
  match (message.get? "type").bind (·.asString?) with
  | some name => ofName name
  | none => missing

end EventKind

/-- The inventory id with which a message is logged: that of its host, where the host has a member
`id` at all, or else its own. -/
def loggedInventoryId (message : Value) : Option String :=
  (((message.get? "host").bind (·.get? "id")).or (message.get? "id")).bind (·.asString?)

end FleetRoster
