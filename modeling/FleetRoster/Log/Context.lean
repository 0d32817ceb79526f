import FleetRoster.Text.Hex

/-!
# Log contexts

Every line that is logged about one message starts with the kind of event and, where it is known,
the inventory id of the host. Some lines also name the message itself, by an id that it is given on
arrival.
-/

namespace FleetRoster.Log

/-- What a line is about. -/
structure Context where
  event : String
  inventoryId : Option String := none
  deriving DecidableEq, Repr, Inhabited

namespace Context

/-- The context of an event and the host it is about; an empty id is none. -/
def ofMessage (event : String) (inventoryId : Option String) : Context :=
  ⟨event, inventoryId.filter fun id => !id.isEmpty⟩

/-- The front of a line. -/
def text (c : Context) : String :=
  match c.inventoryId with
  | some id => "[event=" ++ c.event ++ "] [inventory=" ++ id ++ "]"
  | none => "[event=" ++ c.event ++ "]"

end Context

/-- The id of the message with a serial number: eight hexadecimal digits. -/
def messageId (serial : Nat) : String :=
  "msg-" ++ Text.hexBytes
    [UInt8.ofNat (serial / Nat.pow 2 24), UInt8.ofNat (serial / Nat.pow 2 16),
      UInt8.ofNat (serial / Nat.pow 2 8), UInt8.ofNat serial]

end FleetRoster.Log
