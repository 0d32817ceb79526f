import FleetRoster.Outbound.Evaluation
import FleetRoster.Text.Quoted

/-!
# Requests for evaluation

Systems can be sent for evaluation without a new upload, by name or as all the active systems of an
account on one baseline.
-/

namespace FleetRoster

/-- A request for evaluation. -/
inductive Request
  | systems (targets : List Target)
  /-- Every active system of an account on one baseline, or on none. -/
  | baseline (account : Int) (assigned : Option Int)
  deriving DecidableEq, Repr

/-- A baseline as it is logged. -/
def baselineText : Option Int → String
  | some id => "Some(" ++ toString id ++ ")"
  | none => "None"

/-- A system as it is logged. -/
def Target.text (t : Target) : String :=
  "InventoryAid \x7b inventory_id: " ++ Text.quoted t.inventoryId ++ ", account_id: "
    ++ toString t.account ++ " \x7d"

/-- A request as it is logged. -/
def Request.text : Request → String
  | systems targets => "Systems([" ++ ", ".intercalate (targets.map Target.text) ++ "])"
  | baseline account assigned =>
    "Baseline \x7b account_id: " ++ toString account ++ ", baseline_id: " ++ baselineText assigned
      ++ " \x7d"

end FleetRoster
