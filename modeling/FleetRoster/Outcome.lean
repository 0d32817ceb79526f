import FleetRoster.Tally
import FleetRoster.Text.Quoted

/-!
# Outcomes

What a handler did with an event. A fault is no outcome: an event with an outcome has been dealt
with, even if it was turned down.
-/

namespace FleetRoster

/-- What a handler did with an event. -/
inductive Outcome
  /-- An upload was stored in an account and waits for evaluation. -/
  | evaluated (account : Int)
  /-- An upload was ignored, since its host was deleted not long before. -/
  | recentlyDeleted
  /-- An upload was turned down before the store was asked. -/
  | rejected (why : Verdict)
  /-- A deletion was applied to so many rows. -/
  | deleted (rows : Nat)
  /-- No handler knows the kind of event. -/
  | skipped
  deriving DecidableEq, Repr

/-- An outcome as it is logged. -/
def Outcome.text : Outcome → String
  | evaluated account => "Evaluated \x7b account_id: " ++ toString account ++ " \x7d"
  | recentlyDeleted => "RecentlyDeleted"
  | rejected why => "Rejected(" ++ Text.quoted why.text ++ ")"
  | deleted rows => "Deleted(" ++ toString rows ++ ")"
  | skipped => "Skipped"

end FleetRoster
