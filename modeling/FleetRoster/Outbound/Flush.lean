/-!
# Flushes

Why the buffer is emptied, and what a flush reports.
-/

namespace FleetRoster

/-- Why the buffer is emptied. -/
inductive FlushReason
  /-- It has reached its capacity. -/
  | full
  /-- Nothing was added for the idle interval. -/
  | timeout
  /-- It was asked for. -/
  | manual
  deriving DecidableEq, Repr

/-- The name of a reason. -/
def FlushReason.text : FlushReason → String
  | full => "full"
  | timeout => "timeout"
  | manual => "manual"

/-- What a flush did. -/
structure FlushReport where
  /-- The number of uploads taken out of the buffer. -/
  items : Nat := 0
  evaluations : Nat := 0
  audits : Nat := 0
  evaluationsFailed : Bool := false
  auditsFailed : Bool := false
  deriving DecidableEq, Repr, Inhabited

end FleetRoster
