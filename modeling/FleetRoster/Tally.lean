import FleetRoster.Event.Kind

/-!
# Tallies

How many messages were handled, by the handler that they went to and what became of them, and how
many sends failed, by topic.
-/

namespace FleetRoster

/-- The handler that messages go to. -/
inductive Lane
  | upload
  | delete
  | other
  deriving DecidableEq, Repr

/-- The label of a lane. -/
def Lane.text : Lane → String
  | upload => "upload"
  | delete => "delete"
  | other => "other"

/-- The lane of a kind of event. -/
def EventKind.lane : EventKind → Lane
  | .created => .upload
  | .updated => .upload
  | .delete => .delete
  | .unknown _ => .other
  | .missing => .other

/-- What became of a message. -/
inductive Verdict
  | evaluated
  | deleted
  /-- No organization could be made out. -/
  | badIdentity
  | failed
  | otherKind
  | noRows
  | badPackages
  deriving DecidableEq, Repr

/-- The label of a verdict. -/
def Verdict.text : Verdict → String
  | evaluated => "success-eval"
  | deleted => "success-deleted"
  | badIdentity => "error-identity"
  | failed => "error-processing"
  | otherKind => "error-other-type"
  | noRows => "warn-no-rows"
  | badPackages => "warn-bad-packages"

/-- The counts, each list in the order of its labels. -/
structure Tally where
  handled : List ((String × String) × Nat) := []
  failedSends : List (String × Nat) := []
  deriving DecidableEq, Repr, Inhabited

/-- Whether one pair of labels comes before another. -/
def labelsBefore (a b : String × String) : Bool :=
  a.1 < b.1 || (a.1 = b.1 && a.2 < b.2)

/-- One more under a label, at its place in the order. -/
def addOne {κ : Type} [DecidableEq κ] (isBefore : κ → κ → Bool) (label : κ) :
    List (κ × Nat) → List (κ × Nat)
  | [] => [(label, 1)]
  | (l, n) :: rest =>
    if isBefore label l then (label, 1) :: (l, n) :: rest
    else if label = l then (l, n + 1) :: rest
    else (l, n) :: addOne isBefore label rest

/-- The count under a label. -/
def countUnder {κ : Type} [DecidableEq κ] (label : κ) (counts : List (κ × Nat)) : Nat :=
  ((counts.find? fun count => count.1 = label).map (·.2)).getD 0

namespace Tally

/-- Counts a message under two labels. -/
def record (t : Tally) (lane verdict : String) : Tally :=
  { t with handled := addOne labelsBefore (lane, verdict) t.handled }

/-- The number of messages counted under two labels. -/
def count (t : Tally) (lane verdict : String) : Nat :=
  countUnder (lane, verdict) t.handled

/-- Counts a failed send. -/
def recordFailedSend (t : Tally) (topic : String) : Tally :=
  { t with failedSends := addOne (fun a b => a < b) topic t.failedSends }

/-- The number of failed sends to a topic. -/
def failedSendsTo (t : Tally) (topic : String) : Nat :=
  countUnder topic t.failedSends

end Tally

end FleetRoster
