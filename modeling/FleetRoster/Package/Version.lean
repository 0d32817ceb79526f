/-!
# The order of versions

Versions are compared run by run. A run of digits counts as its number and is newer than a run of
letters; whatever is neither letter, digit, tilde nor caret only separates. A tilde makes a version
older than its beginning, a caret newer than its beginning but older than any further run. Where
one version has no runs left, the longer one is newer.
-/

namespace FleetRoster.Package.Version

/-- Whether a character only separates runs. -/
def isSeparator (c : Char) : Bool :=
  !c.isAlphanum && c != '~' && c != '^'

/-- A version from its next letter, digit, tilde or caret on. -/
def skipSeparators (cs : List Char) : List Char :=
  cs.dropWhile isSeparator

/-- The digits of a number without leading zeros. -/
def trimZeros (ds : List Char) : List Char :=
  ds.dropWhile (· == '0')

/-- Two runs of digits by their numbers: without leading zeros the longer one is greater, and of
two equally long ones that with the greater first difference. -/
def compareDigits (a b : List Char) : Ordering :=
  let x := trimZeros a
  let y := trimZeros b
  (compare x.length y.length).then (compare x y)

/-- Whether a character belongs to a run of digits, or else to a run of letters. -/
def inRun (digits : Bool) (c : Char) : Bool :=
  if digits then c.isDigit else c.isAlpha

/-- The run at the front of a version. -/
def run (digits : Bool) (cs : List Char) : List Char :=
  cs.takeWhile (inRun digits)

/-- A version after the run at its front. -/
def afterRun (digits : Bool) (cs : List Char) : List Char :=
  cs.dropWhile (inRun digits)

/-- Two runs of one kind. -/
def compareRuns (digits : Bool) (a b : List Char) : Ordering :=
  if digits then compareDigits a b else compare a b

/-- The order of two versions, in at most `fuel` steps. A step takes a tilde, a caret or a run from
both sides, so the length of one side is fuel enough. -/
def compareWithin : Nat → List Char → List Char → Ordering
  | 0, _, _ => .eq
  | fuel + 1, a, b =>
    match skipSeparators a, skipSeparators b with
    | '~' :: a, '~' :: b => compareWithin fuel a b
    | '~' :: _, _ => .lt
    | _, '~' :: _ => .gt
    | '^' :: a, '^' :: b => compareWithin fuel a b
    | [], '^' :: _ => .lt
    | '^' :: _, [] => .gt
    | _, '^' :: _ => .gt
    | '^' :: _, _ => .lt
    | [], [] => .eq
    | [], _ => .lt
    | _, [] => .gt
    | c :: a, d :: b =>
      let digits := c.isDigit
      if !inRun digits d then (if digits then .gt else .lt)
      else
        match compareRuns digits (run digits (c :: a)) (run digits (d :: b)) with
        | .eq => compareWithin fuel (afterRun digits (c :: a)) (afterRun digits (d :: b))
        | different => different

/-- The order of two versions. -/
def order (a b : String) : Ordering :=
  if a = b then .eq else compareWithin (a.toList.length + 1) a.toList b.toList

end FleetRoster.Package.Version
