/-!
# The shortest decimal of a binary number

A double stands for every real number that rounds to it. `shortest` names it by the decimal with
the fewest digits among those, and by the nearest one where several have as few; of two that are
equally near it takes the one with an even last digit. All comparisons are exact, in natural numbers.
-/

namespace FleetRoster

/-- The number `digits * 10 ^ exponent`. -/
structure Decimal where
  digits : Nat
  exponent : Int
  deriving DecidableEq, Repr

/-- A positive double `significand * 2 ^ exponent` with the reals that round to it: those within
half a unit above, and half a unit below or, where the unit shrinks below it, a quarter. The ends
belong to it iff the significand is even. -/
structure Binary where
  significand : Nat
  exponent : Int
  shrinksBelow : Bool
  deriving DecidableEq, Repr

namespace Binary

/-- Comparison of `a * 2 ^ x` with `b * 10 ^ y`, both brought to natural numbers. -/
def scaled (a : Nat) (x : Int) (b : Nat) (y : Int) : Nat × Nat :=
  (a * Nat.pow 2 x.toNat * Nat.pow 10 (-y).toNat, b * Nat.pow 10 y.toNat * Nat.pow 2 (-x).toNat)

/-- Whether `c * 10 ^ y` rounds to the double. -/
def admits (v : Binary) (c : Nat) (y : Int) : Bool :=
  let low := 4 * v.significand - (if v.shrinksBelow then 1 else 2)
  let high := 4 * v.significand + 2
  let (l, c1) := scaled low (v.exponent - 2) c y
  let (h, c2) := scaled high (v.exponent - 2) c y
  if v.significand % 2 = 0 then l ≤ c1 && c2 ≤ h else l < c1 && c2 < h

/-- The greatest `c` with `c * 10 ^ y` at most the double. -/
def floorOn (v : Binary) (y : Int) : Nat :=
  let (n, d) := scaled v.significand v.exponent 1 y
  n / d

/-- Whether `(c + 1) * 10 ^ y` goes before `c * 10 ^ y` as the name of the double: it is nearer, or
as near and even. -/
def prefersAbove (v : Binary) (c : Nat) (y : Int) : Bool :=
  let (n, d) := scaled (2 * v.significand) v.exponent (2 * c + 1) y
  d < n || (d = n && c % 2 = 1)

/-- The admitted decimal on the grid of step `10 ^ y` next to the double, if there is one. -/
def onGrid (v : Binary) (y : Int) : Option Decimal :=
  let c := v.floorOn y
  let below := v.admits c y && c ≠ 0
  let above := v.admits (c + 1) y
  if below && (!above || !v.prefersAbove c y) then some ⟨c, y⟩
  else if above then some ⟨c + 1, y⟩
  else none

/-- A power of ten above the double. -/
def ceilingExponent (v : Binary) : Int :=
  let digits := fun n => ((Nat.toDigits 10 n).length : Int)
  digits (v.significand * Nat.pow 2 v.exponent.toNat) - digits (Nat.pow 2 (-v.exponent).toNat) + 1

/-- The first grid with an admitted decimal among the next `fuel` ones, from coarse to fine. -/
def search (v : Binary) : Nat → Int → Decimal
  | 0, y => ⟨v.floorOn y, y⟩
  | fuel + 1, y =>
    match v.onGrid y with
    | some d => d
    | none => v.search fuel (y - 1)

/-- The shortest decimal that rounds to the double. Nineteen grids reach past the seventeen digits
that always suffice. -/
def shortest (v : Binary) : Decimal :=
  v.search 20 v.ceilingExponent

end Binary

end FleetRoster
