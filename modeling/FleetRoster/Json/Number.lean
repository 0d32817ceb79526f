import FleetRoster.Decimal.Shortest

/-!
# JSON numbers

A number is an integer of sixty-four bits, signed or unsigned, or a double. A literal without
fraction and exponent that fits is an integer, `-0` apart, which is the negative zero; every other
literal is a double.
-/

namespace FleetRoster.Json

/-- A number: an integer between `-2 ^ 63` and `2 ^ 64 - 1`, or a double by its bits. -/
inductive Number
  | int (value : Int)
  | double (bits : UInt64)
  deriving DecidableEq, Repr, Inhabited

/-- A number as it is written: digits before the point, digits after it, and the sign and digits of
the exponent. -/
structure Literal where
  negative : Bool
  whole : List Nat
  fraction : Option (List Nat)
  exponent : Option (Bool × List Nat)
  deriving DecidableEq, Repr

namespace Literal

/-- The first number that sixty-four bits cannot hold. -/
def wordLimit : Nat := Nat.pow 2 64

/-- Leading digits as long as they fit in sixty-four bits, and how many are left over. -/
def takeWhole : Nat → List Nat → Nat × Nat
  | n, [] => (n, 0)
  | n, d :: ds =>
    if n * 10 + d < wordLimit then takeWhole (n * 10 + d) ds else (n, ds.length + 1)

/-- Digits after the point as long as they fit; each one taken lowers the power of ten. -/
def takeFraction : Nat → Int → List Nat → Nat × Int
  | n, power, [] => (n, power)
  | n, power, d :: ds =>
    if n * 10 + d < wordLimit then takeFraction (n * 10 + d) (power - 1) ds else (n, power)

/-- The value of an exponent's digits, or `none` past thirty-one bits. -/
def exponentValue? : Nat → List Nat → Option Nat
  | n, [] => some n
  | n, d :: ds => if n * 10 + d < Nat.pow 2 31 then exponentValue? (n * 10 + d) ds else none

/-- The double `10 ^ n`. -/
def powerOfTen (n : Nat) : Float :=
  Float.ofScientific 1 false n

/-- `f * 10 ^ power` by one multiplication or division, after divisions by `10 ^ 308` where the
power is below that of the least double; `none` where it is past the greatest. -/
def scale : Nat → Float → Int → Option Float
  | 0, _, _ => some 0.0
  | fuel + 1, f, power =>
    if power.natAbs ≤ 308 then
      if power ≥ 0 then
        let g := f * powerOfTen power.natAbs
        if g.isInf then none else some g
      else some (f / powerOfTen power.natAbs)
    else if f == 0.0 then some f
    else if power ≥ 0 then none
    else scale fuel (f / powerOfTen 308) (power + 308)

/-- The double of a sign, a significand and a power of ten, or `none` when it is out of range. -/
def double? (negative : Bool) (significand : Nat) (power : Int) : Option Number :=
  match scale 8 (UInt64.ofNat significand).toFloat power with
  | none => none
  | some f => some (.double (if negative then -f else f).toBits)

/-- The number of a literal, or `none` when no double is large enough. -/
def number? (l : Literal) : Option Number :=
  let (n, left) := takeWhole 0 l.whole
  match l.fraction, l.exponent with
  | none, none =>
    if left ≠ 0 then double? l.negative n left
    else if !l.negative then some (.int n)
    else if n = 0 ∨ Nat.pow 2 63 < n then double? true n 0
    else some (.int (-n))
  | _, _ =>
    let (m, power) := takeFraction n left (l.fraction.getD [])
    match l.exponent with
    | none => double? l.negative m power
    | some (down, digits) =>
      match exponentValue? 0 digits with
      | some e => double? l.negative m (if down then power - e else power + e)
      | none => if m ≠ 0 && !down then none else double? l.negative 0 0

end Literal

namespace Number

/-- The exponents, in scientific notation, between which a double is written without one. -/
def plainExponents : Int × Int := (-5, 15)

/-- The double of finite bits without its sign, or `none` for zero. -/
def magnitude? (bits : UInt64) : Option Binary :=
  let field : Nat := bits.toNat / Nat.pow 2 52 % Nat.pow 2 11
  let low : Nat := bits.toNat % Nat.pow 2 52
  if field = 0 then
    if low = 0 then none else some ⟨low, -1074, false⟩
  else some ⟨Nat.pow 2 52 + low, (field : Int) - 1075, low = 0 && field > 1⟩

/-- A decimal with a point, or with an exponent outside the plain range. An integer value keeps one
zero after the point. -/
def decimalText (d : Decimal) : List Char :=
  let ds := Nat.toDigits 10 d.digits
  let point := ds.length + d.exponent
  let top := point - 1
  if plainExponents.1 ≤ top && top ≤ plainExponents.2 then
    if 0 ≤ d.exponent then ds ++ List.replicate d.exponent.toNat '0' ++ ['.', '0']
    else if 0 < point then ds.take point.toNat ++ '.' :: ds.drop point.toNat
    else ['0', '.'] ++ List.replicate (-point).toNat '0' ++ ds
  else
    let lead := match ds with
      | [c] => [c]
      | c :: cs => c :: '.' :: cs
      | [] => []
    lead ++ 'e' :: (if top < 0 then '-' else '+') :: Nat.toDigits 10 top.natAbs

/-- The text of a double: the fewest digits that read back. -/
def doubleText (bits : UInt64) : List Char :=
  let sign := if bits.toNat / Nat.pow 2 63 = 1 then ['-'] else []
  match magnitude? bits with
  | none => sign ++ ['0', '.', '0']
  | some v => sign ++ decimalText v.shortest

/-- The text of an integer. -/
def intText (n : Int) : List Char :=
  if n < 0 then '-' :: Nat.toDigits 10 n.natAbs else Nat.toDigits 10 n.natAbs

/-- The text of a number. -/
def text : Number → List Char
  | .int n => intText n
  | .double bits => doubleText bits

end Number

end FleetRoster.Json
