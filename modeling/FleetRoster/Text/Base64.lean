/-!
# Base64

Padded base64 in the standard and in the URL-safe alphabet. Only the canonical form of a byte
sequence is accepted: the padding is complete, stands at the end, and the bits of the last symbol
that reach no byte are zero.
-/

namespace FleetRoster.Text.Base64

/-- The two alphabets, which differ in the symbols for 62 and 63. -/
inductive Alphabet
  | standard
  | urlSafe
  deriving DecidableEq, Repr

/-- Why a text is not the canonical form of any byte sequence. -/
inductive DecodeError
  /-- A byte that is no symbol, or padding in a wrong place. -/
  | invalidByte (offset : Nat) (byte : UInt8)
  /-- One symbol more than a multiple of four. -/
  | invalidLength
  /-- A last symbol with bits that reach no byte. -/
  | invalidLastSymbol (offset : Nat) (byte : UInt8)
  /-- Missing padding. -/
  | invalidPadding
  deriving DecidableEq, Repr

/-- The wording of an error. -/
def DecodeError.message : DecodeError → String
  | .invalidByte offset byte =>
    "Invalid byte " ++ toString byte.toNat ++ ", offset " ++ toString offset ++ "."
  | .invalidLength => "Encoded text cannot have a 6-bit remainder."
  | .invalidLastSymbol offset byte =>
    "Invalid last symbol " ++ toString byte.toNat ++ ", offset " ++ toString offset ++ "."
  | .invalidPadding => "Invalid padding"

/-- The padding byte. -/
def pad : UInt8 := 61

/-- The six bits that a symbol stands for. -/
def Alphabet.value? (alphabet : Alphabet) (symbol : UInt8) : Option Nat :=
  let n := symbol.toNat
  if 65 ≤ n && n ≤ 90 then some (n - 65)
  else if 97 ≤ n && n ≤ 122 then some (n - 97 + 26)
  else if 48 ≤ n && n ≤ 57 then some (n - 48 + 52)
  else match alphabet with
    | .standard => if n = 43 then some 62 else if n = 47 then some 63 else none
    | .urlSafe => if n = 45 then some 62 else if n = 95 then some 63 else none

/-- The values of the symbols up to the first byte that is none, and the bytes from there. -/
def Alphabet.span (alphabet : Alphabet) : List UInt8 → List Nat × List UInt8
  | [] => ([], [])
  | b :: rest =>
    match alphabet.value? b with
    | some v => ((v :: (alphabet.span rest).1), (alphabet.span rest).2)
    | none => ([], b :: rest)

/-- The bytes of a sequence of six-bit values; at the end, two values give one byte and three give
two. -/
def bytesOfValues : List Nat → List UInt8
  | a :: b :: c :: d :: rest =>
    UInt8.ofNat (a * 4 + b / 16) :: UInt8.ofNat (b % 16 * 16 + c / 4)
      :: UInt8.ofNat (c % 4 * 64 + d) :: bytesOfValues rest
  | [a, b, c] => [UInt8.ofNat (a * 4 + b / 16), UInt8.ofNat (b % 16 * 16 + c / 4)]
  | [a, b] => [UInt8.ofNat (a * 4 + b / 16)]
  | _ => []

/-- The bits of the last value that reach no byte. -/
def spareBits (values : List Nat) : Nat :=
  let last := values.getLast?.getD 0
  match values.length % 4 with
  | 2 => last % 16
  | 3 => last % 4
  | _ => 0

/-- The bytes of which `text` is the canonical form in one alphabet. -/
def decode (alphabet : Alphabet) (text : List UInt8) : Except DecodeError (List UInt8) :=
  if text.length % 4 = 1 then
    match text.getLast? with
    | some b =>
      if b ≠ pad && (alphabet.value? b).isNone then .error (.invalidByte (text.length - 1) b)
      else .error .invalidLength
    | none => .error .invalidLength
  else
    let (values, tail) := alphabet.span text
    let filled := values.length % 4
    match tail with
    | b :: _ =>
      if b = pad && filled ≥ 2 && tail.length ≤ 4 - filled && tail.all (· == pad) then
        if (values.length + tail.length) % 4 ≠ 0 then .error .invalidPadding
        else finish values
      else .error (.invalidByte values.length b)
    | [] => if filled ≠ 0 then .error .invalidPadding else finish values
where
  finish (values : List Nat) : Except DecodeError (List UInt8) :=
    if spareBits values ≠ 0 then
      .error (.invalidLastSymbol (values.length - 1) ((text[values.length - 1]?).getD 0))
    else .ok (bytesOfValues values)

/-- The bytes of a header in either alphabet; the error is that of the URL-safe reading. -/
def decodeEither (text : List UInt8) : Except DecodeError (List UInt8) :=
  match decode .standard text with
  | .ok bytes => .ok bytes
  | .error _ => decode .urlSafe text

end FleetRoster.Text.Base64
