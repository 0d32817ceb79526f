/-!
# Characters and bytes

A payload arrives as bytes. Read as UTF-8 it is a sequence of characters, with a gap wherever a
byte starts no character; a reader that needs text refuses a gap, and one that only skips text
passes over it.
-/

namespace FleetRoster.Text

/-- The bytes of a payload as characters; `none` stands for a byte that starts no character. -/
abbrev Payload := List (Option Char)

/-- A text as a payload. -/
def payload (s : String) : Payload :=
  s.toList.map some

/-- The trailing six bits of a continuation byte. -/
def continuation? (b : UInt8) : Option Nat :=
  if 0x80 ≤ b.toNat && b.toNat ≤ 0xBF then some (b.toNat - 0x80) else none

/-- The character of a code point that takes the expected number of bytes: one below `least` could
have been written shorter, and a surrogate or a number past the last plane is no character. -/
def charFrom? (least n : Nat) : Option Char :=
  if n < least then none
  else if h : n.isValidChar then some (Char.ofNatAux n h)
  else none

/-- The first character of a sequence of bytes and the bytes after it. -/
def nextChar? : List UInt8 → Option (Char × List UInt8)
  | [] => none
  | a :: rest =>
    let lead := a.toNat
    if lead < 0x80 then (charFrom? 0 lead).map fun c => (c, rest)
    else if lead < 0xC0 then none
    else if lead < 0xE0 then
      match rest with
      | b :: rest => do
        let x ← continuation? b
        let c ← charFrom? 0x80 ((lead - 0xC0) * 64 + x)
        pure (c, rest)
      | _ => none
    else if lead < 0xF0 then
      match rest with
      | b :: c :: rest => do
        let x ← continuation? b
        let y ← continuation? c
        let ch ← charFrom? 0x800 ((lead - 0xE0) * 4096 + x * 64 + y)
        pure (ch, rest)
      | _ => none
    else if lead < 0xF8 then
      match rest with
      | b :: c :: d :: rest => do
        let x ← continuation? b
        let y ← continuation? c
        let z ← continuation? d
        let ch ← charFrom? 0x10000 ((lead - 0xF0) * 262144 + x * 4096 + y * 64 + z)
        pure (ch, rest)
      | _ => none
    else none

/-- Bytes as a payload, in at most `fuel` steps; every step takes at least one byte. -/
def decodeBytesWithin : Nat → List UInt8 → Payload
  | 0, _ => []
  | _, [] => []
  | fuel + 1, b :: bytes =>
    match nextChar? (b :: bytes) with
    | some (c, rest) => some c :: decodeBytesWithin fuel rest
    | none => none :: decodeBytesWithin fuel bytes

/-- Bytes as a payload. -/
def decodeBytes (bytes : List UInt8) : Payload :=
  decodeBytesWithin bytes.length bytes

/-- The bytes of a character: a lead byte and up to three continuation bytes of six bits each. -/
def charBytes (c : Char) : List UInt8 :=
  let n := c.toNat
  let continuation (k : Nat) : UInt8 := UInt8.ofNat (0x80 + k % 64)
  if n < 0x80 then [UInt8.ofNat n]
  else if n < 0x800 then [UInt8.ofNat (0xC0 + n / 64), continuation n]
  else if n < 0x10000 then
    [UInt8.ofNat (0xE0 + n / 4096), continuation (n / 64), continuation n]
  else
    [UInt8.ofNat (0xF0 + n / 262144), continuation (n / 4096), continuation (n / 64),
      continuation n]

/-- The bytes of a text. -/
def encodeBytes (s : String) : List UInt8 :=
  s.toList.flatMap charBytes

end FleetRoster.Text
