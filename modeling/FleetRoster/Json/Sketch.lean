import FleetRoster.Json.Value
import FleetRoster.Text.Hex
import FleetRoster.Text.Utf8

/-!
# Sketches of JSON texts

A reader that skips what it does not know must notice where a text breaks, but only at the point it
has reached: what comes before may already have decided the answer. A sketch is therefore the text
as a tree that goes as far as the grammar holds, with the place of the break in it. What the
grammar allows but no value can hold stays in it too: a string with a gap or a lone surrogate, a
number past the greatest double. Such a leaf may be skipped, but not read.
-/

namespace FleetRoster.Json

/-- A JSON text as far as its grammar holds. -/
inductive Sketch
  /-- Here the text stops being JSON. -/
  | broken
  | null
  | bool (b : Bool)
  /-- A number, unless it is out of range. -/
  | number (n : Option Number)
  /-- A string, unless it holds something that is no text. -/
  | string (s : Option String)
  /-- Items, and whether the closing bracket follows them. -/
  | array (items : List Sketch) (closed : Bool)
  /-- Members, and whether the closing brace follows them. -/
  | object (members : List (Option String × Sketch)) (closed : Bool)
  deriving Repr, Inhabited

namespace Sketch

open Text (Payload)

/-! ## Leaves -/

/-- The blanks of JSON. -/
def isSpace (c : Option Char) : Bool :=
  c == some ' ' || c == some '\n' || c == some '\t' || c == some '\r'

/-- The text from the first character that is no blank. -/
def skipSpace (text : Payload) : Payload :=
  text.dropWhile isSpace

/-- The value of a decimal digit. -/
def digit? : Option Char → Option Nat
  | some c => if '0' ≤ c && c ≤ '9' then some (c.toNat - 48) else none
  | none => none

/-- The digits at the front of a text, and the text after them. -/
def spanDigits : Payload → List Nat × Payload
  | [] => ([], [])
  | c :: rest =>
    match digit? c with
    | some d => (d :: (spanDigits rest).1, (spanDigits rest).2)
    | none => ([], c :: rest)

/-- The digits after a point, if one follows; a point without digits is a break. -/
def readFraction : Payload → Option (Option (List Nat) × Payload)
  | some '.' :: rest =>
    match spanDigits rest with
    | ([], _) => none
    | (ds, rest) => some (some ds, rest)
  | rest => some (none, rest)

/-- The sign and digits of an exponent, if one follows; an exponent without digits is a break. -/
def readExponent : Payload → Option (Option (Bool × List Nat) × Payload)
  | some e :: rest =>
    if e = 'e' || e = 'E' then
      let (down, rest) := match rest with
        | some '+' :: rest => (false, rest)
        | some '-' :: rest => (true, rest)
        | rest => (false, rest)
      match spanDigits rest with
      | ([], _) => none
      | (ds, rest) => some (some (down, ds), rest)
    else some (none, some e :: rest)
  | rest => some (none, rest)

/-- A number literal without its sign. The digit zero stands alone before a point. -/
def readLiteral (negative : Bool) (text : Payload) : Option (Literal × Payload) := do
  let (whole, rest) := spanDigits text
  match whole with
  | [] => none
  | 0 :: _ :: _ => none
  | _ =>
    let (fraction, rest) ← readFraction rest
    let (exponent, rest) ← readExponent rest
    pure (⟨negative, whole, fraction, exponent⟩, rest)

/-- A piece of a string: a character that stands for itself or has a short escape, a unit of
sixteen bits given by its digits, or a gap. -/
inductive Piece
  | char (c : Char)
  | unit (n : Nat)
  | gap
  deriving DecidableEq, Repr

/-- The character of a short escape. -/
def shortEscape? : Char → Option Char
  | '"' => some '"'
  | '\\' => some '\\'
  | '/' => some '/'
  | 'b' => some '\x08'
  | 'f' => some '\x0c'
  | 'n' => some '\n'
  | 'r' => some '\r'
  | 't' => some '\t'
  | _ => none

/-- A unit of four hexadecimal digits. -/
def readUnit? : Option Char → Option Char → Option Char → Option Char → Option Nat
  | some a, some b, some c, some d => do
    let a ← Text.hexValue? a
    let b ← Text.hexValue? b
    let c ← Text.hexValue? c
    let d ← Text.hexValue? d
    pure (((a * 16 + b) * 16 + c) * 16 + d)
  | _, _, _, _ => none

/-- The pieces of a string up to its closing quote, and the text after it. A control character, an
unknown escape and the end of the text are breaks. -/
def readPieces : Payload → Option (List Piece × Payload)
  | [] => none
  | none :: rest => (readPieces rest).map fun (ps, r) => (.gap :: ps, r)
  | some '"' :: rest => some ([], rest)
  | some '\\' :: some 'u' :: a :: b :: c :: d :: rest =>
    match readUnit? a b c d with
    | some n => (readPieces rest).map fun (ps, r) => (.unit n :: ps, r)
    | none => none
  | some '\\' :: some e :: rest =>
    match shortEscape? e with
    | some c => (readPieces rest).map fun (ps, r) => (.char c :: ps, r)
    | none => none
  | some '\\' :: _ => none
  | some c :: rest =>
    if c.toNat < 0x20 then none
    else (readPieces rest).map fun (ps, r) => (.char c :: ps, r)

/-- The character of a pair of surrogates. -/
def pairChar (high low : Nat) : Char :=
  Char.ofNat (0x10000 + (high - 0xD800) * 0x400 + (low - 0xDC00))

/-- The characters of a string's pieces. A gap is no text, nor is a surrogate without its mate. -/
def pieceChars? : List Piece → Option (List Char)
  | [] => some []
  | .gap :: _ => none
  | .char c :: rest => (pieceChars? rest).map (c :: ·)
  | .unit n :: rest =>
    if 0xD800 ≤ n && n ≤ 0xDBFF then
      match rest with
      | .unit m :: rest =>
        if 0xDC00 ≤ m && m ≤ 0xDFFF then (pieceChars? rest).map (pairChar n m :: ·) else none
      | _ => none
    else if 0xDC00 ≤ n && n ≤ 0xDFFF then none
    else (pieceChars? rest).map (Char.ofNat n :: ·)

/-- A string after its opening quote: its text, if it is one, and what follows. -/
def readString (text : Payload) : Option (Option String × Payload) :=
  (readPieces text).map fun (ps, rest) => ((pieceChars? ps).map String.ofList, rest)

/-! ## Trees -/

mutual

/-- Whether the text of a sketch holds to its end. -/
def isWhole : Sketch → Bool
  | .broken => false
  | .array items closed => closed && areWhole items
  | .object members closed => closed && membersWhole members
  | _ => true

/-- Whether every item holds to its end. -/
def areWhole : List Sketch → Bool
  | [] => true
  | s :: rest => s.isWhole && areWhole rest

/-- Whether every member holds to its end. -/
def membersWhole : List (Option String × Sketch) → Bool
  | [] => true
  | (_, s) :: rest => s.isWhole && membersWhole rest

end

mutual

/-- A value at the front of a text, after its blanks, and the text after it. After a break nothing
is left to read. `fuel` bounds the number of calls; every call but the first of a container takes
a character. -/
def readValue : Nat → Payload → Sketch × Payload
  | 0, _ => (.broken, [])
  | fuel + 1, text =>
    match skipSpace text with
    | some 'n' :: some 'u' :: some 'l' :: some 'l' :: rest => (.null, rest)
    | some 't' :: some 'r' :: some 'u' :: some 'e' :: rest => (.bool true, rest)
    | some 'f' :: some 'a' :: some 'l' :: some 's' :: some 'e' :: rest => (.bool false, rest)
    | some '"' :: rest =>
      match readString rest with
      | some (s, rest) => (.string s, rest)
      | none => (.broken, [])
    | some '[' :: rest =>
      match skipSpace rest with
      | some ']' :: rest => (.array [] true, rest)
      | rest =>
        let (items, closed, rest) := readItems fuel rest
        (.array items closed, rest)
    | some '\x7b' :: rest =>
      match skipSpace rest with
      | some '\x7d' :: rest => (.object [] true, rest)
      | rest =>
        let (members, closed, rest) := readMembers fuel rest
        (.object members closed, rest)
    | some '-' :: rest =>
      match readLiteral true rest with
      | some (l, rest) => (.number l.number?, rest)
      | none => (.broken, [])
    | rest =>
      match readLiteral false rest with
      | some (l, rest) => (.number l.number?, rest)
      | none => (.broken, [])

/-- The items of an array from the first one on, whether the bracket closes it, and the rest. -/
def readItems : Nat → Payload → List Sketch × Bool × Payload
  | 0, _ => ([], false, [])
  | fuel + 1, text =>
    let (item, rest) := readValue fuel text
    if item.isWhole then
      match skipSpace rest with
      | some ']' :: rest => ([item], true, rest)
      | some ',' :: rest =>
        match skipSpace rest with
        | some ']' :: _ => ([item], false, [])
        | rest =>
          let (items, closed, rest) := readItems fuel rest
          (item :: items, closed, rest)
      | _ => ([item], false, [])
    else ([item], false, [])

/-- The members of an object from the first one on, whether the brace closes it, and the rest. A
name whose value breaks is still there. -/
def readMembers : Nat → Payload → List (Option String × Sketch) × Bool × Payload
  | 0, _ => ([], false, [])
  | fuel + 1, text =>
    match text with
    | some '"' :: rest =>
      match readString rest with
      | none => ([], false, [])
      | some (name, rest) =>
        match skipSpace rest with
        | some ':' :: rest =>
          let (value, rest) := readValue fuel rest
          if value.isWhole then
            match skipSpace rest with
            | some '\x7d' :: rest => ([(name, value)], true, rest)
            | some ',' :: rest =>
              let (members, closed, rest) := readMembers fuel (skipSpace rest)
              ((name, value) :: members, closed, rest)
            | _ => ([(name, value)], false, [])
          else ([(name, value)], false, [])
        | _ => ([(name, .broken)], false, [])
    | _ => ([], false, [])

end

/-- A whole text as a sketch, and whether nothing but blanks follows it. -/
def ofPayload (text : Payload) : Sketch × Bool :=
  let (s, rest) := readValue (2 * text.length + 2) text
  (s, (skipSpace rest).isEmpty)

/-! ## Values -/

mutual

/-- The value of a sketch that can be read as one, with fewer than `depth` containers inside one
another. -/
def value? : Nat → Sketch → Option Value
  | _, .broken => none
  | _, .null => some .null
  | _, .bool b => some (.bool b)
  | _, .number n => n.map .number
  | _, .string s => s.map .string
  | depth, .array items closed =>
    if closed && 1 < depth then (values? (depth - 1) items).map .array else none
  | depth, .object members closed =>
    if closed && 1 < depth then
      (memberValues? (depth - 1) members).map fun ms => .object (Members.ofList ms)
    else none

/-- The values of a list of sketches. -/
def values? : Nat → List Sketch → Option (List Value)
  | _, [] => some []
  | depth, s :: rest => do
    let v ← s.value? depth
    let vs ← values? depth rest
    pure (v :: vs)

/-- The names and values of a list of members. -/
def memberValues? : Nat → List (Option String × Sketch) → Option (List (String × Value))
  | _, [] => some []
  | depth, (name, s) :: rest => do
    let n ← name
    let v ← s.value? depth
    let vs ← memberValues? depth rest
    pure ((n, v) :: vs)

end

mutual

/-- A value as a sketch without breaks. -/
def ofValue : Value → Sketch
  | .null => .null
  | .bool b => .bool b
  | .number n => .number (some n)
  | .string s => .string (some s)
  | .array items => .array (ofValues items) true
  | .object members => .object (ofMembers members) true

/-- A list of values as sketches. -/
def ofValues : List Value → List Sketch
  | [] => []
  | v :: rest => ofValue v :: ofValues rest

/-- A list of members as sketches. -/
def ofMembers : List (String × Value) → List (Option String × Sketch)
  | [] => []
  | (name, v) :: rest => (some name, ofValue v) :: ofMembers rest

end

end Sketch

/-- The number of containers inside one another from which on a text is refused. -/
def depthLimit : Nat := 128

/-- The value of a text, or `none` when the text is not JSON. -/
def read? (text : Text.Payload) : Option Value :=
  match Sketch.ofPayload text with
  | (s, true) => s.value? depthLimit
  | (_, false) => none

end FleetRoster.Json
