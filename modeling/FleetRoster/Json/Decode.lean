import FleetRoster.Json.Mismatch
import FleetRoster.Json.Sketch

/-!
# Decoding records

A decoder reads a sketch of a known shape. The first fault in reading order decides: a mismatch is
reported where it stands, even if the text breaks further on, and a missing field when its object
has been read to the end. A record may also be given as the sequence of its fields.
-/

namespace FleetRoster.Json

/-- Where a sketch comes from: straight from a text, in which so many containers may still be
entered, or from a value that has already been read. -/
inductive Source
  | text (depth : Nat)
  | value
  deriving DecidableEq, Repr

/-- The source inside a container. -/
def Source.enter : Source → Except DecodeError Source
  | .text depth => if 1 < depth then .ok (.text (depth - 1)) else .error .syntaxError
  | .value => .ok .value

/-- How many containers may still stand inside one another. A value has been read from a text, so
its containers are within the limit of texts. -/
def Source.room : Source → Nat
  | .text depth => depth
  | .value => depthLimit

/-- A reader of sketches of one shape. -/
abbrev Decoder (α : Type) := Source → Sketch → Except DecodeError α

/-- What stands at the front of a sketch, unless the text breaks there. A container is recognised
by its bracket, whatever it holds. -/
def Sketch.found? : Sketch → Option Found
  | .broken => none
  | .null => some .null
  | .bool b => some (.bool b)
  | .number n => n.map .number
  | .string s => s.map .string
  | .array _ _ => some .sequence
  | .object _ _ => some .map

/-- The fault of a sketch that is not of the expected shape. -/
def Sketch.unlike {α : Type} (s : Sketch) (expected : Shape) : Except DecodeError α :=
  match s.found? with
  | some found => .error (.mismatch (.wrongType found expected))
  | none => .error .syntaxError

namespace Decoder

/-- A string. -/
def text : Decoder String
  | _, .string (some s) => .ok s
  | _, s => s.unlike .text

/-- Any value. -/
def value : Decoder Value
  | source, s =>
    match s.value? source.room with
    | some v => .ok v
    | none => .error .syntaxError

/-- A truth value. -/
def boolean : Decoder Bool
  | _, .bool b => .ok b
  | _, s => s.unlike .boolean

/-- An integer of so many bits with a sign. -/
def integer (bits : Nat) (shape : Shape) : Decoder Int
  | _, .number (some (.int n)) =>
    if -Int.pow 2 (bits - 1) ≤ n ∧ n < Int.pow 2 (bits - 1) then .ok n
    else .error (.mismatch (.outOfRange n shape))
  | _, s => s.unlike shape

/-- An integer of thirty-two bits. -/
def int32 : Decoder Int :=
  integer 32 .int32

/-- An integer of sixty-four bits. -/
def int64 : Decoder Int :=
  integer 64 .int64

/-- A value or null. -/
def optional {α : Type} (d : Decoder α) : Decoder (Option α)
  | _, .null => .ok none
  | source, s => (d source s).map some

/-- The items of a sequence from the first one on. -/
def items {α : Type} (d : Decoder α) (source : Source) (closed : Bool) :
    List Sketch → Except DecodeError (List α)
  | [] => if closed then .ok [] else .error .syntaxError
  | s :: rest => do
    let a ← d source s
    let as ← items d source closed rest
    pure (a :: as)

/-- A sequence. -/
def list {α : Type} (d : Decoder α) : Decoder (List α)
  | source, .array sketches closed => do
    let inside ← source.enter
    items d inside closed sketches
  | _, s => s.unlike .sequence

end Decoder

/-! ## Records -/

/-- What happens to a record without one of its fields. -/
inductive Absence
  /-- The field has to be there. -/
  | refused
  /-- An object may lack the field, but a sequence must reach it. -/
  | allowedInObject
  /-- The field has a default. -/
  | allowed
  deriving DecidableEq, Repr

/-- A field of a record under construction. -/
structure Field (σ : Type) where
  name : String
  absence : Absence
  /-- Reads the field and puts it into the record. -/
  read : Decoder (σ → σ)

/-- A field that a decoder reads and `put` puts in place. -/
def Field.of {σ α : Type} (name : String) (absence : Absence) (d : Decoder α)
    (put : α → σ → σ) : Field σ :=
  ⟨name, absence, fun source s => (d source s).map put⟩

/-- A record: its name, its fields in order, and the record before any field is read. -/
structure Record (σ : Type) where
  name : String
  fields : List (Field σ)
  blank : σ

namespace Record

variable {σ : Type}

/-- The members of an object from the first one on, given the names already read. A member that is
no field is passed over, which takes no more than its grammar. -/
def readMembers (r : Record σ) (source : Source) :
    List (Option String × Sketch) → List String → σ → Except DecodeError (List String × σ)
  | [], seen, built => .ok (seen, built)
  | (none, _) :: _, _, _ => .error .syntaxError
  | (some name, s) :: rest, seen, built =>
    match r.fields.find? fun f => f.name == name with
    | none => if s.isWhole then r.readMembers source rest seen built else .error .syntaxError
    | some f =>
      if seen.contains name then .error (.mismatch (.duplicateField name))
      else do
        let put ← f.read source s
        r.readMembers source rest (name :: seen) (put built)

/-- The fields from one on as the items of a sequence of `total` items. -/
def readItems (r : Record σ) (source : Source) (closed : Bool) (total : Nat) :
    List (Field σ) → List Sketch → Nat → σ → Except DecodeError σ
  | [], rest, _, built =>
    match source with
    | .text _ => if rest.isEmpty && closed then .ok built else .error .syntaxError
    | .value => if rest.isEmpty then .ok built else .error (.mismatch (.tooLong total))
  | f :: fields, s :: rest, position, built => do
    let put ← f.read source s
    r.readItems source closed total fields rest (position + 1) (put built)
  | f :: fields, [], position, built =>
    if !closed then .error .syntaxError
    else if f.absence = .allowed then
      r.readItems source closed total fields [] (position + 1) built
    else .error (.mismatch (.tooShort position r.name r.fields.length))

/-- The first field that an object must not lack and that was not read. -/
def lacking? (r : Record σ) (seen : List String) : Option String :=
  (r.fields.find? fun f => f.absence = .refused && !seen.contains f.name).map (·.name)

/-- A record from an object or from the sequence of its fields. -/
def decode (r : Record σ) : Decoder σ
  | source, .object members closed => do
    let inside ← source.enter
    let (seen, built) ← r.readMembers inside members [] r.blank
    if !closed then .error .syntaxError
    else match r.lacking? seen with
      | some name => .error (.mismatch (.missingField name))
      | none => .ok built
  | source, .array sketches closed => do
    let inside ← source.enter
    r.readItems inside closed sketches.length r.fields sketches 0 r.blank
  | _, s => s.unlike (.record r.name)

end Record

/-! ## Payloads and values -/

/-- Decodes a payload. What follows the value is looked at last. -/
def decode {α : Type} (d : Decoder α) (text : Text.Payload) : Except DecodeError α :=
  let (s, ends) := Sketch.ofPayload text
  match d (.text depthLimit) s with
  | .ok a => if ends then .ok a else .error .syntaxError
  | .error e => .error e

/-- Decodes a value. -/
def decodeValue {α : Type} (d : Decoder α) (v : Value) : Except DecodeError α :=
  d .value (Sketch.ofValue v)

/-- The value of a payload. -/
def readValue (text : Text.Payload) : Except DecodeError Value :=
  match read? text with
  | some v => .ok v
  | none => .error .syntaxError

end FleetRoster.Json
