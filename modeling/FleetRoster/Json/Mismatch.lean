import FleetRoster.Json.Number
import FleetRoster.Text.Quoted

/-!
# What decoding reports

A text is refused because it is no JSON, or because it is JSON of another shape than the one that
was asked for. A mismatch names what was found, what was expected, and nothing else.
-/

namespace FleetRoster.Json

/-- What a decoder asks for. -/
inductive Shape
  | text
  | sequence
  | record (name : String)
  | int32
  | int64
  | boolean
  | timestamp
  deriving DecidableEq, Repr

/-- A shape in words. -/
def Shape.describe : Shape → String
  | .text => "a string"
  | .sequence => "a sequence"
  | .record name => "struct " ++ name
  | .int32 => "i32"
  | .int64 => "i64"
  | .boolean => "a boolean"
  | .timestamp => "an RFC 3339 formatted date and time string"

/-- What a decoder meets. -/
inductive Found
  | null
  | bool (b : Bool)
  | number (n : Number)
  | string (s : String)
  | sequence
  | map
  deriving DecidableEq, Repr

/-- What was met, in words. -/
def Found.describe : Found → String
  | .null => "null"
  | .bool b => "boolean \x60" ++ (if b then "true" else "false") ++ "\x60"
  | .number (.int n) => "integer \x60" ++ String.ofList (Number.intText n) ++ "\x60"
  | .number (.double bits) => "floating point \x60" ++ String.ofList (Number.doubleText bits) ++ "\x60"
  | .string s => "string " ++ Text.quoted s
  | .sequence => "sequence"
  | .map => "map"

/-- A way in which JSON has another shape than the expected one. -/
inductive Mismatch
  | wrongType (found : Found) (expected : Shape)
  /-- An integer outside the range of its type. -/
  | outOfRange (value : Int) (expected : Shape)
  | missingField (name : String)
  | duplicateField (name : String)
  /-- A record given as a sequence that ends before a field without default. -/
  | tooShort (length : Nat) (record : String) (fields : Nat)
  /-- A record given as a sequence that goes on after its last field. -/
  | tooLong (length : Nat)
  /-- A string that is none of the texts its type allows. -/
  | refused (why : String)
  deriving DecidableEq, Repr

/-- The wording of a mismatch. -/
def Mismatch.message : Mismatch → String
  | .wrongType found expected =>
    "invalid type: " ++ found.describe ++ ", expected " ++ expected.describe
  | .outOfRange value expected =>
    "invalid value: integer \x60" ++ String.ofList (Number.intText value) ++ "\x60, expected "
      ++ expected.describe
  | .missingField name => "missing field \x60" ++ name ++ "\x60"
  | .duplicateField name => "duplicate field \x60" ++ name ++ "\x60"
  | .tooShort length record fields =>
    "invalid length " ++ toString length ++ ", expected struct " ++ record ++ " with "
      ++ toString fields ++ (if fields = 1 then " element" else " elements")
  | .tooLong length =>
    "invalid length " ++ toString length ++ ", expected fewer elements in array"
  | .refused why => why

/-- Why a payload could not be decoded. -/
inductive DecodeError
  /-- The payload is not JSON. -/
  | syntaxError
  | mismatch (m : Mismatch)
  deriving DecidableEq, Repr

/-- The wording of an error. A syntax error has a mark in place of the parser's own words. -/
def DecodeError.message : DecodeError → String
  | .syntaxError => "<json>"
  | .mismatch m => m.message

end FleetRoster.Json
