import FleetRoster.Calendar.Instant
import FleetRoster.Text.Blank

/-!
# Reading instants

The format of RFC 3339 in a generous reading: blanks around the parts, numbers with fewer digits, a
signed year, and a space in place of the letter between date and time. What remains strict is that
every part is there and in range.
-/

namespace FleetRoster.Calendar

/-- Why a text is no instant. -/
inductive ReadError
  /-- The text ends too early. -/
  | tooShort
  /-- A character that does not belong there. -/
  | invalid
  /-- A number outside its range. -/
  | outOfRange
  /-- Something follows. -/
  | tooLong
  /-- A local time that no representable instant has. -/
  | impossible
  deriving DecidableEq, Repr

/-- The wording of an error. -/
def ReadError.message : ReadError → String
  | .tooShort => "premature end of input"
  | .invalid => "input contains invalid characters"
  | .outOfRange => "input is out of range"
  | .tooLong => "trailing input"
  | .impossible => "no possible date and time matching input"

/-! Each step returns what it read and the text after it. -/

namespace Read

/-- The value of a decimal digit. -/
def digit? (c : Char) : Option Nat :=
  if '0' ≤ c && c ≤ '9' then some (c.toNat - 48) else none

/-- The first number that sixty-four bits with a sign cannot hold. -/
def numberLimit : Nat := Nat.pow 2 63

/-- More digits of a number, at most `width` of them. -/
def moreDigits : Nat → Nat → List Char → Except ReadError (Nat × List Char)
  | 0, n, text => .ok (n, text)
  | _ + 1, n, [] => .ok (n, [])
  | width + 1, n, c :: rest =>
    match digit? c with
    | some d => if n * 10 + d < numberLimit then moreDigits width (n * 10 + d) rest
        else .error .outOfRange
    | none => .ok (n, c :: rest)

/-- A number of one to `width` digits. -/
def number (width : Nat) : List Char → Except ReadError (Nat × List Char)
  | [] => .error .tooShort
  | c :: rest =>
    match digit? c with
    | some d => moreDigits (width - 1) d rest
    | none => .error .invalid

/-- A number in a range, after blanks. -/
def field (width least greatest : Nat) (text : List Char) : Except ReadError (Nat × List Char) := do
  let (n, rest) ← number width (Text.dropBlanks text)
  if least ≤ n ∧ n ≤ greatest then .ok (n, rest) else .error .outOfRange

/-- A year: up to four digits, or a sign and any number of them. -/
def year (text : List Char) : Except ReadError (Int × List Char) := do
  let (y, rest) ← (match Text.dropBlanks text with
    | '-' :: rest => (number rest.length rest).map fun (n, r) => (-(n : Int), r)
    | '+' :: rest => (number rest.length rest).map fun (n, r) => ((n : Int), r)
    | rest => (number 4 rest).map fun (n, r) => ((n : Int), r))
  if -Int.pow 2 31 ≤ y ∧ y < Int.pow 2 31 then .ok (y, rest) else .error .outOfRange

/-- A mark after blanks. -/
def mark (c : Char) (text : List Char) : Except ReadError (List Char) :=
  match Text.dropBlanks text with
  | [] => .error .tooShort
  | d :: rest => if d = c then .ok rest else .error .invalid

/-- The date. -/
def date (text : List Char) : Except ReadError (Date × List Char) := do
  let (y, text) ← year text
  let text ← mark '-' text
  let (m, text) ← field 2 1 12 text
  let text ← mark '-' text
  let (d, text) ← field 2 1 31 text
  .ok (⟨y, m, d⟩, text)

/-- The letter or space between date and time. -/
def divider : List Char → Except ReadError (List Char)
  | [] => .error .tooShort
  | c :: rest => if c = 't' || c = 'T' || c = ' ' then .ok rest else .error .invalid

/-- Decimal places of the second in nanoseconds; places past the ninth are dropped. -/
def fraction : List Char → Except ReadError (Nat × List Char)
  | '.' :: rest => do
    let (n, after) ← number 9 rest
    let places := rest.length - after.length
    .ok (n * Nat.pow 10 (9 - places), after.dropWhile fun c => (digit? c).isSome)
  | rest => .ok (0, rest)

/-- The time of day: seconds since midnight and nanoseconds. The sixtieth second is a leap
second. -/
def time (text : List Char) : Except ReadError ((Nat × Nat) × List Char) := do
  let (h, text) ← field 2 0 23 text
  let text ← mark ':' text
  let (m, text) ← field 2 0 59 text
  let text ← mark ':' text
  let (s, text) ← field 2 0 60 text
  let (n, text) ← fraction text
  let minutes := h * 3600 + m * 60
  if s = 60 then .ok ((minutes + 59, nanosPerSecond + n), text)
  else .ok ((minutes + s, n), text)

/-- Two digits that must both be there. -/
def twoDigits : List Char → Except ReadError ((Nat × Nat) × List Char)
  | a :: b :: rest =>
    match digit? a, digit? b with
    | some x, some y => .ok ((x, y), rest)
    | _, _ => .error .invalid
  | [a] => if a.utf8Size < 2 then .error .tooShort else .error .invalid
  | [] => .error .tooShort

/-- The hours and minutes of an offset in seconds, with colons and blanks between them. -/
def offsetAmount (text : List Char) : Except ReadError (Nat × List Char) := do
  let ((h1, h2), text) ← twoDigits text
  let text := text.dropWhile fun c => c = ':' || Text.isBlank c
  let ((m1, m2), text) ← twoDigits text
  if m1 > 5 then .error .outOfRange
  else .ok ((h1 * 10 + h2) * 3600 + (m1 * 10 + m2) * 60, text)

/-- Whether a character is a given letter of ASCII in either case. -/
def isLetter (upper c : Char) : Bool :=
  c.toUpper == upper

/-- The offset from universal time in seconds. -/
def offset (text : List Char) : Except ReadError (Int × List Char) :=
  match text with
  | [] => .error .tooShort
  | c :: rest =>
    if c = 'Z' || c = 'z' then .ok (0, rest)
    else if c = '+' then (offsetAmount rest).map fun (n, r) => ((n : Int), r)
    else if c = '-' || c = '\u2212' then (offsetAmount rest).map fun (n, r) => (-(n : Int), r)
    else .error .invalid

/-- The offset, or the name of universal time. -/
def zone (text : List Char) : Except ReadError (Int × List Char) :=
  match text with
  | u :: t :: c :: rest =>
    if isLetter 'U' u && isLetter 'T' t && isLetter 'C' c then .ok (0, rest) else offset text
  | _ => offset text

end Read

/-- The instant of a local date and time at an offset. -/
def Instant.ofLocal (d : Date) (secondOfDay nano : Nat) (offset : Int) :
    Except ReadError Instant :=
  if !d.isValid then .error .outOfRange
  else if offset ≤ -secondsPerDay ∨ secondsPerDay ≤ offset then .error .outOfRange
  else
    let a : Instant := ⟨d.toDays * secondsPerDay + secondOfDay - offset, nano⟩
    if a.isRepresentable then .ok a else .error .impossible

/-- The instant that a text stands for. -/
def Instant.read (text : String) : Except ReadError Instant := do
  let (d, rest) ← Read.date text.toList
  let rest ← Read.divider rest
  let ((second, nano), rest) ← Read.time rest
  let (offset, rest) ← Read.zone (Text.dropBlanks rest)
  if (Text.dropBlanks rest).isEmpty then Instant.ofLocal d second nano offset
  else .error .tooLong

end FleetRoster.Calendar
