import FleetRoster.Text.Blank
import FleetRoster.Text.Quoted

/-!
# Settings

The settings of a listener, each with a default for production, and the reader that takes them from
named texts. The variables are read in a fixed order and the first one that is no text of its type
is blamed; only when all of them can be read are the three sizes checked that must not be zero.
-/

namespace FleetRoster

/-- How much is logged. -/
inductive LogLevel
  | off
  | error
  | warn
  | info
  | debug
  | trace
  deriving DecidableEq, Repr

namespace LogLevel

/-- The name of a level. -/
def text : LogLevel → String
  | off => "OFF"
  | error => "ERROR"
  | warn => "WARN"
  | info => "INFO"
  | debug => "DEBUG"
  | trace => "TRACE"

/-- Every level. -/
def all : List LogLevel :=
  [off, error, warn, info, debug, trace]

/-- The level of a name in any case. -/
def read? (name : String) : Option LogLevel :=
  all.find? fun level => level.text.toList == name.toList.map Char.toUpper

end LogLevel

/-- The settings of a listener. -/
structure Settings where
  uploadTopic : String := "platform.inventory.events"
  eventsTopic : String := "platform.inventory.events"
  evaluationTopic : String := "hostsync.evaluator.upload"
  auditTopic : String := "platform.payload-status"
  /-- The number of buffered uploads that causes a flush. -/
  bufferSize : Nat := 20000
  /-- The greatest number of systems in one evaluation message. -/
  batchSize : Nat := 4000
  /-- Milliseconds after the last buffered upload until a flush. -/
  idleInterval : Nat := 10000
  /-- Seconds for which a deleted host is kept from coming back. -/
  deletionThreshold : Nat := 3600
  /-- Milliseconds for which the reader waits for a message. -/
  readTimeout : Nat := 10000
  /-- Further attempts at a message whose handler met a fault that may pass. -/
  retries : Nat := 0
  /-- Milliseconds before each further attempt. -/
  retryDelay : Nat := 1000
  /-- Whether systems can be sent for evaluation on request. -/
  evaluationRequests : Bool := true
  logLevel : LogLevel := .info
  deriving DecidableEq, Repr

namespace Settings

/-- Why a text is not a value of its type. -/
inductive ValueError
  | empty
  | notDigits
  | tooLarge
  | notBoolean
  | notLevel
  deriving DecidableEq, Repr

/-- The wording of a value error. -/
def ValueError.message : ValueError → String
  | empty => "cannot parse integer from empty string"
  | notDigits => "invalid digit found in string"
  | tooLarge => "number too large to fit in target type"
  | notBoolean => "provided string was not \x60true\x60 or \x60false\x60"
  | notLevel => "attempted to convert a string that doesn't match an existing log level"

/-- Why settings cannot be read. -/
inductive ReadError
  /-- A variable whose text is no value of its type. -/
  | unreadable (name text : String) (why : ValueError)
  /-- A size that is zero. -/
  | zero (name : String)
  deriving DecidableEq, Repr

/-- The wording of a read error. -/
def ReadError.message : ReadError → String
  | unreadable name text why => name ++ "=" ++ Text.quoted text ++ ": " ++ why.message
  | zero name => name ++ " must be greater than zero"

/-! ## Values -/

/-- The number of digits from left to right, which must stay below a limit. -/
def digitsBelow (limit : Nat) : Nat → List Char → Except ValueError Nat
  | n, [] => .ok n
  | n, c :: rest =>
    if !c.isDigit then .error .notDigits
    else
      let m := n * 10 + (c.toNat - 48)
      if m < limit then digitsBelow limit m rest else .error .tooLarge

/-- A number below a limit: digits, with a plus sign before them or not. -/
def readNatural (limit : Nat) (text : String) : Except ValueError Nat :=
  match text.toList with
  | [] => .error .empty
  | ['+'] => .error .notDigits
  | '+' :: rest => digitsBelow limit 0 rest
  | cs => digitsBelow limit 0 cs

/-- A truth value, in lower case. -/
def readBoolean (text : String) : Except ValueError Bool :=
  if text = "true" then .ok true
  else if text = "false" then .ok false
  else .error .notBoolean

/-- A log level. -/
def readLevel (text : String) : Except ValueError LogLevel :=
  match LogLevel.read? text with
  | some level => .ok level
  | none => .error .notLevel

/-! ## Variables -/

/-- The texts of the variables that are set. -/
abbrev Lookup := String → Option String

/-- The value of a variable without the blanks around its text, or the default where it is not
set. -/
def readOr {α : Type} (lookup : Lookup) (name : String) (read : String → Except ValueError α)
    (default : α) : Except ReadError α :=
  match lookup name with
  | none => .ok default
  | some text =>
    match read (Text.trim text) with
    | .ok value => .ok value
    | .error why => .error (.unreadable name text why)

/-- A number of sixty-four bits. -/
def readWord (text : String) : Except ValueError Nat :=
  readNatural (Nat.pow 2 64) text

/-- A number of thirty-two bits. -/
def readHalfWord (text : String) : Except ValueError Nat :=
  readNatural (Nat.pow 2 32) text

/-- The variables that must not be zero, with their values. -/
def sizes (s : Settings) : List (String × Nat) :=
  [("EVENT_BUFFER_SIZE", s.bufferSize), ("EVAL_BATCH_SIZE", s.batchSize),
    ("UPLOAD_EVAL_TIMEOUT_MS", s.idleInterval)]

/-- Refuses settings with a size of zero. -/
def check (s : Settings) : Except ReadError Settings :=
  match s.sizes.find? fun size => size.2 == 0 with
  | some size => .error (.zero size.1)
  | none => .ok s

/-- The settings that the variables give. -/
def read (lookup : Lookup) : Except ReadError Settings := do
  let default : Settings := {}
  let bufferSize ← readOr lookup "EVENT_BUFFER_SIZE" readWord default.bufferSize
  let batchSize ← readOr lookup "EVAL_BATCH_SIZE" readWord default.batchSize
  let idleInterval ← readOr lookup "UPLOAD_EVAL_TIMEOUT_MS" readWord default.idleInterval
  let deletionThreshold ←
    readOr lookup "DELETION_THRESHOLD_SECS" readWord default.deletionThreshold
  let readTimeout ← readOr lookup "KAFKA_READ_TIMEOUT_MS" readWord default.readTimeout
  let retries ← readOr lookup "HANDLER_RETRIES" readHalfWord default.retries
  let retryDelay ← readOr lookup "HANDLER_RETRY_DELAY_MS" readWord default.retryDelay
  let evaluationRequests ←
    readOr lookup "ENABLE_EVALUATION_REQUESTS" readBoolean default.evaluationRequests
  let logLevel ← readOr lookup "LOG_LEVEL" readLevel default.logLevel
  check {
    uploadTopic := (lookup "UPLOAD_TOPIC").getD default.uploadTopic
    eventsTopic := (lookup "EVENTS_TOPIC").getD default.eventsTopic
    evaluationTopic := (lookup "EVAL_TOPIC").getD default.evaluationTopic
    auditTopic := (lookup "PAYLOAD_TRACKER_TOPIC").getD default.auditTopic
    bufferSize, batchSize, idleInterval, deletionThreshold, readTimeout, retries, retryDelay,
    evaluationRequests, logLevel }

end Settings

end FleetRoster
