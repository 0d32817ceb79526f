import FleetRoster.Calendar.Printer
import FleetRoster.Event.Kind
import FleetRoster.Fault
import FleetRoster.Log.Context
import FleetRoster.Outbound.Audit
import FleetRoster.Outbound.Flush
import FleetRoster.Outbound.Request
import FleetRoster.Outcome
import FleetRoster.Settings

/-!
# The log

Every line that can be logged, by what it reports. A line has a level and a text; the text starts
with the context of the message, where there is one, and with the name of the occasion. In some
lines the values stand between quotes and each value is followed by a blank.
-/

namespace FleetRoster

open Calendar (Instant)

/-- A line of the log. -/
inductive Notice
  -- Routing
  | routed (about : Log.Context) (kind : EventKind) (inventoryId : String)
  -- Accounts
  | accountUnresolved (about : Log.Context) (org : String) (why : Fault)
  | accountMismatch (about : Log.Context) (org : String) (kept found : Int)
  | accountRemembered (about : Log.Context) (org : String) (account : Int)
  -- Deletions
  | nothingDeleted (about : Log.Context) (inventoryId : String)
  | deleted (about : Log.Context) (inventoryId : String) (rows : Nat)
  | markersPruned (about : Log.Context) (count : Nat)
  | pruningFailed (about : Log.Context) (why : Fault)
  -- Uploads
  | uploadRejected (about : Log.Context) (verdict : Verdict) (why : Fault)
  | uploadIgnored (about : Log.Context) (deletedAt : Instant)
  | uploaded (about : Log.Context) (inventoryId : String) (account system : Int) (reporter : String)
  | auditUnsent (about : Log.Context) (status : String) (why : Fault)
  -- Messages
  | notJson (about : Log.Context) (messageId : String) (offset : Int) (why : Json.DecodeError)
  | handled (about : Log.Context) (messageId : String) (outcome : Outcome)
  | retrying (about : Log.Context) (messageId : String) (attempt : Nat) (why : Fault)
  | abandoned (about : Log.Context) (messageId : String) (attempts : Nat) (why : Fault)
  -- The buffer
  | flushing (reason : FlushReason) (items capacity : Nat)
  | evaluationsUnsent (topic : String) (items : Nat) (why : Fault)
  | auditsUnsent (topic : String) (items : Nat) (why : Fault)
  -- Requests for evaluation
  | requestsDisabled
  | requestRefused (request : Request)
  | baselineUnknown (account : Int) (baseline : Option Int) (why : Fault)
  | requestSent (systems messages : Nat)
  | requestUnsent (systems : Nat) (why : Fault)
  | requestsEnded
  -- The listener
  | configured (settings : Settings)
  | started (retries : Nat)
  | readTimedOut
  | readFailed (why : Fault)
  | commitFailed (offset : Int) (why : Fault)
  | closeFailed (why : Fault)
  | stopped (clean : Bool)

namespace Notice

/-- The line about where a message goes. -/
def ofMessage (about : Log.Context) (message : Json.Value) : Notice :=
  .routed about (EventKind.ofMessage message)
    (((message.get? "id").bind (·.asString?)).getD "")

/-- The level of a line. -/
def level : Notice → LogLevel
  | routed _ kind _ =>
    match kind with
    | .missing => .warn
    | .unknown _ => .warn
    | _ => .debug
  | accountUnresolved .. => .error
  | accountMismatch .. => .warn
  | accountRemembered .. => .debug
  | nothingDeleted .. => .warn
  | deleted .. => .info
  | markersPruned .. => .debug
  | pruningFailed .. => .warn
  | uploadRejected .. => .warn
  | uploadIgnored .. => .info
  | uploaded .. => .info
  | auditUnsent .. => .warn
  | notJson .. => .error
  | handled .. => .debug
  | retrying .. => .warn
  | abandoned .. => .error
  | flushing .. => .info
  | evaluationsUnsent .. => .error
  | auditsUnsent .. => .warn
  | requestsDisabled => .info
  | requestRefused _ => .error
  | baselineUnknown .. => .error
  | requestSent .. => .debug
  | requestUnsent .. => .error
  | requestsEnded => .info
  | configured _ => .info
  | started _ => .info
  | readTimedOut => .debug
  | readFailed _ => .error
  | commitFailed .. => .error
  | closeFailed _ => .warn
  | stopped _ => .info

/-- Why a message without a kind is not routed. -/
def emptyKind : String := "empty event type received"

/-- Why a message of an unknown kind is not routed. -/
def unknownKind : String := "unknown event type received"

/-- What is odd about a deletion that no row is left for. -/
def noRowsModified : String := "no rows modified on delete event"

/-- What failed when evaluations are not sent. -/
def sendFailure : String := "unable to send evaluation message"

/-- What failed when audit events are not sent. -/
def auditFailure : String := "unable to send message to payload tracker"

/-- Names with values. -/
def pairs (items : List (String × String)) : String :=
  " ".intercalate (items.map fun item => item.1 ++ "=" ++ item.2)

/-- The text of a line about a message: its context, the occasion, and names with values. -/
def line (about : Log.Context) (occasion : String) (items : List (String × String)) : String :=
  about.text ++ " " ++ occasion ++ " " ++ pairs items

/-- The text of a line of which the values are set off by blanks on their right. -/
def spacedLine (about : Log.Context) (occasion : String) (items : List (String × String)) :
    String :=
  line about occasion items ++ " "

/-- The text of a line about no message in particular. -/
def plainLine (occasion : String) (items : List (String × String)) : String :=
  occasion ++ " " ++ pairs items

/-- The text of a line. -/
def text : Notice → String
  | routed about kind inventoryId =>
    line about "ROUTING_DECISION" <|
      match kind with
      | .missing =>
        [("handler", "none"), ("reason", Text.quoted emptyKind), ("inventory_id", inventoryId)]
      | .unknown name =>
        [("handler", "none"), ("reason", Text.quoted unknownKind), ("type", name),
          ("inventory_id", inventoryId)]
      | kind => [("handler", kind.text), ("inventory_id", inventoryId)]
  | accountUnresolved about org why =>
    line about "ACCOUNT_RESOLVE_FAILED" [("org_id", org), ("error", why.message)]
  | accountMismatch about org kept found =>
    line about "ACCOUNT_ID_MISMATCH"
      [("org_id", org), ("cached", toString kept), ("store", toString found)]
  | accountRemembered about org account =>
    line about "ACCOUNT_CACHED" [("org_id", org), ("account_id", toString account)]
  | nothingDeleted about inventoryId =>
    spacedLine about "DELETE_NO_ROWS"
      [("inventory_id", Text.quoted inventoryId), ("reason", Text.quoted noRowsModified)]
  | deleted about inventoryId rows =>
    spacedLine about "DELETE_SUCCESS"
      [("inventory_id", Text.quoted inventoryId), ("count", toString rows)]
  | markersPruned about count =>
    line about "DELETED_MARKERS_PRUNED" [("count", toString count)]
  | pruningFailed about why =>
    line about "DELETED_MARKERS_PRUNE_FAILED" [("error", why.message)]
  | uploadRejected about verdict why =>
    line about "UPLOAD_REJECTED" [("reason", verdict.text), ("error", why.message)]
  | uploadIgnored about deletedAt =>
    line about "UPLOAD_IGNORED" [("reason", "recently-deleted"), ("when_deleted", deletedAt.logText)]
  | uploaded about inventoryId account system reporter =>
    spacedLine about "UPLOAD_SUCCESS"
      [("inventory_id", Text.quoted inventoryId), ("account_id", toString account),
        ("system_id", toString system), ("reporter", Text.quoted reporter)]
  | auditUnsent about status why =>
    spacedLine about "TRACKER_SEND_FAILED"
      [("status", Text.quoted status), ("error", Text.quoted why.message)]
  | notJson about messageId offset why =>
    line about "MESSAGE_INVALID_JSON"
      [("message_id", messageId), ("offset", toString offset), ("error", why.message)]
  | handled about messageId outcome =>
    line about "MESSAGE_HANDLED" [("message_id", messageId), ("outcome", outcome.text)]
  | retrying about messageId attempt why =>
    line about "HANDLER_RETRY"
      [("message_id", messageId), ("attempt", toString attempt), ("error", why.message)]
  | abandoned about messageId attempts why =>
    spacedLine about "HANDLER_FAILED"
      [("message_id", Text.quoted messageId), ("attempts", toString attempts),
        ("error", Text.quoted why.message)]
  | flushing reason items capacity =>
    plainLine "BUFFER_FLUSH"
      [("reason", reason.text), ("items", toString items), ("capacity", toString capacity)]
  | evaluationsUnsent topic items why =>
    plainLine "BUFFER_FLUSH_FAILED"
      [("topic", topic), ("items", toString items), ("reason", Text.quoted sendFailure),
        ("error", why.message)]
  | auditsUnsent topic items why =>
    plainLine "BUFFER_FLUSH_FAILED"
      [("topic", topic), ("items", toString items), ("reason", Text.quoted auditFailure),
        ("error", why.message)]
  | requestsDisabled => "RECALC_DISABLED"
  | requestRefused request => plainLine "RECALC_QUEUE_CLOSED" [("request", request.text)]
  | baselineUnknown account baseline why =>
    plainLine "RECALC_BASELINE_FAILED"
      [("account_id", toString account), ("baseline_id", baselineText baseline),
        ("error", why.message)]
  | requestSent systems messages =>
    plainLine "RECALC_SENT" [("systems", toString systems), ("messages", toString messages)]
  | requestUnsent systems why =>
    plainLine "RECALC_SEND_FAILED" [("systems", toString systems), ("error", why.message)]
  | requestsEnded => "RECALC_WRITER_STOPPED"
  | configured s =>
    plainLine "LISTENER_CONFIGURED"
      [("upload_topic", s.uploadTopic), ("events_topic", s.eventsTopic),
        ("eval_topic", s.evaluationTopic), ("tracker_topic", s.auditTopic),
        ("buffer", toString s.bufferSize), ("batch", toString s.batchSize),
        ("idle_ms", toString s.idleInterval), ("read_timeout_ms", toString s.readTimeout)]
  | started retries => plainLine "CONSUMER_STARTED" [("retries", toString retries)]
  | readTimedOut => "READ_TIMEOUT"
  | readFailed why => plainLine "READ_FAILED" [("error", why.message)]
  | commitFailed offset why =>
    plainLine "COMMIT_FAILED" [("offset", toString offset), ("error", why.message)]
  | closeFailed why => plainLine "READER_CLOSE_FAILED" [("error", why.message)]
  | stopped clean => plainLine "CONSUMER_STOPPED" [("clean", if clean then "true" else "false")]

/-- A line with its level before it. -/
def entry (n : Notice) : String :=
  n.level.text ++ " " ++ n.text

end Notice

end FleetRoster
