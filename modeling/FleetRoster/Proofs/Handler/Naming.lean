import FleetRoster.Proofs.Handler.Tries
import FleetRoster.Proofs.Json.Records
import FleetRoster.Proofs.Roster.Pictures

/-!
# Which host a log line names

The handler takes the inventory id of a message from the decoded event, while the log takes it from
the message as it came. The two agree on every message that can be decoded, but for two ways in which
a message can hide its host from the log: the host's id is null beside an id of the event, or the host
is given as the sequence of its fields. The log then names no host, or the one of the event's own id.
-/

namespace FleetRoster

open Json (Decoder Field Members Record Value)

/-! ## The id that handlers read -/

/-- The id of a host as it came, in an object or in the sequence of its fields. -/
def Host.idIn? : Value → Option String
  | .object members => (Members.get? members "id").bind (·.asString?)
  | .array items => items.head?.bind (·.asString?)
  | _ => none

namespace Host

theorem keeps_id : record.Keeps "id" Decoder.text.optional (·.id) where
  isField := by simp [record]
  own := by simp [record]
  others := by simp [record]

/-- The id of a decoded host is the one that came with it. -/
theorem id_of_decode {v : Value} {h : Host}
    (decoded : record.decode .value (.ofValue v) = .ok h) : h.id = idIn? v := by
  rcases Record.shape_of_decode decoded with ⟨members, rfl⟩ | ⟨items, rfl⟩
  · rcases keeps_id.of_object decoded with ⟨absent, blank⟩ | ⟨v, found, read⟩
    · rw [idIn?, absent, blank]
      rfl
    · rw [idIn?, found, Decoder.eq_asString_of_optional read]
      rfl
  · rcases keeps_id.of_array rfl rfl (by simp) decoded with
      ⟨rfl, blank⟩ | ⟨v, rest, rfl, read⟩
    · exact blank
    · exact Decoder.eq_asString_of_optional read

/-- In a host that is an object the id is a text, if it is there and not null. -/
theorem of_decode_object {members : Members} {h : Host}
    (decoded : record.decode .value (.ofValue (.object members)) = .ok h) :
    members.get? "id" = none ∨ members.get? "id" = some .null ∨
      ∃ id, members.get? "id" = some (.string id) := by
  rcases keeps_id.of_object decoded with ⟨absent, _⟩ | ⟨v, found, read⟩
  · exact .inl absent
  · rcases Decoder.optional_eq_ok read with ⟨rfl, _⟩ | ⟨_, id, text, _⟩
    · exact .inr (.inl found)
    · rw [Decoder.text_eq_ok.mp text] at found
      exact .inr (.inr ⟨id, found⟩)

end Host

namespace HostEvent

/-- The event's own id as it came. -/
def ownIdIn? (message : Value) : Option String :=
  (message.get? "id").bind (·.asString?)

theorem keeps_id : record.Keeps "id" Decoder.text.optional (·.id) where
  isField := by simp [record]
  own := by simp [record]
  others := by simp [record]

theorem keeps_host : record.Keeps "host" (Decoder.optional Host.record.decode) (·.host) where
  isField := by simp [record]
  own := by simp [record]
  others := by simp [record]

variable {message : Value} {e : HostEvent}

theorem decode_of_ofMessage (decoded : ofMessage message = .ok e) :
    record.decode .value (.ofValue message) = .ok e := by
  unfold ofMessage at decoded
  split at decoded
  next read => cases decoded; exact read
  next => contradiction

/-- The own id of a decoded event is the one that came with it. -/
theorem id_of_ofMessage {members : Members} (decoded : ofMessage (.object members) = .ok e) :
    e.id = ownIdIn? (.object members) := by
  rcases keeps_id.of_object (decode_of_ofMessage decoded) with ⟨absent, blank⟩ | ⟨v, found, read⟩
  · rw [ownIdIn?, Value.get?, absent, blank]
    rfl
  · rw [ownIdIn?, Value.get?, found, Decoder.eq_asString_of_optional read]
    rfl

/-- The host of a decoded event is the one that came with it, if it is there and not null. -/
theorem host_of_ofMessage {members : Members} (decoded : ofMessage (.object members) = .ok e) :
    (∀ v, members.get? "host" = some v → v = .null) ∧ e.host = none ∨
      ∃ v h, members.get? "host" = some v ∧ Host.record.decode .value (.ofValue v) = .ok h ∧
        e.host = some h := by
  rcases keeps_host.of_object (decode_of_ofMessage decoded) with ⟨absent, blank⟩ | ⟨v, found, read⟩
  · exact .inl ⟨by simp [absent], blank⟩
  · rcases Decoder.optional_eq_ok read with ⟨rfl, none⟩ | ⟨_, h, host, some⟩
    · exact .inl ⟨by simp [found], none⟩
    · exact .inr ⟨v, h, found, host, some⟩

/-- The inventory id of a decoded event: the id of its host, or else its own. -/
theorem inventoryId_of_ofMessage {members : Members}
    (decoded : ofMessage (.object members) = .ok e) :
    e.inventoryId = nonEmpty
      (((members.get? "host").bind Host.idIn?).or (ownIdIn? (.object members))) := by
  rw [inventoryId, id_of_ofMessage decoded]
  rcases host_of_ofMessage decoded with ⟨null, none⟩ | ⟨v, h, found, host, some⟩
  · cases found : members.get? "host" with
    | none => rw [none]; rfl
    | some v => rw [none, null v found]; rfl
  · rw [some, found, Option.bind_some, Option.bind_some, Host.id_of_decode host]

end HostEvent

/-- A message that has a kind is an object. -/
theorem EventKind.exists_members {message : Value} (known : (ofMessage message).lane ≠ .other) :
    ∃ members, message = .object members := by
  cases message with
  | object members => exact ⟨members, rfl⟩
  | _ => exact absurd rfl known

/-! ## The id that is logged -/

/-- The ways in which a message can hide its host from the log. -/
inductive HidesHost (message : Value) : Prop
  /-- The id of the host is null, and the event has an id. -/
  | null {host : Members} {own : String} (isHost : message.get? "host" = some (.object host))
      (isNull : host.get? "id" = some .null)
      (isOwn : nonEmpty (HostEvent.ownIdIn? message) = some own)
  /-- The host is given as the sequence of its fields, of which the first names another id than that of
  the event. -/
  | listed {id : String} {rest : List Value}
      (isHost : message.get? "host" = some (.array (.string id :: rest)))
      (other : nonEmpty (some id) ≠ nonEmpty (HostEvent.ownIdIn? message))

section

variable {message : Value} {e : HostEvent}

/-- The context in which a message is handled names the logged id. -/
theorem Job.about_ofMessage (message : Value) :
    (Job.ofMessage message).about.inventoryId = nonEmpty (loggedInventoryId message) :=
  rfl

/-- Where the host is not hidden the log names the one that the handler reads. -/
theorem logged_of_not_hidden {members : Members} (shown : ¬ HidesHost (.object members))
    (decoded : HostEvent.ofMessage (.object members) = .ok e) :
    nonEmpty (loggedInventoryId (.object members)) = e.inventoryId := by
  rw [HostEvent.inventoryId_of_ofMessage decoded, loggedInventoryId, Value.get?, Value.get?]
  rcases HostEvent.host_of_ofMessage decoded with ⟨null, none⟩ | ⟨v, h, found, host, some⟩
  · cases found : members.get? "host" with
    | none => rfl
    | some v => rw [null v found]; rfl
  · rw [found]
    rcases Record.shape_of_decode host with ⟨inner, rfl⟩ | ⟨items, rfl⟩
    · simp only [Option.bind_some, Value.get?, Host.idIn?]
      rcases Host.of_decode_object host with absent | isNull | ⟨id, isText⟩
      · rw [absent]
        rfl
      · rw [isNull]
        cases own : nonEmpty (HostEvent.ownIdIn? (.object members)) with
        | none => exact own.symm
        | some id => exact (shown (.null found isNull own)).elim
      · rw [isText]
        rfl
    · cases items with
      | nil => rfl
      | cons first rest =>
          cases first with
          | string id =>
              by_contra other
              exact shown (.listed found fun same => other same.symm)
          | _ => rfl

/-- Where the host is hidden the handler reads one, or a null stands in its place, and the log names the
event's own id or none at all. -/
theorem logged_of_hidden {members : Members} (hidden : HidesHost (.object members))
    (decoded : HostEvent.ofMessage (.object members) = .ok e) :
    nonEmpty (loggedInventoryId (.object members)) ≠ e.inventoryId ∧
      (nonEmpty (loggedInventoryId (.object members)) = none ∨
        nonEmpty (loggedInventoryId (.object members)) =
          nonEmpty (HostEvent.ownIdIn? (.object members))) := by
  rw [HostEvent.inventoryId_of_ofMessage decoded]
  cases hidden with
  | @null host own isHost isNull isOwn =>
      have unnamed : loggedInventoryId (.object members) = none := by
        rw [loggedInventoryId, isHost, Option.bind_some, Value.get?, isNull]
        rfl
      have unread : (members.get? "host").bind Host.idIn? = none := by
        rw [Value.get?] at isHost
        rw [isHost, Option.bind_some, Host.idIn?, isNull]
        rfl
      rw [unread, Option.none_or, unnamed, isOwn]
      exact ⟨nofun, .inl rfl⟩
  | @listed id rest isHost other =>
      have own : loggedInventoryId (.object members) = HostEvent.ownIdIn? (.object members) := by
        rw [loggedInventoryId, isHost]
        rfl
      rw [Value.get?] at isHost
      rw [isHost, own]
      exact ⟨fun same => other same.symm, .inr rfl⟩

end

/-! ## Agreement -/

/-- What the log and the handler take for the host of a message. -/
structure Naming (message : Value) (e : HostEvent) : Prop where
  /-- Once its arrival is logged, a message is attempted under the context in question. -/
  context : ∀ settings id, handleValue settings id message = do
    Flow.log (.ofMessage (.ofMessage "received" (loggedInventoryId message)) message)
    attemptMessage settings.retryDelay (Job.ofMessage message).about id
      (Job.ofMessage message).kind.lane
      ((Job.ofMessage message).handler settings.thresholdNanos) settings.retries 0
  /-- They agree unless the message hides its host from the log. -/
  agrees : (∀ id, (Job.ofMessage message).about.inventoryId = some id ↔ e.inventoryId = some id) ↔
    ¬ HidesHost message
  /-- A hidden host is not replaced by anything but the event's own id. -/
  hidden : HidesHost message → (Job.ofMessage message).about.inventoryId = none ∨
    (Job.ofMessage message).about.inventoryId = nonEmpty (HostEvent.ownIdIn? message)
  /-- A deletion is that of the host that was read. -/
  deletion : ∀ id, (Job.ofMessage message).deletion? = some id → e.inventoryId = some id
  /-- An upload is one of the host that was read. -/
  upload : ∀ r, (Job.ofMessage message).report? = some r → e.inventoryId = some r.inventoryId

/-- On every message of a known kind that can be decoded the log names the host that the handler acts on,
unless the message hides it. -/
theorem hosts_named {message : Value} {e : HostEvent}
    (known : (EventKind.ofMessage message).lane ≠ .other)
    (decoded : HostEvent.ofMessage message = .ok e) : Naming message e := by
  obtain ⟨members, rfl⟩ := EventKind.exists_members known
  have acted : (Job.ofMessage (.object members)).inventoryId? = e.inventoryId := by
    change (HostEvent.ofMessage (.object members)).toOption.bind (·.inventoryId) = _
    rw [decoded]
    rfl
  constructor
  case context => exact fun _ _ => rfl
  case agrees =>
    rw [Job.about_ofMessage, ← Option.ext_iff]
    constructor
    · exact fun same hidden => (logged_of_hidden hidden decoded).1 same
    · exact fun shown => logged_of_not_hidden shown decoded
  case hidden => exact fun hidden => (logged_of_hidden hidden decoded).2
  case deletion =>
    intro id deletes
    exact acted.symm.trans (Job.inventoryId?_of_deletion? deletes)
  case upload =>
    intro r reports
    exact acted.symm.trans (Job.inventoryId?_of_report? reports)

namespace Sample

/-- An upload of a host beside which the event has another id. -/
def named : Value :=
  .object [("host", .object [("id", .string "h")]), ("id", .string "g"), ("type", .string "created")]

/-- Its event. -/
def namedEvent : HostEvent where
  kind := some "created"
  id := some "g"
  host := some { id := some "h" }

/-- A deletion with a host of which the id is null. -/
def nameless : Value :=
  .object [("host", .object [("id", .null)]), ("id", .string "h"), ("type", .string "delete")]

/-- Its event. -/
def namelessEvent : HostEvent where
  kind := some "delete"
  id := some "h"
  host := some {}

/-- The deletion is handled. -/
def unnamed : Entry Value Unit :=
  .ofRun (handleValue {} (Log.messageId 1)) nameless world

theorem hidesHost_nameless : HidesHost nameless :=
  .null rfl rfl rfl

end Sample

theorem hosts_named_sample :
    Naming Sample.named Sample.namedEvent ∧ Naming Sample.nameless Sample.namelessEvent ∧
      (Job.ofMessage Sample.named).about.inventoryId = some "h" :=
  ⟨hosts_named nofun rfl, hosts_named nofun rfl, rfl⟩

/-- The log of a deletion names no host where the id of the host is null, while the handler deletes the
host of the event's own id. -/
theorem null_id_hides_host :
    HostEvent.ofMessage Sample.nameless = .ok Sample.namelessEvent ∧
      Sample.namelessEvent.inventoryId = some "h" ∧
      (Job.ofMessage Sample.nameless).about.inventoryId = none ∧
      Sample.unnamed.after.log =
        [.routed ⟨"received", none⟩ .delete "h", .nothingDeleted ⟨"delete", none⟩ "h",
          .handled ⟨"delete", none⟩ (Log.messageId 1) (.deleted 0)] ∧
      ¬ ∀ message e, (EventKind.ofMessage message).lane ≠ .other →
        HostEvent.ofMessage message = .ok e →
          ∀ id, (Job.ofMessage message).about.inventoryId = some id ↔ e.inventoryId = some id := by
  refine ⟨rfl, rfl, rfl, rfl, fun named => ?_⟩
  have same := named Sample.nameless Sample.namelessEvent nofun rfl
  exact (logged_of_hidden Sample.hidesHost_nameless rfl).1 (Option.ext_iff.mpr same)

end FleetRoster
