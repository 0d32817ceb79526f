import FleetRoster.Outbound.Audit
import FleetRoster.Outbound.Evaluation
import FleetRoster.Outbound.Topic
import FleetRoster.Proofs.Json.Decoding

/-!
# Messages come back from their topics

What is sent is written as an object in bytes and kept by its topic. Evaluation messages and audit
events are decoded from these bytes as they were: what was left out because it was absent or empty
is absent or empty again, and no text is taken for another. So a topic holds the values that were
sent to it, in the order in which they were sent.
-/

namespace FleetRoster

open Calendar (Instant)
open Json (Decoder Sketch Value depthLimit)
open Json.Record (decode_of_builds)

/-- A text that was written for a value is decoded as the value is. -/
theorem Json.decode_payload_text {α : Type} {d : Decoder α} {v : Value} {a : α}
    (integral : v.IsIntegral) (decoded : d (.text depthLimit) (Sketch.ofValue v) = .ok a) :
    Json.decode d (Text.payload v.text) = .ok a := by
  rw [← Text.decodeBytes_encodeBytes, Json.decode_text d integral, decoded]

/-- A message is the text of a value, and whoever decodes it finds the value, if that can be
written. -/
structure IsMessageOf {α : Type} (write : α → Value) (d : Decoder α) (writable : α → Prop) (a : α)
    (message : String) : Prop where
  text : message = (write a).text
  value : writable a → Json.decode d (Text.payload message) = .ok a

/-! ## Evaluation messages -/

namespace Evaluation

/-- A message that can be written: its account is an integer of thirty-two bits, and its time is
read back from its text. -/
structure IsWritable (m : Evaluation) : Prop where
  account : -2 ^ 31 ≤ m.account ∧ m.account < 2 ^ 31
  timestamp : m.timestamp.ReadsBack

variable {m : Evaluation}

/-- A message is decoded from its object, with and without organization and requests. -/
theorem decode_toValue (writable : m.IsWritable) :
    Evaluation.decode (.text depthLimit) (Sketch.ofValue m.toValue) = .ok m := by
  rcases m with ⟨timestamp, account, org, systems, requests⟩
  have readTime : Decoder.timestamp (.text 127) (Sketch.ofValue (.timestamp timestamp)) =
      .ok timestamp := Decoder.timestamp_timestamp writable.timestamp
  have readAccount : Decoder.int32 (.text 127) (Sketch.ofValue (.int account)) = .ok account :=
    Decoder.int32_int writable.account
  have readOrg (org : String) :
      Decoder.text.optional (.text 127) (Sketch.ofValue (.string org)) = .ok (some org) := rfl
  have readTexts (texts : List String) :
      Decoder.text.list (.text 127) (Sketch.ofValue (.texts texts)) = .ok texts :=
    Decoder.list_texts rfl texts
  -- which members are written depends on the optional fields, so each case builds its own record
  refine decode_of_builds (by decide) (.field rfl rfl readTime (.field rfl rfl readAccount ?_))
  rcases org with _ | org
  on_goal 1 => refine .field rfl rfl (readTexts systems) ?_
  on_goal 2 => refine .field rfl rfl (readOrg org) (.field rfl rfl (readTexts systems) ?_)
  all_goals
    cases requests with
    | nil => exact .done rfl
    | cons first others => exact .field rfl rfl (readTexts (first :: others)) (.done rfl)

theorem isIntegral_toValue (writable : m.IsWritable) : m.toValue.IsIntegral := by
  obtain ⟨low, high⟩ := writable.account
  have word : Json.IsWord m.account := ⟨by omega, by omega⟩
  have time : (Value.timestamp m.timestamp).IsIntegral := trivial
  have number : (Value.int m.account).IsIntegral := word
  rw [toValue, Value.IsIntegral, Value.membersIntegral_iff]
  simp [or_imp, forall_and, time, number]

theorem decode_payload (writable : m.IsWritable) :
    Json.decode Evaluation.decode (Text.payload m.toValue.text) = .ok m :=
  Json.decode_payload_text (isIntegral_toValue writable) (decode_toValue writable)

/-- Who reads a message finds this evaluation message. -/
def IsReadFrom : Evaluation → String → Prop :=
  IsMessageOf toValue decode IsWritable

theorem isReadFrom_text (m : Evaluation) : m.IsReadFrom m.toValue.text :=
  ⟨rfl, decode_payload⟩

end Evaluation

/-! ## Audit events -/

namespace Audit

/-- An event that can be written: its date is read back from its text, if it has one. -/
def IsWritable (e : Audit) : Prop :=
  ∀ date ∈ e.date, date.ReadsBack

variable {e : Audit}

/-- An event is decoded from its object, with and without organization and reason. -/
theorem decode_toValue (writable : e.IsWritable) :
    Audit.decode (.text depthLimit) (Sketch.ofValue e.toValue) = .ok e := by
  rcases e with ⟨service, org, request, inventoryId, status, detail, date⟩
  have readText (s : String) : Decoder.text (.text 127) (Sketch.ofValue (.string s)) = .ok s := rfl
  have readOrg (org : String) :
      Decoder.text.optional (.text 127) (Sketch.ofValue (.string org)) = .ok (some org) := rfl
  have readRequest : Decoder.text.optional (.text 127) (Sketch.ofValue (.orNull .string request)) =
      .ok request := Decoder.optional_orNull (fun _ _ => nofun) fun s _ => readText s
  have readDate :
      Decoder.timestamp.optional (.text 127) (Sketch.ofValue (.orNull .timestamp date)) =
        .ok date :=
    Decoder.optional_orNull (fun _ _ => nofun) fun _ mem =>
      Decoder.timestamp_timestamp (writable _ mem)
  refine decode_of_builds (by decide) (.field rfl rfl (readText service) ?_)
  rcases org with _ | org
  on_goal 1 => refine .field rfl rfl readRequest ?_
  on_goal 2 => refine .field rfl rfl (readOrg org) (.field rfl rfl readRequest ?_)
  all_goals
    refine .field rfl rfl (readText inventoryId) (.field rfl rfl (readText status) ?_)
    by_cases empty : detail.isEmpty
    · obtain rfl : detail = "" := by simpa using empty
      exact .field rfl rfl readDate (.done rfl)
    · rw [if_neg empty]
      exact .field rfl rfl (readText detail) (.field rfl rfl readDate (.done rfl))

theorem isIntegral_toValue (e : Audit) : e.toValue.IsIntegral := by
  have request : (Value.orNull .string e.requestId).IsIntegral :=
    Value.isIntegral_orNull Value.isIntegral_string
  have date : (Value.orNull .timestamp e.date).IsIntegral :=
    Value.isIntegral_orNull fun a => Value.isIntegral_string a.text
  rw [toValue, Value.IsIntegral, Value.membersIntegral_iff]
  simp [or_imp, forall_and, request, date]

theorem decode_payload (writable : e.IsWritable) :
    Json.decode Audit.decode (Text.payload e.toValue.text) = .ok e :=
  Json.decode_payload_text e.isIntegral_toValue (decode_toValue writable)

/-- Who reads a message finds this audit event. -/
def IsReadFrom : Audit → String → Prop :=
  IsMessageOf toValue decode IsWritable

theorem isReadFrom_text (e : Audit) : e.IsReadFrom e.toValue.text :=
  ⟨rfl, decode_payload⟩

end Audit

/-! ## Topics -/

namespace Topic

variable {α : Type}

/-- Offers a batch of values. -/
def offer (t : Topic) (write : α → Value) (batch : List α) : Topic × Except Fault Nat :=
  t.write (batch.map fun a => (write a).text)

/-- Offers batches of values one after another; each batch is kept with what was answered to it. -/
def offerAll (t : Topic) (write : α → Value) :
    List (List α) → Topic × List (List α × Except Fault Nat)
  | [] => (t, [])
  | batch :: rest =>
    let (offered, answer) := t.offer write batch
    let (last, answers) := offered.offerAll write rest
    (last, (batch, answer) :: answers)

/-- The values of the batches that were taken. -/
def takenOf (answers : List (List α × Except Fault Nat)) : List α :=
  (answers.filter (·.2.isOk)).flatMap (·.1)

variable {t : Topic} {write : α → Value} {d : Decoder α}

/-- A batch has been taken or refused, and only what was taken is held. -/
theorem messages_offer (t : Topic) (write : α → Value) (batch : List α) :
    (t.offer write batch).1.messages = t.messages ++
      if (t.offer write batch).2.isOk then batch.map fun a => (write a).text else [] := by
  rw [offer, Topic.write]
  split
  next empty => simp [List.isEmpty_iff.mp empty, Except.isOk, Except.toBool]
  next =>
    split
    next => simp [Except.isOk, Except.toBool]
    next => simp [Except.isOk, Except.toBool]

theorem mapM_texts {batch : List α} {read : String → Except Fault α}
    (reads : ∀ a ∈ batch, read (write a).text = .ok a) :
    (batch.map fun a => (write a).text).mapM read = .ok batch := by
  induction batch with
  | nil => rfl
  | cons a batch ih =>
      rw [List.forall_mem_cons] at reads
      rw [List.map_cons, List.mapM_cons, reads.1, ih reads.2]
      rfl

/-- A topic that holds the texts of values that are read back holds these values. -/
theorem payloads_of_texts {batch : List α}
    (reads : ∀ a ∈ batch, Json.decode d (Text.payload (write a).text) = .ok a)
    (messages : t.messages = batch.map fun a => (write a).text) : t.payloads d = .ok batch := by
  rw [payloads, messages, mapM_texts fun a mem => by rw [reads a mem]]

/-- The values of added texts that are read back are added. -/
theorem payloads_of_messages {before batch : List α} (held : t.payloads d = .ok before)
    (reads : ∀ a ∈ batch, Json.decode d (Text.payload (write a).text) = .ok a) {later : Topic}
    (messages : later.messages = t.messages ++ batch.map fun a => (write a).text) :
    later.payloads d = .ok (before ++ batch) := by
  rw [payloads] at held
  rw [payloads, messages, List.mapM_append, held, mapM_texts fun a mem => by rw [reads a mem]]
  rfl

theorem payloads_offer {before batch : List α} (held : t.payloads d = .ok before)
    (reads : ∀ a ∈ batch, Json.decode d (Text.payload (write a).text) = .ok a) :
    (t.offer write batch).1.payloads d =
      .ok (before ++ if (t.offer write batch).2.isOk then batch else []) := by
  have messages := messages_offer t write batch
  split at messages
  next taken => rw [if_pos taken, payloads_of_messages held reads messages]
  next refused =>
    have nothing : (t.offer write batch).1.messages =
        t.messages ++ ([] : List α).map fun a => (write a).text := messages
    rw [if_neg refused, payloads_of_messages held (List.forall_mem_nil _) nothing]

/-- What a topic held before stays in front, and the values of the batches that it took follow. -/
theorem payloads_offerAll {before : List α} {batches : List (List α)}
    (held : t.payloads d = .ok before)
    (reads : ∀ batch ∈ batches, ∀ a ∈ batch, Json.decode d (Text.payload (write a).text) = .ok a) :
    (t.offerAll write batches).1.payloads d =
      .ok (before ++ takenOf (t.offerAll write batches).2) := by
  induction batches generalizing t before with
  | nil => simpa [offerAll, takenOf] using held
  | cons batch rest ih =>
      rw [List.forall_mem_cons] at reads
      have others := ih (payloads_offer held reads.1) reads.2
      simp only [offerAll, others, takenOf, List.filter_cons]
      split <;> simp

/-- If no batch was refused, all of them were taken. -/
theorem takenOf_offerAll {batches : List (List α)}
    (taken : ∀ answer ∈ (t.offerAll write batches).2, answer.2.isOk = true) :
    takenOf (t.offerAll write batches).2 = batches.flatten := by
  induction batches generalizing t with
  | nil => rfl
  | cons batch rest ih =>
      rw [offerAll, List.forall_mem_cons] at taken
      have others := ih taken.2
      rw [takenOf] at others
      simp only [offerAll, takenOf, List.filter_cons, taken.1]
      simp [others]

theorem offer_available (available : ∀ n, t.outage n = false) (batch : List α) :
    (t.offer write batch).2.isOk = true ∧ ∀ n, (t.offer write batch).1.outage n = false := by
  rw [offer, Topic.write]
  split
  next => exact ⟨rfl, available⟩
  next =>
    rw [available, if_neg (by decide)]
    exact ⟨rfl, available⟩

/-- A topic without an outage takes every batch. -/
theorem isOk_of_mem_offerAll (available : ∀ n, t.outage n = false) {batches : List (List α)} :
    ∀ answer ∈ (t.offerAll write batches).2, answer.2.isOk = true := by
  induction batches generalizing t with
  | nil => nofun
  | cons batch rest ih =>
      obtain ⟨taken, still⟩ := offer_available available batch
      rw [offerAll, List.forall_mem_cons]
      exact ⟨taken, ih still⟩

end Topic

/-! ## Both kinds of messages -/

/-- The form in which the values of a type are sent. -/
structure IsWireForm {α : Type} (write : α → Value) (d : Decoder α) (writable : α → Prop) :
    Prop where
  /-- The bytes that are written for a value are decoded as that value. -/
  bytes : ∀ {a}, writable a →
    Json.decode d (Text.decodeBytes (Text.encodeBytes (write a).text)) = .ok a
  /-- If every batch is taken, a topic holds the values of all batches behind those that it held. -/
  sent : ∀ {t : Topic} {before : List α} {batches : List (List α)}, t.payloads d = .ok before →
    (∀ batch ∈ batches, ∀ a ∈ batch, writable a) →
    (∀ answer ∈ (t.offerAll write batches).2, answer.2.isOk = true) →
      (t.offerAll write batches).1.payloads d = .ok (before ++ batches.flatten)
  /-- If some batches are refused, their values are missing, and nothing else is changed. -/
  offered : ∀ {t : Topic} {before : List α} {batches : List (List α)}, t.payloads d = .ok before →
    (∀ batch ∈ batches, ∀ a ∈ batch, writable a) →
      (t.offerAll write batches).1.payloads d =
        .ok (before ++ Topic.takenOf (t.offerAll write batches).2)
  /-- A topic without an outage takes every batch. -/
  available : ∀ {t : Topic} {batches : List (List α)}, (∀ n, t.outage n = false) →
    ∀ answer ∈ (t.offerAll write batches).2, answer.2.isOk = true

/-- Values whose objects have numbers of sixty-four bits and are decoded as they are make a form. -/
theorem isWireForm_of {α : Type} {write : α → Value} {d : Decoder α} {writable : α → Prop}
    (integral : ∀ {a}, writable a → (write a).IsIntegral)
    (decoded : ∀ {a}, writable a → d (.text depthLimit) (Sketch.ofValue (write a)) = .ok a) :
    IsWireForm write d writable := by
  have bytes {a : α} (ready : writable a) :
      Json.decode d (Text.decodeBytes (Text.encodeBytes (write a).text)) = .ok a := by
    rw [Json.decode_text d (integral ready), decoded ready]
  have reads {batches : List (List α)} (ready : ∀ batch ∈ batches, ∀ a ∈ batch, writable a) :
      ∀ batch ∈ batches, ∀ a ∈ batch, Json.decode d (Text.payload (write a).text) = .ok a := by
    intro batch mem a there
    have present := ready batch mem a there
    exact Json.decode_payload_text (integral present) (decoded present)
  refine ⟨bytes, fun held ready taken => ?_, fun held ready => ?_,
    fun available => Topic.isOk_of_mem_offerAll available⟩
  · rw [Topic.payloads_offerAll held (reads ready), Topic.takenOf_offerAll taken]
  · exact Topic.payloads_offerAll held (reads ready)

/-- What is sent comes back. -/
structure WireFaithful : Prop where
  /-- An evaluation message with an account of thirty-two bits and a time that is read back. -/
  evaluations : IsWireForm Evaluation.toValue Evaluation.decode Evaluation.IsWritable
  /-- An audit event, with no date or one that is read back. -/
  audits : IsWireForm Audit.toValue Audit.decode Audit.IsWritable
  /-- Every instant that a clock can show is read back, if a leap second ends a minute. -/
  instants : ∀ {a : Instant}, a.IsValid → a.LeapsAtMinuteEnd → a.ReadsBack

/-- Evaluation messages and audit events come back from their bytes and from their topics as they
were sent, whatever their texts hold and whichever of their fields are empty or absent. -/
theorem wire_faithful : WireFaithful where
  evaluations := isWireForm_of Evaluation.isIntegral_toValue Evaluation.decode_toValue
  audits := isWireForm_of (fun {e} _ => Audit.isIntegral_toValue e) Audit.decode_toValue
  instants := Calendar.Instant.readsBack

end FleetRoster
