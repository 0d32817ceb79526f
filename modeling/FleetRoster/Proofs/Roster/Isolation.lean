import FleetRoster.Proofs.Buffer.Provenance
import FleetRoster.Proofs.Handler.Message
import FleetRoster.Proofs.Outbound.Evaluations
import FleetRoster.Proofs.Outbound.Wire
import FleetRoster.Proofs.Roster.Events

/-!
# Organizations are kept apart

A message names the first organization of its account and is about all uploads of that account. It is
about one organization only because every upload that was queued has the account of its own
organization, and no two organizations have the same account.
-/

namespace FleetRoster

open Calendar (Instant)

theorem HostEvent.report?_named {e : HostEvent} {r : Report} (reported : e.report? = some r) :
    r.org.isEmpty = false := by
  unfold HostEvent.report? at reported
  split at reported
  · split at reported
    next organized =>
      cases reported
      exact HostEvent.organization_named organized
    · contradiction
  · contradiction

/-- The organization of a report has a name. -/
theorem Inbound.report?_named {message : Inbound} {r : Report}
    (reported : message.report? = some r) : r.org.isEmpty = false := by
  unfold Inbound.report? EventKind.report? at reported
  split at reported
  · split at reported
    · obtain ⟨e, _, found⟩ := Option.bind_eq_some_iff.mp reported
      exact HostEvent.report?_named found
    · contradiction
  · contradiction

/-! ## Uploads -/

/-- An upload was reported by a message whose handler was done with it as evaluated, its organization
has the account that it was queued with, and its host has a row there. -/
structure Item.IsFiled (history : List (Entry Inbound Unit)) (b : Books) (item : Item) : Prop where
  reported : ∃ e ∈ history, ∃ r, e.event.report? = some r ∧
    Concludes e.deeds (.evaluated item.account) ∧ r.item item.account = item
  named : item.org.isEmpty = false
  has : b.Has item.org item.account item.inventoryId

theorem Item.IsFiled.grows {history : List (Entry Inbound Unit)} {b b' : Books} {item : Item}
    (filed : item.IsFiled history b) (grows : b.Grows b') (more : List (Entry Inbound Unit)) :
    item.IsFiled (history ++ more) b' := by
  rcases filed with ⟨⟨e, mem, reported⟩, named, has⟩
  exact ⟨⟨e, List.mem_append_left _ mem, reported⟩, named, has.grows grows⟩

/-! ## Messages -/

/-- A message is about uploads of one organization: it names the organization, whose account it has,
and pairs the host of each with its request. -/
structure Evaluation.BelongsTo (m : Evaluation) (history : List (Entry Inbound Unit)) (b : Books)
    (org : String) : Prop where
  names : m.org = some org
  owner : b.store.account? org = some ⟨m.account, org⟩
  aligned : m.requests.length = m.systems.length
  uploads : ∀ (k : Nat) (system request : String), m.systems[k]? = some system →
    m.requests[k]? = some request → (b.store.system? m.account system).isSome ∧
      ∃ e ∈ history, ∃ r, e.event.report? = some r ∧
        Concludes e.deeds (.evaluated m.account) ∧ r.org = org ∧ r.inventoryId = system ∧
          r.requestId.getD "" = request

/-- A message for uploads that were filed is about one organization. -/
theorem Evaluation.IsFrom.belongsTo {history : List (Entry Inbound Unit)} {b : Books}
    {items : List Item} {m : Evaluation} (isFrom : m.IsFrom items) (sound : b.IsSound)
    (filed : ∀ item ∈ items, item.IsFiled history b) : ∃ org, m.BelongsTo history b org := by
  rcases isFrom with ⟨some, batchSize, now, mem, all⟩
  obtain ⟨piece, inPieces, systems, requests, named⟩ := Evaluation.mem_ofItems mem
  have own : ∀ item ∈ some.filter (·.account == m.account),
      item.account = m.account ∧ item.IsFiled history b := by
    intro item inGroup
    obtain ⟨inSome, same⟩ := List.mem_filter.mp inGroup
    exact ⟨by simpa using same, filed item (all item inSome)⟩
  cases group : some.filter (·.account == m.account) with
  | nil =>
      rw [group, pieces] at inPieces
      contradiction
  | cons leader rest =>
      rw [group] at inPieces named own
      obtain ⟨leaderAccount, leaderFiled⟩ := own leader (by simp)
      have owner : b.store.account? leader.org = .some ⟨m.account, leader.org⟩ :=
        leaderAccount ▸ leaderFiled.has.owner
      refine ⟨leader.org, ?_, owner, by rw [systems, requests, List.length_map, List.length_map],
        ?_⟩
      · rw [named, List.find?_cons_of_pos (by simp [leaderFiled.named])]
        rfl
      · intro k system request atSystems atRequests
        rw [systems, List.getElem?_map, Option.map_eq_some_iff] at atSystems
        rw [requests, List.getElem?_map, Option.map_eq_some_iff] at atRequests
        obtain ⟨item, found, rfl⟩ := atSystems
        obtain ⟨item', foundAlso, rfl⟩ := atRequests
        cases found.symm.trans foundAlso
        obtain ⟨account, reported, _, has⟩ :=
          own item (mem_of_mem_pieces inPieces (List.mem_of_getElem? found))
        rw [account] at reported has
        obtain ⟨e, inHistory, r, isReport, concludes, rfl⟩ := reported
        exact ⟨has.row, e, inHistory, r, isReport, concludes,
          sound.store.org_unique has.owner owner, rfl, rfl⟩

/-! ## Runs -/

/-- Whatever was queued was filed, and nothing else waits or was sent. -/
structure World.Files (history : List (Entry Inbound Unit)) (w : World) : Prop where
  sound : w.books.IsSound
  filed : ∀ item ∈ history.flatMap (·.items), item.IsFiled history w.books
  holds : w.Holds (history.flatMap (·.items))

namespace World.Files

variable {settings : Settings} {history : List (Entry Inbound Unit)} {w w' : World}

theorem meanwhile (files : w.Files history) (meanwhile : w.Meanwhile w') : w'.Files history where
  sound := meanwhile.books ▸ files.sound
  filed := meanwhile.books ▸ files.filed
  holds := files.holds.meanwhile meanwhile

/-- A message that is handled files what it queues. -/
theorem event {e : Entry Inbound Unit} (files : e.before.Files history)
    (takes : (handleMessage settings e.event).Takes World.Meanwhile e.before e.deeds e.after
      e.ending) : e.after.Files (history ++ [e]) := by
  have dealt : Dealt e.event.report? e.before.books e.deeds e.after.books :=
    (leads_handleMessage settings e.event e.before.books).inBooks World.Meanwhile.books takes
  have items : (history ++ [e]).flatMap (·.items) =
      history.flatMap (·.items) ++ itemsOf e.deeds := by
    rw [List.flatMap_append, List.flatMap_singleton]
    rfl
  constructor
  · exact dealt.grows.sound files.sound
  · rw [items]
    intro item mem
    rcases List.mem_append.mp mem with old | new
    · exact (files.filed item old).grows dealt.grows [e]
    · rcases dealt.queues with none | ⟨r, account, reported, queued, concludes, has⟩
      · rw [none] at new
        contradiction
      · rw [queued, List.mem_singleton] at new
        subst new
        exact ⟨⟨e, by simp, r, reported, concludes, rfl⟩, Inbound.report?_named reported,
          has files.sound⟩
  · rw [items]
    exact files.holds.takes takes

end World.Files

/-- What was sent is about one organization in every message, and so is what would be sent next. -/
structure Isolates (history : List (Entry Inbound Unit)) (w : World) : Prop where
  /-- The messages are read back from the topic if their accounts and times can be written. -/
  sent : ∃ ms : List Evaluation, w.evaluations.messages = ms.map (·.toValue.text) ∧
    ((∀ m ∈ ms, m.IsWritable) → w.evaluations.payloads Evaluation.decode = .ok ms) ∧
      ∀ m ∈ ms, ∃ org, m.BelongsTo history w.books org
  next : ∀ batchSize now, ∀ m ∈ Evaluation.ofItems w.buffer.items batchSize now,
    ∃ org, m.BelongsTo history w.books org

/-- Organizations are kept apart: when nothing was stored, remembered, queued or sent before, then
whatever messages were handled, with any flushes and other things going on meanwhile, every message
to the evaluator is about uploads of one organization. -/
theorem messages_isolated {settings : Settings} {start w : World}
    {history : List (Entry Inbound Unit)}
    (handled : Handled (handleMessage settings) World.Meanwhile start history w)
    (store : start.store = {}) (accounts : start.accounts = [])
    (buffer : start.buffer.items = []) (messages : start.evaluations.messages = []) :
    Isolates history w := by
  have files : w.Files history := by
    induction handled with
    | start =>
        constructor
        · rw [World.books, store, accounts]
          exact Books.isSound_empty
        · simp
        · constructor
          · simp [buffer]
          · exact ⟨[], messages, by simp⟩
    | aside before others ih => exact ih.meanwhile others
    | event before takes ih => exact ih.event takes
  constructor
  · obtain ⟨ms, same, all⟩ := files.holds.sent
    refine ⟨ms, same, fun writable => ?_, fun m mem => ?_⟩
    · exact Topic.payloads_of_texts (fun m mem => Evaluation.decode_payload (writable m mem)) same
    · exact (all m mem).belongsTo files.sound files.filed
  · intro batchSize now m mem
    have isFrom : m.IsFrom (history.flatMap (·.items)) :=
      ⟨_, batchSize, now, mem, files.holds.waiting⟩
    exact isFrom.belongsTo files.sound files.filed

namespace Sample

/-- A host of one organization. -/
def here : Inbound where
  offset := 0
  payload := Text.payload
    "\x7b\"type\": \"created\", \"host\": \x7b\"id\": \"g\", \"org_id\": \"o\"\x7d\x7d"

/-- A host of another organization. -/
def there : Inbound where
  offset := 1
  payload := Text.payload
    "\x7b\"type\": \"created\", \"host\": \x7b\"id\": \"h\", \"org_id\": \"p\"\x7d\x7d"

/-- The first host is queued. -/
def queued : Entry Inbound Unit :=
  .ofRun (handleMessage {}) here world

/-- The second one fills the buffer, and both are sent. -/
def sent : Entry Inbound Unit :=
  .ofRun (handleMessage {}) there queued.after

end Sample

theorem messages_isolated_sample :
    Sample.sent.after.evaluations.messages.length = 2 ∧
      Isolates [Sample.queued, Sample.sent] Sample.sent.after := by
  have timely : ∀ w ms, World.Meanwhile w (w.after ms) := fun _ _ => .others rfl rfl rfl
  refine ⟨by decide +kernel, ?_⟩
  exact messages_isolated ((Handled.start.run timely Sample.here).run timely Sample.there)
    rfl rfl rfl rfl

end FleetRoster
