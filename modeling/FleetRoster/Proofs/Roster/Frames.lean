import FleetRoster.Proofs.Handler.Setbacks
import FleetRoster.Proofs.Handler.Trails
import FleetRoster.Proofs.Roster.Rows

/-!
# What an event leaves alone

An event touches what its outcome says and nothing else. One that is skipped, turned down or ignored,
or that fails because of its message, leaves no trace in the store, the remembered accounts, the
buffer and the topic of the evaluations. An upload that the store refuses may have opened an account.
A deletion changes the marks of the rows of its host, sets its marker and clears away old ones. An
upload that is evaluated changes the one row of its host in its account and adds to the buffer once.
-/

namespace FleetRoster

open Calendar (Instant)
open FleetRoster.Flow

/-! ## Tables -/

namespace Store

variable (s : Store)

/-- The rows under other keys. -/
def rowsBut (account : Int) (inventoryId : String) : List SystemRow :=
  s.systems.filter fun r => !r.hasKey account inventoryId

/-- The markers of other hosts. -/
def markersBut (inventoryId : String) : List Marker :=
  s.markers.filter fun m => m.inventoryId != inventoryId

theorem rowsBut_upsertSystem (u : Upload) :
    (s.upsertSystem u).1.rowsBut u.account u.inventoryId = s.rowsBut u.account u.inventoryId := by
  cases looked : s.system? u.account u.inventoryId with
  | none =>
      have key : (SystemRow.unwritten (s.lastSystem + 1) u.account u.inventoryId).hasKey
          u.account u.inventoryId = true := by
        simp [SystemRow.hasKey, SystemRow.unwritten]
      rw [upsertSystem_of_none looked]
      simp [rowsBut, key]
  | some r =>
      have key := hasKey_of_system? looked
      rw [upsertSystem_of_some looked]
      simp only [rowsBut, List.filter_map]
      have same : ∀ x ∈ s.systems.filter fun x => !x.hasKey u.account u.inventoryId,
          (if x.hasKey u.account u.inventoryId then r.take u else x) = x := by
        intro x mem
        have other : x.hasKey u.account u.inventoryId = false := by
          simpa using (List.mem_filter.mp mem).2
        rw [other, if_neg Bool.false_ne_true]
      have keeps : ((fun x => !SystemRow.hasKey x u.account u.inventoryId) ∘
          fun x => if x.hasKey u.account u.inventoryId then r.take u else x) =
            fun x => !x.hasKey u.account u.inventoryId := by
        funext x
        by_cases own : x.hasKey u.account u.inventoryId <;> simp [own, key]
      rw [keeps, List.map_congr_left same, List.map_id']

theorem markersBut_upsertMarker (inventoryId : String) (time : Instant) :
    (s.upsertMarker inventoryId time).markersBut inventoryId = s.markersBut inventoryId := by
  unfold upsertMarker
  split
  · simp [markersBut]
  · simp only [markersBut, List.filter_map]
    have same : ∀ m ∈ s.markers.filter fun m => m.inventoryId != inventoryId,
        (if m.inventoryId == inventoryId then ⟨inventoryId, time⟩ else m) = m := by
      intro m mem
      have other : (m.inventoryId == inventoryId) = false := by
        simpa using (List.mem_filter.mp mem).2
      rw [other, if_neg Bool.false_ne_true]
    have keeps : ((fun m => Marker.inventoryId m != inventoryId) ∘
        fun m => if m.inventoryId == inventoryId then (⟨inventoryId, time⟩ : Marker) else m) =
          fun m => m.inventoryId != inventoryId := by
      funext m
      by_cases own : m.inventoryId = inventoryId <;> simp [own]
    rw [keeps, List.map_congr_left same, List.map_id']

theorem markersBut_pruneMarkers (inventoryId : String) (limit : Instant) :
    (s.pruneMarkers limit).1.markersBut inventoryId =
      (s.markersBut inventoryId).filter fun m => !m.deletedAt.before limit := by
  simp only [markersBut, pruneMarkers, List.filter_filter, Bool.and_comm]

theorem markStale_systems (inventoryId : String) (time : Instant) :
    (s.markStale inventoryId time).1.systems =
      s.systems.map fun r => if r.inventoryId = inventoryId then r.markedStale time else r := by
  simp only [markStale, beq_iff_eq]
  rfl

end Store

/-! ## Accounts -/

namespace Books

/-- Nothing is different in the accounts, but that one may have been opened for an organization that
had none, and remembered. -/
structure Opens (b b' : Books) (org : String) : Prop where
  accounts : b'.store.accounts = b.store.accounts ∨
    b.store.account? org = none ∧ ∃ id, b'.store.accounts = b.store.accounts ++ [⟨id, org⟩]
  remembered : b'.accounts = b.accounts ∨
    b.known org = none ∧ ∃ account, b'.accounts = b.accounts ++ [(org, account)]

variable {b b' : Books} {org : String} {account : Int}

theorem Opens.refl (b : Books) (org : String) : b.Opens b org :=
  ⟨.inl rfl, .inl rfl⟩

theorem Resolves.opens (resolves : b.Resolves org account b') : b.Opens b' org := by
  cases resolves with
  | known found => exact .refl b org
  | made unknown =>
      refine ⟨?_, .inr ⟨unknown, _, rfl⟩⟩
      change (b.store.upsertAccount org).1.accounts = _ ∨ _ ∧ ∃ id,
        (b.store.upsertAccount org).1.accounts = _
      unfold Store.upsertAccount
      split
      · exact .inl rfl
      next absent => exact .inr ⟨absent, _, rfl⟩

/-- The account that was resolved is remembered. -/
theorem Resolves.remembered (resolves : b.Resolves org account b') : b'.known org = some account := by
  cases resolves with
  | known found => exact found
  | made unknown =>
      rw [known_remembering (b := { b with store := (b.store.upsertAccount org).1 }) unknown,
        if_pos rfl]

end Books

/-! ## The buffer -/

namespace World

/-- The buffer and the topic of the evaluations are as before. -/
structure Unqueued (w w' : World) : Prop where
  buffer : w'.buffer = w.buffer
  evaluations : w'.evaluations = w.evaluations

variable {w w' : World}

theorem Unqueued.refl (w : World) : w.Unqueued w :=
  ⟨rfl, rfl⟩

theorem Unqueued.trans {w'' : World} (first : w.Unqueued w') (second : w'.Unqueued w'') :
    w.Unqueued w'' :=
  ⟨second.buffer.trans first.buffer, second.evaluations.trans first.evaluations⟩

theorem Inside.unqueued (inside : w.Inside w') : w.Unqueued w' :=
  ⟨inside.buffer, inside.topic .evaluations⟩

theorem Elapses.unqueued (elapses : w.Elapses w') : w.Unqueued w' :=
  elapses.inside.unqueued

/-- An effect that queues nothing leaves the buffer and the evaluations alone. -/
theorem unqueued_happen {effect : Effect} (none : ∀ answer, Deed.item? ⟨effect, answer⟩ = none)
    (w : World) : w.Unqueued (World.happen effect w).1 := by
  cases effect with
  | now => exact ⟨rfl, rfl⟩
  | next series => cases series <;> exact ⟨rfl, rfl⟩
  | store call => exact (w.inside_call call).unqueued
  | known org => exact .refl w
  | remember org account => exact (w.inside_remember org account).unqueued
  | buffer item audit => exact nomatch none Option.none
  | sendAudit audit => exact ⟨rfl, rfl⟩
  | sendTargets targets batchSize => exact ⟨rfl, rfl⟩
  | count lane verdict => exact ⟨rfl, rfl⟩
  | countFailedSend channel => exact ⟨rfl, rfl⟩
  | log notice => exact ⟨rfl, rfl⟩
  | sleep ms => exact .refl w

/-- An upload was put into the buffer. Either there is room left, or all that waited was offered to
the topic of the evaluations in one batch and the buffer is empty. -/
inductive Queues (w w' : World) (item : Item) : Prop
  | waits (audit : Audit) (time : Nat) (room : ¬ (w.buffer.push time item audit).isFull)
      (buffer : w'.buffer = w.buffer.push time item audit)
      (evaluations : w'.evaluations = w.evaluations)
  | flushed (audit : Audit) (time : Nat) (now : Instant)
      (full : (w.buffer.push time item audit).isFull)
      (buffer : w'.buffer = (w.buffer.push time item audit).emptied)
      (evaluations : w'.evaluations = (w.evaluations.write
        (evaluationTexts (w.buffer.items ++ [item]) w.buffer.batchSize now)).1)

/-- A flush of what waits offers it to the topic of the evaluations and empties the buffer. -/
theorem flush_spec (some : w.buffer.items ≠ []) (reason : FlushReason) :
    (w.flush reason).1.buffer = w.buffer.emptied ∧
      (w.flush reason).1.evaluations = (w.evaluations.write w.evaluationsDue).1 := by
  have waits : w.buffer.items.isEmpty = false := by simpa using some
  simp only [World.flush, waits, Bool.false_eq_true, if_false]
  generalize noted : w.note (.flushing reason w.buffer.items.length w.buffer.capacity) = met
  have sent := met.flushItems_spec
  have told := met.flushItems.1.flushAudits_spec
  refine ⟨congrArg Buffer.emptied (told.2.2.1.trans sent.2.2.1) |>.trans ?_,
    (told.2.1.trans sent.1).trans ?_⟩
  · rw [← noted]
    rfl
  · rw [← noted]
    rfl

theorem queues_add (w : World) (item : Item) (audit : Audit) :
    w.Queues (w.add item audit).1 item := by
  by_cases full : (w.buffer.push w.time item audit).isFull
  · rw [add_of_full full]
    have flushed := flush_spec (w := { w with buffer := w.buffer.push w.time item audit })
      (by simp [Buffer.push]) .full
    exact .flushed audit w.time (w.clock w.readings) full flushed.1 flushed.2
  · rw [add_of_not_full full]
    exact .waits audit w.time full rfl rfl

/-- An upload that was put into the buffer was put into it in any world that it was not put into
before, or since. -/
theorem Queues.widen {outer outer' : World} {item : Item} (queues : w.Queues w' item)
    (before : outer.Unqueued w) (after : w'.Unqueued outer') : outer.Queues outer' item := by
  cases queues with
  | waits audit time room buffer evaluations =>
      rw [before.buffer] at room buffer
      exact .waits audit time room (after.buffer.trans buffer)
        ((after.evaluations.trans evaluations).trans before.evaluations)
  | flushed audit time now full buffer evaluations =>
      rw [before.buffer] at full buffer
      rw [before.buffer, before.evaluations] at evaluations
      exact .flushed audit time now full (after.buffer.trans buffer)
        (after.evaluations.trans evaluations)

end World

namespace Flow

variable {α : Type} {x : Flow α} {w w' : World} {deeds : List Deed} {ending : Ending α}

theorem itemsOf_cons (deed : Deed) (deeds : List Deed) :
    itemsOf (deed :: deeds) = deed.item?.toList ++ itemsOf deeds := by
  cases queued : deed.item? <;> simp [itemsOf, queued]

/-- A flow that queues nothing leaves the buffer and the evaluations alone. -/
theorem Takes.unqueued (takes : x.Takes World.Elapses w deeds w' ending)
    (none : itemsOf deeds = []) : w.Unqueued w' := by
  induction takes with
  | stop ending w => exact .refl w
  | aside others rest ih => exact others.unqueued.trans (ih none)
  | @ask effect next w w' deeds ending rest ih =>
      rw [itemsOf_cons, List.append_eq_nil_iff] at none
      have own : ∀ answer, Deed.item? ⟨effect, answer⟩ = Option.none := by
        have one := Option.toList_eq_nil_iff.mp none.1
        cases effect with
        | buffer item audit => exact nomatch one
        | _ => exact fun _ => rfl
      exact (World.unqueued_happen own w).trans (ih none.2)

/-- A flow that queues one upload puts it into the buffer once. -/
theorem Takes.queues {item : Item} (takes : x.Takes World.Elapses w deeds w' ending)
    (one : itemsOf deeds = [item]) : w.Queues w' item := by
  induction takes with
  | stop ending w => exact nomatch one
  | aside others rest ih => exact (ih one).widen others.unqueued (.refl _)
  | @ask effect next w w' deeds ending rest ih =>
      rw [itemsOf_cons] at one
      cases effect with
      | buffer queued audit =>
          obtain ⟨rfl, none⟩ := List.cons_eq_cons.mp one
          exact (World.queues_add w queued audit).widen (.refl w) (rest.unqueued none)
      | _ => exact (ih one).widen (World.unqueued_happen (fun _ => rfl) w) (.refl _)

end Flow

/-! ## The number of rows -/

section

variable {b : Books}

theorem leads_finishCount (threshold : Nat) (about : Log.Context) (inventoryId : String)
    (time : Instant) (rows : Nat) :
    (finishDelete threshold about inventoryId time rows).Leads Books.Acts b <| Told
      fun _ _ ending _ => ∀ count, ending = .done (.deleted count) → count = rows := by
  have cleared : (clearOutdated threshold about time rows).Leads Books.Acts b <| Told
      fun _ _ ending _ => ∀ count, ending = .done (.deleted count) → count = rows := by
    unfold clearOutdated
    split
    · exact fun _ crashed => nomatch crashed
    next limit _ =>
      apply leads_bind_told
      apply (leads_pruneMarkers about limit).mono_told
      rintro readings items ending b' ⟨rfl, rfl, rfl, _⟩ count same
      cases same
      rfl
  unfold finishDelete
  dsimp only
  apply leads_ite
  · exact leads_after (leads_log _) (leads_after (leads_count _ _) cleared)
  · exact leads_after (leads_log _) (leads_after (leads_count _ _) cleared)

/-- A deletion that is done tells how many rows its host has. -/
theorem leads_countDelete (threshold : Nat) (about : Log.Context) {event : HostEvent}
    {inventoryId : String} (named : event.inventoryId = some inventoryId) :
    (handleDelete threshold about event).Leads Books.Acts b <| Told fun _ _ ending _ =>
      ∀ count, ending = .done (.deleted count) →
        count = b.store.systems.countP (·.inventoryId == inventoryId) := by
  rw [handleDelete_of_some threshold about named]
  apply leads_now
  intro time
  apply leads_call
  · exact fun _ failed => nomatch failed
  apply leads_call
  · exact fun _ failed => nomatch failed
  have rows : ((b.marking inventoryId time).store.answer (.markStale inventoryId time)).2 =
      b.store.systems.countP (·.inventoryId == inventoryId) :=
    congrArg (List.countP _) (b.store.upsertMarker_systems inventoryId time)
  rw [← rows]
  exact leads_finishCount threshold about inventoryId time _

end

/-- A deletion that is done, whatever others did that leaves the books alone, tells how many rows
its host had. -/
theorem Entry.count_of_takes {threshold : Nat} {e : Entry Job Outcome} {inventoryId : String}
    {rows : Nat} (deletion : e.event.deletion? = some inventoryId)
    (takes : (e.event.handler threshold).Takes World.Aside e.before e.deeds e.after e.ending)
    (deleted : e.ending = .done (.deleted rows)) :
    rows = e.before.store.systems.countP (·.inventoryId == inventoryId) := by
  have sets := e.event.sets_handler threshold
  generalize e.event.handler threshold = x at sets takes
  cases sets with
  | skips idle => exact nomatch idle.notDeletion.symm.trans deletion
  | fails idle _ => exact nomatch idle.notDeletion.symm.trans deletion
  | rejects idle => exact nomatch idle.notDeletion.symm.trans deletion
  | admits accepted _ => exact nomatch accepted.symm.trans (Job.accepted?_of_deletion? deletion)
  | deletes own about =>
      cases own.symm.trans deletion
      exact (leads_countDelete threshold e.event.about about).inBooks World.Aside.books takes rows
        deleted

/-! ## Frames -/

/-- Nothing is different in the store, the remembered accounts, the buffer and the topic of the
evaluations. -/
structure World.Untraced (w w' : World) : Prop where
  store : w'.store = w.store
  accounts : w'.accounts = w.accounts
  queue : w.Unqueued w'

/-- What a refused upload of an organization leaves: perhaps its account. -/
structure World.Unfiled (w w' : World) (org : String) : Prop where
  systems : w'.store.systems = w.store.systems
  markers : w'.store.markers = w.store.markers
  accounts : w.books.Opens w'.books org
  queue : w.Unqueued w'

/-- What a deletion of a host at a time leaves, with its number of rows. -/
structure World.Deleted (threshold : Nat) (w w' : World) (inventoryId : String) (time : Instant)
    (rows : Nat) : Prop where
  rows : rows = w.store.systems.countP (·.inventoryId == inventoryId)
  /-- The rows of the host are marked, which changes nothing else in them. -/
  systems : w'.store.systems =
    w.store.systems.map fun r => if r.inventoryId = inventoryId then r.markedStale time else r
  marker : w'.store.marker? inventoryId = some ⟨inventoryId, time⟩
  /-- Of the other markers, at most those that are past the threshold are gone. -/
  markers : w'.store.markersBut inventoryId = w.store.markersBut inventoryId ∨
    ∃ limit, time.earlier? threshold = some limit ∧
      w'.store.markersBut inventoryId =
        (w.store.markersBut inventoryId).filter fun m => !m.deletedAt.before limit
  accounts : w'.store.accounts = w.store.accounts
  remembered : w'.accounts = w.accounts
  queue : w.Unqueued w'

/-- What an upload leaves that was evaluated in an account. -/
structure World.Filed (w w' : World) (r : Report) (account : Int) : Prop where
  /-- No row is different but that of the host in the account. -/
  systems : w'.store.rowsBut account r.inventoryId = w.store.rowsBut account r.inventoryId
  row : (w'.store.system? account r.inventoryId).isSome
  markers : w'.store.markers = w.store.markers
  accounts : w.books.Opens w'.books r.org
  known : w'.known r.org = some account
  queue : w.Queues w' (r.item account)

/-- What a failed deletion of a host leaves: perhaps its marker. -/
structure World.Undeleted (w w' : World) (inventoryId : String) (time : Instant) : Prop where
  systems : w'.store.systems = w.store.systems
  marker : w'.store.marker? inventoryId = w.store.marker? inventoryId ∨
    w'.store.marker? inventoryId = some ⟨inventoryId, time⟩
  markers : w'.store.markersBut inventoryId = w.store.markersBut inventoryId
  accounts : w'.store.accounts = w.store.accounts
  remembered : w'.accounts = w.accounts
  queue : w.Unqueued w'

/-- Whether a message names a kind of event that has a handler. -/
def Json.Value.IsHandled (message : Json.Value) : Prop :=
  ∃ name, (message.get? "type").bind (·.asString?) = some name ∧
    (name = "created" ∨ name = "updated" ∨ name = "delete")

theorem EventKind.lane_ofMessage (message : Json.Value) :
    (EventKind.ofMessage message).lane = .other ↔ ¬ message.IsHandled := by
  unfold EventKind.ofMessage Json.Value.IsHandled
  cases named : (message.get? "type").bind (·.asString?) with
  | none => simp [EventKind.lane]
  | some name =>
      simp only [EventKind.ofName]
      split
      next created => simp [EventKind.lane, created]
      split
      next updated => simp [EventKind.lane, updated]
      split
      next delete => simp [EventKind.lane, delete]
      next notCreated notUpdated notDelete =>
        simp [EventKind.lane, notCreated, notUpdated, notDelete]

/-- What each ending of an event leaves alone. -/
structure Framed (threshold : Nat) (e : Entry Job Outcome) : Prop where
  /-- An event is skipped exactly if its message names no kind that has a handler. -/
  skipped : e.event.kind = .ofMessage e.event.message →
    (e.ending = .done .skipped ↔ ¬ e.event.message.IsHandled)
  /-- What is skipped, turned down or ignored, and what fails for good, leaves no trace. -/
  untraced : e.ending = .done .skipped ∨ (∃ verdict, e.ending = .done (.rejected verdict)) ∨
    e.ending = .done .recentlyDeleted ∨ (∃ why, e.ending = .failed why ∧ why.isPermanent = true) →
      e.before.Untraced e.after
  unfiled : ∀ why, e.ending = .failed why → why.isPermanent = false →
    e.event.kind.lane = .upload →
      ∃ r, e.event.report? = some r ∧ e.before.Unfiled e.after r.org
  undeleted : ∀ why, e.ending = .failed why → why.isPermanent = false →
    e.event.kind.lane = .delete → ∃ inventoryId time, e.event.deletion? = some inventoryId ∧
      e.readings = [time] ∧ e.before.Undeleted e.after inventoryId time
  deleted : ∀ rows, e.ending = .done (.deleted rows) →
    ∃ inventoryId time, e.event.deletion? = some inventoryId ∧ e.readings = [time] ∧
      World.Deleted threshold e.before e.after inventoryId time rows
  filed : ∀ account, e.ending = .done (.evaluated account) →
    ∃ r, e.event.report? = some r ∧ e.before.Filed e.after r account
  /-- A crash has marked the rows. -/
  crashed : e.ending = .crashed → ∃ inventoryId time rows,
    e.event.deletion? = some inventoryId ∧ e.readings = [time] ∧
      World.Deleted threshold e.before e.after inventoryId time rows

/-! ## Endings -/

section

variable {threshold : Nat} {w w' : World} {inventoryId : String} {time limit : Instant}

theorem World.Deleted.of_staling (queue : w.Unqueued w')
    (books : w'.books = (w.books.marking inventoryId time).staling inventoryId time) :
    World.Deleted threshold w w' inventoryId time
      (w.store.systems.countP (·.inventoryId == inventoryId)) := by
  have store : w'.store = ((w.store.upsertMarker inventoryId time).markStale inventoryId time).1 :=
    congrArg Books.store books
  constructor
  case rows => rfl
  case systems => rw [store, Store.markStale_systems, Store.upsertMarker_systems]
  case marker =>
    rw [store]
    exact (Store.marker?_upsertMarker w.store inventoryId time).trans (if_pos rfl)
  case markers =>
    rw [store]
    exact .inl (w.store.markersBut_upsertMarker inventoryId time)
  case accounts =>
    rw [store]
    exact w.store.upsertMarker_accounts inventoryId time
  case remembered => exact congrArg Books.accounts books
  case queue => exact queue

theorem World.Deleted.of_pruning (queue : w.Unqueued w') (valid : time.IsValid)
    (back : time.earlier? threshold = some limit)
    (books : w'.books =
      ((w.books.marking inventoryId time).staling inventoryId time).pruning limit) :
    World.Deleted threshold w w' inventoryId time
      (w.store.systems.countP (·.inventoryId == inventoryId)) := by
  have store : w'.store = (((w.store.upsertMarker inventoryId time).markStale inventoryId
      time).1.pruneMarkers limit).1 := congrArg Books.store books
  constructor
  case rows => rfl
  case systems =>
    rw [store]
    exact (Store.markStale_systems _ inventoryId time).trans (by rw [Store.upsertMarker_systems])
  case marker =>
    rw [store]
    apply Store.marker?_pruneMarkers_of_some
    · exact (Store.marker?_upsertMarker w.store inventoryId time).trans (if_pos rfl)
    · exact Instant.before_of_earlier? valid back
  case markers =>
    refine .inr ⟨limit, back, ?_⟩
    rw [store, Store.markersBut_pruneMarkers]
    exact congrArg _ (w.store.markersBut_upsertMarker inventoryId time)
  case accounts =>
    rw [store]
    exact w.store.upsertMarker_accounts inventoryId time
  case remembered => exact congrArg Books.accounts books
  case queue => exact queue

theorem World.Undeleted.of_setback {readings : List Instant} {why : Fault}
    (queue : w.Unqueued w') (setback : w.books.Undeleted inventoryId readings why w'.books) :
    ∃ time, readings = [time] ∧ w.Undeleted w' inventoryId time := by
  generalize books : w'.books = after at setback
  cases setback with
  | unmarked time =>
      have store : w'.store = w.store := congrArg Books.store books
      refine ⟨time, rfl, ?_, .inl ?_, ?_, ?_, congrArg Books.accounts books, queue⟩
      all_goals rw [store]
  | marked time =>
      have store : w'.store = w.store.upsertMarker inventoryId time := congrArg Books.store books
      refine ⟨time, rfl, ?_, .inr ?_, ?_, ?_, congrArg Books.accounts books, queue⟩
      · rw [store, Store.upsertMarker_systems]
      · rw [store, Store.marker?_upsertMarker, if_pos rfl]
      · rw [store, Store.markersBut_upsertMarker]
      · rw [store, Store.upsertMarker_accounts]

theorem World.Unfiled.of_setback {readings : List Instant} {why : Fault} {r : Report}
    (queue : w.Unqueued w') (setback : w.books.Unstored threshold r readings why w'.books) :
    w.Unfiled w' r.org := by
  generalize books : w'.books = after at setback
  have store : w'.store = after.store := congrArg Books.store books
  cases setback with
  | unguarded => exact ⟨by rw [store]; rfl, by rw [store]; rfl, books ▸ .refl _ _, queue⟩
  | unresolved readings => exact ⟨by rw [store]; rfl, by rw [store]; rfl, books ▸ .refl _ _, queue⟩
  | resolved time guard resolves =>
      exact ⟨by rw [store]; exact resolves.systems, by rw [store]; exact resolves.markers,
        books ▸ resolves.opens, queue⟩

theorem World.Filed.of_books {r : Report} {account : Int} {b' : Books}
    (resolves : w.books.Resolves r.org account b')
    (books : w'.books = b'.writing (r.upload account time)) (queue : w.Queues w' (r.item account)) :
    w.Filed w' r account := by
  have store : w'.store = (b'.store.upsertSystem (r.upload account time)).1 :=
    congrArg Books.store books
  constructor
  case systems =>
    rw [store]
    refine (b'.store.rowsBut_upsertSystem (r.upload account time)).trans ?_
    exact congrArg (List.filter _) resolves.systems
  case row =>
    rw [store]
    exact Option.isSome_of_eq_some (b'.store.system?_upsertSystem (r.upload account time))
  case markers =>
    rw [store, Store.upsertSystem_markers]
    exact resolves.markers
  case accounts =>
    rw [books]
    refine ⟨?_, resolves.opens.remembered⟩
    rw [Books.writing, Store.upsertSystem_accounts]
    exact resolves.opens.accounts
  case known =>
    change w'.books.known r.org = some account
    rw [books]
    exact resolves.remembered
  case queue => exact queue

end

/-- An event that is skipped, turned down or ignored takes a course that changes nothing. -/
theorem Course.same {threshold : Nat} {job : Job} {b b' : Books} {readings : List Instant}
    {items : List Item} {outcome : Outcome}
    (course : Course threshold job b readings items (.done outcome) b')
    (settled : outcome = .skipped ∨ (∃ verdict, outcome = .rejected verdict) ∨
      outcome = .recentlyDeleted) : b' = b ∧ items = [] := by
  cases course with
  | idle _ _ => exact ⟨rfl, rfl⟩
  | ignored _ _ _ => exact ⟨rfl, rfl⟩
  | filed _ _ _ => rcases settled with same | ⟨_, same⟩ | same <;> cases same
  | deleted _ _ _ _ => rcases settled with same | ⟨_, same⟩ | same <;> cases same

theorem Job.lane_of_deletion? {job : Job} {inventoryId : String}
    (deletion : job.deletion? = some inventoryId) : job.kind.lane = .delete := by
  unfold Job.deletion? EventKind.deletion? at deletion
  cases lane : job.kind.lane with
  | delete => rfl
  | upload => simp [lane] at deletion
  | other => simp [lane] at deletion

/-- What the ways that an event can fail have to do with its message. -/
inductive Setback.Sorted (threshold : Nat) (job : Job) (b : Books) (readings : List Instant)
    (why : Fault) (b' : Books) : Prop
  | permanent (permanent : why.isPermanent = true) (same : b' = b)
  | unstored {r : Report} (passing : why.isPermanent = false) (lane : job.kind.lane = .upload)
      (reported : job.report? = some r) (setback : b.Unstored threshold r readings why b')
  | undeleted {inventoryId : String} (passing : why.isPermanent = false)
      (lane : job.kind.lane = .delete) (deletion : job.deletion? = some inventoryId)
      (setback : b.Undeleted inventoryId readings why b')

/-- A fault of the message leaves nothing, and any other fault is a refusal of the store. -/
theorem Setback.sorted {threshold : Nat} {job : Job} {b b' : Books} {readings : List Instant}
    {why : Fault} (setback : Setback threshold job b readings why b') :
    Setback.Sorted threshold job b readings why b' := by
  cases setback with
  | lost _ permanent => exact .permanent permanent rfl
  | undeleted deletion setback =>
      have passing : why.isPermanent = false := by cases setback <;> rfl
      exact .undeleted passing (Job.lane_of_deletion? deletion) deletion setback
  | unstored accepted setback =>
      have passing : why.isPermanent = false := by cases setback <;> rfl
      have reported := Job.report?_of_accepted? accepted
      exact .unstored passing (Job.lane_of_report? reported) reported setback

theorem World.Untraced.of_books {w w' : World} (books : w'.books = w.books)
    (queue : w.Unqueued w') : w.Untraced w' :=
  ⟨congrArg Books.store books, congrArg Books.accounts books, queue⟩

section

variable {threshold : Nat} {e : Entry Job Outcome}
  (takes : (e.event.handler threshold).Takes World.Elapses e.before e.deeds e.after e.ending)
include takes

theorem Entry.course_of_takes {ending : Ending Outcome} (ended : e.ending = ending) :
    Course threshold e.event e.before.books e.readings e.items ending e.after.books :=
  ended ▸ Entry.follows_of_takes takes.inAside

/-- An event that has failed has met a setback, and has queued nothing. -/
theorem Entry.setback_of_takes {why : Fault} (failed : e.ending = .failed why) :
    Setback threshold e.event e.before.books e.readings why e.after.books ∧
      e.before.Unqueued e.after := by
  have setback := (leads_setback threshold e.event).inBooks World.Aside.books takes.inAside
  rw [failed] at setback takes
  exact ⟨setback, ((heedful_handler threshold e.event).inside takes).unqueued⟩

/-- Nothing is left of an event that was skipped, turned down or ignored. -/
theorem Entry.untraced_of_done {outcome : Outcome} (done : e.ending = .done outcome)
    (settled : outcome = .skipped ∨ (∃ verdict, outcome = .rejected verdict) ∨
      outcome = .recentlyDeleted) : e.before.Untraced e.after := by
  obtain ⟨books, none⟩ := (Entry.course_of_takes takes done).same settled
  exact .of_books books (takes.unqueued none)

end

/-- The time that a handler reads is an instant that the clock can show. -/
theorem Entry.valid_of_mem {threshold : Nat} {e : Entry Job Outcome}
    (takes : (e.event.handler threshold).Takes World.Aside e.before e.deeds e.after e.ending)
    (valid : ∀ n, (e.before.clock n).IsValid) {time : Instant} (read : e.readings = [time]) :
    time.IsValid := by
  have mem : time ∈ e.readings := by
    rw [read]
    exact .head _
  obtain ⟨n, _, _, rfl⟩ := takes.clock.2 time mem
  exact valid n

/-- Every event that is dispatched while nothing else goes on leaves alone what its ending does not
speak of. -/
theorem events_framed {threshold : Nat} {e : Entry Job Outcome}
    (takes : (e.event.handler threshold).Takes World.Elapses e.before e.deeds e.after e.ending)
    (valid : ∀ n, (e.before.clock n).IsValid) : Framed threshold e := by
  constructor
  case skipped =>
    intro kind
    rw [← EventKind.lane_ofMessage, ← kind]
    exact (leaves_of_takes takes).skipped_iff
  case untraced =>
    rintro (done | ⟨verdict, done⟩ | done | ⟨why, failed, permanent⟩)
    · exact Entry.untraced_of_done takes done (.inl rfl)
    · exact Entry.untraced_of_done takes done (.inr (.inl ⟨verdict, rfl⟩))
    · exact Entry.untraced_of_done takes done (.inr (.inr rfl))
    · obtain ⟨setback, queue⟩ := Entry.setback_of_takes takes failed
      cases setback.sorted with
      | permanent _ same => exact .of_books same queue
      | unstored passing _ _ _ => exact nomatch passing.symm.trans permanent
      | undeleted passing _ _ _ => exact nomatch passing.symm.trans permanent
  case unfiled =>
    intro why failed passing lane
    obtain ⟨setback, queue⟩ := Entry.setback_of_takes takes failed
    cases setback.sorted with
    | permanent permanent _ => exact nomatch passing.symm.trans permanent
    | undeleted _ other _ _ => exact nomatch lane.symm.trans other
    | unstored _ _ reported setback => exact ⟨_, reported, .of_setback queue setback⟩
  case undeleted =>
    intro why failed passing lane
    obtain ⟨setback, queue⟩ := Entry.setback_of_takes takes failed
    cases setback.sorted with
    | permanent permanent _ => exact nomatch passing.symm.trans permanent
    | unstored _ other _ _ => exact nomatch lane.symm.trans other
    | undeleted _ _ deletion setback =>
        obtain ⟨time, read, undeleted⟩ := World.Undeleted.of_setback queue setback
        exact ⟨_, time, deletion, read, undeleted⟩
  case deleted =>
    intro rows done
    have course := Entry.course_of_takes takes done
    generalize read : e.readings = readings at course
    generalize queued : e.items = items at course
    generalize books : e.after.books = after at course
    cases course with
    | idle _ idle => exact idle.elim
    | @deleted inventoryId time limit _ _ deletion back cleared =>
        have queue := takes.unqueued queued
        refine ⟨inventoryId, time, deletion, rfl, ?_⟩
        rw [Entry.count_of_takes deletion takes.inAside done]
        rcases cleared with rfl | rfl
        · exact .of_staling queue books
        · exact .of_pruning queue (Entry.valid_of_mem takes.inAside valid read) back books
  case filed =>
    intro account done
    have course := Entry.course_of_takes takes done
    generalize queued : e.items = items at course
    generalize books : e.after.books = after at course
    generalize e.readings = readings at course
    cases course with
    | idle _ idle => exact idle.elim
    | filed reported guard resolves =>
        exact ⟨_, reported, .of_books resolves books (takes.queues queued)⟩
  case crashed =>
    intro crashed
    have course := Entry.course_of_takes takes crashed
    generalize e.readings = readings at course
    generalize queued : e.items = items at course
    generalize books : e.after.books = after at course
    cases course with
    | idle _ idle => exact idle.elim
    | crashed deletion back =>
        exact ⟨_, _, _, deletion, rfl, .of_staling (takes.unqueued queued) books⟩

namespace Sample

/-- An upload in a world that refuses every call of the store but the first two. -/
def refused : Entry Job Outcome :=
  .ofRun (Job.handler threshold) upload { world with outage := fun n => decide (2 ≤ n) }

end Sample

theorem events_framed_sample :
    Sample.uploaded.ending = .done (.evaluated 1) ∧ Framed Sample.threshold Sample.uploaded ∧
      Sample.deleted.ending = .done (.deleted 1) ∧ Framed Sample.threshold Sample.deleted ∧
      Sample.refused.ending = .failed (.store "upsert_system: connection refused") ∧
      Sample.refused.after.accounts = [("o", 1)] ∧ Framed Sample.threshold Sample.refused :=
  ⟨rfl, events_framed (Entry.takes_ofRun World.elapses_after _ _ _) Sample.isValid_clock, rfl,
    events_framed (Entry.takes_ofRun World.elapses_after _ _ _) Sample.isValid_clock, rfl, rfl,
    events_framed (Entry.takes_ofRun World.elapses_after _ _ _) Sample.isValid_clock⟩

end FleetRoster
