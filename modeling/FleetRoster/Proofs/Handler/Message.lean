import FleetRoster.Handler.Message
import FleetRoster.Proofs.Handler.Conduct

/-!
# Messages are dealt with once

However often a message is attempted, at most one attempt queues an upload: the last one, which ends
as evaluated and is logged so. By then the organization has its account and the host its row, and
neither is ever taken away again.
-/

namespace FleetRoster

open Calendar (Instant)

/-! ## What stays in the books -/

namespace Books

/-- What is there stays there: sound books stay sound, accounts the same and rows where they are. -/
structure Grows (b b' : Books) : Prop where
  sound : b.IsSound → b'.IsSound
  account : ∀ {org a}, b.store.account? org = some a → b'.store.account? org = some a
  system : ∀ {account inventoryId}, (b.store.system? account inventoryId).isSome →
    (b'.store.system? account inventoryId).isSome

/-- An organization has an account, and a host of it a row there. -/
structure Has (b : Books) (org : String) (account : Int) (inventoryId : String) : Prop where
  owner : b.store.account? org = some ⟨account, org⟩
  row : (b.store.system? account inventoryId).isSome

variable {b b' b'' : Books} {org : String} {account : Int} {inventoryId : String}

theorem Grows.refl (b : Books) : b.Grows b :=
  ⟨id, id, id⟩

theorem Grows.trans (first : b.Grows b') (second : b'.Grows b'') : b.Grows b'' :=
  ⟨second.sound ∘ first.sound, second.account ∘ first.account, second.system ∘ first.system⟩

theorem Has.grows (has : b.Has org account inventoryId) (grows : b.Grows b') :
    b'.Has org account inventoryId :=
  ⟨grows.account has.owner, grows.system has.row⟩

theorem isSome_writing (b : Books) (u : Upload)
    (found : (b.store.system? account inventoryId).isSome) :
    ((b.writing u).store.system? account inventoryId).isSome := by
  by_cases same : account = u.account ∧ inventoryId = u.inventoryId
  · rw [same.1, same.2, Books.writing, Store.system?_upsertSystem]
    rfl
  · rwa [Books.writing, Store.system?_upsertSystem_of_ne _ _ same]

theorem isSome_staling (b : Books) (deleted : String) (time : Instant)
    (found : (b.store.system? account inventoryId).isSome) :
    ((b.staling deleted time).store.system? account inventoryId).isSome := by
  rwa [Books.staling, Store.system?_markStale, Option.isSome_map]

end Books

namespace Course

variable {threshold : Nat} {job : Job} {b b' : Books} {readings : List Instant}
  {items : List Item} {ending : Ending Outcome}

/-- A course keeps the rows that are there. -/
theorem keepsSystem (course : Course threshold job b readings items ending b') {account : Int}
    {inventoryId : String} (found : (b.store.system? account inventoryId).isSome) :
    (b'.store.system? account inventoryId).isSome := by
  have marked : ∀ deleted time,
      ((b.marking deleted time).store.system? account inventoryId).isSome := by
    intro deleted time
    rwa [Books.system?_marking]
  cases course with
  | idle _ _ => exact found
  | ignored _ _ _ => exact found
  | resolved _ _ _ resolves => rwa [Store.system?_congr resolves.systems]
  | filed _ _ resolves =>
      apply Books.isSome_writing
      rwa [Store.system?_congr resolves.systems]
  | marked _ _ => exact marked _ _
  | deleted _ _ _ cleared =>
      rcases cleared with rfl | rfl
      · exact Books.isSome_staling _ _ _ (marked _ _)
      · exact Books.isSome_staling _ _ _ (marked _ _)
  | crashed _ _ => exact Books.isSome_staling _ _ _ (marked _ _)

theorem grows (course : Course threshold job b readings items ending b') : b.Grows b' :=
  ⟨course.isSound, course.keepsAccount, course.keepsSystem⟩

/-- An event queues nothing, or it is an upload that was evaluated and is in the books. -/
theorem queues (course : Course threshold job b readings items ending b') :
    items = [] ∨ ∃ r account, job.report? = some r ∧ items = [r.item account] ∧
      ending = .done (.evaluated account) ∧ (b.IsSound → b'.Has r.org account r.inventoryId) := by
  cases course with
  | @filed r account resolved guarded time reported guard resolves =>
      refine .inr ⟨r, account, reported, rfl, rfl, ?_⟩
      intro sound
      constructor
      · rw [Books.writing, Store.account?, Store.upsertSystem_accounts]
        exact resolves.account? sound
      · change ((resolved.store.upsertSystem (r.upload account time)).1.system?
          (r.upload account time).account (r.upload account time).inventoryId).isSome
        rw [Store.system?_upsertSystem]
        rfl
  | _ => exact .inl rfl

end Course

/-! ## Attempts -/

/-- The report of a message, if it can be read and is an upload. -/
def Inbound.report? (message : Inbound) : Option Report :=
  match Json.readValue message.payload with
  | .ok value => (EventKind.ofMessage value).report? value
  | .error _ => none

/-- A handler has logged with which outcome it was done with its message. -/
def Concludes (deeds : List Deed) (outcome : Outcome) : Prop :=
  ∃ about id, (⟨.log (.handled about id outcome), ()⟩ : Deed) ∈ deeds

/-- What dealing with a message comes to: nothing is taken away from the books, and nothing is queued
but an upload that was evaluated and is in the books. -/
structure Dealt (report : Option Report) (b : Books) (deeds : List Deed) (b' : Books) : Prop where
  grows : b.Grows b'
  queues : itemsOf deeds = [] ∨ ∃ r account, report = some r ∧ itemsOf deeds = [r.item account] ∧
    Concludes deeds (.evaluated account) ∧ (b.IsSound → b'.Has r.org account r.inventoryId)

/-- Deeds that queue nothing may come before. -/
theorem Dealt.after {report : Option Report} {b b' b'' : Books} {deeds : List Deed}
    (dealt : Dealt report b' deeds b'') (earlier : List Deed) (quiet : itemsOf earlier = [])
    (grows : b.Grows b') :
    Dealt report b (earlier ++ deeds) b'' where
  grows := grows.trans dealt.grows
  queues := by
    rw [itemsOf_append, quiet, List.nil_append]
    rcases dealt.queues with none | ⟨r, account, reported, items, ⟨about, id, mem⟩, has⟩
    · exact .inl none
    · exact .inr ⟨r, account, reported, items, ⟨about, id, List.mem_append_right _ mem⟩,
        has ∘ grows.sound⟩

theorem Dealt.quiet {report : Option Report} {b b' : Books} {deeds : List Deed}
    (quiet : itemsOf deeds = []) (grows : b.Grows b') : Dealt report b deeds b' :=
  ⟨grows, .inl quiet⟩

open FleetRoster.Flow

/-- A message that is given up leaves things as they are. -/
theorem leads_abandonMessage {report : Option Report} {b b' : Books} {deeds : List Deed}
    (about : Log.Context) (id : String) (lane : Lane) (made : Nat) (why : Fault)
    (quiet : itemsOf deeds = []) (grows : b.Grows b') :
    (abandonMessage about id lane made why).Leads Books.Acts b'
      fun more b'' _ => Dealt report b (deeds ++ more) b'' := by
  rintro b₁ ⟨⟩ rfl b₂ ⟨⟩ rfl
  apply Dealt.quiet _ grows
  rw [itemsOf_append, quiet]
  rfl

/-- One attempt: an outcome is logged, and whatever deals with a fault starts from the books that the
attempt has left, with nothing queued. -/
theorem leads_attemptOnce (about : Log.Context) (id : String) (threshold : Nat) (job : Job)
    (b : Books) {f : Except Fault Outcome → Flow Unit}
    (handled : ∀ outcome, f (.ok outcome) = log (.handled about id outcome))
    (failed : ∀ {deeds b'} why, itemsOf deeds = [] → b.Grows b' →
      (f (.error why)).Leads Books.Acts b'
        fun more b'' _ => Dealt job.report? b (deeds ++ more) b'') :
    ((dispatch threshold job.about job.kind job.message).attempt >>= f).Leads Books.Acts b
      fun deeds b' _ => Dealt job.report? b deeds b' := by
  rw [leads_bind, leads_attempt]
  apply (leads_dispatch threshold job).mono
  intro deeds b' ending course
  have grows : b.Grows b' := Course.grows course
  have queues := Course.queues course
  cases ending with
  | crashed =>
      rcases queues with quiet | ⟨r, account, _, _, ended, _⟩
      · exact .quiet quiet grows
      · contradiction
  | failed why =>
      rcases queues with quiet | ⟨r, account, _, _, ended, _⟩
      · exact failed why quiet grows
      · contradiction
  | done outcome =>
      change (f (.ok outcome)).Leads Books.Acts b' _
      rw [handled]
      rintro b'' ⟨⟩ rfl
      constructor
      · exact grows
      · rw [itemsOf_append]
        rcases queues with quiet | ⟨r, account, reported, items, ended, has⟩
        · exact .inl (by rw [quiet]; rfl)
        · cases ended
          exact .inr ⟨r, account, reported, by rw [items]; rfl, ⟨about, id, by simp⟩, has⟩

/-- Every attempt starts from the books that the one before it has left. -/
theorem leads_attemptMessage (delay : Nat) (about : Log.Context) (id : String) (lane : Lane)
    (threshold : Nat) (job : Job) (further made : Nat) (b : Books) :
    (attemptMessage delay about id lane (dispatch threshold job.about job.kind job.message)
      further made).Leads Books.Acts b fun deeds b' _ => Dealt job.report? b deeds b' := by
  induction further generalizing made b with
  | zero =>
      unfold attemptMessage
      apply leads_attemptOnce about id threshold job b (fun _ => rfl)
      intro deeds b' why quiet grows
      exact leads_abandonMessage about id lane (made + 1) why quiet grows
  | succ further ih =>
      unfold attemptMessage
      apply leads_attemptOnce about id threshold job b (fun _ => rfl)
      intro deeds b' why quiet grows
      apply leads_ite
      · exact leads_abandonMessage about id lane (made + 1) why quiet grows
      · rintro b₁ ⟨⟩ rfl b₂ ⟨⟩ rfl
        apply (ih (made + 1) b₂).mono
        intro more b'' ending dealt
        exact (dealt.after [_, _] rfl (.refl _)).after deeds quiet grows

/-- A message that has been read is dealt with as the event that it is. -/
theorem leads_handleValue (settings : Settings) (id : String) (message : Json.Value) (b : Books) :
    (handleValue settings id message).Leads Books.Acts b
      fun deeds b' _ => Dealt ((EventKind.ofMessage message).report? message) b deeds b' := by
  rintro b₁ ⟨⟩ rfl
  apply (leads_attemptMessage _ _ id _ settings.thresholdNanos ⟨_, _, message⟩ _ 0 b₁).mono
  intro deeds b' ending dealt
  exact dealt.after [_] rfl (.refl _)

/-- A message is dealt with, whatever it is. -/
theorem leads_handleMessage (settings : Settings) (message : Inbound) (b : Books) :
    (handleMessage settings message).Leads Books.Acts b
      fun deeds b' _ => Dealt message.report? b deeds b' := by
  rintro b₁ serial rfl
  dsimp only [Inbound.report?]
  cases read : Json.readValue message.payload with
  | error why =>
      rintro b₂ ⟨⟩ rfl b₃ ⟨⟩ rfl
      exact .quiet rfl (.refl _)
  | ok value =>
      apply (leads_handleValue settings (Log.messageId serial) value b₁).mono
      intro deeds b' ending dealt
      exact dealt.after [_] rfl (.refl _)

end FleetRoster
