import FleetRoster.Proofs.Handler.Tallies
import FleetRoster.Proofs.Roster.Pictures
import FleetRoster.Proofs.Roster.Redelivery

/-!
# Events of different hosts commute

At one instant, and while the store answers, a run over events leads to the picture that the events
paint one after another. So two runs over the same events, in orders that agree for each host, leave
the same markers, the same counts and the same rows. What they may leave different is how accounts
and rows are numbered.
-/

namespace FleetRoster

open Calendar (Instant)

/-- Nothing but what is neither in the books nor a count of messages has changed. -/
structure World.Bystands (w w' : World) : Prop where
  aside : w.Aside w'
  uncounted : w.Uncounted w'

/-- Nothing was stored, remembered or counted. The clock may go back, but shows no leap second. -/
structure World.IsFresh (w : World) : Prop where
  books : w.books = ⟨{}, []⟩
  handled : w.tally.handled = []
  ordinary : ∀ n, (w.clock n).IsOrdinary

/-- A run over events has led to a world from a fresh one, whatever was refused. -/
def World.IsReached (threshold : Nat) (w : World) : Prop :=
  ∃ fresh earlier, fresh.IsFresh ∧ Handled (Job.handler threshold) World.Bystands fresh earlier w

/-- An event was handled at an instant, and the store answered. -/
structure Entry.IsCalm (now : Instant) (e : Entry Job Outcome) : Prop where
  answered : e.IsAnswered
  read : ∀ time ∈ e.readings, time = now

/-- Events were handled at an instant, while the store answered. -/
structure HandledAt (threshold : Nat) (now : Instant) (start : World)
    (history : List (Entry Job Outcome)) (w : World) : Prop where
  handled : Handled (Job.handler threshold) World.Bystands start history w
  calm : ∀ e ∈ history, e.IsCalm now

/-- Two worlds show the same, but for the numbers of accounts and rows. -/
structure SameSight (w v : World) : Prop where
  markers (inventoryId : String) : v.store.marker? inventoryId = w.store.marker? inventoryId
  counts (event outcome : String) : v.tally.count event outcome = w.tally.count event outcome
  rows (org inventoryId : String) : v.store.row? org inventoryId = w.store.row? org inventoryId

/-- The picture of a world. -/
def World.picture (w : World) : Picture where
  face := w.store.face
  count := w.tally.count

theorem World.bystands_after (w : World) (ms : Nat) : w.Bystands (w.after ms) :=
  ⟨w.aside_after ms, w.uncounted_after ms⟩

/-! ## Faces after a turn -/

section

variable {threshold : Nat} {now limit : Instant} {job : Job} {b b' : Books}
  {counts : List (Lane × Verdict)} {start w : World} {history : List (Entry Job Outcome)}

/-- Resolving an account is not seen by any host. -/
theorem Books.Resolves.face {org : String} {account : Int} (resolves : b.Resolves org account b')
    (sound : b.IsSound) (owned : b.store.IsOwned) (inventoryId : String) :
    b'.store.face inventoryId = b.store.face inventoryId := by
  cases resolves with
  | known _ => rfl
  | made _ => exact Store.face_upsertAccount sound.store owned org inventoryId

/-- Clearing markers away after a deletion is seen by every host, and the rest by its own host. -/
theorem Books.face_deleted (sound : b.IsSound) (deleted : String) (now limit : Instant)
    (inventoryId : String) :
    (((b.marking deleted now).staling deleted now).pruning limit).store.face inventoryId =
      (if inventoryId = deleted then ((b.store.face inventoryId).marked ⟨deleted, now⟩).staled now
        else b.store.face inventoryId).swept limit := by
  have marked : (b.marking deleted now).store.face inventoryId = _ :=
    b.store.face_upsertMarker deleted now inventoryId
  have staled : ((b.marking deleted now).staling deleted now).store.face inventoryId = _ :=
    (b.marking deleted now).store.face_markStale deleted now inventoryId
  have stillSound := ((sound.marking deleted now).staling deleted now).store
  refine (Store.face_pruneMarkers stillSound limit inventoryId).trans ?_
  rw [staled, marked]
  split <;> rfl

namespace Job.Turns

/-- A turn paints the face of every host. -/
theorem face (turns : job.Turns threshold now b counts b') (sound : b.IsSound)
    (owned : b.store.IsOwned) (back : now.earlier? threshold = some limit) (inventoryId : String) :
    b'.store.face inventoryId =
      job.faceAfter threshold now limit inventoryId (b.store.face inventoryId) := by
  cases turns with
  | idle idle =>
      rw [Job.faceAfter_of_not_deletion idle.notDeletion, Job.touch_of_isIdle idle, ite_self]
  | @ignored r accepted guarded =>
      rw [Job.faceAfter_of_report? (Job.report?_of_accepted? accepted)]
      split
      next own => rw [Job.touch_of_guarded accepted (own ▸ guarded)]
      next => rfl
  | @filed r account resolved accepted unguarded resolves =>
      have written : (resolved.writing (r.upload account now)).store.face inventoryId =
          if inventoryId = r.inventoryId then
            (resolved.store.face inventoryId).filed r.org (r.upload account now)
          else resolved.store.face inventoryId :=
        Store.face_upsertSystem (resolves.isSound sound).store (resolves.account? sound) inventoryId
      rw [written, resolves.face sound owned,
        Job.faceAfter_of_report? (Job.report?_of_accepted? accepted)]
      split
      next own =>
        rw [Job.touch_of_unguarded accepted (own ▸ unguarded)]
        rfl
      next => rfl
  | deleted deletion back' =>
      cases back.symm.trans back'
      rw [Job.faceAfter_of_deletion? deletion, Books.face_deleted sound]

/-- It counts what the face of its host says. -/
theorem counts_eq (turns : job.Turns threshold now b counts b') :
    counts = (job.counted? threshold now b.store.face).toList := by
  cases turns with
  | idle idle =>
      unfold Job.counted?
      split
      · rfl
      · rw [Job.touch_of_isIdle idle]
  | ignored accepted guarded =>
      have about := Job.inventoryId?_of_report? (Job.report?_of_accepted? accepted)
      rw [Job.counted?_of_inventoryId? about, Job.touch_of_guarded accepted guarded]
      rfl
  | filed accepted unguarded _ =>
      have about := Job.inventoryId?_of_report? (Job.report?_of_accepted? accepted)
      rw [Job.counted?_of_inventoryId? about, Job.touch_of_unguarded accepted unguarded]
      rfl
  | @deleted inventoryId _ deletion _ =>
      have verdict : (if (b.store.markStale inventoryId now).2 = 0 then Verdict.noRows
          else .deleted) = if b.store.knows inventoryId then .deleted else .noRows := by
        simp only [Store.markStale_snd_eq_zero]
        cases b.store.knows inventoryId <;> rfl
      rw [Job.counted?_of_inventoryId? (Job.inventoryId?_of_deletion? deletion),
        Job.touch_of_deletion? deletion, verdict]
      rfl

end Job.Turns

/-! ## Rows and their accounts -/

/-- Every row belongs to an account after a course, as before. -/
theorem Course.isOwned {readings : List Instant} {items : List Item} {ending : Ending Outcome}
    (course : Course threshold job b readings items ending b') (sound : b.IsSound)
    (owned : b.store.IsOwned) : b'.store.IsOwned := by
  have resolved {org : String} {account : Int} {b' : Books} (resolves : b.Resolves org account b') :
      b'.store.IsOwned := by
    cases resolves with
    | known _ => exact owned
    | made _ => exact owned.upsertAccount org
  cases course with
  | idle _ _ => exact owned
  | ignored _ _ _ => exact owned
  | resolved _ _ _ resolves => exact resolved resolves
  | filed _ _ resolves => exact (resolved resolves).upsertSystem (resolves.account? sound)
  | marked _ _ => exact owned.upsertMarker _ _
  | deleted _ _ _ cleared =>
      rcases cleared with rfl | rfl
      · exact (owned.upsertMarker _ _).markStale _ _
      · exact (owned.upsertMarker _ _).markStale _ _
  | crashed _ _ => exact (owned.upsertMarker _ _).markStale _ _

/-- What runs over events keep: the books are sound, every row belongs to an account, and the counts
are in their order. -/
structure World.IsTidy (w : World) : Prop where
  sound : w.books.IsSound
  owned : w.store.IsOwned
  ascending : IsAscending labelsBefore w.tally.handled

theorem World.IsFresh.isTidy {w : World} (fresh : w.IsFresh) : w.IsTidy where
  sound := fresh.books ▸ Books.isSound_empty
  owned := by
    have empty : w.store = {} := congrArg Books.store fresh.books
    rw [empty]
    exact fun r mem => absurd mem List.not_mem_nil
  ascending := by
    rw [fresh.handled]
    exact .nil

theorem Handled.isTidy (handled : Handled (Job.handler threshold) World.Bystands start history w)
    (tidy : start.IsTidy) : w.IsTidy := by
  have inBooks := handled.mono World.Bystands.aside
  have kept : w.books.IsSound ∧ w.books.store.IsOwned :=
    inBooks.invariant (fun w => w.books.IsSound ∧ w.books.store.IsOwned) ⟨tidy.sound, tidy.owned⟩
      (fun aside kept => aside.books ▸ kept) fun takes _ kept =>
        have course := Entry.follows_of_takes takes
        ⟨course.isSound kept.1, course.isOwned kept.1 kept.2⟩
  exact ⟨kept.1, kept.2, (handled.mono World.Bystands.uncounted).isAscending tidy.ascending⟩

namespace World.IsReached

theorem isTidy (reached : w.IsReached threshold) : w.IsTidy := by
  obtain ⟨fresh, earlier, isFresh, handled⟩ := reached
  exact handled.isTidy isFresh.isTidy

/-- Markers show when the clock was read. -/
theorem isOrdinary_face (reached : w.IsReached threshold) (inventoryId : String) :
    (w.store.face inventoryId).IsOrdinary := by
  obtain ⟨fresh, earlier, isFresh, handled⟩ := reached
  have inBooks := handled.mono World.Bystands.aside
  have none : fresh.store.markers = [] := congrArg (·.store.markers) isFresh.books
  intro m found
  obtain ⟨d, mem, _, read⟩ := inBooks.mem_markers none (Store.mem_of_marker? found)
  obtain ⟨n, shown⟩ := inBooks.read_mem mem read
  exact shown ▸ isFresh.ordinary n

end World.IsReached

/-! ## Pictures of runs -/

theorem countUnder_countAll (counted : Option (Lane × Verdict))
    {handled : List ((String × String) × Nat)} (ascending : IsAscending labelsBefore handled)
    (event outcome : String) :
    countUnder (event, outcome) (countAll counted.toList handled) =
      countUnder (event, outcome) handled + countedAs counted event outcome := by
  cases counted with
  | none => rfl
  | some c =>
      refine (countUnder_addOne isOrder_labelsBefore ascending).trans ?_
      simp only [countedAs, Option.map_some, Option.some.injEq, eq_comm]

/-- An event paints the picture of the world after it. -/
theorem Entry.picture_eq {e : Entry Job Outcome}
    (takes : (e.event.handler threshold).Takes World.Bystands e.before e.deeds e.after e.ending)
    (tidy : e.before.IsTidy) (calm : e.IsCalm now) (back : now.earlier? threshold = some limit) :
    e.after.picture = e.before.picture.after threshold now limit e.event := by
  have isSome : (now.earlier? threshold).isSome := by rw [back]; rfl
  have turns : e.event.Turns threshold now e.before.books (countsOf e.deeds) e.after.books :=
    (leads_turns isSome e.event).of_calm (fun bystands => bystands.aside.books) takes
      calm.answered calm.read
  apply Picture.ext
  · funext inventoryId
    exact turns.face tidy.sound tidy.owned back inventoryId
  · funext event outcome
    have counted := (takes.mono World.Bystands.uncounted).counted.handled
    rw [turns.counts_eq] at counted
    change countUnder (event, outcome) e.after.tally.handled = _
    rw [counted, countUnder_countAll _ tidy.ascending]
    rfl

/-- A run paints what its events paint one after another. -/
theorem HandledAt.picture_eq (done : HandledAt threshold now start history w)
    (tidy : start.IsTidy) (back : now.earlier? threshold = some limit) :
    w.picture = (history.map (·.event)).foldl (Picture.after threshold now limit) start.picture := by
  obtain ⟨handled, calm⟩ := done
  induction handled with
  | start => rfl
  | @aside history w w' before others ih =>
      have same : w'.picture = w.picture := by
        apply Picture.ext
        · exact congrArg (·.store.face) others.aside.books
        · funext event outcome
          exact congrArg (countUnder (event, outcome)) others.uncounted.handled
      exact same.trans (ih calm)
  | @event history e before takes ih =>
      rw [List.forall_mem_append, List.forall_mem_singleton] at calm
      rw [Entry.picture_eq takes (before.isTidy tidy) calm.2 back, ih calm.1, List.map_append,
        List.foldl_append]
      rfl

end

/-! ## One instant -/

/-- The clock has stopped at an instant, and the store is never out. -/
structure World.IsStill (now : Instant) (w : World) : Prop where
  clock : ∀ n, w.clock n = now
  healthy : ∀ n, w.outage n = false

section

variable {threshold : Nat} {now : Instant} {start w : World} {history : List (Entry Job Outcome)}

namespace World.IsStill

theorem happen (still : w.IsStill now) (effect : Effect) : (World.happen effect w).1.IsStill now where
  clock n := (congrFun (w.ticks_happen effect).clock n).trans (still.clock n)
  healthy n := (congrFun (w.outage_happen effect) n).trans (still.healthy n)

/-- A flow that runs on its own leaves clock and store as they are. -/
theorem runIn {α : Type} (still : w.IsStill now) (x : Flow α) : (x.runIn w).1.IsStill now := by
  have takes : x.Takes (fun w w' => w.IsStill now → w'.IsStill now) w (x.deedsIn w)
      (x.runIn w).1 (x.runIn w).2 :=
    x.takes_runIn (fun w ms still => ⟨still.clock, still.healthy⟩) w
  generalize x.deedsIn w = deeds, (x.runIn w).1 = w', (x.runIn w).2 = ending at takes ⊢
  induction takes with
  | stop ending w => exact still
  | aside others rest ih => exact ih (others still)
  | ask rest ih => exact ih (still.happen _)

end World.IsStill

/-- An event that is handled on its own in a still world is handled at its instant. -/
theorem HandledAt.run (done : HandledAt threshold now start history w) (still : w.IsStill now)
    (job : Job) :
    HandledAt threshold now start (history ++ [.ofRun (Job.handler threshold) job w])
      (Entry.ofRun (Job.handler threshold) job w).after := by
  refine ⟨done.handled.run World.bystands_after job, ?_⟩
  have takes := Entry.takes_ofRun World.aside_after (Job.handler threshold) job w
  rw [List.forall_mem_append, List.forall_mem_singleton]
  refine ⟨done.calm, Flow.isAnswered_of_mem_deedsIn still.healthy, fun time mem => ?_⟩
  obtain ⟨n, _, _, shown⟩ := takes.clock.2 time mem
  exact shown.symm.trans (still.clock n)

/-- All events can be handled at the instant of a still world, in every order. -/
theorem HandledAt.inTurn (done : HandledAt threshold now start history w) (still : w.IsStill now)
    (jobs : List Job) :
    HandledAt threshold now start (history ++ (Entry.inTurn (Job.handler threshold) w jobs).1)
      (Entry.inTurn (Job.handler threshold) w jobs).2 := by
  induction jobs generalizing history w with
  | nil =>
      rw [Entry.inTurn, List.append_nil]
      exact done
  | cons job jobs ih =>
      have goesOn := ih (done.run still job) (still.runIn (job.handler threshold))
      rw [List.append_assoc] at goesOn
      exact goesOn

end

/-! ## Other orders -/

/-- Events that are handled at one instant, while the store answers, leave the same to be seen in
every order that is the same for each host. -/
theorem hosts_commute {threshold : Nat} {now : Instant} {start w v : World}
    {first second : List (Entry Job Outcome)} (reached : start.IsReached threshold)
    (ordinary : now.IsOrdinary) (back : (now.earlier? threshold).isSome)
    (once : HandledAt threshold now start first w) (other : HandledAt threshold now start second v)
    (reordered : Reordered Job.inventoryId? (first.map (·.event)) (second.map (·.event))) :
    SameSight w v := by
  obtain ⟨limit, back⟩ := Option.isSome_iff_exists.mp back
  have same : v.picture = w.picture := by
    rw [once.picture_eq reached.isTidy back, other.picture_eq reached.isTidy back]
    exact ((commuting_after ordinary back).foldl_eq reached.isOrdinary_face reordered).symm
  constructor
  · intro inventoryId
    exact congrArg (fun p => (p.face inventoryId).marker) same
  · intro event outcome
    exact congrArg (fun p => p.count event outcome) same
  · intro org inventoryId
    exact congrArg (fun p => (p.face inventoryId).row org) same

namespace Sample

/-- A world in which nothing has happened and whose clock has stopped. -/
def still : World :=
  { world with clock := fun _ => ⟨0, 0⟩ }

/-- A host was uploaded in that world. -/
def settled : Entry Job Outcome :=
  .ofRun (Job.handler threshold) upload still

theorem isReached_settled : settled.after.IsReached threshold :=
  ⟨still, [settled], ⟨rfl, rfl, fun _ => Nat.succ_pos _⟩, Handled.start.run World.bystands_after _⟩

/-- An upload of some host by some organization. -/
def uploadOf (inventoryId org : String) : Job where
  about := ⟨"created", none⟩
  kind := .created
  message :=
    .object [("host", .object [("id", .string inventoryId), ("org_id", .string org)])]

/-- Two hosts are uploaded by two new organizations, and the one that was there is deleted. -/
def jobs : List Job :=
  [uploadOf "k" "p", uploadOf "g" "q", deletion]

/-- The other one of the two hosts is uploaded first. -/
def swapped : List Job :=
  [uploadOf "g" "q", uploadOf "k" "p", deletion]

/-- The events are handled after the first upload. -/
def inTurn (jobs : List Job) : List (Entry Job Outcome) × World :=
  Entry.inTurn (Job.handler threshold) settled.after jobs

theorem isStill_settled : settled.after.IsStill ⟨0, 0⟩ :=
  World.IsStill.runIn ⟨fun _ => rfl, fun _ => rfl⟩ _

theorem handledAt_inTurn (jobs : List Job) :
    HandledAt threshold ⟨0, 0⟩ settled.after (inTurn jobs).1 (inTurn jobs).2 :=
  HandledAt.inTurn ⟨.start, fun _ mem => absurd mem List.not_mem_nil⟩ isStill_settled jobs

theorem reordered :
    Reordered Job.inventoryId? ((inTurn jobs).1.map (·.event))
      ((inTurn swapped).1.map (·.event)) := by
  rw [inTurn, inTurn, Entry.map_event_inTurn, Entry.map_event_inTurn]
  apply Reordered.swap
  intro k first second
  have same : some "k" = some "g" := first.trans second.symm
  contradiction

end Sample

/-- The accounts of the two organizations change their numbers. -/
theorem hosts_commute_sample :
    (Sample.inTurn Sample.jobs).2.store.account? "p" = some ⟨2, "p"⟩ ∧
      (Sample.inTurn Sample.swapped).2.store.account? "p" = some ⟨3, "p"⟩ ∧
      SameSight (Sample.inTurn Sample.jobs).2 (Sample.inTurn Sample.swapped).2 := by
  refine ⟨?first, ?second, hosts_commute Sample.isReached_settled ?ordinary ?back
    (Sample.handledAt_inTurn Sample.jobs) (Sample.handledAt_inTurn Sample.swapped)
    Sample.reordered⟩
  case first => decide +kernel
  case second => decide +kernel
  case ordinary => exact Nat.succ_pos _
  case back => rfl

end FleetRoster
