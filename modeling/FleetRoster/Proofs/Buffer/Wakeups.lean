import FleetRoster.Proofs.Buffer.Desk
import FleetRoster.Proofs.Buffer.Flush

/-!
# No wake-up is lost

The timer that flushes the event buffer when it is idle, and how additions wake it. The timer reads
the deadline under the lock but waits for it outside, and until it has begun to wait, and while it
waits, the deadline may be pushed on or cleared. Each addition therefore rings a bell. A ring is
given to the timer if it waits at the bell, and kept for it otherwise; more than one is not kept. A
timer that wakes for the deadline leaves the ring behind that it was given in the meantime. What a
buffer notes for the timer is that there is a ring to be taken.

So the timer can wait for a deadline other than the one that stands only while there is a ring to be
taken, and when the deadline is over, nothing keeps the timer from a flush.

An addition and its ring are one step, since the lock hides what is between them. A flush clears the
deadline at its end, and nobody can look at it before.
-/

namespace FleetRoster

/-! ## The bell -/

/-- A bell at which at most one waits. -/
inductive Bell
  /-- Nobody waits; a ring may be kept. -/
  | unattended (kept : Bool)
  /-- Somebody waits for a ring. -/
  | attended
  /-- Who waits was given a ring, and another one may be kept. -/
  | rung (kept : Bool)
  deriving DecidableEq, Repr

namespace Bell

/-- Whether there is a ring to be taken. -/
def isPending : Bell → Bool
  | unattended kept => kept
  | attended => false
  | rung _ => true

/-- The bell after one more ring. -/
def ring : Bell → Bell
  | unattended _ => unattended true
  | attended => rung false
  | rung _ => rung true

/-- The bell after a ring was taken, by who waits or by who was about to. -/
def take? : Bell → Option Bell
  | unattended true => some (unattended false)
  | rung kept => some (unattended kept)
  | _ => none

/-- The bell after who waits has gone away without taking a ring. -/
def leave : Bell → Bell
  | unattended kept => unattended kept
  | attended => unattended false
  | rung _ => unattended true

/-- The number of rings to be taken. -/
def rings : Bell → Nat
  | unattended kept => kept.toNat
  | attended => 0
  | rung kept => kept.toNat + 1

variable (b : Bell)

@[simp]
theorem isPending_ring : b.ring.isPending = true := by
  cases b <;> rfl

/-- A ring that was not taken is not lost. -/
@[simp]
theorem isPending_leave : b.leave.isPending = b.isPending := by
  cases b <;> rfl

theorem take?_isSome : b.take?.isSome = b.isPending := by
  rcases b with kept | _ | kept
  · cases kept <;> rfl
  · rfl
  · rfl

theorem rings_leave : b.leave.rings ≤ b.rings := by
  rcases b with kept | _ | kept
  · exact Nat.le_refl _
  · exact Nat.le_refl _
  · exact Nat.le_add_left 1 _

theorem rings_take {b b' : Bell} (taken : b.take? = some b') : b'.rings + 1 = b.rings := by
  rcases b with (_ | _) | _ | kept
  · contradiction
  · cases taken
    rfl
  · contradiction
  · cases taken
    rfl

end Bell

namespace IdleTimer

/-- How the timer waits once it has seen a deadline, or none. -/
def facing : Option Nat → IdleTimer
  | none => waiting
  | some deadline => asleep deadline

theorem facing_injective : Function.Injective facing := by
  rintro (_ | _) (_ | _) same <;> cases same <;> rfl

theorem looking_ne_facing (seen : Option Nat) : looking ≠ facing seen := by
  cases seen <;> nofun

theorem awake_ne_facing (seen : Option Nat) : awake ≠ facing seen := by
  cases seen <;> nofun

/-- The timer looks, is awake or waits. -/
theorem eq_or_facing (timer : IdleTimer) :
    timer = looking ∨ timer = awake ∨ ∃ seen, timer = facing seen := by
  cases timer with
  | looking => exact .inl rfl
  | awake => exact .inr (.inl rfl)
  | waiting => exact .inr (.inr ⟨none, rfl⟩)
  | asleep deadline => exact .inr (.inr ⟨some deadline, rfl⟩)

end IdleTimer

/-- The world with a buffer that notes whether there is a ring to be taken. -/
def World.noting (w : World) (pending : Bool) : World :=
  { w with buffer := { w.buffer with rearmed := pending } }

theorem World.noting_self (w : World) : w.noting w.buffer.rearmed = w :=
  rfl

/-! ## The timer at the bell -/

/-- A desk with the bell of its timer. -/
structure Watch where
  desk : Desk
  bell : Bell := .unattended false

namespace Watch

/-- The timer has taken a ring and looks again. -/
def noticing (d : Desk) (bell : Bell) : Watch where
  desk := { d with timer := .looking, world := d.world.noting bell.isPending }
  bell := bell

/-- What the timer does next. -/
inductive TimerStep : Watch → Watch → Prop
  /-- It looks at the deadline, for which it needs the lock. -/
  | look {d : Desk} {bell : Bell} (looking : d.timer = .looking) (free : d.turn = .free) :
      TimerStep ⟨d, bell⟩ ⟨{ d with timer := .facing d.world.buffer.deadline }, bell⟩
  /-- It begins to wait at the bell. -/
  | attend {d : Desk} {seen : Option Nat} (waits : d.timer = .facing seen) :
      TimerStep ⟨d, .unattended false⟩ ⟨d, .attended⟩
  /-- It takes a ring. -/
  | notice {d : Desk} {bell left : Bell} {seen : Option Nat} (waits : d.timer = .facing seen)
      (taken : bell.take? = some left) : TimerStep ⟨d, bell⟩ (noticing d left)
  /-- The deadline that it has seen is over. -/
  | expire {d : Desk} {bell : Bell} {deadline : Nat} (asleep : d.timer = .asleep deadline)
      (passed : deadline ≤ d.world.time) :
      TimerStep ⟨d, bell⟩ ⟨{ d with timer := .awake }, bell.leave⟩
  /-- It checks the deadline that stands, and begins a flush if that is over. -/
  | check {d : Desk} {bell : Bell} (awake : d.timer = .awake) (free : d.turn = .free) :
      TimerStep ⟨d, bell⟩ ⟨d.check, bell⟩

/-- What can happen next: a task adds an entry or begins a flush, the holder of the lock goes on, the
timer does something, or something else happens. -/
inductive Step : Watch → Watch → Prop
  | add {d : Desk} {bell : Bell} (free : d.turn = .free) (item : Item) (audit : Audit) :
      Step ⟨d, bell⟩ ⟨d.add item audit, bell.ring⟩
  | flush {d : Desk} {bell : Bell} (free : d.turn = .free) :
      Step ⟨d, bell⟩ ⟨d.startFlush .manual, bell⟩
  | goOn {d : Desk} {bell : Bell} (held : d.turn ≠ .free) : Step ⟨d, bell⟩ ⟨d.goOn, bell⟩
  | timer {s s' : Watch} (step : TimerStep s s') : Step s s'
  | others {d : Desk} {bell : Bell} {w : World} (apart : d.world.Apart w) :
      Step ⟨d, bell⟩ ⟨d.inWorld w, bell⟩

/-- What can happen in the end. -/
def Reaches : Watch → Watch → Prop :=
  Relation.ReflTransGen Step

/-! ## What the timer has seen -/

/-- The buffer notes whether there is a ring to be taken, there is a deadline exactly while something
waits, and a timer without a ring to be taken has seen the deadline that stands, if one does. -/
structure Alert (s : Watch) : Prop where
  note : s.desk.world.buffer.rearmed = s.bell.isPending
  deadline : s.desk.world.buffer.deadline = none ↔ s.desk.world.buffer.items = []
  seen : ∀ seen, s.desk.timer = .facing seen → s.bell.isPending = false →
    s.desk.world.buffer.deadline = none ∨ s.desk.world.buffer.deadline = seen

variable {s s' : Watch} {d d' : Desk} {bell : Bell}

namespace Alert

theorem initial {start : World} {capacity batchSize idleInterval : Nat}
    (fresh : start.buffer = .ofCapacity capacity batchSize idleInterval) :
    Alert { desk := { world := start } } := by
  constructor
  · change start.buffer.rearmed = false
    rw [fresh]
    rfl
  · change start.buffer.deadline = none ↔ start.buffer.items = []
    rw [fresh]
    exact ⟨fun _ => rfl, fun _ => rfl⟩
  · exact fun seen waits => absurd waits (IdleTimer.looking_ne_facing seen)

/-- What leaves the timer and the bell alone may leave the buffer as it is. -/
theorem rest (alert : Alert ⟨d, bell⟩) (timer : d'.timer = d.timer)
    (buffer : d'.world.buffer = d.world.buffer) : Alert ⟨d', bell⟩ := by
  constructor
  · rw [buffer]
    exact alert.note
  · rw [buffer]
    exact alert.deadline
  · rw [buffer, timer]
    exact alert.seen

/-- Where nothing waits and no deadline stands, the timer has missed none. -/
theorem clear (alert : Alert ⟨d, bell⟩)
    (rearmed : d'.world.buffer.rearmed = d.world.buffer.rearmed)
    (deadline : d'.world.buffer.deadline = none) (items : d'.world.buffer.items = []) :
    Alert ⟨d', bell⟩ :=
  ⟨rearmed.trans alert.note, iff_of_true deadline items, fun _ _ _ => .inl deadline⟩

theorem startFlush (alert : Alert ⟨d, bell⟩) (reason : FlushReason) :
    Alert ⟨d.startFlush reason, bell⟩ := by
  unfold Desk.startFlush
  split
  next none => exact alert.clear rfl rfl (List.isEmpty_iff.mp none)
  next => exact alert.rest rfl rfl

theorem goOn (alert : Alert ⟨d, bell⟩) : Alert ⟨d.goOn, bell⟩ := by
  unfold Desk.goOn
  split
  next free => exact alert
  next turn => exact alert.rest rfl d.world.flushItems_spec.2.2.1
  next turn => exact alert.rest rfl d.world.flushAudits_spec.2.2.1
  next turn => exact alert.clear rfl rfl rfl

/-- After an addition there is a ring to be taken. -/
theorem add (d : Desk) (bell : Bell) (item : Item) (audit : Audit) :
    Alert ⟨d.add item audit, bell.ring⟩ := by
  have put : Alert ⟨d.put item audit, bell.ring⟩ := by
    constructor
    · exact bell.isPending_ring.symm
    · simp [Desk.put, Buffer.push]
    · intro seen waits quiet
      rw [bell.isPending_ring] at quiet
      contradiction
  unfold Desk.add
  split
  · exact put.startFlush .full
  · exact put

/-- A timer that does not wait has seen nothing yet. -/
theorem look (alert : Alert ⟨d, bell⟩) : Alert ⟨{ d with timer := .looking }, bell⟩ :=
  ⟨alert.note, alert.deadline, fun seen waits => absurd waits (IdleTimer.looking_ne_facing seen)⟩

theorem timerStep (alert : s.Alert) (step : TimerStep s s') : s'.Alert := by
  cases step with
  | look looking free =>
      refine ⟨alert.note, alert.deadline, fun seen waits _ => .inr ?_⟩
      exact IdleTimer.facing_injective waits
  | attend waits => exact ⟨alert.note, alert.deadline, fun seen waits _ => alert.seen seen waits rfl⟩
  | notice waits taken =>
      refine ⟨rfl, alert.deadline, fun seen waits => ?_⟩
      exact absurd waits (IdleTimer.looking_ne_facing seen)
  | expire asleep passed =>
      refine ⟨alert.note.trans (Bell.isPending_leave _).symm, alert.deadline, fun seen waits => ?_⟩
      exact absurd waits (IdleTimer.awake_ne_facing seen)
  | check awake free =>
      unfold Desk.check
      split
      · exact alert.look.startFlush .timeout
      · exact alert.look

theorem step (alert : s.Alert) (step : Step s s') : s'.Alert := by
  cases step with
  | add free item audit => exact add _ _ item audit
  | flush free => exact alert.startFlush .manual
  | goOn held => exact alert.goOn
  | timer step => exact alert.timerStep step
  | others apart => exact alert.rest rfl apart.buffer

theorem reaches (alert : s.Alert) (reaches : Reaches s s') : s'.Alert := by
  induction reaches with
  | refl => exact alert
  | tail _ step ih => exact ih.step step

/-- While something waits and there is no ring, a timer that waits does so for the deadline that
stands. -/
theorem asleep (alert : s.Alert) {seen : Option Nat} {due : Nat}
    (waits : s.desk.timer = .facing seen) (quiet : s.bell.isPending = false)
    (stands : s.desk.world.buffer.deadline = some due) : s.desk.timer = .asleep due := by
  rcases alert.seen seen waits quiet with none | same
  · rw [stands] at none
    contradiction
  · rwa [← same, stands] at waits

end Alert

/-! ## The timer moves as it does in the world -/

/-- At the bell the timer does what an idle timer does that ends in this world: it begins the flush
that is over there, or it does the same up to the note, which tells of the rings that are left. -/
inductive Does (s : Watch) (w : World) (s' : Watch) : Prop
  | check (awake : s.desk.timer = .awake) (begun : s'.desk = s.desk.check)
      (finished : s.desk.turn = .free → s'.desk.finish.world = w)
  | same (asleep : s.desk.timer ≠ .awake)
      (desk : s'.desk =
        { s.desk with timer := s'.desk.timer, world := w.noting s'.bell.isPending })

theorem timer_startFlush (d : Desk) (reason : FlushReason) :
    (d.startFlush reason).timer = d.timer := by
  unfold Desk.startFlush
  split <;> rfl

theorem timer_check (d : Desk) : d.check.timer = .looking := by
  unfold Desk.check
  split
  next => exact timer_startFlush _ _
  next => rfl

theorem does_check (awake : d.timer = .awake) :
    Does ⟨d, bell⟩ (IdleTimer.check d.world) ⟨d.check, bell⟩ :=
  .check awake rfl fun free => Desk.world_finish_check free

namespace Alert

/-- What is done in a world whose note tells of the rings is done up to the note. -/
theorem does (alert : Alert ⟨d, bell⟩) (asleep : d.timer ≠ .awake) (timer : IdleTimer) {left : Bell}
    (pending : left.isPending = bell.isPending) :
    Does ⟨d, bell⟩ d.world ⟨{ d with timer }, left⟩ := by
  refine .same asleep ?_
  have noted : d.world.noting left.isPending = d.world := by
    rw [pending, ← show d.world.buffer.rearmed = bell.isPending from alert.note]
    exact d.world.noting_self
  rw [noted]

theorem does_notice (waits : d.timer ≠ .awake) (bell left : Bell) :
    Does ⟨d, bell⟩ (IdleTimer.notice d.world) (noticing d left) :=
  .same waits rfl

theorem facing_ne_awake {timer : IdleTimer} {seen : Option Nat} (waits : timer = .facing seen) :
    timer ≠ .awake :=
  fun awake => IdleTimer.awake_ne_facing seen (awake.symm.trans waits)

/-- What the timer does at the bell, other than going there, is a move of the idle timer. -/
theorem moves (alert : s.Alert) (step : TimerStep s s') :
    s'.desk = s.desk ∨ ∃ w, (s'.desk.timer, w) ∈ s.desk.timer.moves s.desk.world ∧
      s.Does w s' := by
  cases step with
  | @look d bell looking free =>
      refine .inr ⟨d.world, ?_, alert.does (by simp [looking]) _ rfl⟩
      simp only [looking, IdleTimer.moves]
      cases d.world.buffer.deadline <;> simp [IdleTimer.facing]
  | attend waits => exact .inl rfl
  | @notice d bell left seen waits taken =>
      have pending : d.world.buffer.rearmed = true := by
        rw [show d.world.buffer.rearmed = bell.isPending from alert.note, ← bell.take?_isSome,
          taken]
        rfl
      refine .inr ⟨IdleTimer.notice d.world, ?_, does_notice (facing_ne_awake waits) bell left⟩
      simp only [waits, noticing]
      cases seen <;> simp [IdleTimer.facing, IdleTimer.moves, pending]
  | @expire d bell deadline asleep passed =>
      refine .inr ⟨d.world, ?_, alert.does (by simp [asleep]) _ bell.isPending_leave⟩
      simp [asleep, IdleTimer.moves, passed]
  | @check d bell awake free =>
      refine .inr ⟨IdleTimer.check d.world, ?_, does_check awake⟩
      simp [awake, IdleTimer.moves, timer_check]

/-- A timer that waits can take the ring that the note tells of. -/
theorem exists_notice (alert : Alert ⟨d, bell⟩) {seen : Option Nat} (waits : d.timer = .facing seen)
    (rearmed : d.world.buffer.rearmed = true) :
    ∃ s', TimerStep ⟨d, bell⟩ s' ∧ s'.desk.timer = .looking ∧
      Does ⟨d, bell⟩ (IdleTimer.notice d.world) s' := by
  have pending : bell.isPending = true := alert.note.symm.trans rearmed
  obtain ⟨left, taken⟩ := Option.isSome_iff_exists.mp (bell.take?_isSome.trans pending)
  exact ⟨_, .notice waits taken, rfl, does_notice (facing_ne_awake waits) bell left⟩

/-- Each move of the idle timer can be done at the bell. -/
theorem exists_timerStep (alert : s.Alert) {timer : IdleTimer} {w : World}
    (move : (timer, w) ∈ s.desk.timer.moves s.desk.world)
    (free : s.desk.timer = .looking ∨ s.desk.timer = .awake → s.desk.turn = .free) :
    ∃ s', TimerStep s s' ∧ s'.desk.timer = timer ∧ s.Does w s' := by
  rcases s with ⟨d, bell⟩
  change (timer, w) ∈ d.timer.moves d.world at move
  cases now : d.timer with
  | looking =>
      have seen : (timer, w) = (.facing d.world.buffer.deadline, d.world) := by
        rw [now, IdleTimer.moves] at move
        cases stands : d.world.buffer.deadline <;> simpa [stands, IdleTimer.facing] using move
      cases seen
      exact ⟨_, .look now (free (.inl now)), rfl, alert.does (by simp [now]) _ rfl⟩
  | waiting =>
      rw [now, IdleTimer.moves] at move
      split at move
      next rearmed =>
        cases List.mem_singleton.mp move
        exact alert.exists_notice (show d.timer = .facing none from now) rearmed
      next => contradiction
  | asleep deadline =>
      rw [now, IdleTimer.moves, List.mem_append] at move
      rcases move with expired | noted
      · split at expired
        next passed =>
          cases List.mem_singleton.mp expired
          exact ⟨_, .expire now passed, rfl, alert.does (by simp [now]) _ bell.isPending_leave⟩
        next => contradiction
      · split at noted
        next rearmed =>
          cases List.mem_singleton.mp noted
          exact alert.exists_notice (show d.timer = .facing (some deadline) from now) rearmed
        next => contradiction
  | awake =>
      rw [now, IdleTimer.moves] at move
      cases List.mem_singleton.mp move
      exact ⟨_, .check now (free (.inr now)), timer_check d, does_check now⟩

end Alert

/-! ## Once the deadline is over -/

/-- Nobody holds the lock, and the deadline is over. -/
structure Overdue (s : Watch) : Prop where
  free : s.desk.turn = .free
  passed : s.desk.world.buffer.isOverdue s.desk.world.time

/-- How far the timer is from checking the deadline, as long as it takes no ring. -/
def distance : IdleTimer → Bell → Nat
  | .looking, _ => 3
  | .awake, _ => 0
  | _, .unattended _ => 2
  | _, _ => 1

/-- How many steps the timer takes at most until it checks the deadline: after each ring that it
takes it looks again. -/
def effort (s : Watch) : Nat :=
  4 * s.bell.rings + distance s.desk.timer s.bell

@[simp]
theorem distance_looking (bell : Bell) : distance .looking bell = 3 :=
  rfl

@[simp]
theorem distance_awake (bell : Bell) : distance .awake bell = 0 :=
  rfl

theorem distance_facing_le (seen : Option Nat) (bell : Bell) :
    distance (.facing seen) bell ≤ 2 := by
  cases seen <;> cases bell <;> simp [IdleTimer.facing, distance]

theorem distance_facing_pos (seen : Option Nat) (bell : Bell) :
    0 < distance (.facing seen) bell := by
  cases seen <;> cases bell <;> simp [IdleTimer.facing, distance]

theorem distance_attended_lt (seen : Option Nat) (kept : Bool) :
    distance (.facing seen) .attended < distance (.facing seen) (.unattended kept) := by
  cases seen <;> simp [IdleTimer.facing, distance]

namespace Overdue

theorem deadline (overdue : s.Overdue) :
    ∃ due, s.desk.world.buffer.deadline = some due ∧ due ≤ s.desk.world.time := by
  simpa [Buffer.isOverdue, Option.any_eq_true] using overdue.passed

/-- The timer is not blocked. -/
theorem exists_step (overdue : s.Overdue) (alert : s.Alert) : ∃ s', TimerStep s s' := by
  obtain ⟨due, stands, le⟩ := overdue.deadline
  rcases s with ⟨d, bell⟩
  rcases d.timer.eq_or_facing with looking | awake | ⟨seen, waits⟩
  · exact ⟨_, .look looking overdue.free⟩
  · exact ⟨_, .check awake overdue.free⟩
  · cases pending : bell.isPending with
    | true =>
        obtain ⟨left, taken⟩ := Option.isSome_iff_exists.mp (bell.take?_isSome.trans pending)
        exact ⟨_, .notice waits taken⟩
    | false =>
        exact ⟨_, .expire (alert.asleep waits pending stands) le⟩

/-- Each step of the timer begins a flush or brings it nearer. -/
theorem step (overdue : s.Overdue) (alert : s.Alert) (step : TimerStep s s') :
    s'.desk.turn = .evaluating ∨ (s'.Overdue ∧ s'.effort < s.effort) := by
  cases step with
  | @look d bell looking free =>
      have near := distance_facing_le d.world.buffer.deadline bell
      refine .inr ⟨⟨free, overdue.passed⟩, ?_⟩
      simp only [effort, looking, distance_looking]
      omega
  | @attend d seen waits =>
      have near := distance_attended_lt seen false
      refine .inr ⟨⟨overdue.free, overdue.passed⟩, ?_⟩
      simp only [effort, waits, Bell.rings]
      exact Nat.add_lt_add_left near _
  | @notice d bell left seen waits taken =>
      have taken := Bell.rings_take taken
      refine .inr ⟨⟨overdue.free, overdue.passed⟩, ?_⟩
      simp only [effort, noticing, distance_looking]
      omega
  | @expire d bell deadline asleep passed =>
      have fewer := bell.rings_leave
      have near : 0 < distance (.asleep deadline) bell := distance_facing_pos (some deadline) bell
      refine .inr ⟨⟨overdue.free, overdue.passed⟩, ?_⟩
      simp only [effort, asleep, distance_awake]
      omega
  | @check d bell awake free =>
      obtain ⟨due, stands, _⟩ := overdue.deadline
      have waiting : d.world.buffer.items ≠ [] := by
        intro none
        rw [alert.deadline.mpr none] at stands
        contradiction
      left
      change (Desk.check d).turn = _
      rw [Desk.check, if_pos overdue.passed]
      simp [Desk.startFlush, waiting]

end Overdue

/-! ## Nothing waits in vain -/

/-- The timer knows of what waits, or will in time. -/
structure Minds (s : Watch) : Prop where
  /-- While the timer waits for a ring and there is none, nothing waits to be sent. -/
  waiting : s.desk.timer = .waiting → s.bell.isPending = false →
    s.desk.world.buffer.items = []
  /-- While the timer waits for a deadline and there is no ring, no other deadline stands. -/
  asleep : ∀ deadline, s.desk.timer = .asleep deadline → s.bell.isPending = false →
    s.desk.world.buffer.deadline = none ∨ s.desk.world.buffer.deadline = some deadline
  /-- What waits, and is not being sent, has a deadline, and the timer waits for no later one: it is
  about to look or to check, it has a ring to take, or it waits for this deadline. -/
  covered : s.desk.turn = .free → s.desk.world.buffer.items ≠ [] →
    ∃ due, s.desk.world.buffer.deadline = some due ∧
      (s.desk.timer = .looking ∨ s.desk.timer = .awake ∨ s.bell.isPending = true ∨
        s.desk.timer = .asleep due)
  /-- Once the deadline is over, the timer has something to do, and whatever that is begins a flush
  or brings it nearer. -/
  prompt : s.Overdue → (∃ s', TimerStep s s') ∧ ∀ s', TimerStep s s' →
    s'.desk.turn = .evaluating ∨ (s'.Overdue ∧ s'.effort < s.effort)

theorem Alert.minds (alert : s.Alert) : s.Minds := by
  constructor
  case waiting =>
    intro waits quiet
    rcases alert.seen none waits quiet with none | none <;> exact alert.deadline.mp none
  case asleep => exact fun deadline waits quiet => alert.seen (some deadline) waits quiet
  case covered =>
    intro _ waiting
    obtain ⟨due, stands⟩ := Option.ne_none_iff_exists'.mp (mt alert.deadline.mp waiting)
    refine ⟨due, stands, ?_⟩
    rcases s.desk.timer.eq_or_facing with looking | awake | ⟨seen, waits⟩
    · exact .inl looking
    · exact .inr (.inl awake)
    · cases pending : s.bell.isPending with
      | true => exact .inr (.inr (.inl rfl))
      | false => exact .inr (.inr (.inr (alert.asleep waits pending stands)))
  case prompt =>
    exact fun overdue => ⟨overdue.exists_step alert, fun s' step => overdue.step alert step⟩

/-- However additions, flushes and the timer come in between each other, the timer misses none of
what waits. -/
theorem misses_nothing {start : World} {capacity batchSize idleInterval : Nat}
    (fresh : start.buffer = .ofCapacity capacity batchSize idleInterval)
    (reaches : Reaches { desk := { world := start } } s) : s.Minds :=
  ((Alert.initial fresh).reaches reaches).minds

/-- The timer at the bell and the idle timer of a world do the same, whether one of them is described
or the other. -/
structure Mirrors (s : Watch) : Prop where
  /-- The buffer notes for the timer whether there is a ring to be taken. -/
  note : s.desk.world.buffer.rearmed = s.bell.isPending
  /-- Unless it only goes to the bell, what the timer does at the bell is a move of the idle timer. -/
  steps : ∀ s', TimerStep s s' → s'.desk = s.desk ∨ ∃ w,
    (s'.desk.timer, w) ∈ s.desk.timer.moves s.desk.world ∧ s.Does w s'
  /-- Each move of the idle timer can be done at the bell, if the lock is free for those that need
  it. -/
  moves : ∀ timer w, (timer, w) ∈ s.desk.timer.moves s.desk.world →
    (s.desk.timer = .looking ∨ s.desk.timer = .awake → s.desk.turn = .free) →
      ∃ s', TimerStep s s' ∧ s'.desk.timer = timer ∧ s.Does w s'

/-- The timer at the bell mirrors the idle timer, whatever has come in between. -/
theorem Alert.mirrors (alert : s.Alert) : s.Mirrors where
  note := alert.note
  steps _ step := alert.moves step
  moves _ _ move free := alert.exists_timerStep move free

theorem mirrors_idleTimer {start : World} {capacity batchSize idleInterval : Nat}
    (fresh : start.buffer = .ofCapacity capacity batchSize idleInterval)
    (reaches : Reaches { desk := { world := start } } s) : s.Mirrors :=
  ((Alert.initial fresh).reaches reaches).mirrors

namespace Sample

/-- An empty buffer for three entries. -/
def start : World where
  clock n := ⟨n, 0⟩
  buffer := .ofCapacity 3 10 1000
  evaluations := { name := "evaluations" }
  audits := { name := "audits" }
  requests := { name := "requests" }

def adding (d : Desk) (inventoryId : String) : Desk :=
  d.add ⟨inventoryId, 1, "o", "r"⟩ (.received inventoryId (some "o") (some "r"))

def facing (d : Desk) : Desk :=
  { d with timer := .facing d.world.buffer.deadline }

def atTime (d : Desk) (time : Nat) : Desk :=
  d.inWorld { d.world with time }

/-- The timer has seen that nothing waits, and an entry is added before it begins to wait. -/
def added : Watch :=
  ⟨adding (facing { world := start }) "g", .unattended true⟩

/-- The timer takes the ring, sees the deadline and begins to wait. -/
def attended : Watch :=
  ⟨facing (noticing added.desk (.unattended false)).desk, .attended⟩

/-- Another entry pushes the deadline on, and the timer wakes for the one that it has seen. -/
def woken : Watch :=
  ⟨{ atTime (adding (atTime attended.desk 500) "h") 1000 with timer := .awake }, .unattended true⟩

/-- The timer checks the deadline that stands, looks again and has not begun to wait. -/
def faced : Watch :=
  ⟨facing woken.desk.check, .unattended true⟩

theorem reaches_attended : Reaches { desk := { world := start } } attended := by
  have looked : Reaches { desk := { world := start } } ⟨facing { world := start }, _⟩ :=
    .single (.timer (.look rfl rfl))
  have rung : Reaches { desk := { world := start } } added := looked.tail (.add rfl _ _)
  have waits : added.desk.timer = .facing none := rfl
  have sleeps : attended.desk.timer = .facing (some 1000) := rfl
  have noticed := rung.tail (.timer (.notice waits rfl))
  exact (noticed.tail (.timer (.look rfl rfl))).tail (.timer (.attend sleeps))

theorem reaches_faced : Reaches { desk := { world := start } } faced := by
  have later : Reaches _ ⟨atTime attended.desk 500, .attended⟩ :=
    reaches_attended.tail (.others ⟨rfl, .refl _, .refl _⟩)
  have rung : Reaches _ ⟨adding (atTime attended.desk 500) "h", .rung false⟩ :=
    later.tail (.add rfl _ _)
  have passed : Reaches _ ⟨atTime (adding (atTime attended.desk 500) "h") 1000, .rung false⟩ :=
    rung.tail (.others ⟨rfl, .refl _, .refl _⟩)
  have awake : Reaches _ woken := passed.tail (.timer (.expire rfl (Nat.le_refl 1000)))
  exact (awake.tail (.timer (.check rfl rfl))).tail (.timer (.look rfl rfl))

end Sample

theorem misses_nothing_sample :
    Sample.faced.desk.timer = .asleep 1500 ∧ Sample.faced.bell = .unattended true ∧
      Sample.faced.Minds :=
  ⟨rfl, rfl, misses_nothing rfl Sample.reaches_faced⟩

end Watch

end FleetRoster
