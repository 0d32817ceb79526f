import Mathlib.Data.List.Perm.Basic
import FleetRoster.Proofs.Handler.Calm
import FleetRoster.Proofs.Store.Faces

/-!
# Pictures of a roster

What is compared when the handlers of uploads and deletions take events in different orders. A
picture shows the faces of all hosts and the counts. At one instant, and while nothing goes wrong,
an event touches the face of its own host, sweeps old markers off all the others if it is a
deletion, and counts what its own host's face says. What it sweeps away could not have mattered to
another event. So events of different hosts can change places, and lists of events that agree on the
order of events of each host lead to the same picture.
-/

namespace FleetRoster

open Calendar (Instant)

/-! ## Lists in another order -/

/-- Elements of which the one has no key that the other has. -/
def Apart {ε κ : Type} (key : ε → Option κ) (a b : ε) : Prop :=
  ∀ k, key a = some k → key b ≠ some k

/-- Two lists have the same elements, and elements with the same key are in the same order. -/
structure Reordered {ε κ : Type} [DecidableEq κ] (key : ε → Option κ) (xs ys : List ε) : Prop where
  perm : xs.Perm ys
  order : ∀ k, xs.filter (key · = some k) = ys.filter (key · = some k)

/-- Steps that keep a property and can change places if they are apart. -/
structure Commuting {σ ε κ : Type} (key : ε → Option κ) (holds : σ → Prop) (step : σ → ε → σ) :
    Prop where
  keeps {s : σ} (held : holds s) (a : ε) : holds (step s a)
  swap {s : σ} {a b : ε} (held : holds s) (apart : Apart key a b) :
    step (step s a) b = step (step s b) a

section

variable {σ ε κ : Type} {key : ε → Option κ} {holds : σ → Prop} {step : σ → ε → σ} {s : σ}

/-- A step may come before all those that it is apart from. -/
theorem Commuting.toFront (commuting : Commuting key holds step) (held : holds s)
    {before after : List ε} {x : ε} (apart : ∀ y ∈ before, Apart key y x) :
    (before ++ x :: after).foldl step s = (x :: (before ++ after)).foldl step s := by
  induction before generalizing s with
  | nil => rfl
  | cons y before ih =>
      rw [List.forall_mem_cons] at apart
      calc
        (y :: before ++ x :: after).foldl step s =
            (x :: (before ++ after)).foldl step (step s y) := ih (commuting.keeps held y) apart.2
        _ = (before ++ after).foldl step (step (step s x) y) := by
            rw [List.foldl_cons, commuting.swap held apart.1]

variable [DecidableEq κ]

/-- What is first in the one list is preceded in the other by elements that it is apart from. -/
theorem Reordered.exists_cut {xs ys : List ε} {y : ε} (reordered : Reordered key xs (y :: ys)) :
    ∃ before after, xs = before ++ y :: after ∧ ∀ x ∈ before, Apart key x y := by
  cases keyed : key y with
  | none =>
      obtain ⟨before, after, cut⟩ :=
        List.append_of_mem (reordered.perm.mem_iff.mpr List.mem_cons_self)
      refine ⟨before, after, cut, fun x _ k _ => ?_⟩
      rw [keyed]
      exact nofun
  | some k =>
      have order := reordered.order k
      rw [List.filter_cons_of_pos (by simpa using keyed)] at order
      obtain ⟨before, after, cut, absent, _⟩ := List.filter_eq_cons_iff.mp order
      refine ⟨before, after, cut, fun x mem l isKey same => ?_⟩
      have sameKey : k = l := by
        rw [keyed] at same
        exact Option.some.inj same
      exact absent x mem (by simpa [sameKey] using isKey)

/-- What is left of both lists without an element that is first in the one. -/
theorem Reordered.tail {ys before after : List ε} {y : ε}
    (reordered : Reordered key (before ++ y :: after) (y :: ys))
    (apart : ∀ x ∈ before, Apart key x y) : Reordered key (before ++ after) ys where
  perm := (List.perm_middle.symm.trans reordered.perm).cons_inv
  order k := by
    have order := reordered.order k
    rw [List.filter_append] at order ⊢
    by_cases keyed : key y = some k
    · have none : before.filter (key · = some k) = [] := by
        rw [List.filter_eq_nil_iff]
        intro x mem isKey
        exact apart x mem k (by simpa using isKey) keyed
      rw [none, List.filter_cons_of_pos (by simpa using keyed),
        List.filter_cons_of_pos (by simpa using keyed)] at order
      rw [none]
      exact (List.cons.inj order).2
    · rwa [List.filter_cons_of_neg (by simpa using keyed),
        List.filter_cons_of_neg (by simpa using keyed)] at order

/-- Steps lead to the same in every order that leaves those with the same key in their order. -/
theorem Commuting.foldl_eq (commuting : Commuting key holds step) (held : holds s) {xs ys : List ε}
    (reordered : Reordered key xs ys) : xs.foldl step s = ys.foldl step s := by
  induction ys generalizing xs s with
  | nil => rw [reordered.perm.eq_nil]
  | cons y ys ih =>
      obtain ⟨before, after, rfl, apart⟩ := reordered.exists_cut
      rw [commuting.toFront held apart]
      exact ih (commuting.keeps held y) (reordered.tail apart)

/-- Neighbours that are apart may change places. -/
theorem Reordered.swap {a b : ε} (apart : Apart key a b) (rest : List ε) :
    Reordered key (a :: b :: rest) (b :: a :: rest) where
  perm := .swap b a rest
  order k := by
    by_cases keyed : key a = some k
    · have other := apart k keyed
      simp [keyed, other]
    · simp [List.filter_cons, keyed]

end

/-! ## Pictures -/

/-- The inventory id that an event is about. -/
def Job.inventoryId? (job : Job) : Option String :=
  (HostEvent.ofMessage job.message).toOption.bind (·.inventoryId)

/-- What can be seen of all hosts, and the counts by event and outcome. -/
@[ext]
structure Picture where
  face : String → Face
  count : String → String → Nat

/-- How many messages an event counts under two labels. -/
def countedAs (counted : Option (Lane × Verdict)) (event outcome : String) : Nat :=
  if counted.map (fun c => (c.1.text, c.2.text)) = some (event, outcome) then 1 else 0

section

variable (threshold : Nat) (now limit : Instant)

/-- What an event makes of the face of its own host, and what it counts. -/
def Job.touch (job : Job) (f : Face) : Face × Option (Lane × Verdict) :=
  match job.accepted?, job.deletion? with
  | some r, _ =>
    if f.marker.any (·.isRecent now threshold) then (f, some (.upload, .deleted))
    else (f.filed r.org (r.upload 0 now), some (.upload, .evaluated))
  | none, some inventoryId =>
    ((f.marked ⟨inventoryId, now⟩).staled now,
      some (.delete, if f.known then .deleted else .noRows))
  | none, none => (f, (job.handler threshold).openingCount?)

/-- What an event makes of every face in the end. -/
def Job.sweep (job : Job) (f : Face) : Face :=
  if job.deletion?.isSome then f.swept limit else f

/-- What an event counts. -/
def Job.counted? (job : Job) (face : String → Face) : Option (Lane × Verdict) :=
  match job.inventoryId? with
  | none => (job.handler threshold).openingCount?
  | some inventoryId => (job.touch threshold now (face inventoryId)).2

/-- The face of a host after an event. -/
def Job.faceAfter (job : Job) (inventoryId : String) (f : Face) : Face :=
  job.sweep limit (if job.inventoryId? = some inventoryId then (job.touch threshold now f).1 else f)

/-- The picture after an event. -/
def Picture.after (p : Picture) (job : Job) : Picture where
  face inventoryId := job.faceAfter threshold now limit inventoryId (p.face inventoryId)
  count event outcome :=
    p.count event outcome + countedAs (job.counted? threshold now p.face) event outcome

end

/-- A face whose marker is outside leap seconds. -/
def Face.IsOrdinary (f : Face) : Prop :=
  ∀ m ∈ f.marker, m.deletedAt.IsOrdinary

variable {threshold : Nat} {now limit : Instant} {f : Face} {p : Picture} {job other : Job}

/-! ## What an event is about -/

theorem HostEvent.inventoryId_of_report? {event : HostEvent} {r : Report}
    (reported : event.report? = some r) : event.inventoryId = some r.inventoryId := by
  unfold HostEvent.report? at reported
  split at reported
  next host inventoryId hosted named =>
    split at reported
    · cases reported
      exact named
    · contradiction
  next => contradiction

namespace Job

theorem inventoryId?_of_report? {r : Report} (reported : job.report? = some r) :
    job.inventoryId? = some r.inventoryId := by
  unfold Job.report? EventKind.report? at reported
  split at reported
  · obtain ⟨event, decoded, reported⟩ := Option.bind_eq_some_iff.mp reported
    rw [inventoryId?, decoded]
    exact HostEvent.inventoryId_of_report? reported
  · contradiction

theorem inventoryId?_of_deletion? {inventoryId : String}
    (deletion : job.deletion? = some inventoryId) : job.inventoryId? = some inventoryId := by
  unfold Job.deletion? EventKind.deletion? at deletion
  split at deletion
  · exact deletion
  · contradiction

/-! ## What an event paints -/

theorem touch_of_isIdle (idle : job.IsIdle) (threshold : Nat) (now : Instant) (f : Face) :
    job.touch threshold now f = (f, (job.handler threshold).openingCount?) := by
  rw [touch, idle.notAccepted, idle.notDeletion]

theorem touch_of_guarded {r : Report} (accepted : job.accepted? = some r) {f : Face}
    (guarded : f.marker.any (·.isRecent now threshold) = true) :
    job.touch threshold now f = (f, some (.upload, .deleted)) := by
  rw [touch, accepted]
  exact if_pos guarded

theorem touch_of_unguarded {r : Report} (accepted : job.accepted? = some r) {f : Face}
    (unguarded : f.marker.any (·.isRecent now threshold) = false) :
    job.touch threshold now f =
      (f.filed r.org (r.upload 0 now), some (.upload, .evaluated)) := by
  rw [touch, accepted]
  exact if_neg (Bool.eq_false_iff.mp unguarded)

theorem touch_of_deletion? {inventoryId : String} (deletion : job.deletion? = some inventoryId)
    (threshold : Nat) (now : Instant) (f : Face) :
    job.touch threshold now f =
      ((f.marked ⟨inventoryId, now⟩).staled now,
        some (.delete, if f.known then .deleted else .noRows)) := by
  rw [touch, accepted?_of_deletion? deletion, deletion]

/-- Only a deletion sweeps. -/
theorem faceAfter_of_not_deletion (notDeletion : job.deletion? = none) (threshold : Nat)
    (now limit : Instant) (inventoryId : String) (f : Face) :
    job.faceAfter threshold now limit inventoryId f =
      if job.inventoryId? = some inventoryId then (job.touch threshold now f).1 else f := by
  rw [faceAfter, sweep, notDeletion]
  rfl

theorem faceAfter_of_report? {r : Report} (reported : job.report? = some r) (threshold : Nat)
    (now limit : Instant) (inventoryId : String) (f : Face) :
    job.faceAfter threshold now limit inventoryId f =
      if inventoryId = r.inventoryId then (job.touch threshold now f).1 else f := by
  rw [faceAfter_of_not_deletion (deletion?_of_report? reported), inventoryId?_of_report? reported]
  simp only [Option.some.injEq, eq_comm]

theorem faceAfter_of_deletion? {deleted : String} (deletion : job.deletion? = some deleted)
    (threshold : Nat) (now limit : Instant) (inventoryId : String) (f : Face) :
    job.faceAfter threshold now limit inventoryId f =
      (if inventoryId = deleted then (f.marked ⟨deleted, now⟩).staled now else f).swept limit := by
  rw [faceAfter, sweep, touch_of_deletion? deletion, inventoryId?_of_deletion? deletion, deletion]
  simp only [Option.isSome_some, if_true, Option.some.injEq, eq_comm]

theorem counted?_of_inventoryId? {inventoryId : String}
    (about : job.inventoryId? = some inventoryId) (threshold : Nat) (now : Instant)
    (face : String → Face) :
    job.counted? threshold now face = (job.touch threshold now (face inventoryId)).2 := by
  rw [counted?, about]

end Job

/-! ## Sweeping does not matter -/

/-- A marker that is swept away was not recent. -/
theorem Face.any_swept (tidy : f.IsOrdinary) (ordinary : now.IsOrdinary)
    (back : now.earlier? threshold = some limit) :
    (f.swept limit).marker.any (·.isRecent now threshold) =
      f.marker.any (·.isRecent now threshold) := by
  rw [swept]
  cases found : f.marker with
  | none => rfl
  | some m =>
      cases before : m.deletedAt.before limit with
      | false => simp [before]
      | true =>
          have old := Marker.isRecent_of_before (tidy m found) ordinary ordinary back
            (Int.le_refl _) before
          simp [before, old]

/-- The marker that a deletion sets is not swept away by another one at the same instant. -/
theorem Face.swept_marked (ordinary : now.IsOrdinary)
    (back : now.earlier? threshold = some limit) (f : Face) (inventoryId : String) :
    ((f.marked ⟨inventoryId, now⟩).staled now).swept limit =
      (((f.swept limit).marked ⟨inventoryId, now⟩).staled now) := by
  obtain ⟨ordinaryLimit, limitAt⟩ := Instant.nanos_of_earlier? ordinary back
  have late : now.before limit = false := by
    rw [Bool.eq_false_iff, Ne, Instant.before_iff ordinary ordinaryLimit]
    omega
  simp [swept, staled, marked, late]

/-- What an event makes of its host, and counts, is the same before and after a sweep. -/
theorem Job.touch_swept (tidy : f.IsOrdinary) (ordinary : now.IsOrdinary)
    (back : now.earlier? threshold = some limit) (job : Job) :
    job.touch threshold now (f.swept limit) =
      ((job.touch threshold now f).1.swept limit, (job.touch threshold now f).2) := by
  unfold touch
  cases job.accepted? with
  | some r =>
      dsimp only
      rw [Face.any_swept tidy ordinary back]
      split <;> rfl
  | none =>
      cases job.deletion? with
      | some inventoryId =>
          dsimp only
          rw [Face.swept_marked ordinary back]
          rfl
      | none => rfl

theorem Job.touch_sweep (tidy : f.IsOrdinary) (ordinary : now.IsOrdinary)
    (back : now.earlier? threshold = some limit) (job other : Job) :
    job.touch threshold now (other.sweep limit f) =
      (other.sweep limit (job.touch threshold now f).1, (job.touch threshold now f).2) := by
  unfold sweep
  split
  · exact job.touch_swept tidy ordinary back
  · rfl

theorem Job.sweep_sweep (job other : Job) (f : Face) :
    job.sweep limit (other.sweep limit f) = other.sweep limit (job.sweep limit f) := by
  unfold sweep
  split <;> split <;> rfl

/-! ## Events of different hosts -/

theorem Job.faceAfter_comm (tidy : f.IsOrdinary) (ordinary : now.IsOrdinary)
    (back : now.earlier? threshold = some limit) (apart : Apart Job.inventoryId? job other)
    (inventoryId : String) :
    other.faceAfter threshold now limit inventoryId (job.faceAfter threshold now limit inventoryId f) =
      job.faceAfter threshold now limit inventoryId
        (other.faceAfter threshold now limit inventoryId f) := by
  unfold faceAfter
  by_cases own : job.inventoryId? = some inventoryId
  · have notOther := apart inventoryId own
    simp only [if_pos own, if_neg notOther]
    rw [touch_sweep tidy ordinary back, sweep_sweep]
  · by_cases others : other.inventoryId? = some inventoryId
    · simp only [if_neg own, if_pos others]
      rw [touch_sweep tidy ordinary back, sweep_sweep]
    · simp only [if_neg own, if_neg others]
      rw [sweep_sweep]

/-- What an event counts does not depend on an event of another host before it. -/
theorem Job.counted?_after (tidy : ∀ inventoryId, (p.face inventoryId).IsOrdinary)
    (ordinary : now.IsOrdinary) (back : now.earlier? threshold = some limit)
    (apart : Apart Job.inventoryId? job other) :
    other.counted? threshold now (p.after threshold now limit job).face =
      other.counted? threshold now p.face := by
  unfold counted?
  cases about : other.inventoryId? with
  | none => rfl
  | some inventoryId =>
      have notOwn : job.inventoryId? ≠ some inventoryId := fun own => apart inventoryId own about
      simp only [Picture.after, faceAfter, if_neg notOwn]
      rw [touch_sweep (tidy inventoryId) ordinary back]

/-! ## Tidy faces stay tidy -/

theorem Face.IsOrdinary.swept (tidy : f.IsOrdinary) (limit : Instant) :
    (f.swept limit).IsOrdinary :=
  fun m mem => tidy m (Option.filter_eq_some_iff.mp mem).1

theorem Face.IsOrdinary.touch (tidy : f.IsOrdinary) (ordinary : now.IsOrdinary) (job : Job) :
    (job.touch threshold now f).1.IsOrdinary := by
  unfold Job.touch
  split
  · split
    · exact tidy
    · exact tidy
  · rintro m ⟨⟩
    exact ordinary
  · exact tidy

theorem Face.IsOrdinary.faceAfter (tidy : f.IsOrdinary) (ordinary : now.IsOrdinary) (job : Job)
    (inventoryId : String) :
    (job.faceAfter threshold now limit inventoryId f).IsOrdinary := by
  have touched : (if job.inventoryId? = some inventoryId then (job.touch threshold now f).1
      else f).IsOrdinary := by
    split
    · exact tidy.touch ordinary job
    · exact tidy
  unfold Job.faceAfter Job.sweep
  split
  · exact touched.swept limit
  · exact touched

/-- At one instant, events of different hosts can change places. -/
theorem commuting_after (ordinary : now.IsOrdinary) (back : now.earlier? threshold = some limit) :
    Commuting Job.inventoryId? (fun p => ∀ inventoryId, (p.face inventoryId).IsOrdinary)
      (Picture.after threshold now limit) where
  keeps tidy job inventoryId := (tidy inventoryId).faceAfter ordinary job inventoryId
  swap {p job other} tidy apart := by
    have apartBack : Apart Job.inventoryId? other job :=
      fun inventoryId own others => apart inventoryId others own
    apply Picture.ext
    · funext inventoryId
      exact Job.faceAfter_comm (tidy inventoryId) ordinary back apart inventoryId
    · funext event outcome
      change p.count event outcome + _ + _ = p.count event outcome + _ + _
      rw [Job.counted?_after tidy ordinary back apart,
        Job.counted?_after tidy ordinary back apartBack, Nat.add_right_comm]

end FleetRoster
