import FleetRoster.Proofs.Store.Markers

/-!
# Stores that keep every marker

What the clearing of old deletion markers changes in the store. A store that clears no marker away
has all that the other store has, and the markers that are gone from that one. Every call keeps it
so, and apart from the markers both stores answer it alike. Only clearing away lets more markers go:
those from before the limit.
-/

namespace FleetRoster.Store

open Calendar (Instant)

/-- Answers a call as a store does that clears no marker away. -/
def answerKeeping (s : Store) : (call : Call) → Store × call.Answer
  | .pruneDeleted _ => (s, (0 : Nat))
  | call => s.answer call

/-- Whether a call neither asks for the markers nor touches them. -/
def Call.IsBlind : Call → Prop
  | .getDeleted _ => False
  | .upsertDeleted _ _ => False
  | .pruneDeleted _ => False
  | _ => True

/-- A sound store has what a full one has, but for markers that are gone. -/
structure Sheds (gone : Marker → Prop) (s full : Store) : Prop where
  sound : s.IsSound
  ordinary : ∀ m ∈ s.markers, m.deletedAt.IsOrdinary
  /-- All tables but that of the markers are the same. -/
  others : full = { s with markers := full.markers }
  markers : ∀ inventoryId, full.marker? inventoryId = s.marker? inventoryId ∨
    s.marker? inventoryId = none ∧ ∃ m, full.marker? inventoryId = some m ∧ gone m

section

variable {s full : Store} {call : Call} {inventoryId : String} {time : Instant}

/-! ## Calls that do not look at the markers -/

/-- Whatever the markers are, such a call has the same answer and does the same. -/
theorem answer_withMarkers (blind : call.IsBlind) (s : Store) (markers : List Marker) :
    ({ s with markers } : Store).answer call =
      ({ (s.answer call).1 with markers }, (s.answer call).2) := by
  cases call with
  | upsertAccount org =>
      change ({ s with markers } : Store).upsertAccount org = _
      have found : ({ s with markers } : Store).account? org = s.account? org := rfl
      rw [upsertAccount, found]
      simp only [answer, upsertAccount]
      split <;> rfl
  | upsertSystem upload =>
      change ({ s with markers } : Store).upsertSystem upload = _
      have found : ({ s with markers } : Store).system? upload.account upload.inventoryId =
          s.system? upload.account upload.inventoryId := rfl
      rw [upsertSystem, found]
      simp only [answer, upsertSystem]
      split <;> rfl
  | getDeleted inventoryId => exact blind.elim
  | upsertDeleted inventoryId time => exact blind.elim
  | markStale inventoryId time => rfl
  | pruneDeleted time => exact blind.elim
  | systemsForBaseline account baseline => rfl

theorem markers_answer (blind : call.IsBlind) (s : Store) :
    (s.answer call).1.markers = s.markers := by
  cases call with
  | upsertAccount org => exact s.upsertAccount_markers org
  | upsertSystem upload => exact s.upsertSystem_markers upload
  | getDeleted inventoryId => exact blind.elim
  | upsertDeleted inventoryId time => exact blind.elim
  | markStale inventoryId time => rfl
  | pruneDeleted time => exact blind.elim
  | systemsForBaseline account baseline => rfl

theorem answerKeeping_of_isBlind (blind : call.IsBlind) (s : Store) :
    s.answerKeeping call = s.answer call := by
  cases call with
  | pruneDeleted time => exact blind.elim
  | _ => rfl

/-- Setting a marker touches no other table. -/
theorem upsertMarker_eq (s : Store) (inventoryId : String) (time : Instant) :
    s.upsertMarker inventoryId time =
      { s with markers := (s.upsertMarker inventoryId time).markers } := by
  unfold upsertMarker
  split <;> rfl

end

namespace Sheds

variable {gone wider : Marker → Prop} {s full : Store} {call : Call} {inventoryId : String}
  {time limit : Instant}

theorem systems (sheds : s.Sheds gone full) : full.systems = s.systems :=
  (congrArg Store.systems sheds.others :)

theorem accounts (sheds : s.Sheds gone full) : full.accounts = s.accounts :=
  (congrArg Store.accounts sheds.others :)

/-- From a store nothing is gone yet. -/
theorem refl (sound : s.IsSound) (ordinary : ∀ m ∈ s.markers, m.deletedAt.IsOrdinary) :
    s.Sheds gone s where
  sound := sound
  ordinary := ordinary
  others := rfl
  markers _ := .inl rfl

theorem mono (sheds : s.Sheds gone full) (imp : ∀ m, gone m → wider m) : s.Sheds wider full where
  sound := sheds.sound
  ordinary := sheds.ordinary
  others := sheds.others
  markers inventoryId := by
    rcases sheds.markers inventoryId with same | ⟨absent, m, found, isGone⟩
    · exact .inl same
    · exact .inr ⟨absent, m, found, imp m isGone⟩

/-- A call that does not look at the markers is answered alike. -/
theorem blind (sheds : s.Sheds gone full) (blind : call.IsBlind) :
    (full.answerKeeping call).2 = (s.answer call).2 ∧
      (s.answer call).1.Sheds gone (full.answerKeeping call).1 := by
  have answered : full.answerKeeping call =
      ({ (s.answer call).1 with markers := full.markers }, (s.answer call).2) := by
    rw [answerKeeping_of_isBlind blind]
    exact (congrArg (answer · call) sheds.others).trans (answer_withMarkers blind s full.markers)
  have same := markers_answer blind s
  rw [answered]
  refine ⟨rfl, ?_⟩
  constructor
  case sound => exact sheds.sound.answer call
  case ordinary =>
    rw [same]
    exact sheds.ordinary
  case others => rfl
  case markers =>
    intro inventoryId
    rw [marker?_congr same]
    exact sheds.markers inventoryId

/-- A marker that is set is set in both stores. -/
theorem mark (sheds : s.Sheds gone full) (inventoryId : String) (ordinary : time.IsOrdinary) :
    (s.upsertMarker inventoryId time).Sheds gone (full.upsertMarker inventoryId time) := by
  constructor
  case sound => exact sheds.sound.upsertMarker inventoryId time
  case ordinary =>
    intro m mem
    rcases mem_upsertMarker mem with rfl | old
    · exact ordinary
    · exact sheds.ordinary m old
  case others =>
    rw [s.upsertMarker_eq, full.upsertMarker_eq]
    exact congrArg (fun t : Store => { t with markers := (full.upsertMarker inventoryId time).markers })
      sheds.others
  case markers =>
    intro other
    rw [marker?_upsertMarker, marker?_upsertMarker]
    by_cases same : other = inventoryId
    · rw [if_pos same, if_pos same]
      exact .inl rfl
    · rw [if_neg same, if_neg same]
      exact sheds.markers other

/-- The markers from before a limit may be cleared away from the one store, if they may be gone. -/
theorem prune (sheds : s.Sheds gone full)
    (old : ∀ m, m.deletedAt.IsOrdinary → m.deletedAt.before limit = true → gone m) :
    (s.pruneMarkers limit).1.Sheds gone full := by
  constructor
  case sound => exact sheds.sound.pruneMarkers limit
  case ordinary =>
    intro m mem
    exact sheds.ordinary m (mem_pruneMarkers mem)
  case others => exact sheds.others
  case markers =>
    intro inventoryId
    rw [marker?_pruneMarkers sheds.sound.markerIds]
    rcases sheds.markers inventoryId with same | ⟨absent, isGone⟩
    · rw [same]
      cases found : s.marker? inventoryId with
      | none => exact .inl rfl
      | some m =>
          rw [Option.filter_some]
          cases before : m.deletedAt.before limit with
          | false => exact .inl rfl
          | true =>
              exact .inr ⟨rfl, m, rfl, old m (sheds.ordinary m (mem_of_marker? found)) before⟩
    · rw [absent]
      exact .inr ⟨rfl, isGone⟩

end Sheds

end FleetRoster.Store
