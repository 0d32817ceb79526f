import FleetRoster.Handler.Message
import FleetRoster.Proofs.Flow.History
import FleetRoster.Proofs.Flow.Runs
import FleetRoster.Proofs.Handler.Course

/-!
# Attempts at a message

A message that can be read is attempted at least once and at most as often as the settings allow. An
attempt follows on another one only where that one has met a fault that may pass, after a pause. A
message that cannot be read is not attempted at all.
-/

namespace FleetRoster

open FleetRoster.Flow

/-! ## Attempts -/

/-- What is done between two attempts. -/
def retryPause (delay : Nat) (about : Log.Context) (id : String) (made : Nat) (why : Fault) :
    Flow Unit := do
  Flow.log (.retrying about id made why)
  Flow.perform (.sleep delay)

section

variable (delay : Nat) (about : Log.Context) (id : String) (lane : Lane) (work : Flow Outcome)
  (aside : World → World → Prop)

/-- A message was attempted: the attempts, the first one first, each with the number of those that were
made before it, and all that was done until the message was dealt with. -/
inductive Tries :
    (further made : Nat) → World → List (Entry Nat Outcome) → List Deed → World → Ending Unit → Prop
  /-- The outcome of an attempt is logged. -/
  | done {further made : Nat} {w met w' : World} {deeds told : List Deed} {outcome : Outcome}
      {ending : Ending Unit} (takes : work.Takes aside w deeds met (.done outcome))
      (logs : (Flow.log (.handled about id outcome)).Takes aside met told w' ending) :
      Tries further made w [⟨made, w, deeds, met, .done outcome⟩] (deeds ++ told) w' ending
  /-- A crash ends it all. -/
  | crashed {further made : Nat} {w w' : World} {deeds : List Deed}
      (takes : work.Takes aside w deeds w' .crashed) :
      Tries further made w [⟨made, w, deeds, w', .crashed⟩] deeds w' .crashed
  /-- The message is given up on a fault that will not pass, and after the last attempt. -/
  | abandoned {further made : Nat} {w met w' : World} {deeds told : List Deed} {why : Fault}
      {ending : Ending Unit} (takes : work.Takes aside w deeds met (.failed why))
      (last : further = 0 ∨ why.isPermanent)
      (gives : (abandonMessage about id lane (made + 1) why).Takes aside met told w' ending) :
      Tries further made w [⟨made, w, deeds, met, .failed why⟩] (deeds ++ told) w' ending
  /-- A fault may have passed after a pause. -/
  | again {further made : Nat} {w met later w' : World} {deeds told more : List Deed} {why : Fault}
      {tries : List (Entry Nat Outcome)} {ending : Ending Unit}
      (takes : work.Takes aside w deeds met (.failed why)) (passing : ¬ why.isPermanent)
      (pauses : (retryPause delay about id (made + 1) why).Takes aside met told later (.done ()))
      (rest : Tries further (made + 1) later tries more w' ending) :
      Tries (further + 1) made w (⟨made, w, deeds, met, .failed why⟩ :: tries)
        (deeds ++ (told ++ more)) w' ending

end

variable {delay : Nat} {about : Log.Context} {id : String} {lane : Lane} {work : Flow Outcome}
  {aside : World → World → Prop} {further made : Nat} {w w' : World}
  {tries : List (Entry Nat Outcome)} {deeds : List Deed} {ending : Ending Unit}

/-- A pause ends. -/
theorem done_of_retryPause {why : Fault}
    (takes : (retryPause delay about id made why).Takes aside w deeds w' ending) :
    ending = .done () := by
  obtain ⟨_, _, _, _, takes⟩ := Takes.of_ask takes
  obtain ⟨_, _, _, _, takes⟩ := Takes.of_ask takes
  exact (Takes.of_stop takes).2.1

/-- Whoever deals with a message does it in attempts. -/
theorem exists_tries
    (takes : (attemptMessage delay about id lane work further made).Takes aside w deeds w' ending) :
    ∃ tries, Tries delay about id lane work aside further made w tries deeds w' ending := by
  induction further generalizing made w deeds with
  | zero =>
      cases takes.afterAttempt with
      | crashed one => exact ⟨_, .crashed one⟩
      | done one logs => exact ⟨_, .done one logs⟩
      | failed one gives => exact ⟨_, .abandoned one (.inl rfl) gives⟩
  | succ further ih =>
      cases takes.afterAttempt with
      | crashed one => exact ⟨_, .crashed one⟩
      | done one logs => exact ⟨_, .done one logs⟩
      | @failed why _ _ _ _ _ one other =>
          dsimp only at other
          split at other
          next permanent => exact ⟨_, .abandoned one (.inr permanent) other⟩
          next passing =>
            have pausing : (retryPause delay about id (made + 1) why >>= fun _ =>
                attemptMessage delay about id lane work further (made + 1)).Takes aside _ _ w'
                  ending := other
            cases pausing.inRow with
            | failed pauses => cases done_of_retryPause pauses
            | crashed pauses => cases done_of_retryPause pauses
            | both pauses goesOn =>
                obtain ⟨tries, rest⟩ := ih goesOn
                exact ⟨_, .again one passing pauses rest⟩

namespace Tries

/-- There is a last attempt. -/
theorem ne_nil (t : Tries delay about id lane work aside further made w tries deeds w' ending) :
    tries ≠ [] := by
  cases t <;> exact List.cons_ne_nil _ _

/-- There are no more attempts than the settings allow. -/
theorem length_le
    (t : Tries delay about id lane work aside further made w tries deeds w' ending) :
    tries.length ≤ further + 1 := by
  induction t with
  | again takes passing pauses rest ih => exact Nat.succ_le_succ ih
  | _ => exact Nat.succ_le_succ (Nat.zero_le _)

end Tries

/-! ## Messages -/

/-- The event of a message that can be read. -/
def Job.ofMessage (value : Json.Value) : Job where
  about := Log.Context.ofMessage (EventKind.ofMessage value).logName (loggedInventoryId value)
  kind := EventKind.ofMessage value
  message := value

/-- The attempts at a message that was handled. -/
inductive Attempts (settings : Settings) (aside : World → World → Prop) (e : Entry Inbound Unit) :
    List (Entry Nat Outcome) → Prop
  /-- A message that cannot be read is not attempted. -/
  | unread {why : Json.DecodeError} (unread : Json.readValue e.event.payload = .error why) :
      Attempts settings aside e []
  /-- Once a message was numbered and its arrival logged, it is attempted. -/
  | read {value : Json.Value} {notice : Notice} {serial : Nat} {numbered met : World}
      {more : List Deed} {tries : List (Entry Nat Outcome)}
      (read : Json.readValue e.event.payload = .ok value)
      (numbers : (Flow.perform (.next .messages)).Takes aside e.before
        [⟨.next .messages, serial⟩] numbered (.done serial))
      (arrives : (Flow.log notice).Takes aside numbered [⟨.log notice, ()⟩] met (.done ()))
      (tried : Tries settings.retryDelay (Job.ofMessage value).about (Log.messageId serial)
        (Job.ofMessage value).kind.lane
        (dispatch settings.thresholdNanos (Job.ofMessage value).about (Job.ofMessage value).kind
          value)
        aside settings.retries 0 met tries more e.after e.ending)
      (goesOn : e.deeds = ⟨.next .messages, serial⟩ :: ⟨.log notice, ()⟩ :: more) :
      Attempts settings aside e tries

/-- Every message that is handled is handled in attempts. -/
theorem exists_attempts {settings : Settings} {e : Entry Inbound Unit}
    (takes : (handleMessage settings e.event).Takes aside e.before e.deeds e.after e.ending) :
    ∃ tries, Attempts settings aside e tries := by
  obtain ⟨serial, numbered, rest, numbers, split, reads⟩ := takes.of_perform
  cases read : Json.readValue e.event.payload with
  | error why => exact ⟨[], .unread read⟩
  | ok value =>
      rw [read] at reads
      obtain ⟨_, met, more, arrives, rfl, attempts⟩ := reads.of_perform
      obtain ⟨tries, tried⟩ := exists_tries attempts
      exact ⟨tries, .read read numbers arrives tried split⟩

end FleetRoster
