import FleetRoster.Outbound.Topic

/-!
# What topics have received

A topic is written to in attempts, each of which it takes whole or refuses whole. What it has
received in a number of attempts is told by the attempts alone: its messages are those of the batches
that were taken, one batch after the other, and both kinds of attempts are counted.
-/

namespace FleetRoster

/-- A batch that was offered, and whether it was taken. -/
structure Attempt where
  batch : List String
  taken : Bool
  deriving DecidableEq, Repr

/-- The attempt that an offer of a batch makes, which is none if there are no messages. -/
def Attempt.offered (batch : List String) (taken : Bool) : List Attempt :=
  if batch.isEmpty then [] else [⟨batch, taken⟩]

/-- What is received of an offer. -/
theorem Attempt.flatMap_offered (batch : List String) (taken : Bool) :
    ((Attempt.offered batch taken).filter (·.taken)).flatMap (·.batch) =
      if taken then batch else [] := by
  unfold Attempt.offered
  split
  next none => simp [List.isEmpty_iff.mp none]
  next => cases taken <;> simp

namespace Topic

/-- A topic answers how many messages it has taken, which are all of the batch. -/
theorem taken_write (t : Topic) (batch : List String) :
    (t.write batch).2.toOption.getD 0 = if (t.write batch).2.toBool then batch.length else 0 := by
  unfold Topic.write
  split
  next none => simp [Except.toOption, Except.toBool, List.isEmpty_iff.mp none]
  next => split <;> rfl

/-- Nothing was offered to a topic. It may have changed its mind about what it takes. -/
structure Rests (before after : Topic) : Prop where
  messages : after.messages = before.messages
  taken : after.taken = before.taken
  refused : after.refused = before.refused

theorem Rests.refl (t : Topic) : t.Rests t :=
  ⟨rfl, rfl, rfl⟩

theorem Rests.trans {t t' t'' : Topic} (first : t.Rests t') (second : t'.Rests t'') :
    t.Rests t'' :=
  ⟨second.messages.trans first.messages, second.taken.trans first.taken,
    second.refused.trans first.refused⟩

/-- From one state of a topic to another there were these attempts to write to it, and no other. -/
structure Received (before after : Topic) (attempts : List Attempt) : Prop where
  nonempty : ∀ a ∈ attempts, a.batch ≠ []
  messages : after.messages = before.messages ++ (attempts.filter (·.taken)).flatMap (·.batch)
  taken : after.taken = before.taken + attempts.countP (·.taken)
  refused : after.refused = before.refused + attempts.countP (!·.taken)

namespace Received

variable {before after after' : Topic} {attempts : List Attempt}

theorem refl (t : Topic) : t.Received t [] where
  nonempty := by simp
  messages := by simp
  taken := rfl
  refused := rfl

/-- Nothing is received while the topic rests. -/
theorem rests (received : before.Received after attempts) (idle : after.Rests after') :
    before.Received after' attempts where
  nonempty := received.nonempty
  messages := idle.messages.trans received.messages
  taken := idle.taken.trans received.taken
  refused := idle.refused.trans received.refused

/-- The attempts of two spans are those of the first and then those of the second. -/
theorem trans {more : List Attempt} (first : before.Received after attempts)
    (second : after.Received after' more) : before.Received after' (attempts ++ more) where
  nonempty := by
    rw [List.forall_mem_append]
    exact ⟨first.nonempty, second.nonempty⟩
  messages := by
    rw [second.messages, first.messages, List.filter_append, List.flatMap_append,
      List.append_assoc]
  taken := by rw [second.taken, first.taken, List.countP_append, Nat.add_assoc]
  refused := by rw [second.refused, first.refused, List.countP_append, Nat.add_assoc]

/-- A batch with messages makes one more attempt. -/
theorem write (received : before.Received after attempts) {batch : List String}
    (some : batch ≠ []) :
    before.Received (after.write batch).1
      (attempts ++ [⟨batch, (after.write batch).2.toBool⟩]) := by
  have offered : batch.isEmpty = false := by simpa using some
  have nonempty : ∀ taken, ∀ a ∈ attempts ++ [⟨batch, taken⟩], a.batch ≠ [] := by
    intro taken a mem
    rcases List.mem_append.mp mem with old | new
    · exact received.nonempty a old
    · rw [List.mem_singleton.mp new]
      exact some
  unfold Topic.write
  rw [offered, if_neg Bool.false_ne_true]
  by_cases out : after.outage (after.taken + after.refused)
  · rw [if_pos out]
    constructor
    · exact nonempty false
    · simpa [Except.toBool] using received.messages
    · simpa [Except.toBool] using received.taken
    · simp [Except.toBool, received.refused, Nat.add_assoc]
  · rw [if_neg out]
    constructor
    · exact nonempty true
    · simp [Except.toBool, received.messages]
    · simp [Except.toBool, received.taken, Nat.add_assoc]
    · simpa [Except.toBool] using received.refused

/-- An offer makes an attempt unless the batch has no messages. -/
theorem offer (received : before.Received after attempts) (batch : List String) :
    before.Received (after.write batch).1
      (attempts ++ Attempt.offered batch (after.write batch).2.toBool) := by
  by_cases none : batch = []
  · subst none
    simpa [Attempt.offered, Topic.write] using received
  · rw [Attempt.offered, if_neg (by simpa using none)]
    exact received.write none

end Received

end Topic

end FleetRoster
