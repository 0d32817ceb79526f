import Mathlib.Logic.Relation
import FleetRoster.Proofs.Flow.Leads
import FleetRoster.Task

/-!
# Runs and their parts

A run of two flows in a row is a run of the first and then, unless that one has failed or crashed,
one of the second; a run of an attempt is a run of what is attempted. A flow may also have come only
part of the way. `Comes` says how far, and that what is left of it went on to the end makes a run of
the whole. Whatever a task does takes its flow some part of the way.
-/

namespace FleetRoster

open Relation (ReflTransGen)

/-- How an attempt ends of which the flow has ended so. -/
def Ending.attempted {α : Type} : Ending α → Ending (Except Fault α)
  | .done a => .done (.ok a)
  | .failed why => .done (.error why)
  | .crashed => .crashed

/-- The ending of a flow of which the result is passed on in another form. -/
def Ending.map {α β : Type} (f : α → β) : Ending α → Ending β
  | .done a => .done (f a)
  | .failed why => .failed why
  | .crashed => .crashed

namespace Flow

variable {α β : Type} {aside : World → World → Prop} {w met w' : World} {deeds : List Deed}

/-! ## Runs of parts -/

/-- What runs later has run, if only others were at work until then. -/
theorem Takes.later {x : Flow α} {ending : Ending α} (others : ReflTransGen aside w met)
    (takes : x.Takes aside met deeds w' ending) : x.Takes aside w deeds w' ending := by
  induction others using ReflTransGen.head_induction_on with
  | refl => exact takes
  | head step _ ih => exact .aside step ih

/-- A flow that has ended does nothing more. -/
theorem Takes.of_stop {own ending : Ending α} (takes : (Flow.stop own).Takes aside w deeds w' ending) :
    deeds = [] ∧ ending = own ∧ ReflTransGen aside w w' := by
  generalize same : Flow.stop own = x at takes
  induction takes with
  | stop ending w =>
      cases same
      exact ⟨rfl, rfl, .refl⟩
  | aside others rest ih =>
      obtain ⟨none, ended, later⟩ := ih same
      exact ⟨none, ended, .head others later⟩
  | ask rest => cases same

/-- A flow that asks for an effect gets it, some time later, and goes on with the answer. -/
theorem Takes.of_ask {effect : Effect} {next : effect.Answer → Flow α} {ending : Ending α}
    (takes : (Flow.ask effect next).Takes aside w deeds w' ending) :
    ∃ met more, ReflTransGen aside w met ∧
      deeds = ⟨effect, (World.happen effect met).2⟩ :: more ∧
      (next (World.happen effect met).2).Takes aside (World.happen effect met).1 more w'
        ending := by
  generalize same : Flow.ask effect next = x at takes
  induction takes with
  | stop ending w => cases same
  | aside others rest ih =>
      obtain ⟨met, more, later, split, goesOn⟩ := ih same
      exact ⟨met, more, .head others later, split, goesOn⟩
  | @ask _ _ w _ more _ rest =>
      cases same
      exact ⟨w, more, .refl, rfl, rest⟩

/-- An effect happens, and what follows goes on with the answer. -/
theorem Takes.of_perform {effect : Effect} {f : effect.Answer → Flow β} {ending : Ending β}
    (takes : (perform effect >>= f).Takes aside w deeds w' ending) :
    ∃ answer met more, (perform effect).Takes aside w [⟨effect, answer⟩] met (.done answer) ∧
      deeds = ⟨effect, answer⟩ :: more ∧ (f answer).Takes aside met more w' ending := by
  obtain ⟨met, more, others, split, goesOn⟩ := Takes.of_ask takes
  exact ⟨_, _, more, (Takes.ask (.stop _ _)).later others, split, goesOn⟩

/-- A call of the store is attempted, and what follows goes on with the answer or the refusal. -/
theorem Takes.of_attemptStore {call : Store.Call} {f : Except Fault call.Answer → Flow β}
    {ending : Ending β} (takes : ((store call).attempt >>= f).Takes aside w deeds w' ending) :
    ∃ met more, ReflTransGen aside w met ∧ deeds = ⟨.store call, (World.call met call).2⟩ :: more ∧
      (f (World.call met call).2).Takes aside (World.call met call).1 more w' ending := by
  obtain ⟨met, more, others, split, goesOn⟩ := Takes.of_ask takes
  have attempted : ∀ answer, (ofExcept answer).attempt >>= f = f answer := by
    intro answer
    cases answer <;> rfl
  exact ⟨met, more, others, split, attempted _ ▸ goesOn⟩

/-- A run of two flows in a row. -/
inductive InRow (aside : World → World → Prop) (x : Flow α) (f : α → Flow β) (w : World) :
    List Deed → World → Ending β → Prop
  | both {a : α} {first second : List Deed} {met w' : World} {ending : Ending β}
      (one : x.Takes aside w first met (.done a))
      (other : (f a).Takes aside met second w' ending) :
      InRow aside x f w (first ++ second) w' ending
  | failed {why : Fault} {deeds : List Deed} {w' : World}
      (one : x.Takes aside w deeds w' (.failed why)) : InRow aside x f w deeds w' (.failed why)
  | crashed {deeds : List Deed} {w' : World} (one : x.Takes aside w deeds w' .crashed) :
      InRow aside x f w deeds w' .crashed

/-- Two flows in a row run one after the other. -/
theorem Takes.inRow {x : Flow α} {f : α → Flow β} {ending : Ending β}
    (takes : (x >>= f).Takes aside w deeds w' ending) : InRow aside x f w deeds w' ending := by
  change (x.bind f).Takes aside w deeds w' ending at takes
  induction x generalizing w deeds with
  | stop own =>
      cases own with
      | done a => exact .both (.stop _ w) takes
      | failed why =>
          obtain ⟨rfl, rfl, others⟩ := Takes.of_stop takes
          exact .failed ((Takes.stop _ _).later others)
      | crashed =>
          obtain ⟨rfl, rfl, others⟩ := Takes.of_stop takes
          exact .crashed ((Takes.stop _ _).later others)
  | ask effect next ih =>
      obtain ⟨met, more, others, rfl, rest⟩ := Takes.of_ask takes
      cases ih _ rest with
      | both one other => exact .both ((Takes.ask one).later others) other
      | failed one => exact .failed ((Takes.ask one).later others)
      | crashed one => exact .crashed ((Takes.ask one).later others)

/-- An attempt runs as what is attempted. -/
theorem Takes.of_attempt {x : Flow α} {ending : Ending (Except Fault α)}
    (takes : x.attempt.Takes aside w deeds w' ending) :
    ∃ own, ending = own.attempted ∧ x.Takes aside w deeds w' own := by
  induction x generalizing w deeds with
  | stop own =>
      have ended : (Flow.stop own).attempt = Flow.stop own.attempted := by cases own <;> rfl
      rw [ended] at takes
      obtain ⟨rfl, rfl, others⟩ := takes.of_stop
      exact ⟨own, rfl, (Takes.stop _ _).later others⟩
  | ask effect next ih =>
      obtain ⟨met, more, others, rfl, rest⟩ := Takes.of_ask takes
      obtain ⟨own, rfl, one⟩ := ih _ rest
      exact ⟨own, rfl, (Takes.ask one).later others⟩

/-- A flow of which the result is passed on in another form runs as it is. -/
theorem Takes.of_map {x : Flow α} {f : α → β} {ending : Ending β}
    (takes : (x >>= fun a => pure (f a)).Takes aside w deeds w' ending) :
    ∃ own, ending = own.map f ∧ x.Takes aside w deeds w' own := by
  change (x.bind fun a => .stop (.done (f a))).Takes aside w deeds w' ending at takes
  induction x generalizing w deeds with
  | stop own =>
      have ended : (Flow.stop own).bind (fun a => .stop (.done (f a))) = .stop (own.map f) := by
        cases own <;> rfl
      rw [ended] at takes
      obtain ⟨rfl, rfl, others⟩ := takes.of_stop
      exact ⟨own, rfl, (Takes.stop _ _).later others⟩
  | ask effect next ih =>
      obtain ⟨met, more, others, rfl, rest⟩ := Takes.of_ask takes
      obtain ⟨own, rfl, one⟩ := ih _ rest
      exact ⟨own, rfl, (Takes.ask one).later others⟩

/-- A run of an attempt and what follows on it. -/
inductive AfterAttempt (aside : World → World → Prop) (x : Flow α) (f : Except Fault α → Flow β)
    (w : World) : List Deed → World → Ending β → Prop
  | done {a : α} {first second : List Deed} {met w' : World} {ending : Ending β}
      (one : x.Takes aside w first met (.done a))
      (other : (f (.ok a)).Takes aside met second w' ending) :
      AfterAttempt aside x f w (first ++ second) w' ending
  | failed {why : Fault} {first second : List Deed} {met w' : World} {ending : Ending β}
      (one : x.Takes aside w first met (.failed why))
      (other : (f (.error why)).Takes aside met second w' ending) :
      AfterAttempt aside x f w (first ++ second) w' ending
  | crashed {deeds : List Deed} {w' : World} (one : x.Takes aside w deeds w' .crashed) :
      AfterAttempt aside x f w deeds w' .crashed

/-- What follows on an attempt goes on from the result or the fault. -/
theorem Takes.afterAttempt {x : Flow α} {f : Except Fault α → Flow β} {ending : Ending β}
    (takes : (x.attempt >>= f).Takes aside w deeds w' ending) :
    AfterAttempt aside x f w deeds w' ending := by
  cases takes.inRow with
  | both attempted other =>
      obtain ⟨own, same, one⟩ := attempted.of_attempt
      cases own with
      | done a => cases same; exact .done one other
      | failed why => cases same; exact .failed one other
      | crashed => cases same
  | failed attempted =>
      obtain ⟨own, same, _⟩ := attempted.of_attempt
      cases own <;> cases same
  | crashed attempted =>
      obtain ⟨own, same, one⟩ := attempted.of_attempt
      cases own with
      | crashed => exact .crashed one
      | _ => cases same

/-! ## Parts of runs -/

/-- A flow has come from one world to another with these deeds, and this is left of it. -/
inductive Comes (aside : World → World → Prop) (x : Flow α) (w : World) :
    List Deed → Flow α → World → Prop
  | start : Comes aside x w [] x w
  | aside {deeds : List Deed} {rest : Flow α} {met w' : World}
      (comes : Comes aside x w deeds rest met) (others : aside met w') :
      Comes aside x w deeds rest w'
  | ask {deeds : List Deed} {effect : Effect} {next : effect.Answer → Flow α} {met : World}
      (comes : Comes aside x w deeds (.ask effect next) met) :
      Comes aside x w (deeds ++ [⟨effect, (World.happen effect met).2⟩])
        (next (World.happen effect met).2) (World.happen effect met).1

/-- What is left, run to its end, makes a run of the whole. -/
theorem Comes.takes {x rest : Flow α} {more : List Deed} {ending : Ending α}
    (comes : x.Comes aside w deeds rest met) (takes : rest.Takes aside met more w' ending) :
    x.Takes aside w (deeds ++ more) w' ending := by
  induction comes generalizing more with
  | start => exact takes
  | aside _ others ih => exact ih (.aside others takes)
  | ask _ ih =>
      rw [List.append_assoc]
      exact ih (.ask takes)

/-- A flow of which nothing is left has run. -/
theorem Comes.ended {x : Flow α} {ending : Ending α}
    (comes : x.Comes aside w deeds (.stop ending) w') : x.Takes aside w deeds w' ending := by
  simpa using comes.takes (.stop ending w')

end Flow

end FleetRoster
