import FleetRoster.Proofs.Roster.Events
import FleetRoster.Proofs.World.Matching

/-!
# Flows in matching worlds

Two flows are followed effect by effect, each in a world of its own, while the worlds match. Plain
effects leave the worlds matching. A call of the store is refused in both worlds or answered in
both, and what the answers make of the books is for the caller to relate. From matching worlds with
the same behind them every flow is its own twin, and so is a flow that has run while nothing but
time went by.
-/

namespace FleetRoster

open FleetRoster.Flow

/-- Nothing goes on but the time. -/
def World.Elapses (w w' : World) : Prop :=
  ∃ ms, w' = w.after ms

namespace World

theorem elapses_after (w : World) (ms : Nat) : w.Elapses (w.after ms) :=
  ⟨ms, rfl⟩

theorem Elapses.aside {w w' : World} (elapses : w.Elapses w') : w.Aside w' := by
  obtain ⟨ms, rfl⟩ := elapses
  exact w.aside_after ms

end World

/-- What runs while only time goes by runs while the books are left alone. -/
theorem Flow.Takes.inAside {α : Type} {x : Flow α} {w w' : World} {deeds : List Deed}
    {ending : Ending α} (takes : x.Takes World.Elapses w deeds w' ending) :
    x.Takes World.Aside w deeds w' ending :=
  takes.mono World.Elapses.aside

namespace World

variable {timely : Prop} {related : Backing → Backing → Prop} {w v : World}
  {answering answering' : Store.Answering}

/-! ## Calls of the store -/

theorem callBy_of_refused {call : Store.Call} (refused : w.backing.refusals 0 = true) :
    w.callBy answering call = ({ w with calls := w.calls + 1 }, .error call.refusal) :=
  if_pos refused

theorem callBy_of_answered {call : Store.Call} (answered : w.backing.refusals 0 = false) :
    w.callBy answering call =
      ({ w with calls := w.calls + 1, store := (answering w.store call).1 },
        .ok (answering w.store call).2) :=
  if_neg (by
    change ¬ w.backing.refusals 0 = true
    rw [answered]
    exact Bool.false_ne_true)

theorem backing_refused (w : World) :
    ({ w with calls := w.calls + 1 } : World).backing = w.backing.refused := by
  have later : ∀ n, w.outage (w.calls + 1 + n) = w.outage (w.calls + (n + 1)) := by
    intro n
    rw [Nat.add_assoc, Nat.add_comm 1 n]
  simp only [backing, Backing.refused, later]
  rfl

theorem backing_served (w : World) (answering : Store.Answering) (call : Store.Call) :
    ({ w with calls := w.calls + 1, store := (answering w.store call).1 } : World).backing =
      w.backing.served answering call := by
  have later : ∀ n, w.outage (w.calls + 1 + n) = w.outage (w.calls + (n + 1)) := by
    intro n
    rw [Nat.add_assoc, Nat.add_comm 1 n]
  simp only [backing, Backing.served, later]
  rfl

namespace Matches

/-- Where nothing is said of the deadline, time may pass in each world. -/
theorem elapse (matching : w.Matches False related v) (ms ms' : Nat) :
    (w.after ms).Matches False related (v.after ms') :=
  matching.after False.elim

/-- Worlds that match by what is known to stand behind them match by every relation that holds of
it. -/
theorem of_are {b c : Backing} (matching : w.Matches timely (Backing.Are b c) v)
    (holds : related b c) : w.Matches timely related v := by
  obtain ⟨same, same'⟩ := matching.backing
  apply matching.relate
  rwa [same, same']

variable (matching : w.Matches timely related v)
include matching

theorem refused {kept : Backing → Backing → Prop}
    (keeps : kept w.backing.refused v.backing.refused) :
    ({ w with calls := w.calls + 1 } : World).Matches timely kept { v with calls := v.calls + 1 } :=
  { matching with
    topic := matching.topic
    backing := by rwa [backing_refused, backing_refused] }

theorem served {call : Store.Call} {taken : Backing → Backing → Prop}
    (takes : taken (w.backing.served answering call) (v.backing.served answering' call)) :
    ({ w with calls := w.calls + 1, store := (answering w.store call).1 } : World).Matches timely
      taken { v with calls := v.calls + 1, store := (answering' v.store call).1 } :=
  { matching with
    topic := matching.topic
    backing := by rwa [backing_served, backing_served] }

theorem noteLeft (notice : Notice) : (w.note notice).Matches timely related v :=
  { matching with topic := matching.topic }

theorem noteRight (notice : Notice) : w.Matches timely related (v.note notice) :=
  { matching with topic := matching.topic }

/-- Where the same accounts are remembered, the same is remembered from then on. -/
theorem remember (accounts : v.accounts = w.accounts)
    (keeps : ∀ accounts, related { w.backing with books := ⟨w.store, accounts⟩ }
      { v.backing with books := ⟨v.store, accounts⟩ }) (org : String) (account : Int) :
    Echoes timely related (w.remember org account) (v.remember org account) := by
  have known : v.known org = w.known org := by rw [World.known, accounts, World.known]
  unfold World.remember
  rw [known, accounts]
  cases w.known org with
  | some kept => exact ⟨rfl, matching⟩
  | none => exact ⟨rfl, { matching with topic := matching.topic, backing := keeps _ }⟩

end Matches

end World

/-! ## Flows -/

section

variable {α β : Type} {timely : Prop} {related : Backing → Backing → Prop} {w v : World}
  {answering answering' : Store.Answering} {claim : Ending β → World → World → Prop}

/-- Two flows are twins in two worlds with stores that answer in given ways. -/
abbrev Flow.Pairs (answering answering' : Store.Answering) (x y : Flow β) (w v : World)
    (claim : Ending β → World → World → Prop) : Prop :=
  Twins (World.performBy answering) (World.performBy answering') x y w v claim

/-- A flow that calls the store goes on with the answer, if it gets one. -/
theorem run_call_of_answered {call : Store.Call} {next : Except Fault call.Answer → Flow β}
    (answered : w.backing.refusals 0 = false) :
    (Flow.ask (.store call) next).run (World.performBy answering) w =
      (next (.ok (answering w.store call).2)).run (World.performBy answering)
        { w.after (pauseLength w.latency) with
          calls := w.calls + 1, store := (answering w.store call).1 } := by
  change (next ((w.after _).callBy answering call).2).run _
    ((w.after _).callBy answering call).1 = _
  rw [World.callBy_of_answered (w := w.after _) answered]
  rfl

/-- A flow whose call is refused goes on with the refusal. -/
theorem run_call_of_refused {call : Store.Call} {next : Except Fault call.Answer → Flow β}
    (refused : w.backing.refusals 0 = true) :
    (Flow.ask (.store call) next).run (World.performBy answering) w =
      (next (.error call.refusal)).run (World.performBy answering)
        { w.after (pauseLength w.latency) with calls := w.calls + 1 } := by
  change (next ((w.after _).callBy answering call).2).run _
    ((w.after _).callBy answering call).1 = _
  rw [World.callBy_of_refused (w := w.after _) refused]
  rfl

/-- A plain effect has the same answer in both worlds. -/
theorem pairs_plain {effect : Effect} {next next' : effect.Answer → Flow β}
    (matching : w.Matches timely related v) (plain : effect.IsPlain)
    (rest : ∀ {w' v'}, w'.Matches timely related v' →
      Pairs answering answering' (next (World.performBy answering effect w).2)
        (next' (World.performBy answering effect w).2) w' v' claim) :
    Pairs answering answering' (.ask effect next) (.ask effect next') w v claim := by
  obtain ⟨same, met⟩ := (matching.pause effect).happen plain
  exact twins_ask same (rest met)

/-- A call of the store is refused in both worlds, or answered in both. -/
theorem pairs_call {call : Store.Call} {next next' : Except Fault call.Answer → Flow β}
    (matching : w.Matches timely related v)
    (alike : v.backing.refusals 0 = w.backing.refusals 0)
    (refused : ∀ {w' v'},
      w'.Matches timely (Backing.Are w.backing.refused v.backing.refused) v' →
        Pairs answering answering' (next (.error call.refusal)) (next' (.error call.refusal)) w' v'
          claim)
    (answered : ∀ {w' v'}, w.Ticks w' →
      w'.Matches timely (Backing.Are (w.backing.served answering call)
        (v.backing.served answering' call)) v' →
        Pairs answering answering' (next (.ok (answering w.store call).2))
          (next' (.ok (answering' v.store call).2)) w' v' claim) :
    Pairs answering answering' (.ask (.store call) next) (.ask (.store call) next') w v claim := by
  have paused := matching.pause (.store call)
  change Pairs answering answering' (next ((w.after _).callBy answering call).2)
    (next' ((v.after _).callBy answering' call).2) ((w.after _).callBy answering call).1
    ((v.after _).callBy answering' call).1 claim
  cases refusal : w.backing.refusals 0 with
  | true =>
      rw [World.callBy_of_refused (w := w.after _) refusal,
        World.callBy_of_refused (w := v.after _) (alike.trans refusal)]
      exact refused (paused.refused ⟨rfl, rfl⟩)
  | false =>
      rw [World.callBy_of_answered (w := w.after _) refusal,
        World.callBy_of_answered (w := v.after _) (alike.trans refusal)]
      exact answered ⟨rfl, Nat.le_refl _⟩ (paused.served ⟨rfl, rfl⟩)

/-! ## The same effects on both sides -/

/-- A relation of what stands behind two worlds that holds whatever is refused or remembered. -/
structure Backing.Lasts (related : Backing → Backing → Prop) : Prop where
  refusals {b c : Backing} (holds : related b c) : c.refusals = b.refusals
  accounts {b c : Backing} (holds : related b c) : c.books.accounts = b.books.accounts
  refused {b c : Backing} (holds : related b c) : related b.refused c.refused
  remembering {b c : Backing} (holds : related b c) (accounts : List (String × Int)) :
    related { b with books := ⟨b.books.store, accounts⟩ }
      { c with books := ⟨c.books.store, accounts⟩ }

/-- An effect that, if it is a call, has the same answer from two stores, and leaves related what
stands behind the worlds. -/
def Effect.IsAlike (answering answering' : Store.Answering) (related : Backing → Backing → Prop) :
    Effect → Prop
  | .store call => ∀ {b c}, related b c →
      (answering' c.books.store call).2 = (answering b.books.store call).2 ∧
        related (b.served answering call) (c.served answering' call)
  | _ => True

/-- Such an effect has the same answer in two worlds that match. -/
theorem World.Matches.happenAlike (lasts : Backing.Lasts related)
    (matching : w.Matches timely related v) {effect : Effect}
    (alike : effect.IsAlike answering answering' related) :
    World.Echoes timely related (World.happenBy answering effect w)
      (World.happenBy answering' effect v) := by
  have accounts : v.accounts = w.accounts := lasts.accounts matching.backing
  have plainly : effect.IsPlain → World.Echoes timely related
      (World.happenBy answering effect w) (World.happenBy answering' effect v) :=
    matching.happen
  cases effect with
  | store call =>
      obtain ⟨same, served⟩ := alike matching.backing
      have refusals : v.backing.refusals 0 = w.backing.refusals 0 :=
        congrFun (lasts.refusals matching.backing) 0
      change World.Echoes timely related (w.callBy answering call) (v.callBy answering' call)
      cases refusal : w.backing.refusals 0 with
      | true =>
          rw [World.callBy_of_refused refusal, World.callBy_of_refused (refusals.trans refusal)]
          exact ⟨rfl, matching.refused (lasts.refused matching.backing)⟩
      | false =>
          rw [World.callBy_of_answered refusal, World.callBy_of_answered (refusals.trans refusal)]
          exact ⟨congrArg Except.ok same, matching.served served⟩
  | known org =>
      refine ⟨?_, matching⟩
      change v.known org = w.known org
      rw [World.known, accounts, World.known]
  | remember org account =>
      exact matching.remember accounts (lasts.remembering matching.backing) org account
  | _ => exact plainly trivial

/-- A flow of such effects is its own twin. -/
theorem pairs_of_alike (lasts : Backing.Lasts related) {x : Flow β}
    (only : x.Only (Effect.IsAlike answering answering' related))
    (matching : w.Matches timely related v) :
    Pairs answering answering' x x w v fun _ w' v' => w'.Matches timely related v' :=
  only.twins (fun alike matching => (matching.pause _).happenAlike lasts alike) matching

/-! ## The same behind both worlds -/

theorem Backing.lasts_same : Backing.Lasts Backing.Same where
  refusals := congrArg Backing.refusals
  accounts := congrArg fun b : Backing => b.books.accounts
  refused := congrArg Backing.refused
  remembering := by
    rintro b c ⟨⟩ accounts
    rfl

/-- Where the same stands behind two worlds, every effect is alike. -/
theorem Effect.isAlike_same (effect : Effect) :
    effect.IsAlike Store.answer Store.answer Backing.Same := by
  cases effect with
  | store call =>
      rintro b c ⟨⟩
      exact ⟨rfl, rfl⟩
  | _ => trivial

/-- From matching worlds with the same behind them a flow is its own twin. -/
theorem pairs_of_same (matching : w.Matches timely Backing.Same v) (x : Flow β) :
    Pairs Store.answer Store.answer x x w v fun _ w' v' => w'.Matches timely Backing.Same v' :=
  pairs_of_alike Backing.lasts_same (only_of_forall Effect.isAlike_same x) matching

/-- A flow that has run while only time went by would have ended in the same way on its own. -/
theorem Flow.Takes.runIn_eq {x : Flow β} {w' : World} {deeds : List Deed} {ending : Ending β}
    (takes : x.Takes World.Elapses w deeds w' ending) (matching : w.Matches False Backing.Same v) :
    (x.runIn v).2 = ending ∧ w'.Matches False Backing.Same (x.runIn v).1 := by
  induction takes generalizing v with
  | stop ending w => exact ⟨rfl, matching⟩
  | aside others rest ih =>
      obtain ⟨ms, rfl⟩ := others
      exact ih (matching.elapse ms 0)
  | @ask effect next w w' deeds ending rest ih =>
      have paused : w.Matches False Backing.Same (v.after (effect.pause v.latency)) :=
        matching.elapse 0 _
      obtain ⟨same, met⟩ := paused.happenAlike Backing.lasts_same (Effect.isAlike_same effect)
      rw [World.happenBy_answer] at same met
      have goesOn := ih met
      rwa [← same] at goesOn

end

end FleetRoster
