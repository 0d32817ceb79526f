import FleetRoster.Flow.Effect

/-!
# Flows

A flow is a piece of work cut at its effects: it has come to an end, or it asks for an effect and
goes on with the answer. Nothing is fixed about when the effects happen or what else happens in
between, so the same flow can be run on its own or among others.

A flow that fails ends at once with its fault, unless the failing part is attempted. A crash cannot
be caught.
-/

namespace FleetRoster

/-- How a flow ends. -/
inductive Ending (α : Type)
  | done (a : α)
  | failed (why : Fault)
  | crashed

/-- A piece of work. -/
inductive Flow (α : Type)
  | stop (ending : Ending α)
  | ask (effect : Effect) (next : effect.Answer → Flow α)

namespace Flow

variable {α β γ : Type}

/-- A flow followed by one that depends on its result. -/
def bind : Flow α → (α → Flow β) → Flow β
  | .stop (.done a), f => f a
  | .stop (.failed why), _ => .stop (.failed why)
  | .stop .crashed, _ => .stop .crashed
  | .ask effect next, f => .ask effect fun answer => (next answer).bind f

instance : Monad Flow where
  pure a := .stop (.done a)
  bind := Flow.bind

/-- A flow followed by nothing is the flow itself. -/
theorem bind_done (x : Flow α) : x.bind (fun a => .stop (.done a)) = x := by
  induction x with
  | stop ending => cases ending <;> rfl
  | ask effect next ih => simp only [bind, ih]

/-- Flows in a row may be grouped in either way. -/
theorem bind_bind (x : Flow α) (f : α → Flow β) (g : β → Flow γ) :
    (x.bind f).bind g = x.bind fun a => (f a).bind g := by
  induction x with
  | stop ending => cases ending <;> rfl
  | ask effect next ih => simp only [bind, ih]

instance : LawfulMonad Flow :=
  LawfulMonad.mk' Flow bind_done (fun _ _ => rfl) bind_bind

/-- The flow that fails. -/
def fail (why : Fault) : Flow α :=
  .stop (.failed why)

/-- The flow that crashes. -/
def crash : Flow α :=
  .stop .crashed

/-- The flow of a result that is there or not. -/
def ofExcept : Except Fault α → Flow α
  | .ok a => .stop (.done a)
  | .error why => fail why

/-- One effect. -/
def perform (effect : Effect) : Flow effect.Answer :=
  .ask effect fun answer => .stop (.done answer)

/-- The time of the clock. -/
def now : Flow Calendar.Instant :=
  perform .now

/-- The remembered account of an organization. -/
def known (org : String) : Flow (Option Int) :=
  perform (.known org)

/-- Remembers the account of an organization, unless one is remembered already. -/
def remember (org : String) (account : Int) : Flow Int :=
  perform (.remember org account)

/-- A call of the store, failing where the call is refused. -/
def store (call : Store.Call) : Flow call.Answer :=
  .ask (.store call) ofExcept

/-- A line of the log. -/
def log (notice : Notice) : Flow Unit :=
  perform (.log notice)

/-- A count. -/
def count (lane : Lane) (verdict : Verdict) : Flow Unit :=
  perform (.count lane verdict)

/-- A flow of which a failure is a result. -/
def attempt : Flow α → Flow (Except Fault α)
  | .stop (.done a) => .stop (.done (.ok a))
  | .stop (.failed why) => .stop (.done (.error why))
  | .stop .crashed => .stop .crashed
  | .ask effect next => .ask effect fun answer => (next answer).attempt

/-- A flow run on its own in a world that performs the effects. -/
def run {σ : Type} (perform : (effect : Effect) → σ → σ × effect.Answer) :
    Flow α → σ → σ × Ending α
  | .stop ending, s => (s, ending)
  | .ask effect next, s =>
    let (s, answer) := perform effect s
    (next answer).run perform s

end Flow

end FleetRoster
