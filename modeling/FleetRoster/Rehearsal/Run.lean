import FleetRoster.Rehearsal.Basic

/-!
# Running scripts

Each step is started and then followed until it has its reply; whenever it has to wait, the
background goes on. Then the background goes on until everything waits, and what was logged and sent
in the meantime belongs to the step.
-/

namespace FleetRoster.Rehearsal

/-! ## Steps under way -/

/-- A step that has been started. -/
inductive Foreground
  | replied (reply : Reply)
  | working (task : Task Reply)
  /-- Several pieces of work at the same time. -/
  | gathering (work : List (Task Reply ⊕ Reply))
  /-- A request that waits for the place in the queue. -/
  | submitting
  /-- The writer of evaluation requests is waited for. -/
  | closing

/-- Starts a flow. -/
def work {α : Type} (r : Rehearsal) (flow : Flow α) (reply : α → Reply) : Rehearsal × Foreground :=
  (r, .working { flow := do return reply (← flow) })

/-- Replies at once. -/
def replyWith (r : Rehearsal) (reply : Reply) : Rehearsal × Foreground :=
  (r, .replied reply)

/-- Changes the consumer, where there is one, and replies. -/
def withConsumer (r : Rehearsal) (f : Consumer → Consumer × Reply) : Rehearsal × Foreground :=
  match r.consumer with
  | none => (r, .replied .nothing)
  | some c =>
    let (c, reply) := f c
    ({ r with consumer := some c }, .replied reply)

/-- Changes the reader of a consumer and replies; nothing happens once the feed is closed. -/
def feed (r : Rehearsal) (f : Reader → Reader × Bool) : Rehearsal × Foreground :=
  r.withConsumer fun c =>
    if c.reader.feedOpen then
      let (reader, taken) := f c.reader
      ({ c with reader }, .flag taken)
    else (c, .nothing)

/-- Gives the signal, if it is still there to be given. -/
def signal (c : Consumer) (on : Bool) : Consumer × Reply :=
  if c.signal.isDropped then (c, .nothing)
  else if c.isListening then
    ({ c with signal := { c.signal with value := on, isNew := true } }, .flag true)
  else (c, .flag false)

/-- Makes a request for evaluation. -/
def submit (r : Rehearsal) (request : Request) : Rehearsal × Foreground :=
  match r.queue with
  | none => (r, .replied .nothing)
  | some queue =>
    let (queue, world) := queue.submit r.world request
    ({ r with queue := some queue, world }, .submitting)

/-- Starts a step. -/
def start (r : Rehearsal) : Step → Rehearsal × Foreground
  | .call call => r.work (Flow.store call) (Reply.ofAnswer call)
  | .showMarker inventoryId => r.replyWith (.ofOption .marker (r.world.store.marker? inventoryId))
  | .setBaseline account inventoryId baseline =>
    let (store, found) := r.world.store.setBaseline account inventoryId baseline
    { r with world := { r.world with store } }.replyWith (.flag found)
  | .showSystem account inventoryId =>
    r.replyWith (.ofOption .row (r.world.store.system? account inventoryId))
  | .showSystems => r.replyWith (.rows r.world.store.systems)
  | .showAccounts => r.replyWith (.accounts r.world.store.accounts)
  | .fail part on => { r with world := setOutage r.world on part }.replyWith .nothing
  | .schedule ms part on =>
    let s : Switch := ⟨r.world.time + pauseLength ms, part, on⟩
    { r with switches := r.switches ++ [s] }.replyWith .nothing
  | .advance ms => r.work (Flow.perform (.sleep ms)) fun _ => .nothing
  | .resolve about org => r.work (r.adapt (resolveAccount about org)) .number
  | .resolveMany about orgs =>
    (r, .gathering (orgs.map fun org =>
      .inl { flow := do return .number (← r.adapt (resolveAccount about org)) }))
  | .remembered org => r.replyWith (.ofOption .number (r.world.known org))
  | .rememberedCount => r.replyWith (.size r.world.accounts.length)
  | .add item audit =>
    r.work (Flow.perform (.buffer item audit)) fun report => .ofOption .report report
  | .flush =>
    let (world, report) := r.world.flush .manual
    { r with world }.replyWith (.report report)
  | .bufferLength => r.replyWith (.size r.world.buffer.items.length)
  | .counter lane verdict => r.replyWith (.number (Int.ofNat (r.world.tally.count lane verdict)))
  | .snapshot => r.replyWith (.world r.world)
  | .dispatch about payload =>
    match Json.readValue payload with
    | .error why => r.replyWith (.fault (.payload why))
    | .ok message =>
      r.work (r.adapt (FleetRoster.dispatch r.settings.thresholdNanos about
        (EventKind.ofMessage message) message)) .outcome
  | .upload about payload =>
    match Json.decode HostEvent.decode payload with
    | .error why => r.replyWith (.fault (.payload why))
    | .ok event =>
      r.work (r.adapt (handleUpload r.settings.thresholdNanos about event)) .outcome
  | .delete about payload =>
    match Json.decode HostEvent.decode payload with
    | .error why => r.replyWith (.fault (.payload why))
    | .ok event =>
      r.work (r.adapt (handleDelete r.settings.thresholdNanos about event)) .outcome
  | .handle message => r.work (r.adapt (handleMessage r.settings message)) fun _ => .nothing
  | .request request => r.submit request
  | .requestsEnabled => r.replyWith (.ofOption .flag r.takesRequests)
  | .abortRequests => { r with queue := r.queue.map RequestQueue.abort }.replyWith .nothing
  | .closeRequests =>
    ({ r with
      takesRequests := none
      queue := r.queue.map fun queue => { queue with isOpen := false } }, .closing)
  | .push payload => r.feed (·.push payload)
  | .failRead why => r.feed (·.pushFailure why)
  | .closeFeed => r.withConsumer fun c =>
    ({ c with reader := { c.reader with feedOpen := false } }, .nothing)
  | .shutdown on => r.withConsumer (signal · on)
  | .dropShutdown => r.withConsumer fun c =>
    ({ c with signal := { c.signal with isDropped := true } }, .nothing)
  | .refuseCommits on => r.withConsumer fun c =>
    ({ c with reader := { c.reader with refusesCommits := on } }, .nothing)
  | .refuseClosing on => r.withConsumer fun c =>
    ({ c with reader := { c.reader with refusesClosing := on } }, .nothing)

/-! ## Following a step -/

/-- The reply of an ending, if it is not a crash. -/
def endingReply? : Ending Reply → Option Reply
  | .done reply => some reply
  | .failed why => some (.fault why)
  | .crashed => none

/-- Takes one piece of work on. -/
def takeOn (r : Rehearsal) (task : Task Reply) : Rehearsal × (Task Reply ⊕ Reply) :=
  match task.advance r.world with
  | (world, .inl task) => ({ r with world }, .inl task)
  | (world, .inr ending) =>
    match endingReply? ending with
    | some reply => ({ r with world }, .inr reply)
    | none => ({ r with world, isCrashed := true }, .inr .nothing)

/-- Takes several pieces of work on, one after the other. -/
def takeOnAll : Rehearsal → List (Task Reply ⊕ Reply) → Rehearsal × List (Task Reply ⊕ Reply)
  | r, [] => (r, [])
  | r, .inr reply :: rest =>
    let (r, rest) := takeOnAll r rest
    (r, .inr reply :: rest)
  | r, .inl task :: rest =>
    let (r, piece) := r.takeOn task
    let (r, rest) := takeOnAll r rest
    (r, piece :: rest)

/-- The replies to pieces of work that are all done. -/
def replies? (work : List (Task Reply ⊕ Reply)) : Option (List Reply) :=
  work.mapM fun
    | .inl _ => none
    | .inr reply => some reply

/-- Takes a step as far as it can go. -/
def follow (r : Rehearsal) : Foreground → Rehearsal × Foreground
  | .replied reply => (r, .replied reply)
  | .working task =>
    match r.takeOn task with
    | (r, .inl task) => (r, .working task)
    | (r, .inr reply) => (r, .replied reply)
  | .gathering work =>
    let (r, work) := r.takeOnAll work
    match replies? work with
    | some replies => (r, .replied (.several replies))
    | none => (r, .gathering work)
  | .submitting =>
    if (r.queue.map (·.waiting.isEmpty)).getD true then (r, .replied .nothing)
    else (r, .submitting)
  | .closing =>
    if (r.queue.map (·.isWriting)).getD false then (r, .closing)
    else ({ r with queue := none }, .replied .nothing)

/-- The moments for which a step waits. -/
def Foreground.dues : Foreground → List Nat
  | .working task => task.due.toList
  | .gathering work => work.filterMap fun
    | .inl task => task.due
    | .inr _ => none
  | _ => []

/-- The least number of a list. -/
def least? : List Nat → Option Nat
  | [] => none
  | n :: rest => some (rest.foldl min n)

/-- Follows a step to its reply, in at most `fuel` rounds: the step goes as far as it can, then the
background, then the step again; when both wait, time jumps to the next moment that is waited for. -/
def followWithin : Nat → Rehearsal → Foreground → Rehearsal × Reply
  | 0, r, _ => (r, .nothing)
  | fuel + 1, r, foreground =>
    match r.follow foreground with
    | (r, .replied reply) => (r, reply)
    | (r, foreground) =>
      match r.settle.follow foreground with
      | (r, .replied reply) => (r, reply)
      | (r, foreground) =>
        match least? (foreground.dues ++ r.dues) with
        | none => (r, .nothing)
        | some time =>
          followWithin fuel { r with world := { r.world with time := max time r.world.time } }
            foreground

/-! ## Scripts -/

/-- What a step led to. -/
structure Entry where
  reply : Reply
  /-- Milliseconds until the reply. -/
  ms : Nat
  log : List Notice
  evaluations : List String
  audits : List String
  requests : List String
  /-- The consumer afterwards. -/
  consumer : Option Consumer

/-- What was logged and sent since an earlier state. -/
def entrySince (before after : Rehearsal) (reply : Reply) (ms : Nat) : Entry where
  reply := reply
  ms := ms
  log := after.world.log.drop before.world.log.length
  evaluations := after.world.evaluations.messages.drop before.world.evaluations.messages.length
  audits := after.world.audits.messages.drop before.world.audits.messages.length
  requests := after.world.requests.messages.drop before.world.requests.messages.length
  consumer := after.consumer

/-- Does one step. -/
def step (r : Rehearsal) (s : Step) : Rehearsal × Entry :=
  let (started, foreground) := r.start s
  let (followed, reply) := followWithin fuel started foreground
  let after := followed.settle
  (after, entrySince r after reply (followed.world.time - r.world.time))

/-- Does the steps of a script in order. -/
def run : Rehearsal → List Step → Rehearsal × List Entry
  | r, [] => (r, [])
  | r, s :: rest =>
    let (r, entry) := r.step s
    let (r, entries) := run r rest
    (r, entry :: entries)

end FleetRoster.Rehearsal
