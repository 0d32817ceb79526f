import FleetRoster.Proofs.Buffer.Flush
import FleetRoster.Proofs.Handler.Course

/-!
# Where messages come from

Whatever waits in the buffer was queued by a handler, and whatever the topic of the evaluations holds
is a message about uploads that were. Flushes may come at any moment, whole or in turns, and everything
else may go on that touches neither the books nor the buffer nor that topic.
-/

namespace FleetRoster

open Calendar (Instant)

/-- A message is one of those for some of the uploads. -/
def Evaluation.IsFrom (items : List Item) (m : Evaluation) : Prop :=
  ∃ some batchSize now, m ∈ Evaluation.ofItems some batchSize now ∧ ∀ item ∈ some, item ∈ items

/-- What happens besides the handlers: a flush, whole or in turns, or something that has nothing to do
with the books, the uploads in the buffer and the messages of their topic. -/
inductive World.Meanwhile : World → World → Prop
  | flush (w : World) (reason : FlushReason) : Meanwhile w (w.flush reason).1
  | sending (w : World) : Meanwhile w w.flushItems.1
  | emptying (w : World) : Meanwhile w { w with buffer := w.buffer.emptied }
  | others {w w' : World} (books : w'.books = w.books)
      (items : w'.buffer.items = w.buffer.items)
      (messages : w'.evaluations.messages = w.evaluations.messages) : Meanwhile w w'

/-- The buffer and the topic of the evaluations hold nothing but what comes from these uploads. -/
structure World.Holds (items : List Item) (w : World) : Prop where
  waiting : ∀ item ∈ w.buffer.items, item ∈ items
  sent : ∃ ms : List Evaluation,
    w.evaluations.messages = ms.map (·.toValue.text) ∧ ∀ m ∈ ms, m.IsFrom items

theorem Evaluation.IsFrom.mono {items more : List Item} {m : Evaluation} (isFrom : m.IsFrom items)
    (sub : ∀ item ∈ items, item ∈ more) : m.IsFrom more := by
  rcases isFrom with ⟨some, batchSize, now, mem, all⟩
  exact ⟨some, batchSize, now, mem, fun item inSome => sub item (all item inSome)⟩

theorem Topic.write_messages (t : Topic) (batch : List String) :
    (t.write batch).1.messages = t.messages ∨
      (t.write batch).1.messages = t.messages ++ batch := by
  unfold Topic.write
  split
  · exact .inl rfl
  · split
    · exact .inl rfl
    · exact .inr rfl

namespace World

/-- Besides the handlers nothing happens to the books. -/
theorem Meanwhile.books {w w' : World} (meanwhile : w.Meanwhile w') : w'.books = w.books := by
  cases meanwhile with
  | flush reason => exact (isApart_aside.flush w reason).books
  | sending => exact (isApart_aside.flushItems w).books
  | emptying => rfl
  | others books _ _ => exact books

namespace Holds

variable {items : List Item} {w w' : World}

theorem mono (holds : w.Holds items) {more : List Item} (sub : ∀ item ∈ items, item ∈ more) :
    w.Holds more where
  waiting item mem := sub item (holds.waiting item mem)
  sent := by
    rcases holds.sent with ⟨ms, same, all⟩
    exact ⟨ms, same, fun m mem => (all m mem).mono sub⟩

/-- What happens elsewhere does not matter. -/
theorem congr (holds : w.Holds items) (waiting : w'.buffer.items = w.buffer.items)
    (messages : w'.evaluations.messages = w.evaluations.messages) : w'.Holds items where
  waiting item mem := by
    rw [waiting] at mem
    exact holds.waiting item mem
  sent := by
    rw [messages]
    exact holds.sent

theorem empty (holds : w.Holds items) :
    World.Holds items { w with buffer := w.buffer.emptied } where
  waiting := by simp [Buffer.emptied]
  sent := holds.sent

/-- Messages for the uploads that wait are from the same uploads. -/
theorem flushItems (holds : w.Holds items) : w.flushItems.1.Holds items := by
  obtain ⟨evaluations, _, buffer, _⟩ := w.flushItems_spec
  constructor
  · rw [buffer]
    exact holds.waiting
  · rw [evaluations]
    rcases holds.sent with ⟨ms, same, all⟩
    rcases w.evaluations.write_messages w.evaluationsDue with refused | taken
    · exact ⟨ms, refused.trans same, all⟩
    · refine ⟨ms ++ Evaluation.ofItems w.buffer.items w.buffer.batchSize (w.clock w.readings),
        ?_, ?_⟩
      · rw [taken, same, List.map_append]
        rfl
      · intro m mem
        rcases List.mem_append.mp mem with old | new
        · exact all m old
        · exact ⟨_, _, _, new, holds.waiting⟩

theorem flush (holds : w.Holds items) (reason : FlushReason) :
    (w.flush reason).1.Holds items := by
  unfold World.flush
  split
  · exact holds.congr rfl rfl
  · apply empty
    have noted :
        (w.note (.flushing reason w.buffer.items.length w.buffer.capacity)).Holds items :=
      holds.congr rfl rfl
    obtain ⟨_, evaluations, buffer, _⟩ := (World.flushItems _).1.flushAudits_spec
    exact noted.flushItems.congr (congrArg _ buffer) (congrArg _ evaluations)

theorem meanwhile (holds : w.Holds items) (meanwhile : w.Meanwhile w') : w'.Holds items := by
  cases meanwhile with
  | flush reason => exact holds.flush reason
  | sending => exact holds.flushItems
  | emptying => exact holds.empty
  | others _ waiting messages => exact holds.congr waiting messages

/-- What is added comes to what was there before. -/
theorem add (holds : w.Holds items) (item : Item) (audit : Audit) :
    (w.add item audit).1.Holds (items ++ [item]) := by
  have pushed : World.Holds (items ++ [item])
      { w with buffer := w.buffer.push w.time item audit } := by
    constructor
    · intro other mem
      rcases List.mem_append.mp mem with old | new
      · exact List.mem_append_left _ (holds.waiting other old)
      · exact List.mem_append_right _ new
    · exact (holds.mono fun other => List.mem_append_left _).sent
  simp only [World.add]
  split
  · exact pushed.flush .full
  · exact pushed

/-- Whatever effect happens, only uploads that are queued come in. -/
theorem happen (holds : w.Holds items) (effect : Effect) :
    (World.happen effect w).1.Holds (items ++ itemsOf [⟨effect, (World.happen effect w).2⟩]) := by
  have apart : itemsOf [⟨effect, (World.happen effect w).2⟩] = [] →
      (World.happen effect w).1.buffer.items = w.buffer.items →
      (World.happen effect w).1.evaluations.messages = w.evaluations.messages →
      (World.happen effect w).1.Holds
        (items ++ itemsOf [⟨effect, (World.happen effect w).2⟩]) := by
    intro none waiting messages
    rw [none, List.append_nil]
    exact holds.congr waiting messages
  cases effect with
  | buffer item audit => exact holds.add item audit
  | next series => cases series <;> exact apart rfl rfl rfl
  | store call =>
      have same : (w.call call).1.buffer = w.buffer ∧
          (w.call call).1.evaluations = w.evaluations := by
        unfold World.call
        split <;> exact ⟨rfl, rfl⟩
      exact apart rfl (congrArg _ same.1) (congrArg _ same.2)
  | remember org account =>
      have same : (w.remember org account).1.buffer = w.buffer ∧
          (w.remember org account).1.evaluations = w.evaluations := by
        unfold World.remember
        split <;> exact ⟨rfl, rfl⟩
      exact apart rfl (congrArg _ same.1) (congrArg _ same.2)
  | _ => exact apart rfl rfl rfl

/-- While a flow runs, only uploads that it queues come in. -/
theorem takes {α : Type} {x : Flow α} {deeds : List Deed} {ending : Ending α}
    (holds : w.Holds items) (takes : x.Takes World.Meanwhile w deeds w' ending) :
    w'.Holds (items ++ itemsOf deeds) := by
  induction takes generalizing items with
  | stop ending w => simpa [itemsOf] using holds
  | aside others rest ih => exact ih (holds.meanwhile others)
  | @ask effect next w w' deeds ending rest ih =>
      have happened := ih (holds.happen effect)
      rwa [List.append_assoc, ← itemsOf_append] at happened

end Holds

end World

end FleetRoster
