import VulkanBridge.FrameSlots
import VulkanBridge.Runs
import Mathlib.Order.Interval.Set.Defs

/-!
Delivery over the frame ring. The producer presents slots it has acquired, the
consumer waits after the last sequence it has released and releases what it has
received; then every frame arrives once and in order, whatever the interleaving.
-/

namespace VulkanBridge

/-- The frame ring beside what the parties hold and what they were given. The
producer holds a slot from the exchange of `acquire` to the one of `present`, the
consumer a frame from its receipt to the exchange of `release`. -/
structure FrameHistory where
  system : FrameSystem
  held : List Nat
  taken : Option (Nat × Nat)
  released : Nat
  presented : List (Nat × Nat)
  received : List (Nat × Nat)

namespace FrameHistory

variable {history : FrameHistory}

def initial (slotCount : Nat) : FrameHistory :=
  { system := .initial slotCount
    held := []
    taken := none
    released := 0
    presented := []
    received := [] }

def heldAfter (held : List Nat) : ProducerPoint → ProducerPoint → List Nat
  | .claim _ _ _, .storeNextAcquire slot => slot :: held
  | .publish slot _, .storeSlotSequence _ _ => held.erase slot
  | _, _ => held

def presentedAfter (presented : List (Nat × Nat)) : ProducerPoint → ProducerPoint → List (Nat × Nat)
  | .wakeConsumer _ _, .idle (some (.presented slot sequence)) => presented ++ [(slot, sequence)]
  | _, _ => presented

def takenAfter (taken : Option (Nat × Nat)) : ConsumerPoint → ConsumerPoint → Option (Nat × Nat)
  | .scanSequence _ _ _, .idle (some (.received slot sequence)) => some (slot, sequence)
  | .free _ _, .storeConsumerSequence _ _ => none
  | _, _ => taken

def releasedAfter (released : Nat) : ConsumerPoint → ConsumerPoint → Nat
  | .free _ _, .storeConsumerSequence _ sequence => sequence
  | _, _ => released

def receivedAfter (received : List (Nat × Nat)) : ConsumerPoint → ConsumerPoint → List (Nat × Nat)
  | .scanSequence _ _ _, .idle (some (.received slot sequence)) => received ++ [(slot, sequence)]
  | _, _ => received

def step (history : FrameHistory) (move : FrameMove) : FrameHistory :=
  let next := history.system.step move
  match move with
  | .producer _ _ =>
      { history with
        system := next
        held := heldAfter history.held history.system.producer next.producer
        presented := presentedAfter history.presented history.system.producer next.producer }
  | .consumer _ _ =>
      { history with
        system := next
        taken := takenAfter history.taken history.system.consumer next.consumer
        released := releasedAfter history.released history.system.consumer next.consumer
        received := receivedAfter history.received history.system.consumer next.consumer }
  | .failProducer _ | .failConsumer _ => { history with system := next }

/-- The calls the parties make: `present` with a slot that `acquire` gave, and in turn
`wait_present` after the last sequence released and `release` of what it gave. -/
def callsInTurn (history : FrameHistory) (move : FrameMove) : Bool :=
  match move, history.system.producer, history.system.consumer with
  | .producer _ (.present slot), .idle _, _ => history.held.contains slot
  | .consumer _ (.waitPresent afterSequence), _, .idle _ =>
      history.taken == none && afterSequence == history.released
  | .consumer _ (.release slot sequence), _, .idle _ => history.taken == some (slot, sequence)
  | _, _, _ => true

/-- The frame that a `present` still under way has published. -/
def publishing (history : FrameHistory) : List (Nat × Nat) :=
  match history.system.producer with
  | .storeSlotSequence slot next | .storeProducerSequence slot next | .wakeConsumer slot next => [(slot, next)]
  | _ => []

def Unbroken (code : Errno) : Prop := code ≠ .eproto ∧ code ≠ .ebusy ∧ code ≠ .estale

/-- What holds of the ring at every moment. -/
structure DeliversInOrder (history : FrameHistory) : Prop where
  received_sequences : history.received.map Prod.snd = List.range' 1 history.received.length
  received_presented : history.received <+: history.presented ++ history.publishing
  exclusive : ∀ slot sequence, history.taken = some (slot, sequence) →
    history.system.ring.slotState slot = .presented ∧ slot ∉ history.held
  queued : ∀ lastOfProducer lastOfConsumer, history.system.producer = .idle lastOfProducer →
    history.system.consumer = .idle lastOfConsumer →
    Set.BijOn history.system.ring.slotSequence
      {slot | slot < history.system.ring.slotCount ∧ history.system.ring.slotState slot = .presented}
      (Set.Ioc history.system.ring.consumerSequence history.system.ring.producerSequence)
  bounded : history.system.ring.producerSequence ≤ 2 ^ 32 - 1 ∧ history.system.ring.consumerSequence ≤ 2 ^ 32 - 1
  exhausted : history.system.ring.producerSequence = 2 ^ 32 - 1 →
    (∀ slot next, history.system.producer ≠ .storeProducerSequence slot next) ∧
      ∀ slot choice call, history.system.producer = .loadProducerSequence slot →
        (history.step (.producer choice call)).system.producer = .idle (some (.failed .eoverflow))
  producer_unbroken : ∀ code, history.system.producer = .idle (some (.failed code)) → Unbroken code
  consumer_unbroken : ∀ code, history.system.consumer = .idle (some (.failed code)) → Unbroken code

/-! ## The invariant -/

/-- What the producer knows of the counts at each point of its calls. -/
def ProducerAt (ring : FrameRing) (held slots : List Nat) (written : Nat) : ProducerPoint → Prop
  | .idle last => slots.length = ring.producerSequence ∧ written = ring.producerSequence ∧
      ∀ code, last = some (.failed code) → Unbroken code
  | .presentProducerStatus slot | .presentConsumerStatus slot | .loadProducerSequence slot =>
      slots.length = ring.producerSequence ∧ written = ring.producerSequence ∧ slot ∈ held
  | .publish slot current =>
      slots.length = ring.producerSequence ∧ written = ring.producerSequence ∧ slot ∈ held ∧
        current = ring.producerSequence ∧ current < 2 ^ 32 - 1
  | .storeSlotSequence slot next =>
      slots.length = next ∧ next = ring.producerSequence + 1 ∧ written = ring.producerSequence ∧
        slots[written]? = some slot
  | .storeProducerSequence _ next =>
      slots.length = next ∧ next = ring.producerSequence + 1 ∧ written = next
  | .wakeConsumer _ next => slots.length = next ∧ next = ring.producerSequence ∧ written = next
  | _ => slots.length = ring.producerSequence ∧ written = ring.producerSequence

def Ahead (slots : List Nat) (released written candidate : Nat) : Prop :=
  released < written ∧ ∃ slot, slots[released]? = some slot ∧ candidate ≤ slot

/-- What the consumer knows of the counts at each point of its calls. -/
def ConsumerAt (ring : FrameRing) (taken : Option (Nat × Nat)) (slots : List Nat)
    (released cleared written : Nat) : ConsumerPoint → Prop
  | .idle last => ring.consumerSequence = released ∧ cleared = released ∧
      ∀ code, last = some (.failed code) → Unbroken code
  | .waitDeadline expected | .waitProducerStatus expected | .waitConsumerStatus expected
  | .loadProduced expected | .presentWait expected _ | .presentParked expected =>
      ring.consumerSequence = released ∧ cleared = released ∧ taken = none ∧ expected = released + 1
  | .scanState expected candidate again =>
      ring.consumerSequence = released ∧ cleared = released ∧ taken = none ∧ expected = released + 1 ∧
        (again = true → Ahead slots released written candidate)
  | .scanSequence expected candidate again =>
      ring.consumerSequence = released ∧ cleared = released ∧ taken = none ∧ expected = released + 1 ∧
        (again = true → Ahead slots released written candidate)
  | .releaseProducerStatus slot sequence | .releaseConsumerStatus slot sequence
  | .checkSlotSequence slot sequence | .checkConsumerSequence slot sequence
  | .clearSlotSequence slot sequence =>
      ring.consumerSequence = released ∧ cleared = released ∧ taken = some (slot, sequence)
  | .free slot sequence =>
      ring.consumerSequence = released ∧ cleared = released + 1 ∧ taken = some (slot, sequence)
  | .storeConsumerSequence _ sequence =>
      ring.consumerSequence + 1 = released ∧ cleared = released ∧ taken = none ∧ sequence = released
  | .wakeProducer _ _ => ring.consumerSequence = released ∧ cleared = released ∧ taken = none

/-- The counts behind a history. -/
structure Accounts (history : FrameHistory) (slots : List Nat) (cleared written : Nat) : Prop where
  holds : FrameSlots history.system.ring history.held slots history.released cleared written
  producer : ProducerAt history.system.ring history.held slots written history.system.producer
  consumer : ConsumerAt history.system.ring history.taken slots history.released cleared written
    history.system.consumer
  taken : ∀ slot sequence, history.taken = some (slot, sequence) →
    sequence = history.released + 1 ∧ history.released < written ∧ slots[history.released]? = some slot
  presented : history.presented ++ history.publishing = frames slots
  received : history.received = (frames slots).take (history.released + history.taken.toList.length)
  bounded : slots.length ≤ 2 ^ 32 - 1

def Accounted (history : FrameHistory) : Prop := ∃ slots cleared written, history.Accounts slots cleared written

theorem initial_accounted (slotCount : Nat) : (initial slotCount).Accounted := by
  refine ⟨[], 0, 0, ?_, ⟨rfl, rfl, nofun⟩, ⟨rfl, rfl, nofun⟩, nofun, rfl, rfl, by simp⟩
  constructor <;> simp [initial, FrameSystem.initial]

theorem Ahead.mono {slots later : List Nat} {released written writtenLater candidate : Nat}
    (ahead : Ahead slots released written candidate)
    (kept : ∀ (index slot : Nat), slots[index]? = some slot → later[index]? = some slot)
    (grows : written ≤ writtenLater) : Ahead later released writtenLater candidate := by
  obtain ⟨stored, slot, queued, before⟩ := ahead
  exact ⟨by omega, slot, kept _ _ queued, before⟩

theorem ConsumerAt.mono {ring ringLater : FrameRing} {taken : Option (Nat × Nat)} {slots later : List Nat}
    {released cleared written writtenLater : Nat} {point : ConsumerPoint}
    (at_ : ConsumerAt ring taken slots released cleared written point)
    (same : ringLater.consumerSequence = ring.consumerSequence)
    (kept : ∀ (index slot : Nat), slots[index]? = some slot → later[index]? = some slot)
    (grows : written ≤ writtenLater) :
    ConsumerAt ringLater taken later released cleared writtenLater point := by
  cases point with
  | scanState expected candidate again | scanSequence expected candidate again =>
      obtain ⟨counter, cleared, taken, next, ahead⟩ := at_
      exact ⟨same.trans counter, cleared, taken, next, fun second => (ahead second).mono kept grows⟩
  | _ => simpa only [ConsumerAt, same] using at_

theorem wakeProducerWord_at {system : FrameSystem} {taken : Option (Nat × Nat)} {slots : List Nat}
    {released cleared written : Nat}
    (at_ : ConsumerAt system.ring taken slots released cleared written system.consumer) :
    ConsumerAt system.wakeProducerWord.ring taken slots released cleared written
      system.wakeProducerWord.consumer := by
  simp only [FrameSystem.wakeProducerWord]
  split
  · rename_i expected stands
    rw [stands] at at_
    exact at_
  · exact at_

variable {slots : List Nat} {cleared written : Nat}

theorem Accounts.moveProducer {point : ProducerPoint} (accounts : history.Accounts slots cleared written)
    (quiet : history.publishing = [])
    (stillQuiet : ({ history with system := history.system.producerAt point } : FrameHistory).publishing = [])
    (knows : ProducerAt history.system.ring history.held slots written point) :
    Accounted { history with system := history.system.producerAt point } := by
  refine ⟨slots, cleared, written, { accounts with producer := knows, presented := ?_ }⟩
  rw [stillQuiet, ← quiet]
  exact accounts.presented

theorem claimStep_accounted {blocking : Bool} {start offset : Nat}
    (accounts : history.Accounts slots cleared written)
    (stands : history.system.producer = .claim blocking start offset) (choice : WaitChoice) (call : ProducerCall) :
    (history.step (.producer choice call)).Accounted := by
  have producer := accounts.producer
  have quiet : history.publishing = [] := by simp only [publishing, stands]
  rw [stands] at producer
  simp only [step, FrameSystem.step, FrameSystem.producerStep, stands]
  split
  · rename_i inside
    split
    · rename_i available
      have positive : 0 < history.system.ring.slotCount := by omega
      have claimed := accounts.holds.claim (Nat.mod_lt (start + offset) positive) available
      have presented := accounts.presented
      rw [quiet] at presented
      exact ⟨slots, cleared, written, claimed, producer, accounts.consumer, accounts.taken, presented,
        accounts.received, accounts.bounded⟩
    · exact accounts.moveProducer quiet rfl producer
  · split
    · exact accounts.moveProducer quiet rfl producer
    · exact accounts.moveProducer quiet rfl ⟨producer.1, producer.2, by simp [Unbroken]⟩

/-- The exchange of `present`: the slot is still the producer's, so it is found
acquired. -/
theorem publishStep_accounted {slot current : Nat} (accounts : history.Accounts slots cleared written)
    (stands : history.system.producer = .publish slot current) (choice : WaitChoice) (call : ProducerCall) :
    (history.step (.producer choice call)).Accounted := by
  have producer := accounts.producer
  have presented := accounts.presented
  rw [stands] at producer
  simp only [publishing, stands] at presented
  obtain ⟨length, stored, owned, same, room⟩ := producer
  have acquired := (accounts.holds.acquired slot).mpr owned
  have queuedKept : ∀ (index other : Nat), slots[index]? = some other → (slots ++ [slot])[index]? = some other :=
    fun index other queued => getElem?_concat.mpr (.inl queued)
  simp only [step, FrameSystem.step, FrameSystem.producerStep, stands, acquired]
  refine ⟨slots ++ [slot], cleared, written, accounts.holds.publish owned, ?_,
    accounts.consumer.mono rfl queuedKept (Nat.le_refl _), ?_, ?_, ?_, ?_⟩
  · refine ⟨by simp; omega, congrArg (· + 1) same, stored, ?_⟩
    exact getElem?_concat.mpr (.inr ⟨by omega, rfl⟩)
  · intro other sequence took
    obtain ⟨next, before, queued⟩ := accounts.taken other sequence took
    exact ⟨next, before, queuedKept _ _ queued⟩
  · rw [frames_concat, ← presented, length, same]
    simp [publishing, presentedAfter, FrameSystem.producerAt]
  · rw [frames_concat, List.take_append_of_le_length]
    · exact accounts.received
    · rw [frames_length]
      have := accounts.holds.clearedAfter
      have := accounts.holds.writtenAfter
      cases took : history.taken with
      | none => simp; omega
      | some frame =>
          have := (accounts.taken frame.1 frame.2 took).2.1
          simp; omega
  · simp; omega

theorem storeSlotStep_accounted {slot next : Nat} (accounts : history.Accounts slots cleared written)
    (stands : history.system.producer = .storeSlotSequence slot next) (choice : WaitChoice) (call : ProducerCall) :
    (history.step (.producer choice call)).Accounted := by
  have producer := accounts.producer
  have presented := accounts.presented
  rw [stands] at producer
  simp only [publishing, stands] at presented
  obtain ⟨length, following, stored, queued⟩ := producer
  obtain rfl : next = written + 1 := by omega
  simp only [step, FrameSystem.step, FrameSystem.producerStep, stands]
  refine ⟨slots, cleared, written + 1, accounts.holds.write queued, ⟨length, following, rfl⟩,
    accounts.consumer.mono rfl (fun _ _ same => same) (by omega), ?_, presented, accounts.received,
    accounts.bounded⟩
  intro other sequence took
  obtain ⟨after, before, found⟩ := accounts.taken other sequence took
  exact ⟨after, Nat.lt_succ_of_lt before, found⟩

theorem producerStep_accounted (accounted : history.Accounted) (choice : WaitChoice) (call : ProducerCall)
    (inTurn : history.callsInTurn (.producer choice call) = true) :
    (history.step (.producer choice call)).Accounted := by
  obtain ⟨slots, cleared, written, accounts⟩ := accounted
  have producer := accounts.producer
  cases stands : history.system.producer with
  | claim blocking start offset => exact claimStep_accounted accounts stands choice call
  | publish slot current => exact publishStep_accounted accounts stands choice call
  | storeSlotSequence slot next => exact storeSlotStep_accounted accounts stands choice call
  | idle last =>
      have quiet : history.publishing = [] := by simp only [publishing, stands]
      rw [stands] at producer
      obtain ⟨length, stored, -⟩ := producer
      simp only [step, FrameSystem.step, FrameSystem.producerStep, stands]
      cases call with
      | acquire blocking =>
          cases blocking with
          | true => exact accounts.moveProducer quiet rfl ⟨length, stored⟩
          | false => exact accounts.moveProducer quiet rfl ⟨length, stored⟩
      | present slot =>
          simp only [callsInTurn, stands, List.contains_iff_mem] at inTurn
          have inside := accounts.holds.heldInside slot inTurn
          simp only
          rw [if_neg (by omega)]
          exact accounts.moveProducer quiet rfl ⟨length, stored, inTurn⟩
  | storeNextAcquire slot =>
      have presented := accounts.presented
      simp only [publishing, stands] at presented
      rw [stands] at producer
      simp only [step, FrameSystem.step, FrameSystem.producerStep, stands]
      exact ⟨slots, cleared, written, { accounts.holds with }, ⟨producer.1, producer.2, by simp⟩,
        accounts.consumer.mono rfl (fun _ _ same => same) (Nat.le_refl _), accounts.taken, presented,
        accounts.received, accounts.bounded⟩
  | storeProducerSequence slot next =>
      have presented := accounts.presented
      simp only [publishing, stands] at presented
      rw [stands] at producer
      obtain ⟨length, following, stored⟩ := producer
      simp only [step, FrameSystem.step, FrameSystem.producerStep, stands]
      exact ⟨slots, cleared, written, { accounts.holds with }, ⟨length, rfl, stored⟩,
        accounts.consumer.mono rfl (fun _ _ same => same) (Nat.le_refl _), accounts.taken, presented,
        accounts.received, accounts.bounded⟩
  | wakeConsumer slot next =>
      have presented := accounts.presented
      simp only [publishing, stands] at presented
      rw [stands] at producer
      obtain ⟨length, following, stored⟩ := producer
      have wakes := wakeProducerWord_at accounts.consumer
      simp only [step, FrameSystem.step, FrameSystem.producerStep, stands]
      refine ⟨slots, cleared, written, ?_, ?_, wakes, accounts.taken, ?_, accounts.received, accounts.bounded⟩
      · simpa [FrameSystem.producerAt, heldAfter] using accounts.holds
      · simp only [FrameSystem.producerAt, FrameSystem.wakeProducerWord_ring]
        exact ⟨by omega, by omega, by simp⟩
      · rw [← presented]
        simp [presentedAfter, publishing, FrameSystem.producerAt]
  | acquireParked =>
      have quiet : history.publishing = [] := by simp only [publishing, stands]
      rw [stands] at producer
      simp only [step, FrameSystem.step, FrameSystem.producerStep, stands]
      split
      · exact accounts.moveProducer quiet rfl ⟨producer.1, producer.2, by simp [Unbroken]⟩
      · exact accounts.moveProducer quiet rfl producer
      · simp only [heldAfter, presentedAfter]
        exact ⟨slots, cleared, written, accounts⟩
  | presentProducerStatus slot | presentConsumerStatus slot =>
      have quiet : history.publishing = [] := by simp only [publishing, stands]
      rw [stands] at producer
      simp only [step, FrameSystem.step, FrameSystem.producerStep, stands]
      split
      · exact accounts.moveProducer quiet rfl ⟨producer.1, producer.2.1, by simp⟩
      · exact accounts.moveProducer quiet rfl producer
  | loadProducerSequence slot =>
      have quiet : history.publishing = [] := by simp only [publishing, stands]
      rw [stands] at producer
      obtain ⟨length, stored, owned⟩ := producer
      have bounded := accounts.bounded
      simp only [step, FrameSystem.step, FrameSystem.producerStep, stands]
      split
      · exact accounts.moveProducer quiet rfl ⟨length, stored, by simp [Unbroken]⟩
      · exact accounts.moveProducer quiet rfl ⟨length, stored, owned, rfl, by omega⟩
  | _ =>
      have quiet : history.publishing = [] := by simp only [publishing, stands]
      rw [stands] at producer
      simp only [step, FrameSystem.step, FrameSystem.producerStep, stands]
      (repeat' split) <;> first
        | exact accounts.moveProducer quiet rfl producer
        | exact accounts.moveProducer quiet rfl ⟨producer.1, producer.2, by simp [Unbroken]⟩

/-! ## Steps of the consumer -/

theorem Accounts.moveConsumer {point : ConsumerPoint} (accounts : history.Accounts slots cleared written)
    (knows : ConsumerAt history.system.ring history.taken slots history.released cleared written point) :
    Accounted { history with system := history.system.consumerAt point } :=
  ⟨slots, cleared, written, { accounts with consumer := knows }⟩

theorem ProducerAt.stored {ring : FrameRing} {held : List Nat} {point : ProducerPoint}
    (at_ : ProducerAt ring held slots written point) : ring.producerSequence ≤ written := by
  cases point with
  | idle | presentProducerStatus | presentConsumerStatus | loadProducerSequence | publish | storeSlotSequence
  | storeProducerSequence | wakeConsumer =>
      simp only [ProducerAt] at at_
      omega
  | _ =>
      simp only [ProducerAt] at at_
      omega

theorem scanStateStep_accounted {expected candidate : Nat} {again : Bool}
    (accounts : history.Accounts slots cleared written)
    (stands : history.system.consumer = .scanState expected candidate again)
    (choice : WaitChoice) (call : ConsumerCall) : (history.step (.consumer choice call)).Accounted := by
  have consumer := accounts.consumer
  rw [stands] at consumer
  obtain ⟨counter, clearedNone, free, next, ahead⟩ := consumer
  simp only [step, FrameSystem.step, FrameSystem.consumerStep, stands]
  split
  · split
    · exact accounts.moveConsumer ⟨counter, clearedNone, free, next, ahead⟩
    · rename_i inside unpresented
      refine accounts.moveConsumer ⟨counter, clearedNone, free, next, fun second => ?_⟩
      obtain ⟨stored, slot, queued, before⟩ := ahead second
      have apart : candidate ≠ slot := by
        rintro rfl
        exact unpresented (accounts.holds.presented_of_queued (Nat.le_refl _) queued)
      exact ⟨stored, slot, queued, by omega⟩
  · rename_i outside
    split
    · rename_i second
      obtain ⟨stored, slot, queued, before⟩ := ahead second
      have := accounts.holds.queuedInside _ slot queued
      omega
    · exact accounts.moveConsumer ⟨counter, clearedNone, free, next⟩

theorem scanSequenceStep_accounted {expected candidate : Nat} {again : Bool}
    (accounts : history.Accounts slots cleared written)
    (stands : history.system.consumer = .scanSequence expected candidate again)
    (choice : WaitChoice) (call : ConsumerCall) : (history.step (.consumer choice call)).Accounted := by
  have consumer := accounts.consumer
  rw [stands] at consumer
  obtain ⟨counter, clearedNone, free, rfl, ahead⟩ := consumer
  simp only [step, FrameSystem.step, FrameSystem.consumerStep, stands]
  split
  · rename_i found
    obtain ⟨-, stored, queued⟩ := (accounts.holds.sequence candidate history.released).mp found
    refine ⟨slots, cleared, written, accounts.holds, accounts.producer, ⟨counter, clearedNone, by simp⟩, ?_,
      accounts.presented, ?_, accounts.bounded⟩
    · intro slot sequence took
      obtain ⟨rfl, rfl⟩ := Prod.mk.inj (Option.some.inj took)
      exact ⟨rfl, stored, queued⟩
    · have received := accounts.received
      rw [free] at received
      have frame : (frames slots)[history.released]? = some (candidate, history.released + 1) := by
        rw [getElem?_frames, queued]
        rfl
      show history.received ++ [(candidate, history.released + 1)] =
        (frames slots).take (history.released + 1)
      rw [List.take_add_one, frame, received]
      rfl
  · rename_i other
    refine accounts.moveConsumer ⟨counter, clearedNone, free, rfl, fun second => ?_⟩
    obtain ⟨stored, slot, queued, before⟩ := ahead second
    have apart : candidate ≠ slot := by
      rintro rfl
      exact other ((accounts.holds.sequence candidate history.released).mpr ⟨by omega, stored, queued⟩)
    exact ⟨stored, slot, queued, by omega⟩

/-- The checks of `release` pass: the frame taken is the one after the counter and its
slot still holds its sequence. -/
theorem checkSteps_accounted {slot sequence : Nat} (accounts : history.Accounts slots cleared written)
    (stands : history.system.consumer = .checkSlotSequence slot sequence ∨
      history.system.consumer = .checkConsumerSequence slot sequence)
    (choice : WaitChoice) (call : ConsumerCall) : (history.step (.consumer choice call)).Accounted := by
  have consumer := accounts.consumer
  have bounded := accounts.bounded
  have published := accounts.holds.published
  rcases stands with stands | stands
  · rw [stands] at consumer
    obtain ⟨counter, clearedNone, took⟩ := consumer
    obtain ⟨rfl, stored, queued⟩ := accounts.taken slot sequence took
    have fresh := (accounts.holds.sequence slot history.released).mpr ⟨by omega, stored, queued⟩
    simp only [step, FrameSystem.step, FrameSystem.consumerStep, stands]
    rw [if_neg (not_not.mpr fresh)]
    exact accounts.moveConsumer ⟨counter, clearedNone, took⟩
  · rw [stands] at consumer
    obtain ⟨counter, clearedNone, took⟩ := consumer
    obtain ⟨rfl, stored, queued⟩ := accounts.taken slot sequence took
    have follows : (history.system.ring.consumerSequence + 1) % 2 ^ 32 = history.released + 1 := by
      rw [counter]
      exact Nat.mod_eq_of_lt (by omega)
    simp only [step, FrameSystem.step, FrameSystem.consumerStep, stands]
    rw [if_neg (not_not.mpr follows)]
    exact accounts.moveConsumer ⟨counter, clearedNone, took⟩

theorem clearStep_accounted {slot sequence : Nat} (accounts : history.Accounts slots cleared written)
    (stands : history.system.consumer = .clearSlotSequence slot sequence)
    (choice : WaitChoice) (call : ConsumerCall) : (history.step (.consumer choice call)).Accounted := by
  have consumer := accounts.consumer
  rw [stands] at consumer
  obtain ⟨counter, clearedNone, took⟩ := consumer
  obtain ⟨-, stored, queued⟩ := accounts.taken slot sequence took
  simp only [step, FrameSystem.step, FrameSystem.consumerStep, stands]
  exact ⟨slots, cleared + 1, written, accounts.holds.clear clearedNone stored queued, accounts.producer,
    ⟨counter, congrArg (· + 1) clearedNone, took⟩, accounts.taken, accounts.presented, accounts.received,
    accounts.bounded⟩

theorem freeStep_accounted {slot sequence : Nat} (accounts : history.Accounts slots cleared written)
    (stands : history.system.consumer = .free slot sequence)
    (choice : WaitChoice) (call : ConsumerCall) : (history.step (.consumer choice call)).Accounted := by
  have consumer := accounts.consumer
  rw [stands] at consumer
  obtain ⟨counter, clearedOne, took⟩ := consumer
  obtain ⟨rfl, stored, queued⟩ := accounts.taken slot sequence took
  have presented := accounts.holds.presented_of_queued (Nat.le_refl _) queued
  simp only [step, FrameSystem.step, FrameSystem.consumerStep, stands]
  rw [if_pos presented]
  refine ⟨slots, cleared, written, accounts.holds.free clearedOne queued, accounts.producer,
    ⟨congrArg (· + 1) counter, clearedOne, rfl, rfl⟩, ?_, accounts.presented, ?_, accounts.bounded⟩
  · intro slot sequence took
    cases took
  have received := accounts.received
  rw [took] at received
  exact received

theorem wakeConsumerWord_at {system : FrameSystem} {held : List Nat}
    (at_ : ProducerAt system.ring held slots written system.producer) :
    ProducerAt system.wakeConsumerWord.ring held slots written system.wakeConsumerWord.producer := by
  simp only [FrameSystem.wakeConsumerWord]
  split
  · rename_i stands
    rw [stands] at at_
    exact at_
  · exact at_

theorem wakeConsumerWord_publishing :
    ({ history with system := history.system.wakeConsumerWord } : FrameHistory).publishing =
      history.publishing := by
  simp only [FrameSystem.wakeConsumerWord]
  split
  · rename_i stands
    simp only [publishing, stands, FrameSystem.producerAt]
  · rfl

theorem consumerStep_accounted (accounted : history.Accounted) (choice : WaitChoice) (call : ConsumerCall)
    (inTurn : history.callsInTurn (.consumer choice call) = true) :
    (history.step (.consumer choice call)).Accounted := by
  obtain ⟨slots, cleared, written, accounts⟩ := accounted
  have consumer := accounts.consumer
  cases stands : history.system.consumer with
  | scanState expected candidate again => exact scanStateStep_accounted accounts stands choice call
  | scanSequence expected candidate again => exact scanSequenceStep_accounted accounts stands choice call
  | checkSlotSequence slot sequence => exact checkSteps_accounted accounts (.inl stands) choice call
  | checkConsumerSequence slot sequence => exact checkSteps_accounted accounts (.inr stands) choice call
  | clearSlotSequence slot sequence => exact clearStep_accounted accounts stands choice call
  | free slot sequence => exact freeStep_accounted accounts stands choice call
  | idle last =>
      rw [stands] at consumer
      obtain ⟨counter, clearedNone, -⟩ := consumer
      simp only [step, FrameSystem.step, FrameSystem.consumerStep, stands]
      cases call with
      | waitPresent afterSequence =>
          simp only [callsInTurn, stands, Bool.and_eq_true, beq_iff_eq] at inTurn
          obtain ⟨free, rfl⟩ := inTurn
          simp only
          split
          · exact accounts.moveConsumer ⟨counter, clearedNone, by simp [Unbroken]⟩
          · exact accounts.moveConsumer ⟨counter, clearedNone, free, rfl⟩
      | release slot sequence =>
          simp only [callsInTurn, stands, beq_iff_eq] at inTurn
          simp only
          split
          · exact accounts.moveConsumer ⟨counter, clearedNone, by simp [Unbroken]⟩
          · exact accounts.moveConsumer ⟨counter, clearedNone, inTurn⟩
  | loadProduced expected =>
      rw [stands] at consumer
      obtain ⟨counter, clearedNone, free, rfl⟩ := consumer
      simp only [step, FrameSystem.step, FrameSystem.consumerStep, stands]
      split
      · rename_i produced
        have stored := accounts.producer.stored
        have published := accounts.holds.published
        have inside : history.released < slots.length := by omega
        refine accounts.moveConsumer ⟨counter, clearedNone, free, rfl, fun _ => ?_⟩
        exact ⟨by omega, slots[history.released], List.getElem?_eq_getElem inside, Nat.zero_le _⟩
      · exact accounts.moveConsumer ⟨counter, clearedNone, free, rfl⟩
  | presentParked expected =>
      rw [stands] at consumer
      obtain ⟨counter, clearedNone, -⟩ := id consumer
      simp only [step, FrameSystem.step, FrameSystem.consumerStep, stands]
      split
      · exact accounts.moveConsumer ⟨counter, clearedNone, by simp [Unbroken]⟩
      · exact accounts.moveConsumer consumer
      · simp only [takenAfter, releasedAfter, receivedAfter]
        exact ⟨slots, cleared, written, accounts⟩
  | storeConsumerSequence slot sequence =>
      rw [stands] at consumer
      obtain ⟨counter, clearedAll, free, rfl⟩ := consumer
      simp only [step, FrameSystem.step, FrameSystem.consumerStep, stands]
      exact ⟨slots, cleared, written, { accounts.holds with }, accounts.producer, ⟨rfl, clearedAll, free⟩,
        accounts.taken, accounts.presented, accounts.received, accounts.bounded⟩
  | wakeProducer slot sequence =>
      rw [stands] at consumer
      obtain ⟨counter, clearedAll, free⟩ := consumer
      simp only [step, FrameSystem.step, FrameSystem.consumerStep, stands]
      refine ⟨slots, cleared, written, ?_, wakeConsumerWord_at accounts.producer, ?_, accounts.taken, ?_,
        accounts.received, accounts.bounded⟩
      · simpa [FrameSystem.consumerAt, releasedAfter] using accounts.holds
      · simp only [FrameSystem.consumerAt, FrameSystem.wakeConsumerWord_ring]
        exact ⟨counter, clearedAll, by simp⟩
      · rw [← accounts.presented]
        exact congrArg (history.presented ++ ·) wakeConsumerWord_publishing
  | waitConsumerStatus expected =>
      rw [stands] at consumer
      obtain ⟨counter, clearedNone, free, next⟩ := consumer
      simp only [step, FrameSystem.step, FrameSystem.consumerStep, stands]
      split
      · exact accounts.moveConsumer ⟨counter, clearedNone, by simp⟩
      · exact accounts.moveConsumer ⟨counter, clearedNone, free, next, by simp⟩
  | _ =>
      rw [stands] at consumer
      simp only [step, FrameSystem.step, FrameSystem.consumerStep, stands]
      (repeat' split) <;> first
        | exact accounts.moveConsumer consumer
        | exact accounts.moveConsumer ⟨consumer.1, consumer.2.1, by simp [Unbroken]⟩

theorem Accounted.relabel (accounted : history.Accounted) (producerStatus consumerStatus : Int)
    (producerFailure consumerFailure : FramePoint) (producerAlarm consumerAlarm : Bool) :
    Accounted { history with
      system := { history.system with
        ring := { history.system.ring with producerStatus := producerStatus, consumerStatus := consumerStatus }
        producerFailure := producerFailure
        consumerFailure := consumerFailure
        producerAlarm := producerAlarm
        consumerAlarm := consumerAlarm } } := by
  obtain ⟨slots, cleared, written, accounts⟩ := accounted
  exact ⟨slots, cleared, written, { accounts.holds with }, accounts.producer, accounts.consumer, accounts.taken,
    accounts.presented, accounts.received, accounts.bounded⟩

theorem Accounted.wakeProducerWord (accounted : history.Accounted) :
    Accounted { history with system := history.system.wakeProducerWord } := by
  obtain ⟨slots, cleared, written, accounts⟩ := accounted
  refine ⟨slots, cleared, written, ?_, ?_, wakeProducerWord_at accounts.consumer, accounts.taken, ?_,
    accounts.received, accounts.bounded⟩
  · simpa using accounts.holds
  · simpa using accounts.producer
  · rw [← accounts.presented]
    simp only [publishing, FrameSystem.wakeProducerWord_producer]

theorem Accounted.wakeConsumerWord (accounted : history.Accounted) :
    Accounted { history with system := history.system.wakeConsumerWord } := by
  obtain ⟨slots, cleared, written, accounts⟩ := accounted
  refine ⟨slots, cleared, written, ?_, wakeConsumerWord_at accounts.producer, ?_, accounts.taken, ?_,
    accounts.received, accounts.bounded⟩
  · simpa using accounts.holds
  · simpa using accounts.consumer
  · rw [← accounts.presented]
    exact congrArg (history.presented ++ ·) wakeConsumerWord_publishing

theorem failProducerStep_accounted (accounted : history.Accounted) (status : Int) :
    (history.step (.failProducer status)).Accounted := by
  simp only [step, FrameSystem.step, FrameSystem.failProducerStep]
  split
  · exact accounted.wakeProducerWord.relabel _ _ _ _ _ _
  · exact accounted.wakeConsumerWord.relabel _ _ _ _ _ _
  · split
    · exact accounted
    · exact accounted.relabel _ _ _ _ _ _

theorem failConsumerStep_accounted (accounted : history.Accounted) (status : Int) :
    (history.step (.failConsumer status)).Accounted := by
  simp only [step, FrameSystem.step, FrameSystem.failConsumerStep]
  split
  · exact accounted.wakeProducerWord.relabel _ _ _ _ _ _
  · exact accounted.wakeConsumerWord.relabel _ _ _ _ _ _
  · split
    · exact accounted
    · exact accounted.relabel _ _ _ _ _ _

theorem step_accounted (accounted : history.Accounted) (move : FrameMove)
    (inTurn : history.callsInTurn move = true) : (history.step move).Accounted := by
  cases move with
  | producer choice call => exact producerStep_accounted accounted choice call inTurn
  | consumer choice call => exact consumerStep_accounted accounted choice call inTurn
  | failProducer status => exact failProducerStep_accounted accounted status
  | failConsumer status => exact failConsumerStep_accounted accounted status

/-! ## What the counts give -/

theorem received_of_accounts (accounts : history.Accounts slots cleared written) :
    history.received <+: frames slots := by
  rw [accounts.received]
  exact List.take_prefix _ _

theorem sequences_of_prefix {received : List (Nat × Nat)} (isPrefix : received <+: frames slots) :
    received.map Prod.snd = List.range' 1 received.length := by
  have mapped := isPrefix.map Prod.snd
  have short := isPrefix.length_le
  rw [frames_sequences] at mapped
  rw [frames_length] at short
  rw [List.prefix_iff_eq_take.mp mapped, List.length_map]
  exact List.take_range'_of_length_ge short

theorem queued_of_accounts (accounts : history.Accounts slots cleared written)
    (stored : written = slots.length) (clearedNone : cleared = history.released) :
    Set.BijOn history.system.ring.slotSequence
      {slot | slot < history.system.ring.slotCount ∧ history.system.ring.slotState slot = .presented}
      (Set.Ioc history.released slots.length) := by
  have sequence_of : ∀ (index slot : Nat), history.released ≤ index → slots[index]? = some slot →
      history.system.ring.slotSequence slot = index + 1 := by
    intro index slot after queued
    have inside := (List.getElem?_eq_some_iff.mp queued).1
    exact (accounts.holds.sequence slot index).mpr ⟨by omega, by omega, queued⟩
  refine ⟨?_, ?_, ?_⟩
  · rintro slot ⟨-, presented⟩
    obtain ⟨index, after, queued⟩ := (accounts.holds.presented slot).mp presented
    have inside := (List.getElem?_eq_some_iff.mp queued).1
    rw [sequence_of index slot after queued]
    exact ⟨by omega, by omega⟩
  · rintro slot ⟨-, presented⟩ other ⟨-, alsoPresented⟩ same
    obtain ⟨index, after, queued⟩ := (accounts.holds.presented slot).mp presented
    obtain ⟨second, alsoAfter, alsoQueued⟩ := (accounts.holds.presented other).mp alsoPresented
    rw [sequence_of index slot after queued, sequence_of second other alsoAfter alsoQueued] at same
    obtain rfl : index = second := by omega
    exact Option.some.inj (queued.symm.trans alsoQueued)
  · rintro sequence ⟨after, before⟩
    have inside : sequence - 1 < slots.length := by omega
    have queued := List.getElem?_eq_getElem inside
    have after : history.released ≤ sequence - 1 := by omega
    refine ⟨slots[sequence - 1], ⟨accounts.holds.queuedInside _ _ queued, ?_⟩, ?_⟩
    · exact accounts.holds.presented_of_queued after queued
    · rw [sequence_of _ _ after queued]
      omega

theorem producerSequence_le (accounts : history.Accounts slots cleared written) :
    history.system.ring.producerSequence ≤ slots.length := by
  have := accounts.producer.stored
  have := accounts.holds.published
  omega

theorem ConsumerAt.counter_le {ring : FrameRing} {taken : Option (Nat × Nat)} {released : Nat}
    {point : ConsumerPoint} (at_ : ConsumerAt ring taken slots released cleared written point) :
    ring.consumerSequence ≤ released := by
  cases point <;> simp only [ConsumerAt] at at_ <;> omega

theorem Accounts.deliversInOrder (accounts : history.Accounts slots cleared written) :
    history.DeliversInOrder where
  received_sequences := sequences_of_prefix (received_of_accounts accounts)
  received_presented := by
    rw [accounts.presented]
    exact received_of_accounts accounts
  exclusive := by
    intro slot sequence took
    obtain ⟨-, -, queued⟩ := accounts.taken slot sequence took
    have presented := accounts.holds.presented_of_queued (Nat.le_refl _) queued
    refine ⟨presented, fun owned => ?_⟩
    exact nomatch presented.symm.trans ((accounts.holds.acquired slot).mpr owned)
  queued := by
    intro lastOfProducer lastOfConsumer producerIdle consumerIdle
    have producer := accounts.producer
    have consumer := accounts.consumer
    rw [producerIdle] at producer
    rw [consumerIdle] at consumer
    obtain ⟨length, stored, -⟩ := producer
    obtain ⟨counter, clearedNone, -⟩ := consumer
    rw [counter, ← length]
    exact queued_of_accounts accounts (by omega) clearedNone
  bounded := by
    have := producerSequence_le accounts
    have := accounts.consumer.counter_le
    have := accounts.holds.clearedAfter
    have := accounts.holds.writtenAfter
    have := accounts.holds.published
    have := accounts.bounded
    exact ⟨by omega, by omega⟩
  exhausted := by
    intro last
    constructor
    · intro slot next stands
      have producer := accounts.producer
      have bounded := accounts.bounded
      rw [stands] at producer
      obtain ⟨length, following, -⟩ := producer
      omega
    · intro slot choice call stands
      simp only [step, FrameSystem.step, FrameSystem.producerStep, stands]
      rw [if_pos last]
      rfl
  producer_unbroken := by
    intro code stands
    have producer := accounts.producer
    rw [stands] at producer
    exact producer.2.2 code rfl
  consumer_unbroken := by
    intro code stands
    have consumer := accounts.consumer
    rw [stands] at consumer
    exact consumer.2.2 code rfl

/-- The counters only grow. -/
def Grows (history : FrameHistory) (move : FrameMove) : Prop :=
  history.system.ring.producerSequence ≤ (history.step move).system.ring.producerSequence ∧
    history.system.ring.consumerSequence ≤ (history.step move).system.ring.consumerSequence

theorem producerStep_grows (accounts : history.Accounts slots cleared written) (choice : WaitChoice)
    (call : ProducerCall) : history.Grows (.producer choice call) := by
  have producer := accounts.producer
  cases stands : history.system.producer with
  | storeProducerSequence slot next =>
      rw [stands] at producer
      obtain ⟨-, rfl, -⟩ := producer
      simp only [Grows, step, FrameSystem.step, FrameSystem.producerStep, stands]
      exact ⟨Nat.le_succ _, Nat.le_refl _⟩
  | wakeConsumer slot next =>
      simp only [Grows, step, FrameSystem.step, FrameSystem.producerStep, stands, FrameSystem.producerAt,
        FrameSystem.wakeProducerWord_ring, Nat.le_refl, and_self]
  | _ =>
      simp only [Grows, step, FrameSystem.step, FrameSystem.producerStep, stands]
      (repeat' split) <;> exact ⟨Nat.le_refl _, Nat.le_refl _⟩

theorem consumerStep_grows (accounts : history.Accounts slots cleared written) (choice : WaitChoice)
    (call : ConsumerCall) : history.Grows (.consumer choice call) := by
  have consumer := accounts.consumer
  cases stands : history.system.consumer with
  | storeConsumerSequence slot sequence =>
      rw [stands] at consumer
      obtain ⟨counter, -, -, rfl⟩ := consumer
      simp only [Grows, step, FrameSystem.step, FrameSystem.consumerStep, stands]
      exact ⟨Nat.le_refl _, by show history.system.ring.consumerSequence ≤ history.released; omega⟩
  | wakeProducer slot sequence =>
      simp only [Grows, step, FrameSystem.step, FrameSystem.consumerStep, stands, FrameSystem.consumerAt,
        FrameSystem.wakeConsumerWord_ring, Nat.le_refl, and_self]
  | _ =>
      simp only [Grows, step, FrameSystem.step, FrameSystem.consumerStep, stands]
      (repeat' split) <;> exact ⟨Nat.le_refl _, Nat.le_refl _⟩

theorem step_grows (accounts : history.Accounts slots cleared written) (move : FrameMove) :
    history.Grows move := by
  cases move with
  | producer choice call => exact producerStep_grows accounts choice call
  | consumer choice call => exact consumerStep_grows accounts choice call
  | failProducer status =>
      simp only [Grows, step, FrameSystem.step, FrameSystem.failProducerStep]
      (repeat' split) <;> simp
  | failConsumer status =>
      simp only [Grows, step, FrameSystem.step, FrameSystem.failConsumerStep]
      (repeat' split) <;> simp

/-- Every frame is delivered once and in order, whatever the interleaving of a
producer and a consumer that make their calls in turn. -/
theorem frames_delivered_in_order (slotCount : Nat) (moves : List FrameMove)
    (inTurn : Runs.EveryStep step (fun history move => history.callsInTurn move = true)
      (initial slotCount) moves) :
    Runs.EveryState step DeliversInOrder (initial slotCount) moves ∧
      Runs.EveryStep step Grows (initial slotCount) moves := by
  have accounted : Runs.EveryState step Accounted (initial slotCount) moves :=
    Runs.everyState_of_everyStep (fun _ move accounted meets => step_accounted accounted move meets)
      moves _ (initial_accounted slotCount) inTurn
  constructor
  · exact accounted.imp fun _ ⟨_, _, _, accounts⟩ => accounts.deliversInOrder
  · exact accounted.everyStep (fun _ move ⟨_, _, _, accounts⟩ _ => step_grows accounts move) inTurn

/-- One frame through a ring of three slots. -/
def oneFrame : List FrameMove :=
  List.replicate 6 (.producer .proceed (.acquire false)) ++
    List.replicate 8 (.producer .proceed (.present 0)) ++
    List.replicate 6 (.consumer .proceed (.waitPresent 0)) ++
    List.replicate 9 (.consumer .proceed (.release 0 1))

theorem frames_delivered_in_order_once :
    Runs.EveryState step DeliversInOrder (initial 3) oneFrame ∧
      (Runs.final step (initial 3) oneFrame).received = [(0, 1)] :=
  ⟨(frames_delivered_in_order 3 oneFrame (by decide +kernel)).1, by decide +kernel⟩

end FrameHistory

end VulkanBridge
