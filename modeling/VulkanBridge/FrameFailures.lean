import VulkanBridge.FrameWakeups
import VulkanBridge.RingFailures

/-!
Published failures and the parties of the frame ring: as on the descriptor ring,
a party that has read its peer's status and goes on to park is missed by the
wakes of `publish_failure`.
-/

namespace VulkanBridge

open LinearProbing (place)

/-- A slot from `candidate` on holds the frame. -/
def FrameRing.hasFrame (ring : FrameRing) (expected candidate : Nat) : Bool :=
  (List.range ring.slotCount).any fun slot =>
    candidate ≤ slot && ring.slotState slot == .presented && ring.slotSequence slot == expected

/-- From here a blocking `acquire` goes on to park, as the ring stands, without
another read of the consumer's status. -/
def ProducerPoint.parksPastConsumerStatus (ring : FrameRing) : ProducerPoint → Bool
  | .loadNextAcquire blocking => blocking && ring.scansInVain (ring.nextAcquire % ring.slotCount) 0
  | .claim blocking start offset => blocking && ring.scansInVain start offset
  | .loadConsumerSequence | .acquireParked => true
  | .acquireWait observed => ring.consumerSequence == observed
  | _ => false

/-- The same of `wait_present` and the producer's status. -/
def ConsumerPoint.parksPastProducerStatus (ring : FrameRing) : ConsumerPoint → Bool
  | .waitConsumerStatus expected =>
      0 ≤ ring.consumerStatus && !ring.hasFrame expected 0 && ring.producerSequence < expected
  | .scanState expected candidate again | .scanSequence expected candidate again =>
      !again && !ring.hasFrame expected candidate && ring.producerSequence < expected
  | .loadProduced expected => ring.producerSequence < expected
  | .presentWait _ observed => ring.producerSequence == observed
  | .presentParked _ => true
  | _ => false

def ConsumerPoint.isParked : ConsumerPoint → Bool
  | .presentParked _ => true
  | _ => false

namespace FrameRing

variable {ring later : FrameRing} {expected candidate : Nat}

theorem hasFrame_iff : ring.hasFrame expected candidate = true ↔ ∃ slot < ring.slotCount, candidate ≤ slot ∧
    ring.slotState slot = .presented ∧ ring.slotSequence slot = expected := by
  simp only [hasFrame, List.any_eq_true, List.mem_range, Bool.and_eq_true, decide_eq_true_eq, beq_iff_eq, and_assoc]

theorem hasFrame_next (other : ring.slotState candidate = .presented → ring.slotSequence candidate ≠ expected)
    (found : ring.hasFrame expected candidate = true) : ring.hasFrame expected (candidate + 1) = true := by
  rw [hasFrame_iff] at found ⊢
  obtain ⟨slot, bound, ahead, presented, sequence⟩ := found
  refine ⟨slot, bound, ?_, presented, sequence⟩
  rcases Nat.lt_or_eq_of_le ahead with after | same
  · exact after
  · subst same
    exact absurd sequence (other presented)

theorem hasFrame_inside (found : ring.hasFrame expected candidate = true) : candidate < ring.slotCount := by
  obtain ⟨slot, bound, ahead, -⟩ := hasFrame_iff.mp found
  omega

theorem hasFrame_kept (slotCount : later.slotCount = ring.slotCount)
    (kept : ∀ slot, ring.slotState slot = .presented → ring.slotSequence slot = expected →
      later.slotState slot = .presented ∧ later.slotSequence slot = expected)
    (found : ring.hasFrame expected candidate = true) : later.hasFrame expected candidate = true := by
  rw [hasFrame_iff] at found ⊢
  obtain ⟨slot, bound, ahead, presented, sequence⟩ := found
  exact ⟨slot, slotCount ▸ bound, ahead, kept slot presented sequence⟩

end FrameRing

namespace ConsumerPoint

variable {ring : FrameRing} {expected candidate : Nat} {again : Bool}

theorem waitConsumerStatus_spared : (waitConsumerStatus expected).parksPastProducerStatus ring = false ↔
    (ring.consumerStatus < 0 ∨ ring.hasFrame expected 0 = true) ∨ expected ≤ ring.producerSequence := by
  simp only [parksPastProducerStatus, Bool.and_eq_false_iff, Bool.not_eq_false', decide_eq_false_iff_not,
    Int.not_le, Nat.not_lt]

theorem scanState_spared : (scanState expected candidate again).parksPastProducerStatus ring = false ↔
    (again = true ∨ ring.hasFrame expected candidate = true) ∨ expected ≤ ring.producerSequence := by
  simp only [parksPastProducerStatus, Bool.and_eq_false_iff, Bool.not_eq_false', decide_eq_false_iff_not, Nat.not_lt]

theorem scanSequence_spared : (scanSequence expected candidate again).parksPastProducerStatus ring = false ↔
    (again = true ∨ ring.hasFrame expected candidate = true) ∨ expected ≤ ring.producerSequence := scanState_spared

theorem loadProduced_spared : (loadProduced expected).parksPastProducerStatus ring = false ↔
    expected ≤ ring.producerSequence := by
  simp [parksPastProducerStatus]

end ConsumerPoint

/-! ## What the words hold -/

/-- The words behind a point of the producer, or of the consumer. -/
def ProducerPoint.Agrees (ring : FrameRing) : ProducerPoint → Prop
  | .acquireWait observed => observed ≤ ring.consumerSequence
  | .publish _ current => current = ring.producerSequence
  | .storeSlotSequence slot next =>
      next = ring.producerSequence + 1 ∧ ring.slotState slot = .presented ∧ ring.slotSequence slot = 0
  | .storeProducerSequence _ next => next = ring.producerSequence + 1
  | _ => True

def ConsumerPoint.Agrees (ring : FrameRing) : ConsumerPoint → Prop
  | .waitDeadline expected | .waitProducerStatus expected | .waitConsumerStatus expected
  | .scanState expected _ _ | .scanSequence expected _ _ | .loadProduced expected
  | .presentParked expected => expected ≠ 0
  | .presentWait expected observed => expected ≠ 0 ∧ observed ≤ ring.producerSequence
  | .checkConsumerSequence slot _ | .clearSlotSequence slot _ => ring.slotSequence slot ≠ 0
  | .free slot _ => ring.slotState slot = .presented ∧ ring.slotSequence slot = 0
  | _ => True

namespace FrameSystem

variable {system later : FrameSystem}

/-- A slot that is not presented holds no sequence, and the producer does not write
that of a slot which the consumer is about to free. -/
structure Agreed (system : FrameSystem) : Prop where
  counts : system.Counts
  unwritten : ∀ slot, system.ring.slotState slot ≠ .presented → system.ring.slotSequence slot = 0
  producer : system.producer.Agrees system.ring
  consumer : system.consumer.Agrees system.ring
  apart : ∀ slot sequence next, system.consumer = .free slot sequence → system.producer ≠ .storeSlotSequence slot next

def ConsumerKept (system later : FrameSystem) : Prop :=
  later.consumer = system.consumer ∨ later.consumer = system.wakeProducerWord.consumer

def ProducerKept (system later : FrameSystem) : Prop :=
  later.producer = system.producer ∨ later.producer = system.wakeConsumerWord.producer

def producerAlarms (system : FrameSystem) : FramePoint × Bool × Int :=
  (system.producerFailure, system.producerAlarm, system.ring.producerStatus)

def consumerAlarms (system : FrameSystem) : FramePoint × Bool × Int :=
  (system.consumerFailure, system.consumerAlarm, system.ring.consumerStatus)

def alarms (system : FrameSystem) : (FramePoint × Bool × Int) × (FramePoint × Bool × Int) :=
  (system.producerAlarms, system.consumerAlarms)

structure ProducerFrame (system later : FrameSystem) : Prop where
  alarms : later.alarms = system.alarms
  consumer : system.ConsumerKept later
  slotCount : later.ring.slotCount = system.ring.slotCount
  consumerSequence : later.ring.consumerSequence = system.ring.consumerSequence
  grows : system.ring.producerSequence ≤ later.ring.producerSequence
  keepsPresented : ∀ slot, system.ring.slotState slot = .presented → later.ring.slotState slot = .presented
  writes : ∀ slot, later.ring.slotSequence slot = system.ring.slotSequence slot ∨
    ∃ next, system.producer = .storeSlotSequence slot next

structure ConsumerFrame (system later : FrameSystem) : Prop where
  alarms : later.alarms = system.alarms
  producer : system.ProducerKept later
  slotCount : later.ring.slotCount = system.ring.slotCount
  nextAcquire : later.ring.nextAcquire = system.ring.nextAcquire
  producerSequence : later.ring.producerSequence = system.ring.producerSequence
  grows : system.ring.consumerSequence ≤ later.ring.consumerSequence
  keepsFree : ∀ slot, system.ring.slotState slot = .available → later.ring.slotState slot = .available
  frees : ∀ slot, later.ring.slotState slot = system.ring.slotState slot ∨
    ∃ sequence, system.consumer = .free slot sequence
  clears : ∀ slot, later.ring.slotSequence slot = system.ring.slotSequence slot ∨ later.ring.slotSequence slot = 0

theorem wakeProducerWord_alarms : system.wakeProducerWord.alarms = system.alarms := by
  simp only [wakeProducerWord]
  split <;> rfl

theorem wakeConsumerWord_alarms : system.wakeConsumerWord.alarms = system.alarms := by
  simp only [wakeConsumerWord]
  split <;> rfl

theorem producerStep_frame (agreed : system.Agreed) (choice : WaitChoice) (call : ProducerCall) :
    system.ProducerFrame (system.producerStep choice call) := by
  have writer := agreed.producer
  have same : ∀ slot, system.ring.slotSequence slot = system.ring.slotSequence slot ∨
      ∃ next, system.producer = .storeSlotSequence slot next := fun _ => .inl rfl
  cases stands : system.producer with
  | claim blocking start offset =>
      simp only [producerStep, stands]
      split
      · split
        · rename_i free
          refine ⟨rfl, .inl rfl, rfl, rfl, Nat.le_refl _, fun slot presented => ?_, fun _ => .inl rfl⟩
          have other : slot ≠ (start + offset) % system.ring.slotCount := by
            rintro rfl
            rw [free] at presented
            contradiction
          exact (Function.update_of_ne other ..).trans presented
        · exact ⟨rfl, .inl rfl, rfl, rfl, Nat.le_refl _, fun _ presented => presented, fun _ => .inl rfl⟩
      · split <;> exact ⟨rfl, .inl rfl, rfl, rfl, Nat.le_refl _, fun _ presented => presented, fun _ => .inl rfl⟩
  | publish slot current =>
      simp only [producerStep, stands]
      split
      · refine ⟨rfl, .inl rfl, rfl, rfl, Nat.le_refl _, fun other presented => ?_, fun _ => .inl rfl⟩
        by_cases same : other = slot
        · subst same
          exact Function.update_self ..
        · exact (Function.update_of_ne same ..).trans presented
      · exact ⟨rfl, .inl rfl, rfl, rfl, Nat.le_refl _, fun _ presented => presented, fun _ => .inl rfl⟩
      · exact ⟨rfl, .inl rfl, rfl, rfl, Nat.le_refl _, fun _ presented => presented, fun _ => .inl rfl⟩
  | storeSlotSequence slot next =>
      simp only [producerStep, stands]
      refine ⟨rfl, .inl rfl, rfl, rfl, Nat.le_refl _, fun _ presented => presented, fun other => ?_⟩
      by_cases same : other = slot
      · subst same
        exact .inr ⟨next, stands⟩
      · exact .inl (Function.update_of_ne same ..)
  | storeProducerSequence slot next =>
      rw [stands] at writer
      simp only [producerStep, stands]
      refine ⟨rfl, .inl rfl, rfl, rfl, ?_, fun _ presented => presented, fun _ => .inl rfl⟩
      exact writer ▸ Nat.le_succ _
  | wakeConsumer slot next =>
      simp only [producerStep, stands]
      have ring := wakeProducerWord_ring system
      refine ⟨wakeProducerWord_alarms, .inr rfl, ?_, ?_, ?_, fun _ presented => ?_, fun _ => .inl ?_⟩
      · exact congrArg FrameRing.slotCount ring
      · exact congrArg FrameRing.consumerSequence ring
      · exact Nat.le_of_eq (congrArg FrameRing.producerSequence ring).symm
      · exact (congrFun (congrArg FrameRing.slotState ring) _).trans presented
      · exact congrFun (congrArg FrameRing.slotSequence ring) _
  | _ =>
      simp only [producerStep, stands]
      (repeat' split) <;>
        exact ⟨by trivial, .inl (by trivial), by trivial, by trivial, Nat.le_refl _, fun _ presented => presented,
          fun _ => .inl rfl⟩

theorem consumerStep_frame (agreed : system.Agreed) (choice : WaitChoice) (call : ConsumerCall) :
    system.ConsumerFrame (system.consumerStep choice call) := by
  have counts := agreed.counts.2
  cases stands : system.consumer with
  | clearSlotSequence slot sequence =>
      simp only [consumerStep, stands]
      refine ⟨rfl, .inl rfl, rfl, rfl, rfl, Nat.le_refl _, fun _ free => free, fun _ => .inl rfl, fun other => ?_⟩
      by_cases same : other = slot
      · subst same
        exact .inr (Function.update_self ..)
      · exact .inl (Function.update_of_ne same ..)
  | free slot sequence =>
      simp only [consumerStep, stands]
      split
      · refine ⟨rfl, .inl rfl, rfl, rfl, rfl, Nat.le_refl _, fun other free => ?_, fun other => ?_, fun _ => .inl rfl⟩
        · by_cases same : other = slot
          · subst same
            exact Function.update_self ..
          · exact (Function.update_of_ne same ..).trans free
        · by_cases same : other = slot
          · subst same
            exact .inr ⟨sequence, stands⟩
          · exact .inl (Function.update_of_ne same ..)
      · exact ⟨rfl, .inl rfl, rfl, rfl, rfl, Nat.le_refl _, fun _ free => free, fun _ => .inl rfl, fun _ => .inl rfl⟩
  | storeConsumerSequence slot sequence =>
      rw [stands] at counts
      simp only [consumerStep, stands]
      refine ⟨rfl, .inl rfl, rfl, rfl, rfl, ?_, fun _ free => free, fun _ => .inl rfl, fun _ => .inl rfl⟩
      exact counts.1 ▸ Nat.le_succ _
  | wakeProducer slot sequence =>
      simp only [consumerStep, stands]
      have ring := wakeConsumerWord_ring system
      refine ⟨wakeConsumerWord_alarms, .inr rfl, ?_, ?_, ?_, ?_, fun _ free => ?_, fun _ => .inl ?_, fun _ => .inl ?_⟩
      · exact congrArg FrameRing.slotCount ring
      · exact congrArg FrameRing.nextAcquire ring
      · exact congrArg FrameRing.producerSequence ring
      · exact Nat.le_of_eq (congrArg FrameRing.consumerSequence ring).symm
      · exact (congrFun (congrArg FrameRing.slotState ring) _).trans free
      · exact congrFun (congrArg FrameRing.slotState ring) _
      · exact congrFun (congrArg FrameRing.slotSequence ring) _
  | _ =>
      simp only [consumerStep, stands]
      (repeat' split) <;>
        exact ⟨by trivial, .inl (by trivial), by trivial, by trivial, by trivial, Nat.le_refl _, fun _ free => free,
          fun _ => .inl rfl, fun _ => .inl rfl⟩

/-! ## The words over a step -/

theorem ConsumerKept.cases (kept : system.ConsumerKept later) : later.consumer = system.consumer ∨
    ∃ expected, system.consumer = .presentParked expected ∧ later.consumer = .waitProducerStatus expected := by
  rcases kept with same | woken
  · exact .inl same
  · rw [woken]
    simp only [wakeProducerWord]
    split
    · rename_i expected stands
      exact .inr ⟨expected, stands, rfl⟩
    · exact .inl rfl

theorem ProducerKept.cases (kept : system.ProducerKept later) : later.producer = system.producer ∨
    system.producer = .acquireParked ∧ later.producer = .acquireProducerStatus true := by
  rcases kept with same | woken
  · exact .inl same
  · rw [woken]
    simp only [wakeConsumerWord]
    split
    · rename_i stands
      exact .inr ⟨stands, rfl⟩
    · exact .inl rfl

theorem ProducerFrame.consumerAgrees (frame : system.ProducerFrame later) (agreed : system.Agreed)
    (written : ∀ slot next, system.producer = .storeSlotSequence slot next →
      later.ring.slotSequence slot ≠ 0) : later.consumer.Agrees later.ring := by
  have agrees := agreed.consumer
  rcases frame.consumer.cases with same | ⟨expected, parked, woken⟩
  · rw [same]
    cases stands : system.consumer with
    | presentWait expected observed =>
        rw [stands] at agrees
        exact ⟨agrees.1, Nat.le_trans agrees.2 frame.grows⟩
    | checkConsumerSequence slot sequence | clearSlotSequence slot sequence =>
        rw [stands] at agrees
        rcases frame.writes slot with kept | ⟨next, writing⟩
        · exact fun zero => agrees (kept.symm.trans zero)
        · exact written slot next writing
    | free slot sequence =>
        rw [stands] at agrees
        refine ⟨frame.keepsPresented slot agrees.1, ?_⟩
        rcases frame.writes slot with kept | ⟨next, writing⟩
        · exact kept.trans agrees.2
        · exact absurd writing (agreed.apart slot sequence next stands)
    | _ =>
        rw [stands] at agrees
        exact agrees
  · rw [parked] at agrees
    rw [woken]
    exact agrees

theorem ConsumerFrame.producerAgrees (frame : system.ConsumerFrame later) (agreed : system.Agreed) :
    later.producer.Agrees later.ring := by
  have agrees := agreed.producer
  rcases frame.producer.cases with same | ⟨-, woken⟩
  · rw [same]
    cases stands : system.producer with
    | acquireWait observed =>
        rw [stands] at agrees
        exact Nat.le_trans agrees frame.grows
    | publish slot current | storeProducerSequence slot next =>
        rw [stands] at agrees
        simp only [ProducerPoint.Agrees, frame.producerSequence]
        exact agrees
    | storeSlotSequence slot next =>
        rw [stands] at agrees
        simp only [ProducerPoint.Agrees, frame.producerSequence]
        refine ⟨agrees.1, ?_, ?_⟩
        · rcases frame.frees slot with kept | ⟨sequence, freeing⟩
          · exact kept.trans agrees.2.1
          · exact absurd stands (agreed.apart slot sequence next freeing)
        · rcases frame.clears slot with kept | cleared
          · exact kept.trans agrees.2.2
          · exact cleared
    | _ => trivial
  · rw [woken]
    trivial

theorem producerStep_writes {choice : WaitChoice} {call : ProducerCall} {slot next : Nat}
    (writes : (system.producerStep choice call).producer = .storeSlotSequence slot next) :
    system.ring.slotState slot = .acquired := by
  cases stands : system.producer with
  | publish other current =>
      simp only [producerStep, stands] at writes
      split at writes
      · rename_i acquired
        cases writes
        exact acquired
      · contradiction
      · contradiction
  | storeNextAcquire | loadConsumerSequence | loadNextAcquire | storeSlotSequence | storeProducerSequence
  | wakeConsumer =>
      simp only [producerStep, stands] at writes
      contradiction
  | acquireParked =>
      simp only [producerStep, stands] at writes
      split at writes
      · contradiction
      · contradiction
      · cases stands.symm.trans writes
  | _ =>
      simp only [producerStep, stands] at writes
      repeat' split at writes
      all_goals contradiction

theorem producerStep_unwritten (agreed : system.Agreed) (choice : WaitChoice) (call : ProducerCall) (slot : Nat)
    (other : (system.producerStep choice call).ring.slotState slot ≠ .presented) :
    (system.producerStep choice call).ring.slotSequence slot = 0 := by
  have frame := producerStep_frame agreed choice call
  have unwritten : system.ring.slotSequence slot = 0 :=
    agreed.unwritten slot fun presented => other (frame.keepsPresented slot presented)
  rcases frame.writes slot with kept | ⟨next, writing⟩
  · exact kept.trans unwritten
  · have agrees := agreed.producer
    rw [writing] at agrees
    exact absurd (frame.keepsPresented slot agrees.2.1) other

theorem producerStep_agrees (agreed : system.Agreed) (choice : WaitChoice) (call : ProducerCall) :
    (system.producerStep choice call).producer.Agrees (system.producerStep choice call).ring := by
  have agrees := agreed.producer
  cases stands : system.producer with
  | publish slot current =>
      rw [stands] at agrees
      simp only [producerStep, stands]
      split
      · rename_i acquired
        refine ⟨congrArg (· + 1) agrees, Function.update_self .., agreed.unwritten slot ?_⟩
        rw [acquired]
        simp
      · trivial
      · trivial
  | storeSlotSequence slot next =>
      rw [stands] at agrees
      simp only [producerStep, stands]
      exact agrees.1
  | loadConsumerSequence =>
      simp only [producerStep, stands]
      exact Nat.le_refl _
  | loadProducerSequence slot =>
      simp only [producerStep, stands]
      split
      · trivial
      · rfl
  | acquireParked =>
      simp only [producerStep, stands]
      split
      · trivial
      · trivial
      · rw [stands]
        trivial
  | _ =>
      simp only [producerStep, stands]
      (repeat' split) <;> trivial

theorem producerStep_agreed (agreed : system.Agreed) (choice : WaitChoice) (call : ProducerCall) :
    (system.producerStep choice call).Agreed := by
  have frame := producerStep_frame agreed choice call
  refine ⟨producerStep_counts agreed.counts choice call, producerStep_unwritten agreed choice call,
    producerStep_agrees agreed choice call, frame.consumerAgrees agreed ?_, ?_⟩
  · intro slot next writing
    have agrees := agreed.producer
    rw [writing] at agrees
    have written : (system.producerStep choice call).ring.slotSequence slot = next := by
      simp only [producerStep, writing]
      exact Function.update_self ..
    rw [written, agrees.1]
    exact Nat.succ_ne_zero _
  · intro slot sequence next frees writes
    have acquired := producerStep_writes writes
    rcases frame.consumer.cases with same | ⟨expected, -, woken⟩
    · have agrees := agreed.consumer
      rw [same.symm.trans frees] at agrees
      rw [agrees.1] at acquired
      contradiction
    · cases woken.symm.trans frees

theorem consumerStep_agrees (agreed : system.Agreed) (choice : WaitChoice) (call : ConsumerCall) :
    (system.consumerStep choice call).consumer.Agrees (system.consumerStep choice call).ring := by
  have agrees := agreed.consumer
  have counts := agreed.counts.2
  cases stands : system.consumer with
  | idle last =>
      simp only [consumerStep, stands]
      split
      · split
        · trivial
        · exact Nat.succ_ne_zero _
      · split <;> trivial
  | loadProduced expected =>
      rw [stands] at agrees
      simp only [consumerStep, stands]
      split
      · exact agrees
      · exact ⟨agrees, Nat.le_refl _⟩
  | presentWait expected observed =>
      rw [stands] at agrees
      simp only [consumerStep, stands]
      (repeat' split) <;> first | exact agrees.1 | trivial
  | presentParked expected =>
      rw [stands] at agrees
      simp only [consumerStep, stands]
      split
      · trivial
      · exact agrees
      · rw [stands]
        exact agrees
  | checkSlotSequence slot sequence =>
      rw [stands] at counts
      simp only [consumerStep, stands]
      split
      · trivial
      · rename_i named
        exact fun zero => counts ((not_not.mp named).symm.trans zero)
  | checkConsumerSequence slot sequence =>
      rw [stands] at agrees
      simp only [consumerStep, stands]
      split
      · trivial
      · exact agrees
  | clearSlotSequence slot sequence =>
      rw [stands] at agrees
      simp only [consumerStep, stands]
      refine ⟨?_, Function.update_self ..⟩
      by_contra other
      exact agrees (agreed.unwritten slot other)
  | waitDeadline | waitProducerStatus | waitConsumerStatus | scanState | scanSequence =>
      rw [stands] at agrees
      simp only [consumerStep, stands]
      (repeat' split) <;> first | exact agrees | trivial
  | _ =>
      simp only [consumerStep, stands]
      (repeat' split) <;> trivial

theorem consumerStep_unwritten (agreed : system.Agreed) (choice : WaitChoice) (call : ConsumerCall) (slot : Nat)
    (other : (system.consumerStep choice call).ring.slotState slot ≠ .presented) :
    (system.consumerStep choice call).ring.slotSequence slot = 0 := by
  have frame := consumerStep_frame agreed choice call
  have unwritten : system.ring.slotSequence slot = 0 := by
    rcases frame.frees slot with kept | ⟨sequence, freeing⟩
    · exact agreed.unwritten slot (kept ▸ other)
    · have agrees := agreed.consumer
      rw [freeing] at agrees
      exact agrees.2
  rcases frame.clears slot with kept | cleared
  · exact kept.trans unwritten
  · exact cleared

theorem consumerStep_frees {choice : WaitChoice} {call : ConsumerCall} {slot sequence : Nat}
    (frees : (system.consumerStep choice call).consumer = .free slot sequence) :
    system.consumer = .clearSlotSequence slot sequence := by
  cases stands : system.consumer with
  | clearSlotSequence other number =>
      simp only [consumerStep, stands] at frees
      cases frees
      rfl
  | storeConsumerSequence | wakeProducer =>
      simp only [consumerStep, stands] at frees
      contradiction
  | presentParked expected =>
      simp only [consumerStep, stands] at frees
      split at frees
      · contradiction
      · contradiction
      · cases stands.symm.trans frees
  | _ =>
      simp only [consumerStep, stands] at frees
      repeat' split at frees
      all_goals contradiction

theorem consumerStep_agreed (agreed : system.Agreed) (choice : WaitChoice) (call : ConsumerCall) :
    (system.consumerStep choice call).Agreed := by
  have frame := consumerStep_frame agreed choice call
  refine ⟨consumerStep_counts agreed.counts choice call, consumerStep_unwritten agreed choice call,
    frame.producerAgrees agreed, consumerStep_agrees agreed choice call, ?_⟩
  intro slot sequence next frees writes
  have clears := agreed.consumer
  rw [consumerStep_frees frees] at clears
  rcases frame.producer.cases with same | ⟨-, woken⟩
  · have writer := agreed.producer
    rw [same.symm.trans writes] at writer
    exact clears writer.2.2
  · cases woken.symm.trans writes

/-! ## A party that will not park -/

/-- A producer that will not park will not when a slot came free, when the counter
grew or when its wake came. -/
theorem producerParks_kept (spared : system.producer.parksPastConsumerStatus system.ring = false)
    (agreed : system.Agreed) (kept : system.ProducerKept later)
    (slotCount : later.ring.slotCount = system.ring.slotCount)
    (nextAcquire : later.ring.nextAcquire = system.ring.nextAcquire)
    (grows : system.ring.consumerSequence ≤ later.ring.consumerSequence)
    (keepsFree : ∀ slot, system.ring.slotState slot = .available → later.ring.slotState slot = .available) :
    later.producer.parksPastConsumerStatus later.ring = false := by
  have vain {start offset : Nat} (found : system.ring.scansInVain start offset = false) :
      later.ring.scansInVain start offset = false := by
    by_contra vain
    rw [FrameRing.scansInVain_before slotCount keepsFree (Bool.eq_true_of_not_eq_false vain)] at found
    contradiction
  rcases kept.cases with same | ⟨-, woken⟩
  · rw [same]
    cases stands : system.producer with
    | loadNextAcquire blocking =>
        rw [stands] at spared
        simp only [ProducerPoint.parksPastConsumerStatus, Bool.and_eq_false_iff] at spared ⊢
        rw [nextAcquire, slotCount]
        exact spared.imp_right vain
    | claim blocking start offset =>
        rw [stands] at spared
        simp only [ProducerPoint.parksPastConsumerStatus, Bool.and_eq_false_iff] at spared ⊢
        exact spared.imp_right vain
    | acquireWait observed =>
        have agrees := agreed.producer
        rw [stands] at spared agrees
        simp only [ProducerPoint.parksPastConsumerStatus, ProducerPoint.Agrees, beq_eq_false_iff_ne] at spared agrees ⊢
        omega
    | loadConsumerSequence | acquireParked =>
        rw [stands] at spared
        contradiction
    | _ => rfl
  · rw [woken]
    rfl

/-- The consumer, when the frame it waits for came, when the counter grew or when
its wake came. -/
theorem consumerParks_kept (spared : system.consumer.parksPastProducerStatus system.ring = false)
    (agreed : system.Agreed) (kept : system.ConsumerKept later)
    (grows : system.ring.producerSequence ≤ later.ring.producerSequence)
    (status : system.ring.consumerStatus < 0 → later.ring.consumerStatus < 0)
    (found : ∀ expected candidate, expected ≠ 0 → system.ring.hasFrame expected candidate = true →
      later.ring.hasFrame expected candidate = true) :
    later.consumer.parksPastProducerStatus later.ring = false := by
  have agrees := agreed.consumer
  rcases kept.cases with same | ⟨expected, -, woken⟩
  · rw [same]
    cases stands : system.consumer with
    | waitConsumerStatus expected =>
        rw [stands] at spared agrees
        rw [ConsumerPoint.waitConsumerStatus_spared] at spared ⊢
        rcases spared with (failed | has) | reached
        · exact .inl (.inl (status failed))
        · exact .inl (.inr (found _ _ agrees has))
        · exact .inr (Nat.le_trans reached grows)
    | scanState expected candidate again | scanSequence expected candidate again =>
        rw [stands] at spared agrees
        refine ConsumerPoint.scanState_spared.mpr ?_
        rcases ConsumerPoint.scanState_spared.mp spared with (second | has) | reached
        · exact .inl (.inl second)
        · exact .inl (.inr (found _ _ agrees has))
        · exact .inr (Nat.le_trans reached grows)
    | loadProduced expected =>
        rw [stands] at spared
        rw [ConsumerPoint.loadProduced_spared] at spared ⊢
        exact Nat.le_trans spared grows
    | presentWait expected observed =>
        rw [stands] at spared agrees
        simp only [ConsumerPoint.parksPastProducerStatus, ConsumerPoint.Agrees, beq_eq_false_iff_ne] at spared agrees ⊢
        omega
    | presentParked expected =>
        rw [stands] at spared
        contradiction
    | _ => rfl
  · rw [woken]
    rfl

theorem producerStep_spared (failed : system.ring.consumerStatus < 0)
    (spared : system.producer.parksPastConsumerStatus system.ring = false) (choice : WaitChoice)
    (call : ProducerCall) : (system.producerStep choice call).producer.parksPastConsumerStatus
      (system.producerStep choice call).ring = false := by
  cases stands : system.producer with
  | acquireConsumerStatus blocking =>
      simp only [producerStep, stands]
      rw [if_pos failed]
      rfl
  | loadNextAcquire blocking =>
      rw [stands] at spared
      simp only [producerStep, stands]
      exact spared
  | claim blocking start offset =>
      rw [stands] at spared
      simp only [ProducerPoint.parksPastConsumerStatus, Bool.and_eq_false_iff] at spared
      simp only [producerStep, stands]
      split
      · split
        · rfl
        · rename_i taken
          simp only [producerAt, ProducerPoint.parksPastConsumerStatus, Bool.and_eq_false_iff]
          refine spared.imp_right fun found => ?_
          by_contra vain
          have vain := FrameRing.scansInVain_iff.mp (Bool.eq_true_of_not_eq_false vain)
          have all : system.ring.scansInVain start offset = true := by
            refine FrameRing.scansInVain_iff.mpr fun later bound ahead => ?_
            by_cases here : later = offset
            · subst here
              exact taken
            · exact vain later bound (by omega)
          rw [all] at found
          contradiction
      · rename_i finished
        have exhausted : system.ring.scansInVain start offset = true :=
          FrameRing.scansInVain_iff.mpr fun later bound ahead => by omega
        rcases spared with single | found
        · simp only [single, Bool.false_eq_true, if_false]
          rfl
        · rw [exhausted] at found
          contradiction
  | loadConsumerSequence | acquireParked =>
      rw [stands] at spared
      contradiction
  | acquireWait observed =>
      rw [stands] at spared
      simp only [ProducerPoint.parksPastConsumerStatus, beq_eq_false_iff_ne] at spared
      simp only [producerStep, stands]
      rw [if_neg spared]
      split <;> rfl
  | _ =>
      simp only [producerStep, stands]
      (repeat' split) <;> rfl

theorem consumerStep_spared (failed : system.ring.producerStatus < 0)
    (spared : system.consumer.parksPastProducerStatus system.ring = false) (choice : WaitChoice)
    (call : ConsumerCall) : (system.consumerStep choice call).consumer.parksPastProducerStatus
      (system.consumerStep choice call).ring = false := by
  cases stands : system.consumer with
  | waitProducerStatus expected =>
      simp only [consumerStep, stands]
      rw [if_pos failed]
      rfl
  | waitConsumerStatus expected =>
      rw [stands, ConsumerPoint.waitConsumerStatus_spared] at spared
      simp only [consumerStep, stands]
      split
      · rfl
      · rename_i working
        exact ConsumerPoint.scanState_spared.mpr (spared.imp_left fun found => .inr (found.resolve_left working))
  | scanState expected candidate again =>
      rw [stands, ConsumerPoint.scanState_spared] at spared
      simp only [consumerStep, stands]
      split
      · split
        · exact ConsumerPoint.scanSequence_spared.mpr spared
        · rename_i other
          refine ConsumerPoint.scanState_spared.mpr (spared.imp_left fun found => ?_)
          exact found.imp_right (FrameRing.hasFrame_next fun presented => absurd presented other)
      · rename_i beyond
        split
        · rfl
        · rename_i first
          refine ConsumerPoint.loadProduced_spared.mpr ?_
          rcases spared with (second | found) | reached
          · exact absurd second first
          · exact absurd (FrameRing.hasFrame_inside found) beyond
          · exact reached
  | scanSequence expected candidate again =>
      rw [stands, ConsumerPoint.scanSequence_spared] at spared
      simp only [consumerStep, stands]
      split
      · rfl
      · rename_i other
        refine ConsumerPoint.scanState_spared.mpr (spared.imp_left fun found => ?_)
        exact found.imp_right (FrameRing.hasFrame_next fun _ => other)
  | loadProduced expected =>
      rw [stands, ConsumerPoint.loadProduced_spared] at spared
      simp only [consumerStep, stands]
      rw [if_pos spared]
      rfl
  | presentWait expected observed =>
      rw [stands] at spared
      simp only [ConsumerPoint.parksPastProducerStatus, beq_eq_false_iff_ne] at spared
      simp only [consumerStep, stands]
      rw [if_neg spared]
      split <;> rfl
  | presentParked expected =>
      rw [stands] at spared
      contradiction
  | _ =>
      simp only [consumerStep, stands]
      (repeat' split) <;> rfl

def NobodySleepsThrough (system : FrameSystem) : Prop :=
  (system.producerAlarm = true → system.consumer.isParked = false) ∧
    (system.consumerAlarm = true → system.producer ≠ .acquireParked)

/-- A wake of a failure finds its peer parked, or not on the way from the read of
the status to the park. -/
def wakesInTime (system : FrameSystem) : FrameMove → Bool
  | .failProducer _ =>
      system.producerFailure != .wakeProducerWord || !system.consumer.parksPastProducerStatus system.ring ||
        system.consumer.isParked
  | .failConsumer _ =>
      system.consumerFailure != .wakeConsumerWord || !system.producer.parksPastConsumerStatus system.ring ||
        system.producer == .acquireParked
  | _ => true

/-- The producer's failure reaches the consumer: it is in the status word, and once
the consumer's word was woken the consumer parks no more before it reads that status. -/
structure ProducerFailureSeen (system : FrameSystem) : Prop where
  published : system.producerFailure ≠ .quiet ∨ system.producerAlarm = true → system.ring.producerStatus < 0
  seen : system.producerFailure = .wakeConsumerWord ∨ system.producerAlarm = true →
    system.consumer.parksPastProducerStatus system.ring = false

structure ConsumerFailureSeen (system : FrameSystem) : Prop where
  published : system.consumerFailure ≠ .quiet ∨ system.consumerAlarm = true → system.ring.consumerStatus < 0
  seen : system.consumerAlarm = true → system.producer.parksPastConsumerStatus system.ring = false

theorem nobodySleepsThrough_of_seen (producer : system.ProducerFailureSeen)
    (consumer : system.ConsumerFailureSeen) : system.NobodySleepsThrough := by
  constructor
  · intro alarm
    have spared := producer.seen (.inr alarm)
    cases stands : system.consumer with
    | presentParked =>
        rw [stands] at spared
        contradiction
    | _ => rfl
  · intro alarm parked
    have spared := consumer.seen alarm
    rw [parked] at spared
    contradiction

theorem ProducerFailureSeen.congr (seen : system.ProducerFailureSeen)
    (alarms : later.producerAlarms = system.producerAlarms) (still : system.ring.producerStatus < 0 →
      system.consumer.parksPastProducerStatus system.ring = false →
      later.consumer.parksPastProducerStatus later.ring = false) : later.ProducerFailureSeen := by
  simp only [producerAlarms, Prod.mk.injEq] at alarms
  obtain ⟨failure, alarm, status⟩ := alarms
  constructor
  · rw [failure, alarm, status]
    exact seen.published
  · rw [failure, alarm]
    intro woke
    refine still (seen.published ?_) (seen.seen woke)
    rcases woke with waking | done
    · exact .inl (by rw [waking]; simp)
    · exact .inr done

theorem ConsumerFailureSeen.congr (seen : system.ConsumerFailureSeen)
    (alarms : later.consumerAlarms = system.consumerAlarms) (still : system.ring.consumerStatus < 0 →
      system.producer.parksPastConsumerStatus system.ring = false →
      later.producer.parksPastConsumerStatus later.ring = false) : later.ConsumerFailureSeen := by
  simp only [consumerAlarms, Prod.mk.injEq] at alarms
  obtain ⟨failure, alarm, status⟩ := alarms
  constructor
  · rw [failure, alarm, status]
    exact seen.published
  · rw [alarm]
    intro woke
    exact still (seen.published (.inr woke)) (seen.seen woke)

/-! ## Steps of the failures -/

/-- A step of `publish_failure` changes the status words and wakes one of the others. -/
structure FailureFrame (system later : FrameSystem) : Prop where
  producer : system.ProducerKept later
  consumer : system.ConsumerKept later
  ring : ∃ producerStatus consumerStatus, later.ring =
    { system.ring with producerStatus := producerStatus, consumerStatus := consumerStatus }

theorem failProducerStep_frame (status : Int) : system.FailureFrame (system.failProducerStep status) := by
  simp only [failProducerStep]
  split
  · exact ⟨.inl (wakeProducerWord_producer system), .inr rfl, _, _, wakeProducerWord_ring system⟩
  · exact ⟨.inr rfl, .inl (wakeConsumerWord_consumer system), _, _, wakeConsumerWord_ring system⟩
  · split <;> exact ⟨.inl rfl, .inl rfl, _, _, rfl⟩

theorem failConsumerStep_frame (status : Int) : system.FailureFrame (system.failConsumerStep status) := by
  simp only [failConsumerStep]
  split
  · exact ⟨.inl (wakeProducerWord_producer system), .inr rfl, _, _, wakeProducerWord_ring system⟩
  · exact ⟨.inr rfl, .inl (wakeConsumerWord_consumer system), _, _, wakeConsumerWord_ring system⟩
  · split <;> exact ⟨.inl rfl, .inl rfl, _, _, rfl⟩

theorem FailureFrame.agreed (frame : system.FailureFrame later) (agreed : system.Agreed) (counts : later.Counts) :
    later.Agreed := by
  obtain ⟨producer, consumer, producerStatus, consumerStatus, ring⟩ := frame
  refine ⟨counts, ?_, ?_, ?_, ?_⟩
  · rw [ring]
    exact agreed.unwritten
  · have agrees := agreed.producer
    rcases producer.cases with same | ⟨-, woken⟩
    · rw [same, ring]
      cases stands : system.producer <;> rw [stands] at agrees <;> exact agrees
    · rw [woken]
      trivial
  · have agrees := agreed.consumer
    rcases consumer.cases with same | ⟨expected, parked, woken⟩
    · rw [same, ring]
      cases stands : system.consumer <;> rw [stands] at agrees <;> exact agrees
    · rw [parked] at agrees
      rw [woken]
      exact agrees
  · intro slot sequence next frees writes
    rcases consumer.cases with sameConsumer | ⟨expected, -, woken⟩
    · rcases producer.cases with sameProducer | ⟨-, woken⟩
      · exact agreed.apart slot sequence next (sameConsumer.symm.trans frees) (sameProducer.symm.trans writes)
      · cases woken.symm.trans writes
    · cases woken.symm.trans frees

theorem FailureFrame.producerParks (frame : system.FailureFrame later) (agreed : system.Agreed)
    (spared : system.producer.parksPastConsumerStatus system.ring = false) :
    later.producer.parksPastConsumerStatus later.ring = false := by
  obtain ⟨producer, -, producerStatus, consumerStatus, ring⟩ := frame
  refine producerParks_kept spared agreed producer ?_ ?_ ?_ ?_ <;> rw [ring]
  exact fun _ free => free

theorem FailureFrame.consumerParks (frame : system.FailureFrame later) (agreed : system.Agreed)
    (status : system.ring.consumerStatus < 0 → later.ring.consumerStatus < 0)
    (spared : system.consumer.parksPastProducerStatus system.ring = false) :
    later.consumer.parksPastProducerStatus later.ring = false := by
  obtain ⟨-, consumer, producerStatus, consumerStatus, ring⟩ := frame
  refine consumerParks_kept spared agreed consumer ?_ status ?_ <;> rw [ring]
  exact fun _ _ _ found => found

theorem failProducerStep_consumerAlarms (status : Int) :
    (system.failProducerStep status).consumerAlarms = system.consumerAlarms := by
  have producerWord := (Prod.mk.inj system.wakeProducerWord_alarms).2
  have consumerWord := (Prod.mk.inj system.wakeConsumerWord_alarms).2
  simp only [failProducerStep]
  split
  · exact producerWord
  · exact consumerWord
  · split <;> rfl

theorem failConsumerStep_producerAlarms (status : Int) :
    (system.failConsumerStep status).producerAlarms = system.producerAlarms := by
  have producerWord := (Prod.mk.inj system.wakeProducerWord_alarms).1
  have consumerWord := (Prod.mk.inj system.wakeConsumerWord_alarms).1
  simp only [failConsumerStep]
  split
  · exact producerWord
  · exact consumerWord
  · split <;> rfl

theorem failProducerStep_consumerStatus {status : Int} (failed : system.ring.consumerStatus < 0) :
    (system.failProducerStep status).ring.consumerStatus < 0 := by
  have alarms := system.failProducerStep_consumerAlarms status
  simp only [consumerAlarms, Prod.mk.injEq] at alarms
  rwa [alarms.2.2]

theorem failConsumerStep_consumerStatus {status : Int} (failed : system.ring.consumerStatus < 0) :
    (system.failConsumerStep status).ring.consumerStatus < 0 := by
  simp only [failConsumerStep]
  split
  · simpa only [wakeProducerWord_ring] using failed
  · simpa only [wakeConsumerWord_ring] using failed
  · split
    · exact failed
    · simp only
      omega

theorem wakeProducerWord_unparks
    (parked : system.consumer.parksPastProducerStatus system.ring = true → system.consumer.isParked = true) :
    system.wakeProducerWord.consumer.parksPastProducerStatus system.ring = false := by
  simp only [wakeProducerWord]
  split
  · rfl
  · rename_i elsewhere
    cases parks : system.consumer.parksPastProducerStatus system.ring with
    | false => rfl
    | true =>
        have isParked := parked parks
        cases stands : system.consumer with
        | presentParked expected => exact absurd stands (elsewhere expected)
        | _ =>
            rw [stands] at isParked
            contradiction

theorem wakeConsumerWord_unparks
    (parked : system.producer.parksPastConsumerStatus system.ring = true → system.producer = .acquireParked) :
    system.wakeConsumerWord.producer.parksPastConsumerStatus system.ring = false := by
  simp only [wakeConsumerWord]
  split
  · rfl
  · rename_i elsewhere
    cases parks : system.producer.parksPastConsumerStatus system.ring with
    | false => rfl
    | true => exact absurd (parked parks) elsewhere

theorem failProducerStep_producerSeen (agreed : system.Agreed) (seen : system.ProducerFailureSeen) (status : Int)
    (inTime : system.wakesInTime (.failProducer status) = true) :
    (system.failProducerStep status).ProducerFailureSeen := by
  have negative := seen.published
  have still := (system.failProducerStep_frame status).consumerParks agreed failProducerStep_consumerStatus
  cases stands : system.producerFailure with
  | wakeProducerWord =>
      have failed := negative (.inl (by rw [stands]; simp))
      simp only [failProducerStep, stands, wakeProducerWord_ring]
      refine ⟨fun _ => by simpa only [wakeProducerWord_ring] using failed, fun _ => ?_⟩
      refine wakeProducerWord_unparks fun parks => ?_
      simpa [wakesInTime, stands, parks] using inTime
  | wakeConsumerWord =>
      have failed := negative (.inl (by rw [stands]; simp))
      have spared := still (seen.seen (.inl stands))
      simp only [failProducerStep, stands] at spared ⊢
      exact ⟨fun _ => by simpa only [wakeConsumerWord_ring] using failed, fun _ => spared⟩
  | quiet =>
      simp only [failProducerStep, stands] at still ⊢
      split
      · exact seen
      · rename_i below
        rw [if_neg below] at still
        refine ⟨fun _ => by simp only; omega, fun woke => ?_⟩
        rcases woke with waking | done
        · contradiction
        · exact still (seen.seen (.inr done))

theorem failConsumerStep_consumerSeen (agreed : system.Agreed) (seen : system.ConsumerFailureSeen) (status : Int)
    (inTime : system.wakesInTime (.failConsumer status) = true) :
    (system.failConsumerStep status).ConsumerFailureSeen := by
  have negative := seen.published
  have still := (system.failConsumerStep_frame status).producerParks agreed
  cases stands : system.consumerFailure with
  | wakeProducerWord =>
      have failed := negative (.inl (by rw [stands]; simp))
      have alarms := system.wakeProducerWord_alarms
      simp only [FrameSystem.alarms, consumerAlarms, Prod.mk.injEq] at alarms
      simp only [failConsumerStep, stands] at still ⊢
      refine ⟨fun _ => by simpa only [wakeProducerWord_ring] using failed, fun alarm => still (seen.seen ?_)⟩
      simpa only [alarms] using alarm
  | wakeConsumerWord =>
      have failed := negative (.inl (by rw [stands]; simp))
      simp only [failConsumerStep, stands]
      refine ⟨fun _ => by simpa only [wakeConsumerWord_ring] using failed, fun _ => ?_⟩
      simp only [wakeConsumerWord_ring]
      refine wakeConsumerWord_unparks fun parks => ?_
      simpa [wakesInTime, stands, parks] using inTime
  | quiet =>
      simp only [failConsumerStep, stands] at still ⊢
      split
      · exact seen
      · rename_i below
        rw [if_neg below] at still
        exact ⟨fun _ => by simp only; omega, fun alarm => still (seen.seen alarm)⟩

theorem step_agreed (agreed : system.Agreed) (move : FrameMove) : (system.step move).Agreed := by
  have counts := step_counts agreed.counts move
  cases move with
  | producer choice call => exact producerStep_agreed agreed choice call
  | consumer choice call => exact consumerStep_agreed agreed choice call
  | failProducer status => exact (failProducerStep_frame status).agreed agreed counts
  | failConsumer status => exact (failConsumerStep_frame status).agreed agreed counts

theorem step_producerSeen {move : FrameMove} (agreed : system.Agreed) (seen : system.ProducerFailureSeen)
    (inTime : system.wakesInTime move = true) : (system.step move).ProducerFailureSeen := by
  cases move with
  | producer choice call =>
      have frame := producerStep_frame agreed choice call
      obtain ⟨alarms, others⟩ := Prod.mk.inj frame.alarms
      have status := (Prod.mk.inj (Prod.mk.inj others).2).2
      refine seen.congr alarms fun _ spared => ?_
      refine consumerParks_kept spared agreed frame.consumer frame.grows (fun failed => status ▸ failed) ?_
      intro expected candidate wanted
      refine FrameRing.hasFrame_kept frame.slotCount fun slot presented sequence => ?_
      refine ⟨frame.keepsPresented slot presented, ?_⟩
      rcases frame.writes slot with kept | ⟨next, writing⟩
      · exact kept.trans sequence
      · have agrees := agreed.producer
        rw [writing] at agrees
        exact absurd (sequence.symm.trans agrees.2.2) wanted
  | consumer choice call =>
      have frame := consumerStep_frame agreed choice call
      exact seen.congr (Prod.mk.inj frame.alarms).1 fun failed spared =>
        consumerStep_spared failed spared choice call
  | failProducer status => exact failProducerStep_producerSeen agreed seen status inTime
  | failConsumer status =>
      refine seen.congr (failConsumerStep_producerAlarms status) fun _ spared => ?_
      exact (failConsumerStep_frame status).consumerParks agreed failConsumerStep_consumerStatus spared

theorem step_consumerSeen {move : FrameMove} (agreed : system.Agreed) (seen : system.ConsumerFailureSeen)
    (inTime : system.wakesInTime move = true) : (system.step move).ConsumerFailureSeen := by
  cases move with
  | producer choice call =>
      have frame := producerStep_frame agreed choice call
      exact seen.congr (Prod.mk.inj frame.alarms).2 fun failed spared =>
        producerStep_spared failed spared choice call
  | consumer choice call =>
      have frame := consumerStep_frame agreed choice call
      refine seen.congr (Prod.mk.inj frame.alarms).2 fun _ spared => ?_
      exact producerParks_kept spared agreed frame.producer frame.slotCount frame.nextAcquire frame.grows
        frame.keepsFree
  | failProducer status =>
      refine seen.congr (failProducerStep_consumerAlarms status) fun _ spared => ?_
      exact (failProducerStep_frame status).producerParks agreed spared
  | failConsumer status => exact failConsumerStep_consumerSeen agreed seen status inTime

structure Alarmed (system : FrameSystem) : Prop where
  agreed : system.Agreed
  producer : system.ProducerFailureSeen
  consumer : system.ConsumerFailureSeen

theorem initial_alarmed (slotCount : Nat) : (initial slotCount).Alarmed := by
  refine ⟨⟨⟨by simp [initial], trivial⟩, fun _ _ => rfl, trivial, trivial, ?_⟩, ?_, ?_⟩
  · intro slot sequence next frees
    contradiction
  · constructor <;> simp [initial]
  · constructor <;> simp [initial]

theorem run_nobodySleepsThrough (slotCount : Nat) {moves : List FrameMove}
    (inTime : Runs.EveryStep step (fun system move => system.wakesInTime move = true) (initial slotCount) moves) :
    Runs.EveryState step NobodySleepsThrough (initial slotCount) moves := by
  have kept : ∀ (system : FrameSystem) (move : FrameMove), system.Alarmed → system.wakesInTime move = true →
      (system.step move).Alarmed := fun _ move alarmed meets =>
    ⟨step_agreed alarmed.agreed move, step_producerSeen alarmed.agreed alarmed.producer meets,
      step_consumerSeen alarmed.agreed alarmed.consumer meets⟩
  refine (Runs.everyState_of_everyStep kept moves _ (initial_alarmed slotCount) inTime).imp ?_
  exact fun _ alarmed => nobodySleepsThrough_of_seen alarmed.producer alarmed.consumer

end FrameSystem

/-- In runs where every wake of a failure is in time, no party of either ring is
parked once its peer has published a failure and made its wakes. -/
theorem published_failure_not_slept_through (slotCount : Nat) (ringMoves : List RingMove)
    (frameMoves : List FrameMove)
    (ringInTime : Runs.EveryStep RingSystem.step (fun system move => system.wakesInTime move = true)
      (.initial slotCount) ringMoves)
    (frameInTime : Runs.EveryStep FrameSystem.step (fun system move => system.wakesInTime move = true)
      (.initial slotCount) frameMoves) :
    Runs.EveryState RingSystem.step RingSystem.NobodySleepsThrough (.initial slotCount) ringMoves ∧
      Runs.EveryState FrameSystem.step FrameSystem.NobodySleepsThrough (.initial slotCount) frameMoves :=
  ⟨RingSystem.run_nobodySleepsThrough slotCount ringInTime,
    FrameSystem.run_nobodySleepsThrough slotCount frameInTime⟩

/-- The worker parks, and the client's failure wakes it. -/
def seenFailureMoves : List RingMove :=
  List.replicate 14 (.worker .expired false (0, [])) ++ [.worker .proceed false (0, [])] ++
    List.replicate 3 (.failClient (-5))

/-- The consumer parks, and the producer's failure wakes it. -/
def seenFrameFailureMoves : List FrameMove :=
  List.replicate 9 (.consumer .proceed (.waitPresent 0)) ++ List.replicate 3 (.failProducer (-5))

theorem published_failure_not_slept_through_parked :
    Runs.EveryState RingSystem.step RingSystem.NobodySleepsThrough (.initial 2) seenFailureMoves ∧
      Runs.EveryState FrameSystem.step FrameSystem.NobodySleepsThrough (.initial 2) seenFrameFailureMoves :=
  published_failure_not_slept_through 2 seenFailureMoves seenFrameFailureMoves (by decide +kernel) (by decide +kernel)

/-- Both were parked when the failure came. -/
example : (Runs.final RingSystem.step (.initial 2) (seenFailureMoves.take 15)).worker.point = .waiting .parked ∧
    (Runs.final FrameSystem.step (.initial 2) (seenFrameFailureMoves.take 9)).consumer.isParked = true := by
  decide +kernel

/-- The worker stands at its `futex_wait` when the client publishes a failure and
makes its wakes; then it parks. -/
def missedFailureMoves : List RingMove :=
  List.replicate 14 (.worker .expired false (0, [])) ++ List.replicate 3 (.failClient (-5)) ++
    [.worker .proceed false (0, [])]

theorem missed_failure_slept_through :
    ¬∀ moves, (Runs.final RingSystem.step (.initial 2) moves).NobodySleepsThrough := by
  intro claimed
  exact (claimed missedFailureMoves).1 (by decide +kernel) (by decide +kernel)

end VulkanBridge
