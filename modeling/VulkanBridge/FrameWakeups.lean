import VulkanBridge.FrameRing
import VulkanBridge.LinearProbing
import VulkanBridge.Runs

/-!
The producer's sleep in `acquire`. It scans the slots, then loads the counter it
waits on, and does not scan again before it parks.
-/

namespace VulkanBridge

namespace FrameRing

open LinearProbing (place)

/-- No slot that the scan has still to test is free. -/
def scansInVain (ring : FrameRing) (start offset : Nat) : Bool :=
  (List.range ring.slotCount).all fun later =>
    later < offset || ring.slotState (place ring.slotCount start later) != .available

theorem scansInVain_iff {ring : FrameRing} {start offset : Nat} : ring.scansInVain start offset = true ↔
    ∀ later < ring.slotCount, offset ≤ later → ring.slotState (place ring.slotCount start later) ≠ .available := by
  simp only [scansInVain, List.all_eq_true, List.mem_range, Bool.or_eq_true, decide_eq_true_eq, bne_iff_ne]
  constructor
  · intro vain later bound behind
    exact (vain later bound).resolve_left (by omega)
  · intro vain later bound
    by_cases behind : offset ≤ later
    · exact .inr (vain later bound behind)
    · exact .inl (by omega)

theorem scansInVain_before {ring later : FrameRing} {start offset : Nat} (slotCount : later.slotCount = ring.slotCount)
    (kept : ∀ slot, ring.slotState slot = .available → later.slotState slot = .available)
    (vain : later.scansInVain start offset = true) : ring.scansInVain start offset = true := by
  rw [scansInVain_iff] at vain ⊢
  rw [slotCount] at vain
  intro position bound behind free
  exact vain position bound behind (kept _ free)

end FrameRing

/-- The frame ring beside the value of `consumer_sequence` that the producer last
went to wait on. -/
structure FrameWait where
  system : FrameSystem
  awaited : Nat

namespace FrameWait

open LinearProbing (place place_lt place_surjective)

variable {wait : FrameWait}

def initial (slotCount : Nat) : FrameWait := ⟨.initial slotCount, 0⟩

def step (wait : FrameWait) (move : FrameMove) : FrameWait :=
  { system := wait.system.step move
    awaited :=
      match wait.system.producer with
      | .acquireWait observed => observed
      | _ => wait.awaited }

/-- Parked in the futex wait on a counter that has not changed. -/
def Sleeps (wait : FrameWait) : Prop :=
  wait.system.producer = .acquireParked ∧ wait.system.ring.consumerSequence = wait.awaited

def SeesNoFreeSlot (wait : FrameWait) : Prop :=
  wait.Sleeps → ∀ slot < wait.system.ring.slotCount, wait.system.ring.slotState slot ≠ .available

/-- The only free slot is one whose release has still to store the counter and to
make its wake. -/
def SeesOnlyReleasedSlot (wait : FrameWait) : Prop :=
  wait.Sleeps → ∀ slot < wait.system.ring.slotCount, wait.system.ring.slotState slot = .available →
    ∃ sequence, wait.system.consumer = .storeConsumerSequence slot sequence

/-- The scan of a blocking `acquire` has gone past the slot and finds no other,
and the counter is not loaded yet. -/
def scannedPast (system : FrameSystem) (slot : Nat) : Bool :=
  match system.producer with
  | .claim blocking start offset =>
      ((List.range offset).any fun earlier => place system.ring.slotCount start earlier == slot) &&
        blocking && system.ring.scansInVain start offset
  | .loadConsumerSequence => slot < system.ring.slotCount
  | _ => false

/-- A release does not store the counter when the scan has gone past its slot, still
free, and the counter is yet to be loaded. -/
def announcesInTime (wait : FrameWait) (move : FrameMove) : Bool :=
  match move, wait.system.consumer with
  | .consumer _ _, .storeConsumerSequence slot _ =>
      wait.system.ring.slotState slot != .available || !scannedPast wait.system slot
  | _, _ => true

/-- No release stands between the exchange that frees its slot and the store of the
counter while the producer is parked: neither does the exchange find it parked, nor
does it park there. -/
def releasesAwake (wait : FrameWait) (move : FrameMove) : Bool :=
  match move, wait.system.consumer, wait.system.producer with
  | .consumer _ _, .free _ _, .acquireParked => false
  | .producer _ _, .storeConsumerSequence slot _, .acquireWait _ => wait.system.ring.slotState slot != .available
  | _, _, _ => true

end FrameWait

/-! ## The counter -/

/-- A release past its checks is about the sequence after the counter. -/
def ConsumerPoint.Counts (consumerSequence : Nat) : ConsumerPoint → Prop
  | .releaseProducerStatus _ sequence | .releaseConsumerStatus _ sequence
  | .checkSlotSequence _ sequence | .checkConsumerSequence _ sequence => sequence ≠ 0
  | .clearSlotSequence _ sequence | .free _ sequence
  | .storeConsumerSequence _ sequence => sequence = consumerSequence + 1 ∧ sequence < 2 ^ 32
  | _ => True

namespace FrameSystem

variable {system : FrameSystem}

def Counts (system : FrameSystem) : Prop :=
  system.ring.consumerSequence < 2 ^ 32 ∧ system.consumer.Counts system.ring.consumerSequence

theorem counts_of_eq {later : FrameSystem} (counts : system.Counts) (ring : later.ring = system.ring)
    (consumer : later.consumer = system.consumer) : later.Counts := by
  rw [Counts, ring, consumer]
  exact counts

theorem counts_wakeProducerWord (counts : system.Counts) : system.wakeProducerWord.Counts := by
  simp only [wakeProducerWord]
  split
  · exact ⟨counts.1, trivial⟩
  · exact counts

theorem counts_wakeConsumerWord (counts : system.Counts) : system.wakeConsumerWord.Counts :=
  counts_of_eq counts (wakeConsumerWord_ring system) (wakeConsumerWord_consumer system)

theorem producerStep_counts (counts : system.Counts) (choice : WaitChoice) (call : ProducerCall) :
    (system.producerStep choice call).Counts := by
  cases stands : system.producer with
  | wakeConsumer slot next =>
      simp only [producerStep, stands]
      exact counts_wakeProducerWord counts
  | _ =>
      simp only [producerStep, stands]
      (repeat' split) <;> exact counts

theorem consumerStep_counts (counts : system.Counts) (choice : WaitChoice) (call : ConsumerCall) :
    (system.consumerStep choice call).Counts := by
  obtain ⟨bounded, point⟩ := counts
  cases stands : system.consumer with
  | idle last =>
      simp only [consumerStep, stands]
      cases call with
      | waitPresent afterSequence =>
          simp only
          split <;> exact ⟨bounded, trivial⟩
      | release slot sequence =>
          simp only
          split
          · exact ⟨bounded, trivial⟩
          · rename_i wanted
            exact ⟨bounded, fun zero => wanted (.inr zero)⟩
  | checkConsumerSequence slot sequence =>
      rw [stands] at point
      simp only [consumerStep, stands]
      split
      · exact ⟨bounded, trivial⟩
      · rename_i follows
        have follows := not_not.mp follows
        have small : system.ring.consumerSequence + 1 < 2 ^ 32 := by
          by_contra beyond
          have wraps : system.ring.consumerSequence + 1 = 2 ^ 32 := by omega
          rw [wraps, Nat.mod_self] at follows
          exact point follows.symm
        rw [Nat.mod_eq_of_lt small] at follows
        exact ⟨bounded, follows.symm, by omega⟩
  | free slot sequence =>
      rw [stands] at point
      simp only [consumerStep, stands]
      split
      · exact ⟨bounded, point⟩
      · exact ⟨bounded, trivial⟩
  | storeConsumerSequence slot sequence =>
      rw [stands] at point
      simp only [consumerStep, stands]
      exact ⟨point.2, trivial⟩
  | wakeProducer slot sequence =>
      simp only [consumerStep, stands]
      exact ⟨(counts_wakeConsumerWord ⟨bounded, point⟩).1, trivial⟩
  | releaseProducerStatus | releaseConsumerStatus | checkSlotSequence | clearSlotSequence =>
      rw [stands] at point
      simp only [consumerStep, stands]
      (repeat' split) <;> first | exact ⟨bounded, trivial⟩ | exact ⟨bounded, point⟩
  | _ =>
      simp only [consumerStep, stands]
      (repeat' split) <;> exact ⟨bounded, by trivial⟩

theorem step_counts (counts : system.Counts) (move : FrameMove) : (system.step move).Counts := by
  cases move with
  | producer choice call => exact producerStep_counts counts choice call
  | consumer choice call => exact consumerStep_counts counts choice call
  | failProducer status =>
      simp only [step, failProducerStep]
      split
      · exact counts_wakeProducerWord counts
      · exact counts_wakeConsumerWord counts
      · split <;> exact counts
  | failConsumer status =>
      simp only [step, failConsumerStep]
      split
      · exact counts_wakeProducerWord counts
      · exact counts_wakeConsumerWord counts
      · split <;> exact counts

structure Calm (system later : FrameSystem) : Prop where
  slotCount : later.ring.slotCount = system.ring.slotCount
  slotState : later.ring.slotState = system.ring.slotState
  consumerSequence : later.ring.consumerSequence = system.ring.consumerSequence
  producer : later.producer = system.producer ∨ later.producer = .acquireProducerStatus true

theorem wakeProducerWord_calm (system : FrameSystem) : Calm system system.wakeProducerWord := by
  simp only [wakeProducerWord]
  split <;> exact ⟨rfl, rfl, rfl, .inl rfl⟩

theorem wakeConsumerWord_calm (system : FrameSystem) : Calm system system.wakeConsumerWord := by
  simp only [wakeConsumerWord]
  split
  · exact ⟨rfl, rfl, rfl, .inr rfl⟩
  · exact ⟨rfl, rfl, rfl, .inl rfl⟩

theorem consumerStep_calm (choice : WaitChoice) (call : ConsumerCall)
    (notFreeing : ∀ slot sequence, system.consumer ≠ .free slot sequence)
    (notStoring : ∀ slot sequence, system.consumer ≠ .storeConsumerSequence slot sequence) :
    Calm system (system.consumerStep choice call) := by
  cases stands : system.consumer with
  | free slot sequence => exact absurd stands (notFreeing slot sequence)
  | storeConsumerSequence slot sequence => exact absurd stands (notStoring slot sequence)
  | wakeProducer slot sequence =>
      simp only [consumerStep, stands]
      obtain ⟨slotCount, slotState, consumerSequence, producer⟩ := wakeConsumerWord_calm system
      exact ⟨slotCount, slotState, consumerSequence, producer⟩
  | _ =>
      simp only [consumerStep, stands]
      (repeat' split) <;> exact ⟨rfl, rfl, rfl, .inl rfl⟩

theorem wakeProducerWord_releasing {slot sequence : Nat} :
    system.wakeProducerWord.consumer = .storeConsumerSequence slot sequence ↔
      system.consumer = .storeConsumerSequence slot sequence := by
  simp only [wakeProducerWord]
  split
  · rename_i stands
    simp [consumerAt, stands]
  · rfl

/-- A thread that publishes a failure changes neither the slots nor the counter, and
leaves a release where it is. -/
theorem failure_calm (system : FrameSystem) {move : FrameMove} (ofFailure : (∃ status, move = .failProducer status) ∨
      ∃ status, move = .failConsumer status) :
    Calm system (system.step move) ∧ ∀ slot sequence,
      (system.step move).consumer = .storeConsumerSequence slot sequence ↔
        system.consumer = .storeConsumerSequence slot sequence := by
  have woken := wakeProducerWord_calm system
  have roused := wakeConsumerWord_calm system
  have kept : ∀ slot sequence, system.wakeConsumerWord.consumer = .storeConsumerSequence slot sequence ↔
      system.consumer = .storeConsumerSequence slot sequence := by
    intro slot sequence
    rw [wakeConsumerWord_consumer]
  rcases ofFailure with ⟨status, rfl⟩ | ⟨status, rfl⟩
  · simp only [step, failProducerStep]
    split
    · exact ⟨⟨woken.1, woken.2, woken.3, woken.4⟩, fun _ _ => wakeProducerWord_releasing⟩
    · exact ⟨⟨roused.1, roused.2, roused.3, roused.4⟩, kept⟩
    · split <;> exact ⟨⟨rfl, rfl, rfl, .inl rfl⟩, fun _ _ => Iff.rfl⟩
  · simp only [step, failConsumerStep]
    split
    · exact ⟨⟨woken.1, woken.2, woken.3, woken.4⟩, fun _ _ => wakeProducerWord_releasing⟩
    · exact ⟨⟨roused.1, roused.2, roused.3, roused.4⟩, kept⟩
    · split <;> exact ⟨⟨rfl, rfl, rfl, .inl rfl⟩, fun _ _ => Iff.rfl⟩

end FrameSystem

/-! ## The scan -/

namespace FrameWait

open LinearProbing (place place_lt place_surjective)

variable {wait : FrameWait}

/-- The producer has found the slot taken and sleeps, if it does, on the counter as
it is now. -/
def Passed (wait : FrameWait) (slot : Nat) : Prop :=
  match wait.system.producer with
  | .claim blocking start offset => (∃ earlier < offset, place wait.system.ring.slotCount start earlier = slot) ∧
      blocking = true ∧ wait.system.ring.scansInVain start offset = true
  | .loadConsumerSequence => slot < wait.system.ring.slotCount
  | .acquireWait observed => observed = wait.system.ring.consumerSequence ∧ slot < wait.system.ring.slotCount
  | .acquireParked => wait.awaited = wait.system.ring.consumerSequence ∧ slot < wait.system.ring.slotCount
  | _ => False

/-- The scan begins inside the ring, and the counter is never behind a value loaded
from it. -/
def Waits (wait : FrameWait) : Prop :=
  match wait.system.producer with
  | .claim _ start _ => 0 < wait.system.ring.slotCount → start < wait.system.ring.slotCount
  | .acquireWait observed => observed ≤ wait.system.ring.consumerSequence
  | .acquireParked => wait.awaited ≤ wait.system.ring.consumerSequence
  | _ => True

def Announcing (wait : FrameWait) (slot : Nat) : Prop :=
  ∃ sequence, wait.system.consumer = .storeConsumerSequence slot sequence

structure Watched (wait : FrameWait) : Prop where
  counts : wait.system.Counts
  waits : wait.Waits
  announced : ∀ slot, wait.Passed slot → wait.system.ring.slotState slot = .available → wait.Announcing slot

theorem Watched.seesOnlyReleasedSlot (watched : wait.Watched) : wait.SeesOnlyReleasedSlot := by
  rintro ⟨parked, unchanged⟩ slot bound free
  refine watched.announced slot ?_ free
  simp only [Passed, parked]
  exact ⟨unchanged.symm, bound⟩

theorem initial_watched (slotCount : Nat) : (initial slotCount).Watched :=
  { counts := ⟨by simp [initial, FrameSystem.initial], trivial⟩
    waits := trivial
    announced := fun _ passed => passed.elim }

theorem producerStep_watched (watched : wait.Watched) (choice : WaitChoice) (call : ProducerCall) :
    (wait.step (.producer choice call)).Watched := by
  obtain ⟨counts, waits, announced⟩ := watched
  cases stands : wait.system.producer with
  | loadNextAcquire blocking =>
      simp only [step, FrameSystem.step, FrameSystem.producerStep, stands]
      refine ⟨counts, fun positive => Nat.mod_lt _ positive, ?_⟩
      rintro slot ⟨⟨earlier, before, -⟩, -⟩
      omega
  | claim blocking start offset =>
      simp only [Passed, Waits, stands] at announced waits
      simp only [step, FrameSystem.step, FrameSystem.producerStep, stands]
      split
      · split
        · exact ⟨counts, trivial, fun slot passed => passed.elim⟩
        · rename_i taken
          refine ⟨counts, waits, ?_⟩
          rintro slot ⟨⟨earlier, before, rfl⟩, blocks, vain⟩ free
          by_cases last : earlier = offset
          · subst last
            exact absurd free taken
          · refine announced _ ⟨⟨earlier, by omega, rfl⟩, blocks, FrameRing.scansInVain_iff.mpr ?_⟩ free
            intro later bound ahead
            by_cases next : later = offset
            · subst next
              exact taken
            · exact FrameRing.scansInVain_iff.mp vain later bound (by omega)
      · rename_i finished
        split
        · rename_i blocks
          refine ⟨counts, trivial, ?_⟩
          intro slot bound free
          have positive : 0 < wait.system.ring.slotCount := Nat.zero_lt_of_lt bound
          obtain ⟨earlier, before, place⟩ := place_surjective (waits positive) bound
          refine announced slot ⟨⟨earlier, by omega, place⟩, blocks, FrameRing.scansInVain_iff.mpr ?_⟩ free
          intro later bound ahead
          omega
        · exact ⟨counts, trivial, fun slot passed => passed.elim⟩
  | loadConsumerSequence =>
      simp only [Passed, stands] at announced
      simp only [step, FrameSystem.step, FrameSystem.producerStep, stands]
      exact ⟨counts, Nat.le_refl _, fun slot passed => announced slot passed.2⟩
  | acquireWait observed =>
      simp only [Passed, Waits, stands] at announced waits
      simp only [step, FrameSystem.step, FrameSystem.producerStep, stands]
      split
      · exact ⟨counts, trivial, fun slot passed => passed.elim⟩
      · exact ⟨counts, trivial, fun slot passed => passed.elim⟩
      · split
        · exact ⟨counts, waits, announced⟩
        · exact ⟨counts, trivial, fun slot passed => passed.elim⟩
  | acquireParked =>
      simp only [step, FrameSystem.step, FrameSystem.producerStep, stands]
      split
      · exact ⟨counts, trivial, fun slot passed => passed.elim⟩
      · exact ⟨counts, trivial, fun slot passed => passed.elim⟩
      · exact ⟨counts, waits, announced⟩
  | wakeConsumer slot next =>
      simp only [step, FrameSystem.step, FrameSystem.producerStep, stands]
      exact ⟨FrameSystem.counts_wakeProducerWord counts, trivial, fun slot passed => passed.elim⟩
  | _ =>
      simp only [step, FrameSystem.step, FrameSystem.producerStep, stands]
      (repeat' split) <;> exact ⟨counts, by trivial, fun slot passed => passed.elim⟩

theorem step_awaited (wait : FrameWait) (move : FrameMove) (parked : wait.system.producer = .acquireParked) :
    (wait.step move).awaited = wait.awaited := by
  simp only [step, parked]

/-- What the producer found is as it was when its scan, its wait and the counter are,
or when it is woken. -/
structure Undisturbed (wait later : FrameWait) : Prop where
  slotCount : later.system.ring.slotCount = wait.system.ring.slotCount
  keepsFree : ∀ slot, wait.system.ring.slotState slot = .available → later.system.ring.slotState slot = .available
  consumerSequence : later.system.ring.consumerSequence = wait.system.ring.consumerSequence
  awaited : wait.system.producer = .acquireParked → later.awaited = wait.awaited
  producer : later.system.producer = wait.system.producer ∨
    later.system.producer = .acquireProducerStatus true

theorem Undisturbed.of_calm {move : FrameMove} (calm : FrameSystem.Calm wait.system (wait.system.step move)) :
    Undisturbed wait (wait.step move) :=
  ⟨calm.slotCount, fun slot free => by rwa [← calm.slotState] at free, calm.consumerSequence, step_awaited wait move,
    calm.producer⟩

theorem Undisturbed.waits {later : FrameWait} (calm : Undisturbed wait later) (waits : wait.Waits) :
    later.Waits := by
  rcases calm.producer with same | woken
  · simp only [Waits, same, calm.slotCount, calm.consumerSequence] at waits ⊢
    split
    · rename_i stands
      rw [stands] at waits
      exact waits
    · rename_i stands
      rw [stands] at waits
      exact waits
    · rename_i stands
      rw [stands] at waits
      rw [calm.awaited stands]
      exact waits
    · trivial
  · simp only [Waits, woken]

theorem Undisturbed.passed {later : FrameWait} {slot : Nat} (calm : Undisturbed wait later)
    (passed : later.Passed slot) : wait.Passed slot := by
  rcases calm.producer with same | woken
  · simp only [Passed, same, calm.slotCount, calm.consumerSequence] at passed
    simp only [Passed]
    split at passed
    · obtain ⟨found, blocks, vain⟩ := passed
      exact ⟨found, blocks, FrameRing.scansInVain_before calm.slotCount calm.keepsFree vain⟩
    · rename_i stands
      simpa only [stands] using passed
    · rename_i stands
      simpa only [stands] using passed
    · rename_i stands
      rw [calm.awaited stands] at passed
      simpa only [stands] using passed
    · exact passed.elim
  · simp only [Passed, woken] at passed

theorem Watched.undisturbed {later : FrameWait} (watched : wait.Watched) (counts : later.system.Counts)
    (calm : Undisturbed wait later)
    (freed : ∀ slot, later.system.ring.slotState slot = .available → later.Announcing slot ∨
      wait.system.ring.slotState slot = .available ∧ (wait.Announcing slot → later.Announcing slot)) :
    later.Watched := by
  refine ⟨counts, calm.waits watched.waits, ?_⟩
  intro slot passed free
  rcases freed slot free with announcing | ⟨before, kept⟩
  · exact announcing
  · exact kept (watched.announced slot (calm.passed passed) before)

theorem freeStep_watched {slot sequence : Nat} (watched : wait.Watched)
    (stands : wait.system.consumer = .free slot sequence) (choice : WaitChoice) (call : ConsumerCall) :
    (wait.step (.consumer choice call)).Watched := by
  have counts := FrameSystem.consumerStep_counts watched.counts choice call
  have awaited := step_awaited wait (.consumer choice call)
  have silent : ∀ other, ¬wait.Announcing other := by
    rintro other ⟨_, announcing⟩
    exact nomatch stands.symm.trans announcing
  simp only [step, FrameSystem.step, FrameSystem.consumerStep, stands] at counts awaited ⊢
  split
  · rename_i presented
    rw [if_pos presented] at counts
    refine watched.undisturbed counts ⟨rfl, ?_, rfl, awaited, .inl rfl⟩ ?_
    · intro other free
      by_cases same : other = slot
      · subst same
        exact Function.update_self ..
      · exact (Function.update_of_ne same ..).trans free
    intro other free
    by_cases same : other = slot
    · subst same
      exact .inl ⟨sequence, rfl⟩
    · simp only [FrameSystem.setSlotState, FrameSystem.consumerAt, Function.update_of_ne same] at free
      exact .inr ⟨free, fun announcing => absurd announcing (silent other)⟩
  · rename_i taken
    rw [if_neg taken] at counts
    exact watched.undisturbed counts ⟨rfl, fun _ free => free, rfl, awaited, .inl rfl⟩
      fun other free => .inr ⟨free, fun announcing => absurd announcing (silent other)⟩

/-- The store of the counter: the producer either has the slot still before it or
holds an older value of the counter. -/
theorem storeStep_watched {slot sequence : Nat} (watched : wait.Watched)
    (stands : wait.system.consumer = .storeConsumerSequence slot sequence)
    (choice : WaitChoice) (call : ConsumerCall) (inTime : wait.announcesInTime (.consumer choice call) = true) :
    (wait.step (.consumer choice call)).Watched := by
  have counts := FrameSystem.consumerStep_counts watched.counts choice call
  have next : sequence = wait.system.ring.consumerSequence + 1 := by
    have point := watched.counts.2
    rw [stands] at point
    exact point.1
  have unfree : ∀ other, wait.Passed other → scannedPast wait.system other = true →
      wait.system.ring.slotState other ≠ .available := by
    intro other passed scanned free
    obtain ⟨_, announcing⟩ := watched.announced other passed free
    obtain ⟨rfl, -⟩ := ConsumerPoint.storeConsumerSequence.inj (stands.symm.trans announcing)
    simp [announcesInTime, stands, free, scanned] at inTime
  obtain ⟨-, waits, -⟩ := watched
  simp only [step, FrameSystem.step, FrameSystem.consumerStep, stands] at counts ⊢
  cases point : wait.system.producer with
  | claim blocking start offset =>
      simp only [Waits, Passed, scannedPast, point, Bool.and_eq_true, List.any_eq_true, List.mem_range,
        beq_iff_eq] at waits unfree
      refine ⟨counts, ?_, ?_⟩
      · simpa only [Waits, FrameSystem.consumerAt] using waits
      · intro other passed free
        simp only [Passed, FrameSystem.consumerAt] at passed
        obtain ⟨found, blocks, vain⟩ := id passed
        exact absurd free (unfree other passed ⟨⟨found, blocks⟩, vain⟩)
  | loadConsumerSequence =>
      simp only [Passed, scannedPast, point, decide_eq_true_eq] at unfree
      refine ⟨counts, by simp only [Waits, FrameSystem.consumerAt], ?_⟩
      intro other passed free
      simp only [Passed, FrameSystem.consumerAt] at passed
      exact absurd free (unfree other passed passed)
  | acquireWait observed | acquireParked =>
      simp only [Waits, point] at waits
      refine ⟨counts, ?_, ?_⟩
      · simp only [Waits, FrameSystem.consumerAt]
        omega
      · intro other passed
        simp only [Passed, FrameSystem.consumerAt] at passed
        omega
  | _ =>
      refine ⟨counts, by simp only [Waits, FrameSystem.consumerAt], ?_⟩
      intro other passed
      simp only [Passed, FrameSystem.consumerAt] at passed

theorem failureStep_watched {move : FrameMove} (watched : wait.Watched)
    (ofFailure : (∃ status, move = .failProducer status) ∨ ∃ status, move = .failConsumer status) :
    (wait.step move).Watched := by
  obtain ⟨calm, releasing⟩ := FrameSystem.failure_calm wait.system ofFailure
  refine watched.undisturbed (FrameSystem.step_counts watched.counts move) (.of_calm calm) ?_
  intro slot free
  refine .inr ⟨by rwa [← calm.slotState], ?_⟩
  rintro ⟨sequence, announcing⟩
  exact ⟨sequence, (releasing slot sequence).mpr announcing⟩

theorem consumerStep_watched (watched : wait.Watched) (choice : WaitChoice) (call : ConsumerCall)
    (inTime : wait.announcesInTime (.consumer choice call) = true) :
    (wait.step (.consumer choice call)).Watched := by
  by_cases storing : ∃ slot sequence, wait.system.consumer = .storeConsumerSequence slot sequence
  · obtain ⟨slot, sequence, stands⟩ := storing
    exact storeStep_watched watched stands choice call inTime
  · by_cases freeing : ∃ slot sequence, wait.system.consumer = .free slot sequence
    · obtain ⟨slot, sequence, stands⟩ := freeing
      exact freeStep_watched watched stands choice call
    · have calm := FrameSystem.consumerStep_calm choice call
        (fun slot sequence stands => freeing ⟨slot, sequence, stands⟩)
        (fun slot sequence stands => storing ⟨slot, sequence, stands⟩)
      refine watched.undisturbed (FrameSystem.consumerStep_counts watched.counts choice call) (.of_calm calm) ?_
      intro slot free
      refine .inr ⟨by rwa [← calm.slotState], ?_⟩
      rintro ⟨sequence, announcing⟩
      exact absurd ⟨slot, sequence, announcing⟩ storing

theorem step_watched (watched : wait.Watched) (move : FrameMove) (inTime : wait.announcesInTime move = true) :
    (wait.step move).Watched := by
  cases move with
  | producer choice call => exact producerStep_watched watched choice call
  | consumer choice call => exact consumerStep_watched watched choice call inTime
  | failProducer status => exact failureStep_watched watched (.inl ⟨status, rfl⟩)
  | failConsumer status => exact failureStep_watched watched (.inr ⟨status, rfl⟩)

def Rested (wait : FrameWait) : Prop :=
  wait.system.producer = .acquireParked → ∀ slot, wait.Announcing slot →
    wait.system.ring.slotState slot ≠ .available

theorem producerStep_rested (rested : wait.Rested) (choice : WaitChoice) (call : ProducerCall)
    (awake : wait.releasesAwake (.producer choice call) = true) : (wait.step (.producer choice call)).Rested := by
  cases stands : wait.system.producer with
  | acquireWait observed =>
      simp only [step, FrameSystem.step, FrameSystem.producerStep, stands]
      rintro parked slot ⟨sequence, announcing⟩
      have same : wait.system.consumer = .storeConsumerSequence slot sequence := by
        (repeat' split at announcing) <;> exact announcing
      simp only [releasesAwake, stands, same, bne_iff_ne] at awake
      (repeat' split) <;> exact awake
  | acquireParked =>
      simp only [step, FrameSystem.step, FrameSystem.producerStep, stands]
      split
      · exact fun parked => nomatch parked
      · exact fun parked => nomatch parked
      · exact rested
  | _ =>
      simp only [step, FrameSystem.step, FrameSystem.producerStep, stands]
      (repeat' split) <;> exact fun parked => nomatch parked

theorem consumerStep_rested (choice : WaitChoice) (call : ConsumerCall)
    (awake : wait.releasesAwake (.consumer choice call) = true) :
    (wait.step (.consumer choice call)).Rested := by
  cases stands : wait.system.consumer with
  | free slot sequence =>
      simp only [step, FrameSystem.step, FrameSystem.consumerStep, stands]
      intro parked
      have same : wait.system.producer = .acquireParked := by
        split at parked <;> exact parked
      simp only [releasesAwake, stands, same, Bool.false_eq_true] at awake
  | presentParked expected =>
      simp only [step, FrameSystem.step, FrameSystem.consumerStep, stands]
      split
      · exact fun _ _ ⟨_, announcing⟩ => nomatch announcing
      · exact fun _ _ ⟨_, announcing⟩ => nomatch announcing
      · exact fun _ _ ⟨_, announcing⟩ => nomatch stands.symm.trans announcing
  | _ =>
      simp only [step, FrameSystem.step, FrameSystem.consumerStep, stands]
      (repeat' split) <;> exact fun _ _ ⟨_, announcing⟩ => nomatch announcing

theorem failureStep_rested {move : FrameMove} (rested : wait.Rested)
    (ofFailure : (∃ status, move = .failProducer status) ∨ ∃ status, move = .failConsumer status) :
    (wait.step move).Rested := by
  obtain ⟨calm, releasing⟩ := FrameSystem.failure_calm wait.system ofFailure
  rintro parked slot ⟨sequence, announcing⟩
  have before : wait.system.producer = .acquireParked := by
    rcases calm.producer with same | woken
    · exact same.symm.trans parked
    · exact nomatch woken.symm.trans parked
  have still := rested before slot ⟨sequence, (releasing slot sequence).mp announcing⟩
  rwa [← calm.slotState] at still

theorem step_rested (rested : wait.Rested) (move : FrameMove) (awake : wait.releasesAwake move = true) :
    (wait.step move).Rested := by
  cases move with
  | producer choice call => exact producerStep_rested rested choice call awake
  | consumer choice call => exact consumerStep_rested choice call awake
  | failProducer status => exact failureStep_rested rested (.inl ⟨status, rfl⟩)
  | failConsumer status => exact failureStep_rested rested (.inr ⟨status, rfl⟩)

theorem seesNoFreeSlot_of_rested (only : wait.SeesOnlyReleasedSlot) (rested : wait.Rested) :
    wait.SeesNoFreeSlot := by
  intro sleeps slot bound free
  exact rested sleeps.1 slot (only sleeps slot bound free) free

theorem run_watched (slotCount : Nat) {moves : List FrameMove}
    (inTime : Runs.EveryStep step (fun wait move => wait.announcesInTime move = true) (initial slotCount) moves) :
    Runs.EveryState step Watched (initial slotCount) moves :=
  Runs.everyState_of_everyStep (fun _ move watched meets => step_watched watched move meets)
    moves _ (initial_watched slotCount) inTime

theorem run_rested (slotCount : Nat) {moves : List FrameMove}
    (awake : Runs.EveryStep step (fun wait move => wait.releasesAwake move = true) (initial slotCount) moves) :
    Runs.EveryState step Rested (initial slotCount) moves := by
  refine Runs.everyState_of_everyStep (fun _ move rested meets => step_rested rested move meets) moves _ ?_ awake
  exact fun parked => nomatch parked

/-- When no release stores the counter between the scan past its slot and the load of
the counter, the producer sleeps past no slot whose release has made its store; when
besides no release is half made while the producer is parked, it sleeps past no free
slot at all. -/
theorem producer_sleeps_past_no_free_slot (slotCount : Nat) (moves : List FrameMove)
    (inTime : Runs.EveryStep step (fun wait move => wait.announcesInTime move = true) (initial slotCount) moves) :
    Runs.EveryState step SeesOnlyReleasedSlot (initial slotCount) moves ∧
      (Runs.EveryStep step (fun wait move => wait.releasesAwake move = true) (initial slotCount) moves →
        Runs.EveryState step SeesNoFreeSlot (initial slotCount) moves) := by
  have watched := run_watched slotCount inTime
  have only := watched.imp fun _ => Watched.seesOnlyReleasedSlot
  refine ⟨only, fun awake => ?_⟩
  exact (only.and (run_rested slotCount awake)).imp fun _ both => seesNoFreeSlot_of_rested both.1 both.2

/-- Two images acquired, one of them presented, and an `acquire` that scans the ring. -/
def scanMoves : List FrameMove :=
  List.replicate 6 (.producer .proceed (.acquire false)) ++
    List.replicate 8 (.producer .proceed (.present 0)) ++
    List.replicate 6 (.producer .proceed (.acquire false)) ++
    List.replicate 8 (.producer .proceed (.acquire true))

def releaseMoves : List FrameMove :=
  List.replicate 6 (.consumer .proceed (.waitPresent 0)) ++
    List.replicate 9 (.consumer .proceed (.release 0 1))

/-- The producer loads the counter and parks. -/
def parkMoves : List FrameMove := List.replicate 2 (.producer .proceed (.acquire true))

theorem producer_sleeps_past_no_free_slot_full :
    Runs.EveryState step SeesNoFreeSlot (initial 2) (scanMoves ++ parkMoves) ∧
      (Runs.final step (initial 2) (scanMoves ++ parkMoves)).Sleeps := by
  refine ⟨(producer_sleeps_past_no_free_slot 2 _ ?_).2 ?_, ?_, ?_⟩ <;> decide +kernel

/-- The release falls between the scan and the load of the counter: the producer parks
on the counter as it is, with a free slot and nobody left to wake it. -/
theorem release_after_scan_missed :
    ¬∀ slotCount moves, 2 ≤ slotCount → slotCount ≤ 4 →
      (Runs.final step (initial slotCount) moves).SeesNoFreeSlot := by
  intro claimed
  have slept : (Runs.final step (initial 2) (scanMoves ++ releaseMoves ++ parkMoves)).Sleeps := by
    constructor <;> decide +kernel
  exact claimed 2 _ (by decide) (by decide) slept 0 (by decide +kernel) (by decide +kernel)

end FrameWait

end VulkanBridge
