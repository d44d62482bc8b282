import VulkanBridge.DescriptorRing

/-!
The WSI frame ring: one producer in `acquire` and `present`, one consumer in
`wait_present` and `release`, and the threads that publish a failure. Every
load, store, exchange and system call of the source is a step of its own.
-/

namespace VulkanBridge

inductive FrameSlotState where
  | available
  | acquired
  | presented
  deriving DecidableEq, Repr

structure FrameRing where
  slotCount : Nat
  slotState : Nat → FrameSlotState
  slotSequence : Nat → Nat
  nextAcquire : Nat
  producerSequence : Nat
  consumerSequence : Nat
  producerStatus : Int
  consumerStatus : Int

inductive ProducerCall where
  | acquire (blocking : Bool)
  | present (slot : Nat)
  deriving DecidableEq, Repr

inductive ConsumerCall where
  | waitPresent (afterSequence : Nat)
  | release (slot sequence : Nat)
  deriving DecidableEq, Repr

inductive ProducerEnd where
  | acquired (slot : Nat)
  | presented (slot sequence : Nat)
  | peerFailed (status : Int)
  | failed (code : Errno)
  deriving DecidableEq, Repr

inductive ConsumerEnd where
  | received (slot sequence : Nat)
  | released (slot sequence : Nat)
  | peerFailed (status : Int)
  | failed (code : Errno)
  deriving DecidableEq, Repr

/-- Where the producer stands; `idle` holds how its last call returned. -/
inductive ProducerPoint where
  | idle (last : Option ProducerEnd)
  | acquireDeadline
  | acquireProducerStatus (blocking : Bool)
  | acquireConsumerStatus (blocking : Bool)
  | loadNextAcquire (blocking : Bool)
  | claim (blocking : Bool) (start offset : Nat)
  | storeNextAcquire (slot : Nat)
  | loadConsumerSequence
  | acquireWait (observed : Nat)
  | acquireParked
  | presentProducerStatus (slot : Nat)
  | presentConsumerStatus (slot : Nat)
  | loadProducerSequence (slot : Nat)
  | publish (slot current : Nat)
  | storeSlotSequence (slot next : Nat)
  | storeProducerSequence (slot next : Nat)
  | wakeConsumer (slot next : Nat)
  deriving DecidableEq, Repr

/-- Where the consumer stands; a scan is made before and, with `again`, after the
producer's sequence was read. -/
inductive ConsumerPoint where
  | idle (last : Option ConsumerEnd)
  | waitDeadline (expected : Nat)
  | waitProducerStatus (expected : Nat)
  | waitConsumerStatus (expected : Nat)
  | scanState (expected candidate : Nat) (again : Bool)
  | scanSequence (expected candidate : Nat) (again : Bool)
  | loadProduced (expected : Nat)
  | presentWait (expected observed : Nat)
  | presentParked (expected : Nat)
  | releaseProducerStatus (slot sequence : Nat)
  | releaseConsumerStatus (slot sequence : Nat)
  | checkSlotSequence (slot sequence : Nat)
  | checkConsumerSequence (slot sequence : Nat)
  | clearSlotSequence (slot sequence : Nat)
  | free (slot sequence : Nat)
  | storeConsumerSequence (slot sequence : Nat)
  | wakeProducer (slot sequence : Nat)
  deriving DecidableEq, Repr

/-- Where `publish_failure` stands after the store of the status. -/
inductive FramePoint where
  | quiet
  | wakeProducerWord
  | wakeConsumerWord
  deriving DecidableEq, Repr

/-- An alarm is set once a party has published a failure and made its wakes. -/
structure FrameSystem where
  ring : FrameRing
  producer : ProducerPoint
  consumer : ConsumerPoint
  producerFailure : FramePoint
  consumerFailure : FramePoint
  producerAlarm : Bool
  consumerAlarm : Bool

namespace FrameSystem

variable (system : FrameSystem)

def initial (slotCount : Nat) : FrameSystem :=
  { ring := ⟨slotCount, fun _ => .available, fun _ => 0, 0, 0, 0, 0, 0⟩
    producer := .idle none
    consumer := .idle none
    producerFailure := .quiet
    consumerFailure := .quiet
    producerAlarm := false
    consumerAlarm := false }

def producerAt (point : ProducerPoint) : FrameSystem := { system with producer := point }
def consumerAt (point : ConsumerPoint) : FrameSystem := { system with consumer := point }

def setSlotState (slot : Nat) (state : FrameSlotState) : FrameSystem :=
  { system with ring := { system.ring with slotState := Function.update system.ring.slotState slot state } }

def setSlotSequence (slot sequence : Nat) : FrameSystem :=
  { system with
    ring := { system.ring with slotSequence := Function.update system.ring.slotSequence slot sequence } }

/-- `futex_wake(&ring->producer_sequence)`, on which the consumer waits. -/
def wakeProducerWord : FrameSystem :=
  match system.consumer with
  | .presentParked expected => system.consumerAt (.waitProducerStatus expected)
  | _ => system

/-- `futex_wake(&ring->consumer_sequence)`, on which the producer waits. -/
def wakeConsumerWord : FrameSystem :=
  match system.producer with
  | .acquireParked => system.producerAt (.acquireProducerStatus true)
  | _ => system

@[simp] theorem wakeProducerWord_ring : system.wakeProducerWord.ring = system.ring := by
  simp only [wakeProducerWord]
  split <;> rfl

@[simp] theorem wakeConsumerWord_ring : system.wakeConsumerWord.ring = system.ring := by
  simp only [wakeConsumerWord]
  split <;> rfl

@[simp] theorem wakeConsumerWord_consumer : system.wakeConsumerWord.consumer = system.consumer := by
  simp only [wakeConsumerWord]
  split <;> rfl

@[simp] theorem wakeProducerWord_producer : system.wakeProducerWord.producer = system.producer := by
  simp only [wakeProducerWord]
  split <;> rfl

/-- The next step of the producer; between two calls `call` begins. -/
def producerStep (choice : WaitChoice) (call : ProducerCall) : FrameSystem :=
  match system.producer with
  | .idle _ =>
      match call with
      | .acquire true => system.producerAt .acquireDeadline
      | .acquire false => system.producerAt (.acquireProducerStatus false)
      | .present slot =>
          if slot ≥ system.ring.slotCount then system.producerAt (.idle (some (.failed .einval)))
          else system.producerAt (.presentProducerStatus slot)
  | .acquireDeadline =>
      match choice with
      | .clockFails => system.producerAt (.idle (some (.failed .eio)))
      | .clockOverflows => system.producerAt (.idle (some (.failed .eoverflow)))
      | _ => system.producerAt (.acquireProducerStatus true)
  | .acquireProducerStatus blocking =>
      if system.ring.producerStatus < 0 then
        system.producerAt (.idle (some (.peerFailed system.ring.producerStatus)))
      else system.producerAt (.acquireConsumerStatus blocking)
  | .acquireConsumerStatus blocking =>
      if system.ring.consumerStatus < 0 then
        system.producerAt (.idle (some (.peerFailed system.ring.consumerStatus)))
      else system.producerAt (.loadNextAcquire blocking)
  | .loadNextAcquire blocking =>
      system.producerAt (.claim blocking (system.ring.nextAcquire % system.ring.slotCount) 0)
  | .claim blocking start offset =>
      if offset < system.ring.slotCount then
        let candidate := (start + offset) % system.ring.slotCount
        if system.ring.slotState candidate = .available then
          (system.setSlotState candidate .acquired).producerAt (.storeNextAcquire candidate)
        else system.producerAt (.claim blocking start (offset + 1))
      else if blocking then system.producerAt .loadConsumerSequence
      else system.producerAt (.idle (some (.failed .eagain)))
  | .storeNextAcquire slot =>
      { system with
        ring := { system.ring with nextAcquire := (slot + 1) % system.ring.slotCount }
        producer := .idle (some (.acquired slot)) }
  | .loadConsumerSequence => system.producerAt (.acquireWait system.ring.consumerSequence)
  | .acquireWait observed =>
      match choice with
      | .clockFails => system.producerAt (.idle (some (.failed .eio)))
      | .expired => system.producerAt (.idle (some (.failed .etimedout)))
      | _ =>
          if system.ring.consumerSequence = observed then system.producerAt .acquireParked
          else system.producerAt (.acquireProducerStatus true)
  | .acquireParked =>
      match choice with
      | .expired => system.producerAt (.idle (some (.failed .etimedout)))
      | .interrupted => system.producerAt (.acquireProducerStatus true)
      | _ => system
  | .presentProducerStatus slot =>
      if system.ring.producerStatus < 0 then
        system.producerAt (.idle (some (.peerFailed system.ring.producerStatus)))
      else system.producerAt (.presentConsumerStatus slot)
  | .presentConsumerStatus slot =>
      if system.ring.consumerStatus < 0 then
        system.producerAt (.idle (some (.peerFailed system.ring.consumerStatus)))
      else system.producerAt (.loadProducerSequence slot)
  | .loadProducerSequence slot =>
      if system.ring.producerSequence = 2 ^ 32 - 1 then system.producerAt (.idle (some (.failed .eoverflow)))
      else system.producerAt (.publish slot system.ring.producerSequence)
  | .publish slot current =>
      match system.ring.slotState slot with
      | .acquired => (system.setSlotState slot .presented).producerAt (.storeSlotSequence slot (current + 1))
      | .presented => system.producerAt (.idle (some (.failed .ebusy)))
      | .available => system.producerAt (.idle (some (.failed .eproto)))
  | .storeSlotSequence slot next =>
      (system.setSlotSequence slot next).producerAt (.storeProducerSequence slot next)
  | .storeProducerSequence slot next =>
      { system with ring := { system.ring with producerSequence := next } }.producerAt (.wakeConsumer slot next)
  | .wakeConsumer slot next => system.wakeProducerWord.producerAt (.idle (some (.presented slot next)))

/-- The next step of the consumer; between two calls `call` begins. -/
def consumerStep (choice : WaitChoice) (call : ConsumerCall) : FrameSystem :=
  match system.consumer with
  | .idle _ =>
      match call with
      | .waitPresent afterSequence =>
          if afterSequence = 2 ^ 32 - 1 then system.consumerAt (.idle (some (.failed .einval)))
          else system.consumerAt (.waitDeadline (afterSequence + 1))
      | .release slot sequence =>
          if slot ≥ system.ring.slotCount ∨ sequence = 0 then
            system.consumerAt (.idle (some (.failed .einval)))
          else system.consumerAt (.releaseProducerStatus slot sequence)
  | .waitDeadline expected =>
      match choice with
      | .clockFails => system.consumerAt (.idle (some (.failed .eio)))
      | .clockOverflows => system.consumerAt (.idle (some (.failed .eoverflow)))
      | _ => system.consumerAt (.waitProducerStatus expected)
  | .waitProducerStatus expected =>
      if system.ring.producerStatus < 0 then
        system.consumerAt (.idle (some (.peerFailed system.ring.producerStatus)))
      else system.consumerAt (.waitConsumerStatus expected)
  | .waitConsumerStatus expected =>
      if system.ring.consumerStatus < 0 then
        system.consumerAt (.idle (some (.peerFailed system.ring.consumerStatus)))
      else system.consumerAt (.scanState expected 0 false)
  | .scanState expected candidate again =>
      if candidate < system.ring.slotCount then
        if system.ring.slotState candidate = .presented then
          system.consumerAt (.scanSequence expected candidate again)
        else system.consumerAt (.scanState expected (candidate + 1) again)
      else if again then system.consumerAt (.idle (some (.failed .eproto)))
      else system.consumerAt (.loadProduced expected)
  | .scanSequence expected candidate again =>
      if system.ring.slotSequence candidate = expected then
        system.consumerAt (.idle (some (.received candidate expected)))
      else system.consumerAt (.scanState expected (candidate + 1) again)
  | .loadProduced expected =>
      if expected ≤ system.ring.producerSequence then system.consumerAt (.scanState expected 0 true)
      else system.consumerAt (.presentWait expected system.ring.producerSequence)
  | .presentWait expected observed =>
      match choice with
      | .clockFails => system.consumerAt (.idle (some (.failed .eio)))
      | .expired => system.consumerAt (.idle (some (.failed .etimedout)))
      | _ =>
          if system.ring.producerSequence = observed then system.consumerAt (.presentParked expected)
          else system.consumerAt (.waitProducerStatus expected)
  | .presentParked expected =>
      match choice with
      | .expired => system.consumerAt (.idle (some (.failed .etimedout)))
      | .interrupted => system.consumerAt (.waitProducerStatus expected)
      | _ => system
  | .releaseProducerStatus slot sequence =>
      if system.ring.producerStatus < 0 then
        system.consumerAt (.idle (some (.peerFailed system.ring.producerStatus)))
      else system.consumerAt (.releaseConsumerStatus slot sequence)
  | .releaseConsumerStatus slot sequence =>
      if system.ring.consumerStatus < 0 then
        system.consumerAt (.idle (some (.peerFailed system.ring.consumerStatus)))
      else system.consumerAt (.checkSlotSequence slot sequence)
  | .checkSlotSequence slot sequence =>
      if system.ring.slotSequence slot ≠ sequence then system.consumerAt (.idle (some (.failed .estale)))
      else system.consumerAt (.checkConsumerSequence slot sequence)
  | .checkConsumerSequence slot sequence =>
      -- the sum is one of 32-bit words
      if (system.ring.consumerSequence + 1) % 2 ^ 32 ≠ sequence then
        system.consumerAt (.idle (some (.failed .estale)))
      else system.consumerAt (.clearSlotSequence slot sequence)
  | .clearSlotSequence slot sequence => (system.setSlotSequence slot 0).consumerAt (.free slot sequence)
  | .free slot sequence =>
      if system.ring.slotState slot = .presented then
        (system.setSlotState slot .available).consumerAt (.storeConsumerSequence slot sequence)
      else system.consumerAt (.idle (some (.failed .eproto)))
  | .storeConsumerSequence slot sequence =>
      { system with ring := { system.ring with consumerSequence := sequence } }.consumerAt
        (.wakeProducer slot sequence)
  | .wakeProducer slot sequence => system.wakeConsumerWord.consumerAt (.idle (some (.released slot sequence)))

/-- The next step of `publish_failure` on the producer's status word; a new one
begins only with a negative status. -/
def failProducerStep (status : Int) : FrameSystem :=
  match system.producerFailure with
  | .wakeProducerWord => { system.wakeProducerWord with producerFailure := .wakeConsumerWord }
  | .wakeConsumerWord => { system.wakeConsumerWord with producerFailure := .quiet, producerAlarm := true }
  | .quiet =>
      if status ≥ 0 then system
      else
        { system with
          ring := { system.ring with producerStatus := status }
          producerFailure := .wakeProducerWord }

def failConsumerStep (status : Int) : FrameSystem :=
  match system.consumerFailure with
  | .wakeProducerWord => { system.wakeProducerWord with consumerFailure := .wakeConsumerWord }
  | .wakeConsumerWord => { system.wakeConsumerWord with consumerFailure := .quiet, consumerAlarm := true }
  | .quiet =>
      if status ≥ 0 then system
      else
        { system with
          ring := { system.ring with consumerStatus := status }
          consumerFailure := .wakeProducerWord }

end FrameSystem

inductive FrameMove where
  | producer (choice : WaitChoice) (call : ProducerCall)
  | consumer (choice : WaitChoice) (call : ConsumerCall)
  | failProducer (status : Int)
  | failConsumer (status : Int)

def FrameSystem.step (system : FrameSystem) : FrameMove → FrameSystem
  | .producer choice call => system.producerStep choice call
  | .consumer choice call => system.consumerStep choice call
  | .failProducer status => system.failProducerStep status
  | .failConsumer status => system.failConsumerStep status

end VulkanBridge
