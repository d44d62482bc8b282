import VulkanBridge.Bytes
import VulkanBridge.Handle
import VulkanBridge.Runs

/-!
The descriptor transaction ring: one client in `call`, one worker in
`wait_request`, serve and `complete`, and the threads that publish a failure.
Every load, store and system call of the source is a step of its own; the words
are natural numbers below 2^32.
-/

namespace VulkanBridge

open ByteBuffer

def ringRequestBytes : Nat := 176
def ringResponseBytes : Nat := 136

inductive RingSlotState where
  | available
  | requested
  | completed
  deriving DecidableEq, Repr

inductive RingWaitState where
  | idle
  | spinning
  | sleeping
  deriving DecidableEq, Repr

structure RingSlot where
  state : RingSlotState
  sequence : Nat
  status : Int
  requestLength : Nat
  responseLength : Nat
  request : Buffer
  response : Buffer

/-- `memset(slot, 0, sizeof(*slot))`. -/
def RingSlot.zero : RingSlot := ⟨.available, 0, 0, 0, 0, zeroed, zeroed⟩

structure DescriptorRing where
  slotCount : Nat
  slots : Nat → RingSlot
  requestSequence : Nat
  completionSequence : Nat
  clientStatus : Int
  serviceStatus : Int
  nextSlot : Nat
  requestWaitState : RingWaitState
  completionWaitState : RingWaitState

def DescriptorRing.setSlot (ring : DescriptorRing) (index : Nat) (slot : RingSlot) : DescriptorRing :=
  { ring with slots := Function.update ring.slots index slot }

def messageBytes (message : List UInt8) : Buffer := fun index => message.getD index 0

def messageAt (buffer : Buffer) (length : Nat) : List UInt8 := (List.range length).map buffer

/-- How `wait_for_sequence` returns. -/
inductive WaitEnd where
  | reached
  | peerFailed (status : Int)
  | failed (code : Errno)
  deriving DecidableEq, Repr

/-- Where a party stands in `wait_for_sequence`: the entry, the spin loop, the
sleep loop, and the store of the idle state before the return. -/
inductive WaitPoint where
  | entryClientStatus
  | entryServiceStatus
  | entryWord
  | entryClock
  | storeSpinning
  | spinClientStatus
  | spinServiceStatus
  | spinWord
  | relax
  | storeSleeping
  | sleepClientStatus
  | sleepServiceStatus
  | sleepWord
  | futexWait (observed : Nat)
  | parked
  | storeIdle (outcome : WaitEnd)
  deriving DecidableEq, Repr

inductive WaitChoice where
  | proceed
  | clockFails
  | clockOverflows
  | expired
  | interrupted
  deriving DecidableEq, Repr

inductive WaitNext where
  | stands (point : WaitPoint)
  | returns (outcome : WaitEnd)
  deriving DecidableEq, Repr

/-- What a waiter reads: the status words, the word it waits on and the value it expects. -/
structure WaitView where
  clientStatus : Int
  serviceStatus : Int
  word : Nat
  expected : Nat

/-- The step of a waiter: the wait state after it and where the waiter goes. -/
def WaitPoint.step (view : WaitView) (choice : WaitChoice) (state : RingWaitState) :
    WaitPoint → RingWaitState × WaitNext
  | .entryClientStatus =>
      (state, if view.clientStatus < 0 then .returns (.peerFailed view.clientStatus)
        else .stands .entryServiceStatus)
  | .entryServiceStatus =>
      (state, if view.serviceStatus < 0 then .returns (.peerFailed view.serviceStatus)
        else .stands .entryWord)
  | .entryWord => (state, if view.expected ≤ view.word then .returns .reached else .stands .entryClock)
  | .entryClock => (state, if choice = .clockFails then .returns (.failed .eio) else .stands .storeSpinning)
  | .storeSpinning => (.spinning, .stands .spinClientStatus)
  | .spinClientStatus =>
      (state, .stands (if view.clientStatus < 0 then .storeIdle (.peerFailed view.clientStatus)
        else .spinServiceStatus))
  | .spinServiceStatus =>
      (state, .stands (if view.serviceStatus < 0 then .storeIdle (.peerFailed view.serviceStatus)
        else .spinWord))
  | .spinWord => (state, .stands (if view.expected ≤ view.word then .storeIdle .reached else .relax))
  | .relax =>
      (state, .stands (match choice with
        | .clockFails => .storeIdle (.failed .eio)
        | .expired => .storeSleeping
        | _ => .spinClientStatus))
  | .storeSleeping => (.sleeping, .stands .sleepClientStatus)
  | .sleepClientStatus =>
      (state, .stands (if view.clientStatus < 0 then .storeIdle (.peerFailed view.clientStatus)
        else .sleepServiceStatus))
  | .sleepServiceStatus =>
      (state, .stands (if view.serviceStatus < 0 then .storeIdle (.peerFailed view.serviceStatus)
        else .sleepWord))
  | .sleepWord =>
      (state, .stands (if view.expected ≤ view.word then .storeIdle .reached else .futexWait view.word))
  | .futexWait observed =>
      (state, .stands (match choice with
        | .clockFails => .storeIdle (.failed .eio)
        | .expired => .storeIdle (.failed .etimedout)
        -- the kernel compares the word and parks in one step
        | _ => if view.word = observed then .parked else .sleepClientStatus))
  | .parked =>
      (state, .stands (match choice with
        | .expired => .storeIdle (.failed .etimedout)
        | .interrupted => .sleepClientStatus
        | _ => .parked))
  | .storeIdle outcome => (.idle, .returns outcome)

/-- A wake on the word takes a parked waiter out of the wait. -/
def WaitPoint.woken : WaitPoint → WaitPoint
  | .parked => .sleepClientStatus
  | point => point

inductive CallEnd where
  | peerFailed (status : Int)
  | failed (code : Errno)
  | completed (status : Int)
  deriving DecidableEq, Repr

inductive ClientPoint where
  | idle
  | clientStatus
  | serviceStatus
  | slotState
  | clearSlot
  | copyRequest
  | storeLength
  | storeSequence
  | storeRequested
  | storeRequestSequence
  | loadWaitState
  | wake
  | deadline
  | waiting (point : WaitPoint)
  | checkSequence
  | checkState
  | checkLength
  | checkStatus
  | copyResponse
  | releaseSlot
  | storeAvailable
  | storeNextSlot
  | ended (how : CallEnd)
  deriving DecidableEq, Repr

structure RingClient where
  point : ClientPoint
  sequence : Nat
  request : List UInt8
  response : List UInt8

inductive WorkerPoint where
  | loop
  | waiting (point : WaitPoint)
  | checkSequence
  | checkState
  | checkLength
  | copyRequest
  | serve
  | completeSequence
  | completeState
  | storeStatus
  | storeLength
  | copyResponse
  | storeCompleted
  | storeCompletionSequence
  | loadWaitState
  | wake
  | advance
  | ended (code : Option Errno)
  deriving DecidableEq, Repr

structure RingWorker where
  point : WorkerPoint
  afterSequence : Nat
  request : List UInt8
  status : Int
  response : List UInt8

/-- Where `fail_peer` stands after the store of the status. -/
inductive FailPoint where
  | quiet
  | wakeRequest
  | wakeCompletion
  deriving DecidableEq, Repr

structure IssuedCall where
  sequence : Nat
  request : List UInt8
  deriving DecidableEq, Repr

structure ServedCall where
  sequence : Nat
  request : List UInt8
  status : Int
  response : List UInt8
  deriving DecidableEq, Repr

structure ReturnedCall where
  sequence : Nat
  response : List UInt8
  deriving DecidableEq, Repr

/-- The ring, its parties, and what was issued, served and returned so far. An
alarm is set once a party has published a failure and made its wakes. -/
structure RingSystem where
  ring : DescriptorRing
  client : RingClient
  worker : RingWorker
  clientFailure : FailPoint
  serviceFailure : FailPoint
  clientAlarm : Bool
  serviceAlarm : Bool
  issued : List IssuedCall
  served : List ServedCall
  returned : List ReturnedCall

namespace RingSystem

variable (system : RingSystem)

def initial (slotCount : Nat) : RingSystem :=
  { ring := ⟨slotCount, fun _ => .zero, 0, 0, 0, 0, 0, .idle, .idle⟩
    client := ⟨.idle, 0, [], []⟩
    worker := ⟨.loop, 0, [], 0, []⟩
    clientFailure := .quiet
    serviceFailure := .quiet
    clientAlarm := false
    serviceAlarm := false
    issued := []
    served := []
    returned := [] }

def clientIndex : Nat := (system.client.sequence - 1) % system.ring.slotCount
def workerIndex : Nat := system.worker.afterSequence % system.ring.slotCount

def clientSlot : RingSlot := system.ring.slots system.clientIndex
def workerSlot : RingSlot := system.ring.slots system.workerIndex

def clientAt (point : ClientPoint) : RingSystem := { system with client := { system.client with point := point } }
def workerAt (point : WorkerPoint) : RingSystem := { system with worker := { system.worker with point := point } }

def setClientSlot (slot : RingSlot) : RingSystem :=
  { system with ring := system.ring.setSlot system.clientIndex slot }
def setWorkerSlot (slot : RingSlot) : RingSystem :=
  { system with ring := system.ring.setSlot system.workerIndex slot }

/-- `futex_wake(&ring->request_sequence)` and `futex_wake(&ring->completion_sequence)`. -/
def wakeRequest : RingSystem :=
  match system.worker.point with
  | .waiting point => system.workerAt (.waiting point.woken)
  | _ => system

def wakeCompletion : RingSystem :=
  match system.client.point with
  | .waiting point => system.clientAt (.waiting point.woken)
  | _ => system

def clientView : WaitView :=
  { clientStatus := system.ring.clientStatus
    serviceStatus := system.ring.serviceStatus
    word := system.ring.completionSequence
    expected := system.client.sequence }

def workerView : WaitView :=
  { clientStatus := system.ring.clientStatus
    serviceStatus := system.ring.serviceStatus
    word := system.ring.requestSequence
    expected := system.worker.afterSequence + 1 }

def clientWaitStep (choice : WaitChoice) (point : WaitPoint) : RingSystem :=
  let (state, next) := point.step system.clientView choice system.ring.completionWaitState
  let system := { system with ring := { system.ring with completionWaitState := state } }
  system.clientAt (match next with
    | .stands point => .waiting point
    | .returns .reached => .checkSequence
    | .returns (.peerFailed status) => .ended (.peerFailed status)
    | .returns (.failed code) => .ended (.failed code))

/-- `-ETIMEDOUT` as a peer may publish it. -/
def timedOutStatus : Int := -110

/-- A result `-ETIMEDOUT` only starts the worker's loop again. -/
def workerWaitStep (choice : WaitChoice) (point : WaitPoint) : RingSystem :=
  let (state, next) := point.step system.workerView choice system.ring.requestWaitState
  let system := { system with ring := { system.ring with requestWaitState := state } }
  system.workerAt (match next with
    | .stands point => .waiting point
    | .returns .reached => .checkSequence
    | .returns (.peerFailed status) => if status = timedOutStatus then .loop else .ended none
    | .returns (.failed code) => if code = .etimedout then .loop else .ended (some code))

/-- The next step of `bvb_descriptor_transaction_ring_call`. Between two calls a
new one begins with the next sequence, as long as that is a 32-bit word. -/
def clientStep (choice : WaitChoice) (request : List UInt8) : RingSystem :=
  match system.client.point with
  | .idle =>
      if system.client.sequence + 1 < 2 ^ 32 then
        let client := { system.client with sequence := system.client.sequence + 1, request := request }
        if request.length = 0 ∨ request.length > ringRequestBytes then
          { system with client := client }.clientAt (.ended (.failed .einval))
        else
          { system with
            client := client
            issued := system.issued ++ [IssuedCall.mk client.sequence request] }.clientAt .clientStatus
      else system
  | .clientStatus =>
      if system.ring.clientStatus < 0 then system.clientAt (.ended (.peerFailed system.ring.clientStatus))
      else system.clientAt .serviceStatus
  | .serviceStatus =>
      if system.ring.serviceStatus < 0 then system.clientAt (.ended (.peerFailed system.ring.serviceStatus))
      else system.clientAt .slotState
  | .slotState =>
      if system.clientSlot.state ≠ .available then system.clientAt (.ended (.failed .ebusy))
      else system.clientAt .clearSlot
  | .clearSlot => (system.setClientSlot .zero).clientAt .copyRequest
  | .copyRequest =>
      (system.setClientSlot { system.clientSlot with
        request := copyInto system.clientSlot.request 0 (messageBytes system.client.request)
          system.client.request.length }).clientAt .storeLength
  | .storeLength =>
      (system.setClientSlot { system.clientSlot with
        requestLength := system.client.request.length }).clientAt .storeSequence
  | .storeSequence =>
      (system.setClientSlot { system.clientSlot with sequence := system.client.sequence }).clientAt
        .storeRequested
  | .storeRequested =>
      (system.setClientSlot { system.clientSlot with state := .requested }).clientAt .storeRequestSequence
  | .storeRequestSequence =>
      { system with ring := { system.ring with requestSequence := system.client.sequence } }.clientAt
        .loadWaitState
  | .loadWaitState =>
      system.clientAt (if system.ring.requestWaitState = .sleeping then .wake else .deadline)
  | .wake => system.wakeRequest.clientAt .deadline
  | .deadline =>
      match choice with
      | .clockFails => system.clientAt (.ended (.failed .eio))
      | .clockOverflows => system.clientAt (.ended (.failed .eoverflow))
      | _ => system.clientAt (.waiting .entryClientStatus)
  | .waiting point => system.clientWaitStep choice point
  | .checkSequence =>
      if system.clientSlot.sequence ≠ system.client.sequence then
        system.clientAt (.ended (.failed .eproto))
      else system.clientAt .checkState
  | .checkState =>
      if system.clientSlot.state ≠ .completed then system.clientAt (.ended (.failed .eproto))
      else system.clientAt .checkLength
  | .checkLength =>
      if system.clientSlot.responseLength > ringResponseBytes then system.clientAt (.ended (.failed .eproto))
      else system.clientAt .checkStatus
  | .checkStatus =>
      if system.clientSlot.status ≠ 0 then system.clientAt (.ended (.completed system.clientSlot.status))
      else system.clientAt .copyResponse
  | .copyResponse =>
      { system with client := { system.client with
        response := messageAt system.clientSlot.response system.clientSlot.responseLength
        point := .releaseSlot } }
  | .releaseSlot => (system.setClientSlot .zero).clientAt .storeAvailable
  | .storeAvailable =>
      (system.setClientSlot { system.clientSlot with state := .available }).clientAt .storeNextSlot
  | .storeNextSlot =>
      { system with
        ring := { system.ring with nextSlot := (system.clientIndex + 1) % system.ring.slotCount }
        returned := system.returned ++ [ReturnedCall.mk system.client.sequence system.client.response] }.clientAt .idle
  | .ended _ => system

/-- The next step of the worker's loop; `reply` is the status and the response
that serving the request gives, `stop` whether the loop is told to stop. -/
def workerStep (choice : WaitChoice) (stop : Bool) (reply : Int × List UInt8) : RingSystem :=
  match system.worker.point with
  | .loop =>
      if stop then system.workerAt (.ended none)
      else if system.worker.afterSequence = 2 ^ 32 - 1 then system.workerAt (.ended (some .einval))
      else
        match choice with
        | .clockFails => system.workerAt (.ended (some .eio))
        | .clockOverflows => system.workerAt (.ended (some .eoverflow))
        | _ => system.workerAt (.waiting .entryClientStatus)
  | .waiting point => system.workerWaitStep choice point
  | .checkSequence =>
      if system.workerSlot.sequence ≠ system.worker.afterSequence + 1 then
        system.workerAt (.ended (some .eproto))
      else system.workerAt .checkState
  | .checkState =>
      if system.workerSlot.state ≠ .requested then system.workerAt (.ended (some .eproto))
      else system.workerAt .checkLength
  | .checkLength =>
      if system.workerSlot.requestLength = 0 ∨ system.workerSlot.requestLength > ringRequestBytes then
        system.workerAt (.ended (some .eproto))
      else system.workerAt .copyRequest
  | .copyRequest =>
      { system with worker := { system.worker with
        request := messageAt system.workerSlot.request system.workerSlot.requestLength
        point := .serve } }
  | .serve =>
      let system := { system with
        worker := { system.worker with status := reply.1, response := reply.2 }
        served := system.served ++
          [ServedCall.mk (system.worker.afterSequence + 1) system.worker.request reply.1 reply.2] }
      if reply.1 > 0 ∨ reply.2.length > ringResponseBytes ∨ reply.1 ≠ 0 ∧ reply.2.length ≠ 0 then
        system.workerAt (.ended (some .einval))
      else system.workerAt .completeSequence
  | .completeSequence =>
      if system.workerSlot.sequence ≠ system.worker.afterSequence + 1 then
        system.workerAt (.ended (some .estale))
      else system.workerAt .completeState
  | .completeState =>
      if system.workerSlot.state ≠ .requested then system.workerAt (.ended (some .estale))
      else system.workerAt .storeStatus
  | .storeStatus =>
      (system.setWorkerSlot { system.workerSlot with status := system.worker.status }).workerAt .storeLength
  | .storeLength =>
      (system.setWorkerSlot { system.workerSlot with
        responseLength := system.worker.response.length }).workerAt .copyResponse
  | .copyResponse =>
      (system.setWorkerSlot { system.workerSlot with
        response := copyInto system.workerSlot.response 0 (messageBytes system.worker.response)
          system.worker.response.length }).workerAt .storeCompleted
  | .storeCompleted =>
      (system.setWorkerSlot { system.workerSlot with state := .completed }).workerAt .storeCompletionSequence
  | .storeCompletionSequence =>
      { system with ring := { system.ring with
        completionSequence := system.worker.afterSequence + 1 } }.workerAt .loadWaitState
  | .loadWaitState =>
      system.workerAt (if system.ring.completionWaitState = .sleeping then .wake else .advance)
  | .wake => system.wakeCompletion.workerAt .advance
  | .advance =>
      { system with worker := { system.worker with
        afterSequence := system.worker.afterSequence + 1, point := .loop } }
  | .ended _ => system

/-- The next step of `fail_peer` on the client's status word; a new one begins
only with a negative status. -/
def failClientStep (status : Int) : RingSystem :=
  match system.clientFailure with
  | .wakeRequest => { system.wakeRequest with clientFailure := .wakeCompletion }
  | .wakeCompletion => { system.wakeCompletion with clientFailure := .quiet, clientAlarm := true }
  | .quiet =>
      if status ≥ 0 then system
      else { system with ring := { system.ring with clientStatus := status }, clientFailure := .wakeRequest }

def failServiceStep (status : Int) : RingSystem :=
  match system.serviceFailure with
  | .wakeRequest => { system.wakeRequest with serviceFailure := .wakeCompletion }
  | .wakeCompletion => { system.wakeCompletion with serviceFailure := .quiet, serviceAlarm := true }
  | .quiet =>
      if status ≥ 0 then system
      else { system with ring := { system.ring with serviceStatus := status }, serviceFailure := .wakeRequest }

end RingSystem

/-- Which thread makes its next step, with what the step finds. -/
inductive RingMove where
  | client (choice : WaitChoice) (request : List UInt8)
  | worker (choice : WaitChoice) (stop : Bool) (reply : Int × List UInt8)
  | failClient (status : Int)
  | failService (status : Int)

def RingSystem.step (system : RingSystem) : RingMove → RingSystem
  | .client choice request => system.clientStep choice request
  | .worker choice stop reply => system.workerStep choice stop reply
  | .failClient status => system.failClientStep status
  | .failService status => system.failServiceStep status

end VulkanBridge
