import VulkanBridge.Protocol
import VulkanBridge.CommandBatch
import VulkanBridge.Lifecycle

/-!
The visible ingress: the worker of `visible_ingress.c` takes one request after
the other, checks its batch (`visible_batch.c`) and hands it over to the consumer,
who returns a status for it. Each section under the mutex is one step.
-/

namespace VulkanBridge

open ByteBuffer

def opcodeVisibleBatchSetup : UInt16 := 8
def opcodeVisibleBatchExecute : UInt16 := 9
def opcodeVisibleBatchInline : UInt16 := 10
def sharedBatchMinBytes : Nat := 4096
def sharedBatchMaxBytes : Nat := 16 * 1024 * 1024
def visibleBatchSetupSize : Nat := 48
def visibleBatchExecuteSize : Nat := 56

inductive BatchSource where
  | payload (bytes : Buffer)
  | region (offset : Nat)

structure VisibleBatch where
  source : BatchSource
  length : Nat
  sequence : UInt64

structure VisibleBatchRegion where
  mapped : Bool
  length : Nat
  generation : UInt64
  lastSequence : UInt64
  token : Buffer

def tokenIsNonzero (token : Buffer) : Bool :=
  (List.range lifecycleTokenSize).foldl (fun combined index => combined ||| token index) (0 : UInt8) != 0

structure SharedBatchSetup where
  regionBytes : UInt32
  generation : UInt64

structure SharedBatchExecute where
  generation : UInt64
  offset : UInt32
  length : UInt32
  sequence : UInt64

def encodeSharedBatchSetup (output : Buffer) (at_ : Nat) (setup : SharedBatchSetup) : Except Errno Buffer :=
  if setup.generation = 0 ∨ setup.regionBytes.toNat < sharedBatchMinBytes ∨
      setup.regionBytes.toNat > sharedBatchMaxBytes then .error .einval
  else
    let output := putU32 output at_ setup.regionBytes
    let output := putU32 output (at_ + 4) 0
    .ok (putU64 output (at_ + 8) setup.generation)

def decodeSharedBatchSetup (input : Buffer) (at_ : Nat) : Except Errno SharedBatchSetup :=
  let decoded : SharedBatchSetup := ⟨getU32 input at_, getU64 input (at_ + 8)⟩
  if getU32 input (at_ + 4) ≠ 0 ∨ decoded.generation = 0 ∨ decoded.regionBytes.toNat < sharedBatchMinBytes ∨
      decoded.regionBytes.toNat > sharedBatchMaxBytes then .error .eproto
  else .ok decoded

def decodeSharedBatchExecute (input : Buffer) (at_ : Nat) : Except Errno SharedBatchExecute :=
  let decoded : SharedBatchExecute :=
    ⟨getU64 input at_, getU32 input (at_ + 8), getU32 input (at_ + 12), getU64 input (at_ + 16)⟩
  if decoded.generation = 0 ∨ decoded.length.toNat < 32 ∨ decoded.length.toNat > commandBatchMaxBytes ∨
      decoded.sequence = 0 then .error .eproto
  else .ok decoded

def encodeVisibleBatchSetup (token : Buffer) (setup : SharedBatchSetup) : Except Errno Buffer :=
  if !tokenIsNonzero token then .error .einval
  else
    (encodeSharedBatchSetup zeroed lifecycleTokenSize setup).map fun output =>
      copyInto output 0 token lifecycleTokenSize

def decodeVisibleBatchSetup (input : Buffer) : Except Errno (Buffer × SharedBatchSetup) :=
  if !tokenIsNonzero input then .error .eproto
  else (decodeSharedBatchSetup input lifecycleTokenSize).map (input, ·)

def decodeVisibleBatchExecute (input : Buffer) : Except Errno (Buffer × SharedBatchExecute) :=
  if !tokenIsNonzero input then .error .eproto
  else (decodeSharedBatchExecute input lifecycleTokenSize).map (input, ·)

structure MemoryFile where
  valid : Bool
  status : Except Errno (Bool × Nat)
  seals : Except Errno (Bool × Bool)
  mapping : Option Errno

namespace VisibleBatchRegion

def init (token : Buffer) : Except Errno VisibleBatchRegion :=
  if !tokenIsNonzero token then .error .einval else .ok ⟨false, 0, 0, 0, token⟩

def setup (region : VisibleBatchRegion) (payload : Buffer) (payloadLength : Nat) (file : MemoryFile) :
    Except Errno VisibleBatchRegion :=
  if payloadLength ≠ visibleBatchSetupSize ∨ !file.valid then .error .einval
  else if region.mapped then .error .ealready
  else
    match decodeVisibleBatchSetup payload with
    | .error code => .error code
    | .ok (token, shared) =>
        if !tokenMatches region.token token then .error .eacces
        else
          match file.status with
          | .error code => .error code
          | .ok (regular, size) =>
              if !regular ∨ size ≠ shared.regionBytes.toNat then .error .einval
              else
                match file.seals with
                | .error code => .error code
                | .ok (grow, shrink) =>
                    if !(grow && shrink) then .error .eperm
                    else
                      match file.mapping with
                      | some code => .error code
                      | none =>
                          .ok { region with
                            mapped := true
                            length := shared.regionBytes.toNat
                            generation := shared.generation }

/-- `bvb_visible_batch_region_execute` over the bytes of the region. -/
def execute (region : VisibleBatchRegion) (memory payload : Buffer) (payloadLength : Nat) :
    Except Errno (VisibleBatch × VisibleBatchRegion) :=
  if payloadLength ≠ visibleBatchExecuteSize then .error .einval
  else if !region.mapped then .error .enxio
  else
    match decodeVisibleBatchExecute payload with
    | .error code => .error code
    | .ok (token, shared) =>
        if !tokenMatches region.token token then .error .eacces
        else if shared.generation ≠ region.generation then .error .estale
        else if shared.sequence ≤ region.lastSequence then .error .ealready
        else if shared.offset.toNat > region.length ∨ shared.length.toNat > region.length - shared.offset.toNat then
          .error .erange
        else
          match commandBatchValidate (window memory shared.offset.toNat shared.length.toNat) shared.length.toNat with
          | .error code => .error code
          | .ok info =>
              if info.sequence ≠ shared.sequence then .error .eproto
              else
                .ok (⟨.region shared.offset.toNat, shared.length.toNat, shared.sequence⟩,
                  { region with lastSequence := shared.sequence })

end VisibleBatchRegion

def visibleBatchInlineDecode (token payload : Buffer) (payloadLength : Nat) : Except Errno VisibleBatch :=
  if payloadLength < lifecycleTokenSize + 32 ∨ payloadLength > protocolMaxPayload then .error .einval
  else if !tokenMatches token payload then .error .eacces
  else
    let length := payloadLength - lifecycleTokenSize
    let candidate := window payload lifecycleTokenSize length
    match commandBatchValidate candidate length with
    | .error code => .error code
    | .ok info => .ok ⟨.payload candidate, length, info.sequence⟩

structure IngressRequest where
  version : UInt16
  kind : UInt16
  opcode : UInt16
  requestId : UInt32
  payloadLength : UInt32
  status : Int32
  payload : Buffer

/-- `request_status` -/
def IngressRequest.check (request : IngressRequest) (opcode : UInt16) (payloadLength : Nat) : Except Errno Unit :=
  if request.version ≠ protocolVersion ∨ request.kind ≠ protocolRequest ∨ request.opcode ≠ opcode ∨
      request.status ≠ 0 ∨ request.payloadLength.toNat ≠ payloadLength then .error .eproto
  else .ok ()

/-- A batch handed over, with the number of the hand-over, which the code does not keep. -/
structure Submission where
  ticket : Nat
  batch : VisibleBatch

structure VisibleIngress where
  stop : Bool
  accepting : Bool
  batchReady : Bool
  batchClaimed : Bool
  batchCompleted : Bool
  completionPendingResponse : Bool
  brokeredRegionReady : Bool
  batchStatus : Int
  batch : Option Submission
  loopback : Bool
  token : Buffer
  brokeredRegion : VisibleBatchRegion

namespace VisibleIngress

variable (ingress : VisibleIngress)

def create (loopback : Bool) (token : Buffer) : VisibleIngress where
  stop := false
  accepting := true
  batchReady := false
  batchClaimed := false
  batchCompleted := false
  completionPendingResponse := false
  brokeredRegionReady := false
  batchStatus := 0
  batch := none
  loopback := loopback
  token := token
  brokeredRegion := ⟨false, 0, 0, 0, zeroed⟩

/-- `submit_batch` up to its wait. -/
def submit (submission : Submission) : Except Errno VisibleIngress :=
  if ingress.stop then .error .ecanceled
  else if !ingress.accepting then .error .eagain
  else if ingress.batchReady then .error .ebusy
  else
    .ok { ingress with
      batch := some submission
      batchReady := true
      batchClaimed := false
      batchCompleted := false
      batchStatus := 0 }

/-- `submit_batch` behind its wait: the result and the state left. -/
def resume : Int × VisibleIngress :=
  (if ingress.stop then Errno.ecanceled.status else ingress.batchStatus,
    { ingress with
      batch := none
      batchReady := false
      batchClaimed := false
      batchCompleted := false
      batchStatus := 0 })

/-- The region that `bvb_visible_ingress_install_region` sets up. -/
def candidateRegion (file : MemoryFile) (regionBytes generation : UInt64) : Except Errno VisibleBatchRegion :=
  match VisibleBatchRegion.init ingress.token with
  | .error code => .error code
  | .ok region =>
      match encodeVisibleBatchSetup ingress.token ⟨regionBytes.toUInt32, generation⟩ with
      | .error code => .error code
      | .ok payload => region.setup payload visibleBatchSetupSize file

/-- `bvb_visible_ingress_install_region` -/
def installRegion (file : MemoryFile) (regionBytes generation : UInt64) : Except Errno VisibleIngress :=
  if !file.valid ∨ regionBytes = 0 ∨ generation = 0 then .error .einval
  else if !ingress.loopback then .error .enotsup
  else
    match ingress.candidateRegion file regionBytes generation with
    | .error code => .error code
    | .ok candidate =>
        if ingress.stop then .error .ecanceled
        else if ingress.brokeredRegionReady then .error .ealready
        else .ok { ingress with brokeredRegion := candidate, brokeredRegionReady := true }

/-- `complete_batch` -/
def complete (status : Int) (acceptNext : Bool) : Except Errno VisibleIngress :=
  if status > 0 then .error .einval
  else if !ingress.batchReady || !ingress.batchClaimed || ingress.batchCompleted then .error .einval
  else
    .ok { ingress with
      batchStatus := status
      batchCompleted := true
      completionPendingResponse := true
      accepting := acceptNext && status == 0 }

end VisibleIngress

inductive IngressWorker where
  | accepting
  | receiving
  | receivingSetup
  | respondingSetup (region : Option VisibleBatchRegion)
  | receivingExecute (region : VisibleBatchRegion)
  | submitting (request : IngressRequest) (batch : VisibleBatch)
  | blocked (request : IngressRequest) (submission : Submission)
  | responding (request : IngressRequest) (submission : Option Submission) (result : Int)
  | clearing (more : Bool)
  | closing
  | exited

inductive IngressConsumer where
  | free
  | waiting
  | draining
  | stopped

inductive IngressEvent where
  | submitted (submission : Submission) (requestId : UInt32)
  | returned (submission : Submission)
  | completed (ticket : Nat) (status : Int)
  | stopped
  | resumed (ticket : Nat)
  | answered (ticket : Option Nat) (requestId : UInt32) (status : Int)

structure IngressSystem where
  ingress : VisibleIngress
  worker : IngressWorker
  consumer : IngressConsumer
  memory : Buffer
  tickets : Nat
  log : List IngressEvent

inductive ConditionWait where
  | woken
  | timedOut
  | failed

inductive IngressInput where
  | connect (configured : Bool)
  | receive (request : Option IngressRequest)
  | receiveSetup (request : Option IngressRequest) (file : MemoryFile)
  | receiveExecute (request : Option IngressRequest) (memory : Buffer)
  | submit
  | wake
  | respond (sent : Bool)
  | clear
  | close
  | write (memory : Buffer)
  | install (file : MemoryFile) (regionBytes generation : UInt64)
  | waitBatch
  | waitEnd (how : ConditionWait)
  | complete (status : Int) (acceptNext : Bool)
  | destroy
  | drainEnd (how : ConditionWait)

namespace IngressSystem

variable (system : IngressSystem)

def create (loopback : Bool) (token memory : Buffer) : IngressSystem :=
  ⟨.create loopback token, .accepting, .free, memory, 0, []⟩

/-- `accept4`: the worker leaves when the ingress stops. -/
def connect (configured : Bool) : IngressSystem :=
  if system.ingress.stop then { system with worker := .exited }
  else if !configured then { system with worker := .closing }
  else { system with worker := if system.ingress.loopback then .receiving else .receivingSetup }

def loopbackBatch (request : IngressRequest) : Except Errno (VisibleBatch × VisibleIngress) :=
  if request.opcode = opcodeVisibleBatchInline then
    if request.version ≠ protocolVersion ∨ request.kind ≠ protocolRequest ∨ request.status ≠ 0 then .error .eproto
    else
      (visibleBatchInlineDecode system.ingress.token request.payload request.payloadLength.toNat).map
        (·, system.ingress)
  else if request.opcode = opcodeVisibleBatchExecute then
    match request.check opcodeVisibleBatchExecute visibleBatchExecuteSize with
    | .error code => .error code
    | .ok _ =>
        if !system.ingress.brokeredRegionReady then .error .enxio
        else
          (system.ingress.brokeredRegion.execute system.memory request.payload request.payloadLength.toNat).map
            fun (batch, region) => (batch, { system.ingress with brokeredRegion := region })
  else .error .eproto

/-- `process_inline_connection` up to the hand-over. -/
def receive : Option IngressRequest → IngressSystem
  | none => { system with worker := .closing }
  | some request =>
      match system.loopbackBatch request with
      | .error code => { system with worker := .responding request none code.status }
      | .ok (batch, ingress) => { system with ingress := ingress, worker := .submitting request batch }

/-- The first exchange of `process_shared_connection`. -/
def receiveSetup (file : MemoryFile) : Option IngressRequest → IngressSystem
  | none => { system with worker := .closing }
  | some request =>
      match VisibleBatchRegion.init system.ingress.token with
      | .error _ => { system with worker := .closing }
      | .ok region =>
          match request.check opcodeVisibleBatchSetup visibleBatchSetupSize with
          | .error _ =>
              { system with
                worker := if request.opcode = opcodeVisibleBatchSetup then .respondingSetup none else .closing }
          | .ok _ =>
              match region.setup request.payload request.payloadLength.toNat file with
              | .error _ => { system with worker := .respondingSetup none }
              | .ok region => { system with worker := .respondingSetup (some region) }

def receiveExecute (region : VisibleBatchRegion) (memory : Buffer) : Option IngressRequest → IngressSystem
  | none => { system with worker := .closing }
  | some request =>
      match request.check opcodeVisibleBatchExecute visibleBatchExecuteSize with
      | .error code =>
          { system with
            worker := if request.opcode = opcodeVisibleBatchExecute then .responding request none code.status
              else .closing }
      | .ok _ =>
          match region.execute memory request.payload request.payloadLength.toNat with
          | .error code => { system with worker := .responding request none code.status }
          | .ok (batch, _) => { system with worker := .submitting request batch }

def submit (request : IngressRequest) (batch : VisibleBatch) : IngressSystem :=
  let submission : Submission := ⟨system.tickets, batch⟩
  match system.ingress.submit submission with
  | .error code => { system with worker := .responding request none code.status }
  | .ok ingress =>
      { system with
        ingress := ingress
        worker := .blocked request submission
        tickets := system.tickets + 1
        log := system.log ++ [.submitted submission request.requestId] }

/-- The worker is woken in `submit_batch`, for whatever reason. -/
def wake (request : IngressRequest) (submission : Submission) : IngressSystem :=
  if !system.ingress.batchCompleted && !system.ingress.stop then system
  else
    let (result, ingress) := system.ingress.resume
    { system with
      ingress := ingress
      worker := .responding request (some submission) result
      log := system.log ++ [.resumed submission.ticket] }

/-- `send_response` and where the connection goes on. -/
def respond (request : IngressRequest) (submission : Option Submission) (result : Int) (sent : Bool) :
    IngressSystem :=
  let supported := request.opcode == opcodeVisibleBatchInline || request.opcode == opcodeVisibleBatchExecute
  let status := if result > 0 then Errno.eproto.status else result
  let more := system.ingress.loopback && supported && sent && result == 0
  { system with
    worker := if system.ingress.loopback then .clearing more else .closing
    log := if supported && sent then system.log ++ [.answered (submission.map (·.ticket)) request.requestId status]
      else system.log }

def clear (more : Bool) : IngressSystem :=
  { system with
    ingress := { system.ingress with completionPendingResponse := false }
    worker := if more then .receiving else .closing }

/-- The end of a connection in `worker_main`. -/
def close : IngressSystem :=
  { system with
    ingress := { system.ingress with completionPendingResponse := false }
    worker := if system.ingress.stop then .exited else .accepting }

/-- `bvb_visible_ingress_wait_batch` behind its loop. -/
def waitReturn : IngressSystem :=
  if system.ingress.stop then { system with consumer := .free }
  else
    { system with
      ingress := { system.ingress with accepting := false, batchClaimed := true }
      consumer := .free
      log := system.log ++ (system.ingress.batch.map .returned).toList }

def waitTest : IngressSystem :=
  if (!system.ingress.batchReady || system.ingress.batchClaimed) && !system.ingress.stop then
    { system with consumer := .waiting }
  else system.waitReturn

def waitBatch : IngressSystem :=
  { system with ingress := { system.ingress with accepting := true } }.waitTest

def waitEnd : ConditionWait → IngressSystem
  | .woken => system.waitTest
  | .timedOut => { system with ingress := { system.ingress with accepting := false }, consumer := .free }
  | .failed => { system with consumer := .free }

def complete (status : Int) (acceptNext : Bool) : IngressSystem :=
  match system.ingress.complete status acceptNext with
  | .error _ => system
  | .ok ingress =>
      { system with
        ingress := ingress
        log := system.log ++ (system.ingress.batch.map fun submission => .completed submission.ticket status).toList }

/-- The second half of `bvb_visible_ingress_destroy`. -/
def halt : IngressSystem :=
  { system with
    ingress := { system.ingress with stop := true }
    consumer := .stopped
    log := system.log ++ [.stopped] }

def destroy : IngressSystem :=
  if system.ingress.completionPendingResponse then { system with consumer := .draining } else system.halt

def drainEnd : ConditionWait → IngressSystem
  | .woken => if system.ingress.completionPendingResponse then system else system.halt
  | _ => system.halt

def install (file : MemoryFile) (regionBytes generation : UInt64) : IngressSystem :=
  match system.ingress.installRegion file regionBytes generation with
  | .error _ => system
  | .ok ingress => { system with ingress := ingress }

/-- One section of one thread. An input that is not due changes nothing. -/
def step (input : IngressInput) : IngressSystem :=
  match input, system.worker, system.consumer with
  | .connect configured, .accepting, _ => system.connect configured
  | .receive request, .receiving, _ => system.receive request
  | .receiveSetup request file, .receivingSetup, _ => system.receiveSetup file request
  | .respond sent, .respondingSetup region, _ =>
      { system with
        worker := match region with
          | none => .closing
          | some region => if sent then .receivingExecute region else .closing }
  | .receiveExecute request memory, .receivingExecute region, _ => system.receiveExecute region memory request
  | .submit, .submitting request batch, _ => system.submit request batch
  | .wake, .blocked request submission, _ => system.wake request submission
  | .respond sent, .responding request submission result, _ => system.respond request submission result sent
  | .clear, .clearing more, _ => system.clear more
  | .close, .closing, _ => system.close
  | .write memory, _, _ => { system with memory := memory }
  | .install file regionBytes generation, _, _ => system.install file regionBytes generation
  | .waitBatch, _, .free => system.waitBatch
  | .waitEnd how, _, .waiting => system.waitEnd how
  | .complete status acceptNext, _, .free => system.complete status acceptNext
  | .destroy, _, .free => system.destroy
  | .drainEnd how, _, .draining => system.drainEnd how
  | _, _, _ => system

end IngressSystem

end VulkanBridge
