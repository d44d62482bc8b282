import VulkanBridge.CommandStream
import VulkanBridge.StreamGenerations

/-!
Queue submits of the service. A submit may carry command streams in a shared
region: the submit and every stream are validated, the generation table takes the
streams, and only then are they replayed and the submit made.
-/

namespace VulkanBridge

open ByteBuffer

structure SubmitSemaphoreRecord where
  semaphoreId : UInt64
  value : UInt64
  stageMask : UInt64
  deviceIndex : UInt32
  deriving DecidableEq, Repr

structure SubmitCommandRecord where
  commandBufferId : UInt64
  streamGeneration : UInt64
  streamSequence : UInt64
  streamOffset : UInt32
  streamLength : UInt32
  deviceMask : UInt32
  streamFlags : UInt32
  deriving DecidableEq, Repr

structure QueueSubmit2Request where
  queueId : UInt64
  fenceId : UInt64
  flags : UInt32
  waits : List SubmitSemaphoreRecord
  commands : List SubmitCommandRecord
  signals : List SubmitSemaphoreRecord
  deriving DecidableEq, Repr

def submitSharedStream : UInt32 := 1
def commandStreamRegionBytes : Nat := 64 * commandStreamSlotBytes

def decodeSubmitSemaphore (input : Buffer) (offset : Nat) : Except Errno SubmitSemaphoreRecord :=
  let record : SubmitSemaphoreRecord :=
    { semaphoreId := getU64 input offset
      value := getU64 input (offset + 8)
      stageMask := getU64 input (offset + 16)
      deviceIndex := getU32 input (offset + 24) }
  if handleExpect record.semaphoreId .semaphore = false ∨ getU32 input (offset + 28) ≠ 0 then .error .eproto
  else .ok record

def SubmitCommandRecord.isValid (record : SubmitCommandRecord) : Bool :=
  handleExpect record.commandBufferId .commandBuffer &&
    if record.streamFlags = submitSharedStream then
      record.streamGeneration != 0 && record.streamSequence != 0 &&
        record.streamOffset.toNat % commandStreamSlotBytes == 0 &&
        record.streamOffset.toNat < commandStreamRegionBytes && record.streamLength.toNat ≥ 32 &&
        record.streamLength.toNat ≤ commandStreamSlotBytes
    else
      record.streamFlags == 0 && record.streamGeneration == 0 && record.streamSequence == 0 &&
        record.streamOffset == 0 && record.streamLength == 0

def decodeSubmitCommand (streamWire : Bool) (input : Buffer) (offset : Nat) : Except Errno SubmitCommandRecord := do
  let record : SubmitCommandRecord :=
    if streamWire then
      { commandBufferId := getU64 input offset
        streamGeneration := getU64 input (offset + 8)
        streamSequence := getU64 input (offset + 16)
        streamOffset := getU32 input (offset + 24)
        streamLength := getU32 input (offset + 28)
        deviceMask := getU32 input (offset + 32)
        streamFlags := getU32 input (offset + 36) }
    else ⟨getU64 input offset, 0, 0, 0, 0, getU32 input (offset + 8), 0⟩
  if streamWire = false ∧ getU32 input (offset + 12) ≠ 0 then .error .eproto
  if record.isValid then .ok record else .error .eproto

def decodeQueueSubmit2Request (input : Buffer) (inputLength : Nat) (streamWire : Bool) :
    Except Errno QueueSubmit2Request := do
  if inputLength < 32 then .error .einval
  let waitCount := (getU32 input 20).toNat
  let commandCount := (getU32 input 24).toNat
  let signalCount := (getU32 input 28).toNat
  if waitCount > 16 ∨ commandCount > 16 ∨ signalCount > 16 then .error .eproto
  let commandRecordSize := if streamWire then 40 else 16
  if inputLength ≠ 32 + (waitCount + signalCount) * 32 + commandCount * commandRecordSize then .error .eproto
  let queueId := getU64 input 0
  let fenceId := getU64 input 8
  if handleExpect queueId .queue = false ∨ fenceId ≠ 0 ∧ handleExpect fenceId .fence = false then .error .eproto
  let waits ← (List.range waitCount).mapM fun index => decodeSubmitSemaphore input (32 + index * 32)
  let commandsAt := 32 + waitCount * 32
  let commands ← (List.range commandCount).mapM fun index =>
    decodeSubmitCommand streamWire input (commandsAt + index * commandRecordSize)
  if streamWire ∧ commands.any (·.streamFlags == submitSharedStream) = false then .error .eproto
  let signalsAt := commandsAt + commandCount * commandRecordSize
  let signals ← (List.range signalCount).mapM fun index => decodeSubmitSemaphore input (signalsAt + index * 32)
  return ⟨queueId, fenceId, getU32 input 16, waits, commands, signals⟩

structure SemaphoreSubmitInfo where
  semaphore : UInt64
  value : UInt64
  stageMask : UInt64
  deviceIndex : UInt32
  deriving DecidableEq, Repr

structure CommandBufferSubmitInfo where
  commandBuffer : UInt64
  deviceMask : UInt32
  deriving DecidableEq, Repr

structure PreparedSubmit where
  deviceId : UInt64
  device : UInt64
  queue : UInt64
  flags : UInt32
  waits : List SemaphoreSubmitInfo
  commands : List CommandBufferSubmitInfo
  signals : List SemaphoreSubmitInfo
  fence : UInt64
  deriving DecidableEq, Repr

/-- What the system gives a submit beside the driver: the bytes of the shared region
when each stream is copied, memory, what the synchronisation of the memory mirrors
returns, and which names of the submit function a device has. -/
structure SubmitEnvironment where
  driver : NativeDriver
  sharedBytes : Nat → Buffer
  snapshotMemory : Nat → Bool
  generationMemory : Bool
  mirrorStatus : Option Errno
  submitPresent : UInt64 → Suffix → Bool
  submitResult : VulkanResult

structure SharedBatchRegion where
  commandStream : Bool
  length : Nat
  generation : UInt64
  commandGenerations : List StreamGeneration

namespace ServiceContext

variable (context : ServiceContext)

def resolveQueue (queueId : UInt64) : Except Errno (UInt64 × UInt64) := do
  let (deviceId, queueBits) ← context.objects.lookup queueId .queue
  let (_, deviceBits) ← context.objects.lookup deviceId .device
  return (deviceBits, queueBits)

def commandBufferIsLive (commandBufferId : UInt64) : Bool :=
  match context.resolveCommandBuffer commandBufferId with
  | .ok _ => true
  | .error _ => false

def submitOutsideLimits (request : QueueSubmit2Request) : Prop :=
  request.flags ≠ 0 ∨ request.waits.length > 16 ∨ request.commands.length > 16 ∨ request.signals.length > 16

instance (request : QueueSubmit2Request) : Decidable (submitOutsideLimits request) :=
  inferInstanceAs (Decidable (_ ∨ _ ∨ _ ∨ _))

def validateQueueSubmit2 (request : QueueSubmit2Request) : Except Errno UInt64 := do
  if submitOutsideLimits request then .error .einval
  let (queueDevice, _) ← context.resolveQueue request.queueId
  let (queueDeviceId, _) ← context.objects.lookup request.queueId .queue
  request.waits.forM fun wait => do
    let (parentId, _) ← context.objects.lookup wait.semaphoreId .semaphore
    if parentId ≠ queueDeviceId ∨ wait.deviceIndex ≠ 0 then .error .eproto
  request.commands.forM fun command => do
    let owner ← context.resolveCommandBuffer command.commandBufferId
    if owner.deviceId ≠ queueDeviceId ∨ owner.device ≠ queueDevice ∨ command.deviceMask ≠ 0 then .error .eproto
  request.signals.forM fun signal => do
    let (parentId, _) ← context.objects.lookup signal.semaphoreId .semaphore
    if parentId ≠ queueDeviceId ∨ signal.deviceIndex ≠ 0 then .error .eproto
  if request.fenceId ≠ 0 then
    let fence ← context.resolveDeviceChild request.fenceId .fence
    if fence.deviceId ≠ queueDeviceId ∨ fence.device ≠ queueDevice then .error .eproto
  return queueDeviceId

/-- A semaphore of `queue_submit_2`, checked and made native. -/
def submitSemaphore (deviceId : UInt64) (record : SubmitSemaphoreRecord) : Except Errno SemaphoreSubmitInfo := do
  let (parentId, semaphoreBits) ← context.objects.lookup record.semaphoreId .semaphore
  if parentId ≠ deviceId ∨ record.deviceIndex ≠ 0 then .error .eproto
  else return ⟨semaphoreBits, record.value, record.stageMask, record.deviceIndex⟩

def submitCommand (deviceId device : UInt64) (record : SubmitCommandRecord) :
    Except Errno CommandBufferSubmitInfo := do
  let owner ← context.resolveCommandBuffer record.commandBufferId
  if owner.deviceId ≠ deviceId ∨ owner.device ≠ device ∨ record.deviceMask ≠ 0 then .error .eproto
  else return ⟨owner.commandBuffer, record.deviceMask⟩

def submitFence (deviceId device fenceId : UInt64) : Except Errno UInt64 :=
  if fenceId = 0 then .ok 0
  else do
    let fence ← context.resolveDeviceChild fenceId .fence
    if fence.deviceId ≠ deviceId ∨ fence.device ≠ device then .error .eproto
    else return fence.nativeBits

/-- The checks of `queue_submit_2` before it synchronises the mirrors. -/
def prepareQueueSubmit2 (request : QueueSubmit2Request) : Except Errno PreparedSubmit := do
  if submitOutsideLimits request then .error .einval
  let (device, queue) ← context.resolveQueue request.queueId
  let (deviceId, _) ← context.objects.lookup request.queueId .queue
  let waits ← request.waits.mapM (context.submitSemaphore deviceId)
  let commands ← request.commands.mapM (context.submitCommand deviceId device)
  let signals ← request.signals.mapM (context.submitSemaphore deviceId)
  let fence ← context.submitFence deviceId device request.fenceId
  return ⟨deviceId, device, queue, request.flags, waits, commands, signals, fence⟩

/-- The submit made and the name of the function it was made with. -/
def queueSubmit2 (environment : SubmitEnvironment) (request : QueueSubmit2Request) :
    Except Errno (Suffix × PreparedSubmit) := do
  let prepared ← context.prepareQueueSubmit2 request
  match environment.mirrorStatus with
  | some code => .error code
  | none =>
      match [Suffix.core, .khr].find? (environment.submitPresent prepared.device) with
      | none => .error .enosys
      | some suffix => return (suffix, prepared)

/-- `bvb_command_batch_snapshot` of a stream's bytes. -/
def commandBatchSnapshot (environment : SubmitEnvironment) (index offset length : Nat) : Except Errno Buffer :=
  if length = 0 ∨ length > commandBatchMaxBytes then .error .einval
  else if environment.snapshotMemory index = false then .error .enomem
  else .ok (window (environment.sharedBytes index) offset length)

/-- The validation of one stream, the `index`-th command of its submit. -/
def validateSubmitStream (environment : SubmitEnvironment) (region : SharedBatchRegion)
    (request : QueueSubmit2Request) (deviceId : UInt64) (command : SubmitCommandRecord) (index : Nat) :
    Except Errno Buffer := do
  if command.streamGeneration ≠ region.generation then .error .estale
  if command.streamOffset.toNat > region.length ∨
      command.streamLength.toNat > region.length - command.streamOffset.toNat then .error .erange
  if (request.commands.take index).any fun earlier =>
      earlier.streamFlags != 0 && earlier.commandBufferId == command.commandBufferId then .error .eproto
  let snapshot ← commandBatchSnapshot environment index command.streamOffset.toNat command.streamLength.toNat
  let info ← commandBatchValidate snapshot command.streamLength.toNat
  if info.commandBufferId ≠ command.commandBufferId ∨ info.sequence ≠ command.streamSequence ∨
      info.byteLength ≠ command.streamLength then .error .estale
  context.validateCommandStream snapshot command.streamLength.toNat deviceId
  return snapshot

def replaySubmitStreams (driver : NativeDriver) (deviceId : UInt64) (trace : List NativeCall) :
    List (SubmitCommandRecord × Buffer) → Replayed
  | [] => (trace, .ok ())
  | (command, snapshot) :: rest =>
      match context.replayCommandStream driver trace snapshot command.streamLength.toNat deviceId with
      | (trace, .error code) => (trace, .error code)
      | (trace, .ok ()) => replaySubmitStreams driver deviceId trace rest

end ServiceContext

/-- How a submit ended: its status, what it left of the region, and what it did on the
driver. -/
structure SubmitOutcome where
  status : Option Errno
  region : Option SharedBatchRegion
  recorded : List NativeCall
  submitted : Option (Suffix × PreparedSubmit)
  vulkanResult : Option VulkanResult

namespace ServiceContext

variable (context : ServiceContext)

def submitStreams (request : QueueSubmit2Request) : List (SubmitCommandRecord × Nat) :=
  request.commands.zipIdx.filter fun command => command.1.streamFlags != 0

def submitRegion : Option SharedBatchRegion → Except Errno SharedBatchRegion
  | none => .error .eproto
  | some region =>
      if region.commandStream = false ∨ region.length ≠ commandStreamRegionBytes then .error .eproto
      else .ok region

def validateSubmitStreams (environment : SubmitEnvironment) (region : Option SharedBatchRegion)
    (request : QueueSubmit2Request) :
    Except Errno (SharedBatchRegion × UInt64 × List (SubmitCommandRecord × Buffer)) := do
  let shared ← submitRegion region
  let deviceId ← context.validateQueueSubmit2 request
  let snapshots ← (submitStreams request).mapM fun (command, index) => do
    let snapshot ← context.validateSubmitStream environment shared request deviceId command index
    return (command, snapshot)
  return (shared, deviceId, snapshots)

def replaySubmitCommandStreams (environment : SubmitEnvironment) (region : Option SharedBatchRegion)
    (request : QueueSubmit2Request) : SubmitOutcome :=
  if request.commands.any (·.streamFlags == submitSharedStream) = false then ⟨none, region, [], none, none⟩
  else
    match context.validateSubmitStreams environment region request with
    | .error code => ⟨some code, region, [], none, none⟩
    | .ok (shared, deviceId, snapshots) =>
        let applied := generationsApply shared.commandGenerations
          { updates := snapshots.map fun snapshot =>
              ⟨snapshot.1.commandBufferId, snapshot.1.streamSequence⟩
            isLive := context.commandBufferIsLive
            hasMemory := environment.generationMemory }
        let shared := { shared with commandGenerations := applied.generations }
        match applied.status with
        | some code => ⟨some code, some shared, [], none, none⟩
        | none =>
            match context.replaySubmitStreams environment.driver deviceId [] snapshots with
            | (trace, .error code) => ⟨some code, some shared, trace, none, none⟩
            | (trace, .ok ()) => ⟨none, some shared, trace, none, none⟩

def answerVulkanQueueSubmit2 (environment : SubmitEnvironment) (region : Option SharedBatchRegion)
    (negotiated streamWire : Bool) (payload : Buffer) (payloadLength : Nat) : SubmitOutcome :=
  if negotiated = false then ⟨some .eproto, region, [], none, none⟩
  else
    match decodeQueueSubmit2Request payload payloadLength streamWire with
    | .error code => ⟨some code, region, [], none, none⟩
    | .ok request =>
        let replayed :=
          if streamWire then context.replaySubmitCommandStreams environment region request
          else ⟨none, region, [], none, none⟩
        match replayed.status with
        | some _ => replayed
        | none =>
            match context.queueSubmit2 environment request with
            | .error code => { replayed with status := some code }
            | .ok submitted =>
                { replayed with submitted := some submitted, vulkanResult := some environment.submitResult }

end ServiceContext

end VulkanBridge
