import VulkanBridge.ByteStrings
import VulkanBridge.CommandTypes
import VulkanBridge.QueueSubmit

/-!
The codecs of `protocol.c` for the requests with several fields: device creation, queue
submit, buffer requirements, image creation, swapchain preparation and semaphore wait.
-/

namespace VulkanBridge

open ByteBuffer

structure DeviceBufferRequirementsRequest where
  deviceId : UInt64
  size : UInt64
  flags : UInt32
  usage : UInt32
  sharingMode : UInt32
  queueFamilyIndexCount : UInt32
  queueFamilyIndices : Fin 8 → UInt32

def deviceBufferSharingIsValid (sharingMode queueFamilyIndexCount : UInt32) : Bool :=
  if sharingMode = 0 then queueFamilyIndexCount == 0
  else if sharingMode = 1 then queueFamilyIndexCount ≥ 2 && queueFamilyIndexCount ≤ 8
  else false

namespace DeviceBufferRequirementsRequest

def payload (request : DeviceBufferRequirementsRequest) : Buffer :=
  let output := putU64 zeroed 0 request.deviceId
  let output := putU64 output 8 request.size
  let output := putU32 output 16 request.flags
  let output := putU32 output 20 request.usage
  let output := putU32 output 24 request.sharingMode
  let output := putU32 output 28 request.queueFamilyIndexCount
  loop request.queueFamilyIndexCount.toNat (fun index output =>
    putU32 output (32 + index * 4) (slot request.queueFamilyIndices index)) output

def read (input : Buffer) : DeviceBufferRequirementsRequest where
  deviceId := getU64 input 0
  size := getU64 input 8
  flags := getU32 input 16
  usage := getU32 input 20
  sharingMode := getU32 input 24
  queueFamilyIndexCount := getU32 input 28
  queueFamilyIndices := fill 8 8 fun index => getU32 input (32 + index * 4)

end DeviceBufferRequirementsRequest

def encodeDeviceBufferRequirementsRequest (request : DeviceBufferRequirementsRequest) : Except Errno Buffer :=
  if request.size == 0 || !handleExpect request.deviceId .device ||
      !deviceBufferSharingIsValid request.sharingMode request.queueFamilyIndexCount then .error .einval
  else .ok request.payload

def decodeDeviceBufferRequirementsRequest (input : Buffer) : Except Errno DeviceBufferRequirementsRequest :=
  let decoded := DeviceBufferRequirementsRequest.read input
  if !handleExpect decoded.deviceId .device || decoded.size == 0 || decoded.usage == 0 ||
      !deviceBufferSharingIsValid decoded.sharingMode decoded.queueFamilyIndexCount then .error .eproto
  else if (List.range 8).any (fun index =>
      index ≥ decoded.queueFamilyIndexCount.toNat && slot decoded.queueFamilyIndices index != 0 ||
        index < decoded.queueFamilyIndexCount.toNat && (List.range index).any (fun earlier =>
          slot decoded.queueFamilyIndices earlier == slot decoded.queueFamilyIndices index)) then .error .eproto
  else .ok decoded

structure ImageCreateRequest where
  deviceId : UInt64
  flags : UInt32
  imageType : UInt32
  format : UInt32
  extentWidth : UInt32
  extentHeight : UInt32
  extentDepth : UInt32
  mipLevels : UInt32
  arrayLayers : UInt32
  samples : UInt32
  tiling : UInt32
  usage : UInt32
  sharingMode : UInt32
  queueFamilyIndexCount : UInt32
  initialLayout : UInt32
  pnextFlags : UInt32
  viewFormatCount : UInt32
  stencilUsage : UInt32
  queueFamilyIndices : Fin 8 → UInt32
  viewFormats : Fin 16 → UInt32

def imageUsageValid (usage : UInt32) : Bool := usage != 0 && usage &&& ~~~0xff == 0

namespace ImageCreateRequest

def fieldsAreValid (request : ImageCreateRequest) : Bool :=
  !(!handleExpect request.deviceId .device || request.flags &&& ~~~0x5b8 != 0 || request.imageType > 2 ||
    request.format == 0 || request.extentWidth == 0 || request.extentWidth > 32768 ||
    request.extentHeight == 0 || request.extentHeight > 32768 || request.extentDepth == 0 ||
    request.extentDepth > 32768 || request.mipLevels == 0 || request.mipLevels > 32 ||
    request.arrayLayers == 0 || request.arrayLayers > 2048 || request.samples == 0 ||
    request.samples &&& (request.samples - 1) != 0 || request.samples &&& ~~~0x7f != 0 ||
    request.tiling > 1 || !imageUsageValid request.usage || request.sharingMode > 1 ||
    request.queueFamilyIndexCount > 8 || (request.sharingMode == 0 && request.queueFamilyIndexCount != 0) ||
    (request.sharingMode == 1 && request.queueFamilyIndexCount < 2) ||
    (request.initialLayout != 0 && request.initialLayout != 8) || request.pnextFlags &&& ~~~3 != 0 ||
    request.viewFormatCount > 16 || (request.pnextFlags &&& 1 == 0 && request.viewFormatCount != 0) ||
    (request.pnextFlags &&& 2 == 0 && request.stencilUsage != 0) ||
    (request.pnextFlags &&& 2 != 0 && !imageUsageValid request.stencilUsage) ||
    (request.imageType == 0 && (request.extentHeight != 1 || request.extentDepth != 1)) ||
    (request.imageType == 1 && request.extentDepth != 1) || (request.imageType == 2 && request.arrayLayers != 1) ||
    (request.flags &&& 0x10 != 0 && (request.imageType != 1 || request.extentWidth != request.extentHeight ||
      request.arrayLayers < 6)) ||
    (request.flags &&& 0x20 != 0 && request.imageType != 2))

def isValid (request : ImageCreateRequest) : Bool :=
  request.fieldsAreValid &&
    (List.range 8).all (fun index =>
      !(index ≥ request.queueFamilyIndexCount.toNat && slot request.queueFamilyIndices index != 0) &&
        !(index < request.queueFamilyIndexCount.toNat && (List.range index).any (fun other =>
          slot request.queueFamilyIndices index == slot request.queueFamilyIndices other))) &&
    (List.range 16).all (fun index =>
      !(index < request.viewFormatCount.toNat && slot request.viewFormats index == 0 ||
        index ≥ request.viewFormatCount.toNat && slot request.viewFormats index != 0))

def payload (request : ImageCreateRequest) : Buffer :=
  let output := putU64 zeroed 0 request.deviceId
  let output := putU32 output 8 request.flags
  let output := putU32 output 12 request.imageType
  let output := putU32 output 16 request.format
  let output := putU32 output 20 request.extentWidth
  let output := putU32 output 24 request.extentHeight
  let output := putU32 output 28 request.extentDepth
  let output := putU32 output 32 request.mipLevels
  let output := putU32 output 36 request.arrayLayers
  let output := putU32 output 40 request.samples
  let output := putU32 output 44 request.tiling
  let output := putU32 output 48 request.usage
  let output := putU32 output 52 request.sharingMode
  let output := putU32 output 56 request.queueFamilyIndexCount
  let output := putU32 output 60 request.initialLayout
  let output := putU32 output 64 request.pnextFlags
  let output := putU32 output 68 request.viewFormatCount
  let output := putU32 output 72 request.stencilUsage
  let output := loop 8 (fun index output =>
    putU32 output (80 + index * 4) (slot request.queueFamilyIndices index)) output
  loop 16 (fun index output => putU32 output (112 + index * 4) (slot request.viewFormats index)) output

def read (input : Buffer) : ImageCreateRequest where
  deviceId := getU64 input 0
  flags := getU32 input 8
  imageType := getU32 input 12
  format := getU32 input 16
  extentWidth := getU32 input 20
  extentHeight := getU32 input 24
  extentDepth := getU32 input 28
  mipLevels := getU32 input 32
  arrayLayers := getU32 input 36
  samples := getU32 input 40
  tiling := getU32 input 44
  usage := getU32 input 48
  sharingMode := getU32 input 52
  queueFamilyIndexCount := getU32 input 56
  initialLayout := getU32 input 60
  pnextFlags := getU32 input 64
  viewFormatCount := getU32 input 68
  stencilUsage := getU32 input 72
  queueFamilyIndices := fill 8 8 fun index => getU32 input (80 + index * 4)
  viewFormats := fill 16 16 fun index => getU32 input (112 + index * 4)

end ImageCreateRequest

def encodeImageCreateRequest (request : ImageCreateRequest) : Except Errno Buffer :=
  if !request.isValid then .error .einval else .ok request.payload

def decodeImageCreateRequest (input : Buffer) : Except Errno ImageCreateRequest :=
  if getU32 input 76 != 0 then .error .eproto
  else
    let decoded := ImageCreateRequest.read input
    if !decoded.isValid then .error .eproto else .ok decoded

structure SwapchainPrepareRequest where
  deviceId : UInt64
  width : UInt32
  height : UInt32
  format : UInt32
  imageUsage : UInt32
  minImageCount : UInt32
  flags : UInt32
  generation : UInt64

def encodeSwapchainPrepareRequest (request : SwapchainPrepareRequest) : Except Errno Buffer :=
  if !handleExpect request.deviceId .device || request.width == 0 || request.height == 0 ||
      request.format == 0 || request.imageUsage == 0 || request.minImageCount < 2 ||
      request.minImageCount > 4 || request.flags != 0 || request.generation == 0 then .error .einval
  else
    let output := putU64 zeroed 0 request.deviceId
    let output := putU32 output 8 request.width
    let output := putU32 output 12 request.height
    let output := putU32 output 16 request.format
    let output := putU32 output 20 request.imageUsage
    let output := putU32 output 24 request.minImageCount
    let output := putU32 output 28 request.flags
    .ok (putU64 output 32 request.generation)

def decodeSwapchainPrepareRequest (input : Buffer) : Except Errno SwapchainPrepareRequest :=
  let decoded : SwapchainPrepareRequest :=
    ⟨getU64 input 0, getU32 input 8, getU32 input 12, getU32 input 16, getU32 input 20, getU32 input 24,
      getU32 input 28, getU64 input 32⟩
  if (encodeSwapchainPrepareRequest decoded).isOk then .ok decoded else .error .eproto

structure SemaphoreWaitRecord where
  semaphoreId : UInt64
  value : UInt64
  deriving Inhabited

def encodeSemaphoreWaitRecord (output : Buffer) (record : Nat) (semaphore : SemaphoreWaitRecord) : Buffer :=
  putU64 (putU64 output record semaphore.semaphoreId) (record + 8) semaphore.value

def decodeSemaphoreWaitRecord (input : Buffer) (record : Nat) : SemaphoreWaitRecord :=
  ⟨getU64 input record, getU64 input (record + 8)⟩

structure SemaphoreWaitRequest where
  deviceId : UInt64
  timeout : UInt64
  flags : UInt32
  semaphoreCount : UInt32
  semaphores : Fin 16 → SemaphoreWaitRecord

namespace SemaphoreWaitRequest

def payload (request : SemaphoreWaitRequest) : Buffer :=
  let output := putU64 zeroed 0 request.deviceId
  let output := putU64 output 8 request.timeout
  let output := putU32 output 16 request.flags
  let output := putU32 output 20 request.semaphoreCount
  loop request.semaphoreCount.toNat (fun index output =>
    encodeSemaphoreWaitRecord output (24 + index * 16) (slot request.semaphores index)) output

def read (input : Buffer) : SemaphoreWaitRequest where
  deviceId := getU64 input 0
  timeout := getU64 input 8
  flags := getU32 input 16
  semaphoreCount := getU32 input 20
  semaphores := fill 16 (getU32 input 20).toNat fun index => decodeSemaphoreWaitRecord input (24 + index * 16)

def semaphoresAreTyped (request : SemaphoreWaitRequest) : Bool :=
  (List.range request.semaphoreCount.toNat).all fun index =>
    handleExpect (slot request.semaphores index).semaphoreId .semaphore

end SemaphoreWaitRequest

def encodeSemaphoreWaitRequest (request : SemaphoreWaitRequest) : Except Errno (Buffer × Nat) :=
  if !handleExpect request.deviceId .device || request.semaphoreCount == 0 || request.semaphoreCount > 16 ||
      request.flags &&& ~~~1 != 0 then .error .einval
  else if !request.semaphoresAreTyped then .error .einval
  else .ok (request.payload, 24 + request.semaphoreCount.toNat * 16)

def decodeSemaphoreWaitRequest (input : Buffer) (inputLength : Nat) : Except Errno SemaphoreWaitRequest :=
  if inputLength < 24 then .error .einval
  else
    let count := getU32 input 20
    let expected := (24 + count * 16).toNat
    if count == 0 || count > 16 || inputLength != expected then .error .eproto
    else
      let request := SemaphoreWaitRequest.read input
      if !handleExpect request.deviceId .device || request.flags &&& ~~~1 != 0 then .error .eproto
      else if !request.semaphoresAreTyped then .error .eproto
      else .ok request

def encodeSubmitSemaphore (output : Buffer) (offset : Nat) (record : SubmitSemaphoreRecord) : Buffer :=
  let output := putU64 output offset record.semaphoreId
  let output := putU64 output (offset + 8) record.value
  let output := putU64 output (offset + 16) record.stageMask
  putU32 output (offset + 24) record.deviceIndex

def encodeSubmitCommand (streamWire : Bool) (output : Buffer) (offset : Nat) (record : SubmitCommandRecord) : Buffer :=
  let output := putU64 output offset record.commandBufferId
  if streamWire then
    let output := putU64 output (offset + 8) record.streamGeneration
    let output := putU64 output (offset + 16) record.streamSequence
    let output := putU32 output (offset + 24) record.streamOffset
    let output := putU32 output (offset + 28) record.streamLength
    let output := putU32 output (offset + 32) record.deviceMask
    putU32 output (offset + 36) record.streamFlags
  else putU32 output (offset + 8) record.deviceMask

def SubmitCommandRecord.namesNoStream (record : SubmitCommandRecord) : Bool :=
  !(record.streamFlags != 0 || record.streamGeneration != 0 || record.streamSequence != 0 ||
    record.streamOffset != 0 || record.streamLength != 0)

namespace QueueSubmit2Request

def commandRecordSize (streamWire : Bool) : Nat := if streamWire then 40 else 16

def semaphoreAt (records : List SubmitSemaphoreRecord) (index : Nat) : SubmitSemaphoreRecord :=
  records.getD index ⟨0, 0, 0, 0⟩

def commandAt (records : List SubmitCommandRecord) (index : Nat) : SubmitCommandRecord :=
  records.getD index ⟨0, 0, 0, 0, 0, 0, 0⟩

def size (request : QueueSubmit2Request) (streamWire : Bool) : Nat :=
  32 + (request.waits.length + request.signals.length) * 32 +
    request.commands.length * commandRecordSize streamWire

def payload (request : QueueSubmit2Request) (streamWire : Bool) : Buffer :=
  let output := putU64 zeroed 0 request.queueId
  let output := putU64 output 8 request.fenceId
  let output := putU32 output 16 request.flags
  let output := putU32 output 20 (UInt32.ofNat request.waits.length)
  let output := putU32 output 24 (UInt32.ofNat request.commands.length)
  let output := putU32 output 28 (UInt32.ofNat request.signals.length)
  let output := loop request.waits.length (fun index output =>
    encodeSubmitSemaphore output (32 + index * 32) (semaphoreAt request.waits index)) output
  let commandsAt := 32 + request.waits.length * 32
  let output := loop request.commands.length (fun index output =>
    encodeSubmitCommand streamWire output (commandsAt + index * commandRecordSize streamWire)
      (commandAt request.commands index)) output
  let signalsAt := commandsAt + request.commands.length * commandRecordSize streamWire
  loop request.signals.length (fun index output =>
    encodeSubmitSemaphore output (signalsAt + index * 32) (semaphoreAt request.signals index)) output

end QueueSubmit2Request

/-- `encode_vulkan_queue_submit_2_request`; the arrays of the request are as long as its counts. -/
def encodeQueueSubmit2Request (request : QueueSubmit2Request) (streamWire : Bool) : Except Errno (Buffer × Nat) :=
  if !handleExpect request.queueId .queue ||
      (request.fenceId != 0 && !handleExpect request.fenceId .fence) || request.waits.length > 16 ||
      request.commands.length > 16 || request.signals.length > 16 then .error .einval
  else if request.waits.any (fun record => !handleExpect record.semaphoreId .semaphore) then .error .einval
  else if request.commands.any (fun record => !record.isValid || (!streamWire && !record.namesNoStream)) then
    .error .einval
  else if streamWire && !request.commands.any (fun record => record.streamFlags == submitSharedStream) then
    .error .einval
  else if request.signals.any (fun record => !handleExpect record.semaphoreId .semaphore) then .error .einval
  else .ok (request.payload streamWire, request.size streamWire)

end VulkanBridge
