import VulkanBridge.ByteStrings
import VulkanBridge.CommandTypes
import VulkanBridge.Handle

/-!
The packed request for a device (`protocol.c`): a prefix, the feature structures that
are present, the queues with their priorities, and the names of the extensions as C
strings one behind the other.
-/

namespace VulkanBridge

open ByteBuffer

inductive CoreFeature where
  | shaderDrawParameters
  | bufferDeviceAddress
  | descriptorIndexing
  | descriptorBindingSampledImageUpdateAfterBind
  | descriptorBindingUpdateUnusedWhilePending
  | descriptorBindingPartiallyBound
  | hostQueryReset
  | runtimeDescriptorArray
  | samplerMirrorClampToEdge
  | scalarBlockLayout
  | timelineSemaphore
  | uniformBufferStandardLayout
  | vulkanMemoryModel
  | computeFullSubgroups
  | dynamicRendering
  | maintenance4
  | shaderDemoteToHelperInvocation
  | shaderZeroInitializeWorkgroupMemory
  | subgroupSizeControl
  | synchronization2
  | depthClipEnable
  | robustBufferAccess2
  | nullDescriptor
  | maintenance5
  | maintenance6
  deriving DecidableEq, Repr

namespace CoreFeature

def all : List CoreFeature :=
  [shaderDrawParameters, bufferDeviceAddress, descriptorIndexing,
    descriptorBindingSampledImageUpdateAfterBind, descriptorBindingUpdateUnusedWhilePending,
    descriptorBindingPartiallyBound, hostQueryReset, runtimeDescriptorArray, samplerMirrorClampToEdge,
    scalarBlockLayout, timelineSemaphore, uniformBufferStandardLayout, vulkanMemoryModel,
    computeFullSubgroups, dynamicRendering, maintenance4, shaderDemoteToHelperInvocation,
    shaderZeroInitializeWorkgroupMemory, subgroupSizeControl, synchronization2, depthClipEnable,
    robustBufferAccess2, nullDescriptor, maintenance5, maintenance6]

def index (feature : CoreFeature) : Nat := all.idxOf feature

def structBit : CoreFeature → UInt32
  | shaderDrawParameters => 1
  | bufferDeviceAddress | descriptorIndexing | descriptorBindingSampledImageUpdateAfterBind
  | descriptorBindingUpdateUnusedWhilePending | descriptorBindingPartiallyBound | hostQueryReset
  | runtimeDescriptorArray | samplerMirrorClampToEdge | scalarBlockLayout | timelineSemaphore
  | uniformBufferStandardLayout | vulkanMemoryModel => 2
  | computeFullSubgroups | dynamicRendering | maintenance4 | shaderDemoteToHelperInvocation
  | shaderZeroInitializeWorkgroupMemory | subgroupSizeControl | synchronization2 => 4
  | depthClipEnable => 8
  | robustBufferAccess2 | nullDescriptor => 16
  | maintenance5 => 32
  | maintenance6 => 64

end CoreFeature

abbrev CoreFeatures := CoreFeature → UInt32

def coreFeaturesAreBooleans (features : CoreFeatures) : Bool :=
  CoreFeature.all.all fun feature => !(features feature > 1)

def encodeCoreFeatures (output : Buffer) (cursor : Nat) (features : CoreFeatures) : Buffer :=
  loop 25 (fun index output =>
    putU32 output (cursor + index * 4) (features (CoreFeature.all.getD index .shaderDrawParameters))) output

def decodeCoreFeatures (input : Buffer) (cursor : Nat) : CoreFeatures :=
  fun feature => getU32 input (cursor + feature.index * 4)

def deviceFeatureBase : UInt32 := 0x80
def deviceFeatureStructMask : UInt32 := 0xff

structure DeviceQueueCreateInfo where
  flags : UInt32
  queueFamilyIndex : UInt32
  queueCount : UInt32
  firstPriority : UInt32
  deriving Inhabited

def encodeQueueCreateInfo (output : Buffer) (cursor : Nat) (info : DeviceQueueCreateInfo) : Buffer :=
  let output := putU32 output cursor info.flags
  let output := putU32 output (cursor + 4) info.queueFamilyIndex
  let output := putU32 output (cursor + 8) info.queueCount
  putU32 output (cursor + 12) info.firstPriority

def decodeQueueCreateInfo (input : Buffer) (cursor : Nat) : DeviceQueueCreateInfo :=
  ⟨getU32 input cursor, getU32 input (cursor + 4), getU32 input (cursor + 8), getU32 input (cursor + 12)⟩

/-- `char [128]`. -/
abbrev ExtensionName := Fin 128 → UInt8

structure DeviceCreatePackedRequest where
  physicalDeviceId : UInt64
  flags : UInt32
  queueCreateInfoCount : UInt32
  queuePriorityCount : UInt32
  enabledLayerCount : UInt32
  enabledExtensionCount : UInt32
  enabledFeatureStructs : UInt32
  enabledFeatures : CoreFeatures
  enabledBaseFeatures : Fin 55 → UInt32
  queueCreateInfos : Fin 8 → DeviceQueueCreateInfo
  queuePriorityBits : Fin 16 → UInt32
  enabledExtensions : Fin 64 → ExtensionName

/-- `memchr` for the terminator in so many bytes. -/
def terminator (bytes : Nat → UInt8) (available : Nat) : Option Nat :=
  (List.range available).find? fun index => bytes index == 0

def nameSize (name : ExtensionName) : Nat := (terminator (slot name) 128).getD 127 + 1

namespace DeviceCreatePackedRequest

/-- `validate_packed_device_create_counts`. -/
def countsAreValid (request : DeviceCreatePackedRequest) : Bool :=
  !(!handleExpect request.physicalDeviceId .physicalDevice || request.queueCreateInfoCount == 0 ||
      request.queueCreateInfoCount > 8 || request.queuePriorityCount == 0 || request.queuePriorityCount > 16 ||
      request.enabledExtensionCount > 64 || request.enabledFeatureStructs &&& ~~~deviceFeatureStructMask != 0) &&
    (List.range request.queueCreateInfoCount.toNat).all (fun index =>
      let info := slot request.queueCreateInfos index
      !(info.queueCount == 0 || info.firstPriority ≥ request.queuePriorityCount ||
        info.queueCount > request.queuePriorityCount - info.firstPriority))

/-- `packed_device_feature_groups_match_mask`. -/
def featureGroupsMatchMask (request : DeviceCreatePackedRequest) : Bool :=
  CoreFeature.all.all (fun feature =>
      !(request.enabledFeatureStructs &&& feature.structBit == 0 && request.enabledFeatures feature != 0)) &&
    (List.range 55).all (fun index =>
      !(slot request.enabledBaseFeatures index > 1 ||
        (request.enabledFeatureStructs &&& deviceFeatureBase == 0 && slot request.enabledBaseFeatures index != 0)))

def hasFeatures (request : DeviceCreatePackedRequest) : Bool := request.enabledFeatureStructs != 0

def hasBaseFeatures (request : DeviceCreatePackedRequest) : Bool :=
  request.enabledFeatureStructs &&& deviceFeatureBase != 0

def baseAt (request : DeviceCreatePackedRequest) : Nat := 32 + if request.hasFeatures then 100 else 0
def queuesAt (request : DeviceCreatePackedRequest) : Nat :=
  request.baseAt + if request.hasBaseFeatures then 220 else 0
def prioritiesAt (request : DeviceCreatePackedRequest) : Nat :=
  request.queuesAt + request.queueCreateInfoCount.toNat * 16
def extensionsAt (request : DeviceCreatePackedRequest) : Nat :=
  request.prioritiesAt + request.queuePriorityCount.toNat * 4

def names (request : DeviceCreatePackedRequest) : List ExtensionName :=
  (List.range request.enabledExtensionCount.toNat).map (slot request.enabledExtensions)

def measureNames : List ExtensionName → Nat → Except Errno Nat
  | [], length => .ok length
  | name :: rest, length =>
      if slot name 0 == 0 || (terminator (slot name) 128).isNone then .error .einval
      else if nameSize name > 4096 - length then .error .emsgsize
      else measureNames rest (length + nameSize name)

def putNames : List ExtensionName → Nat → Buffer → Buffer
  | [], _, output => output
  | name :: rest, cursor, output =>
      putNames rest (cursor + nameSize name) (copyInto output cursor (slot name) (nameSize name))

def payload (request : DeviceCreatePackedRequest) : Buffer :=
  let output := putU64 zeroed 0 request.physicalDeviceId
  let output := putU32 output 8 request.flags
  let output := putU32 output 12 request.queueCreateInfoCount
  let output := putU32 output 16 request.queuePriorityCount
  let output := putU32 output 20 request.enabledLayerCount
  let output := putU32 output 24 request.enabledExtensionCount
  let output := putU32 output 28 request.enabledFeatureStructs
  let output := if request.hasFeatures then encodeCoreFeatures output 32 request.enabledFeatures else output
  let output :=
    if request.hasBaseFeatures then
      loop 55 (fun index output =>
        putU32 output (request.baseAt + index * 4) (slot request.enabledBaseFeatures index)) output
    else output
  let output := loop request.queueCreateInfoCount.toNat (fun index output =>
    encodeQueueCreateInfo output (request.queuesAt + index * 16) (slot request.queueCreateInfos index)) output
  let output := loop request.queuePriorityCount.toNat (fun index output =>
    putU32 output (request.prioritiesAt + index * 4) (slot request.queuePriorityBits index)) output
  putNames request.names request.extensionsAt output

def readHead (input : Buffer) : DeviceCreatePackedRequest where
  physicalDeviceId := getU64 input 0
  flags := getU32 input 8
  queueCreateInfoCount := getU32 input 12
  queuePriorityCount := getU32 input 16
  enabledLayerCount := getU32 input 20
  enabledExtensionCount := getU32 input 24
  enabledFeatureStructs := getU32 input 28
  enabledFeatures := fun _ => 0
  enabledBaseFeatures := fun _ => 0
  queueCreateInfos := fun _ => default
  queuePriorityBits := fun _ => 0
  enabledExtensions := fun _ _ => 0

def readFeatures (input : Buffer) (decoded : DeviceCreatePackedRequest) : DeviceCreatePackedRequest :=
  if decoded.hasFeatures then { decoded with enabledFeatures := decodeCoreFeatures input 32 } else decoded

def readBaseFeatures (input : Buffer) (decoded : DeviceCreatePackedRequest) : DeviceCreatePackedRequest :=
  if decoded.hasBaseFeatures then
    { decoded with enabledBaseFeatures := fill 55 55 fun index => getU32 input (decoded.baseAt + index * 4) }
  else decoded

def readQueues (input : Buffer) (decoded : DeviceCreatePackedRequest) : DeviceCreatePackedRequest :=
  { decoded with
    queueCreateInfos := fill 8 decoded.queueCreateInfoCount.toNat fun index =>
      decodeQueueCreateInfo input (decoded.queuesAt + index * 16)
    queuePriorityBits := fill 16 decoded.queuePriorityCount.toNat fun index =>
      getU32 input (decoded.prioritiesAt + index * 4) }

def readNames (input : Buffer) (inputLength : Nat) : Nat → Nat → Except Errno (List ExtensionName × Nat)
  | 0, cursor => .ok ([], cursor)
  | count + 1, cursor => do
      if cursor = inputLength then .error .eproto
      let available := min (inputLength - cursor) 128
      if input cursor == 0 then .error .eproto
      let some last := terminator (fun index => input (cursor + index)) available | .error .eproto
      let (rest, afterNames) ← readNames input inputLength count (cursor + (last + 1))
      return ((fun index => if index.val < last + 1 then input (cursor + index.val) else 0) :: rest, afterNames)

def withNames (decoded : DeviceCreatePackedRequest) (found : List ExtensionName) : DeviceCreatePackedRequest :=
  { decoded with
    enabledExtensions := fill 64 decoded.enabledExtensionCount.toNat fun index => found.getD index default }

end DeviceCreatePackedRequest

open DeviceCreatePackedRequest

def encodeDeviceCreatePackedRequest (request : DeviceCreatePackedRequest) : Except Errno (Buffer × Nat) := do
  if !request.countsAreValid || !request.featureGroupsMatchMask then .error .einval
  let length ← measureNames request.names request.extensionsAt
  if request.hasFeatures && !coreFeaturesAreBooleans request.enabledFeatures then .error .einval
  return (request.payload, length)

def decodeDeviceCreatePackedRequest (input : Buffer) (inputLength : Nat) :
    Except Errno DeviceCreatePackedRequest := do
  if inputLength < 32 || inputLength > 4096 then .error .einval
  let decoded := readHead input
  if !handleExpect decoded.physicalDeviceId .physicalDevice || decoded.queueCreateInfoCount == 0 ||
      decoded.queueCreateInfoCount > 8 || decoded.queuePriorityCount == 0 || decoded.queuePriorityCount > 16 ||
      decoded.enabledExtensionCount > 64 then .error .eproto
  let decoded := readFeatures input decoded
  if decoded.hasFeatures && (100 > inputLength - 32 || !coreFeaturesAreBooleans decoded.enabledFeatures) then
    .error .eproto
  let decoded := readBaseFeatures input decoded
  if decoded.hasBaseFeatures && (220 > inputLength - decoded.baseAt ||
      (List.range 55).any (fun index => slot decoded.enabledBaseFeatures index > 1)) then .error .eproto
  if !decoded.featureGroupsMatchMask then .error .eproto
  if decoded.queueCreateInfoCount.toNat * 16 + decoded.queuePriorityCount.toNat * 4 >
      inputLength - decoded.queuesAt then .error .eproto
  let decoded := readQueues input decoded
  if !decoded.countsAreValid then .error .eproto
  let (found, last) ← readNames input inputLength decoded.enabledExtensionCount.toNat decoded.extensionsAt
  if last ≠ inputLength then .error .eproto
  return decoded.withNames found

end VulkanBridge
