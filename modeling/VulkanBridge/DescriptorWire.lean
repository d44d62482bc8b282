import VulkanBridge.ByteStrings
import VulkanBridge.CommandTypes
import VulkanBridge.Handle

/-!
The descriptor codecs of `vulkan_descriptor_wire.c`. Each encoder writes the prefix and
then the elements in use; each decoder reads them and encodes the result again. The
type test of the codecs is the one of `handleExpect`.
-/

namespace VulkanBridge

open ByteBuffer

/-- What a decoder read, once it can be encoded again. -/
def validated {α : Type} (encoded : Except Errno (Buffer × Nat)) (decoded : α) : Except Errno α :=
  match encoded with
  | .error _ => .error .eproto
  | .ok _ => .ok decoded

def compared {α : Type} (encoded : Except Errno (Buffer × Nat)) (input : Buffer) (inputLength : Nat)
    (decoded : α) : Except Errno α :=
  match encoded with
  | .error _ => .error .eproto
  | .ok (validation, validationLength) =>
      if validationLength != inputLength || !sameBytes validation input inputLength then .error .eproto
      else .ok decoded

structure DescriptorLayoutBinding where
  binding : UInt32
  descriptorType : UInt32
  descriptorCount : UInt32
  stageFlags : UInt32
  bindingFlags : UInt32
  deriving Inhabited

def encodeLayoutBinding (output : Buffer) (cursor : Nat) (binding : DescriptorLayoutBinding) : Buffer :=
  let output := putU32 output cursor binding.binding
  let output := putU32 output (cursor + 4) binding.descriptorType
  let output := putU32 output (cursor + 8) binding.descriptorCount
  let output := putU32 output (cursor + 12) binding.stageFlags
  putU32 output (cursor + 16) binding.bindingFlags

def decodeLayoutBinding (input : Buffer) (cursor : Nat) : DescriptorLayoutBinding :=
  ⟨getU32 input cursor, getU32 input (cursor + 4), getU32 input (cursor + 8), getU32 input (cursor + 12),
    getU32 input (cursor + 16)⟩

structure DescriptorSetLayoutCreateRequest where
  deviceId : UInt64
  flags : UInt32
  bindingCount : UInt32
  hasBindingFlags : UInt32
  bindings : Fin 32 → DescriptorLayoutBinding

namespace DescriptorSetLayoutCreateRequest

def isEncodable (request : DescriptorSetLayoutCreateRequest) : Bool :=
  !(!handleExpect request.deviceId .device || request.bindingCount > 32 || request.hasBindingFlags > 1) &&
    (List.range request.bindingCount.toNat).all (fun index =>
      let binding := slot request.bindings index
      !(binding.descriptorCount == 0 || binding.stageFlags == 0 ||
          (request.hasBindingFlags == 0 && binding.bindingFlags != 0)) &&
        (List.range index).all (fun prior => (slot request.bindings prior).binding != binding.binding))

def size (request : DescriptorSetLayoutCreateRequest) : Nat := 24 + request.bindingCount.toNat * 20

def payload (request : DescriptorSetLayoutCreateRequest) : Buffer :=
  let output := putU64 zeroed 0 request.deviceId
  let output := putU32 output 8 request.flags
  let output := putU32 output 12 request.bindingCount
  let output := putU32 output 16 request.hasBindingFlags
  loop request.bindingCount.toNat (fun index output =>
    encodeLayoutBinding output (24 + index * 20) (slot request.bindings index)) output

def read (input : Buffer) : DescriptorSetLayoutCreateRequest where
  deviceId := getU64 input 0
  flags := getU32 input 8
  bindingCount := getU32 input 12
  hasBindingFlags := getU32 input 16
  bindings := fill 32 (getU32 input 12).toNat fun index => decodeLayoutBinding input (24 + index * 20)

end DescriptorSetLayoutCreateRequest

def encodeDescriptorSetLayoutCreateRequest (request : DescriptorSetLayoutCreateRequest) :
    Except Errno (Buffer × Nat) :=
  if !request.isEncodable then .error .einval else .ok (request.payload, request.size)

def decodeDescriptorSetLayoutCreateRequest (input : Buffer) (inputLength : Nat) :
    Except Errno DescriptorSetLayoutCreateRequest :=
  if inputLength < 24 || getU32 input 20 != 0 then .error .einval
  else
    let bindingCount := getU32 input 12
    if bindingCount > 32 || inputLength != 24 + bindingCount.toNat * 20 then .error .eproto
    else
      let decoded := DescriptorSetLayoutCreateRequest.read input
      validated (encodeDescriptorSetLayoutCreateRequest decoded) decoded

structure DescriptorPoolSize where
  descriptorType : UInt32
  descriptorCount : UInt32
  deriving Inhabited

def encodePoolSize (output : Buffer) (cursor : Nat) (poolSize : DescriptorPoolSize) : Buffer :=
  let output := putU32 output cursor poolSize.descriptorType
  putU32 output (cursor + 4) poolSize.descriptorCount

def decodePoolSize (input : Buffer) (cursor : Nat) : DescriptorPoolSize :=
  ⟨getU32 input cursor, getU32 input (cursor + 4)⟩

structure DescriptorPoolCreateRequest where
  deviceId : UInt64
  flags : UInt32
  maxSets : UInt32
  poolSizeCount : UInt32
  poolSizes : Fin 16 → DescriptorPoolSize

namespace DescriptorPoolCreateRequest

def isEncodable (request : DescriptorPoolCreateRequest) : Bool :=
  !(!handleExpect request.deviceId .device || request.maxSets == 0 || request.poolSizeCount == 0 ||
      request.poolSizeCount > 16) &&
    (List.range request.poolSizeCount.toNat).all (fun index =>
      let poolSize := slot request.poolSizes index
      poolSize.descriptorCount != 0 && (List.range index).all (fun prior =>
        (slot request.poolSizes prior).descriptorType != poolSize.descriptorType))

def size (request : DescriptorPoolCreateRequest) : Nat := 24 + request.poolSizeCount.toNat * 8

def payload (request : DescriptorPoolCreateRequest) : Buffer :=
  let output := putU64 zeroed 0 request.deviceId
  let output := putU32 output 8 request.flags
  let output := putU32 output 12 request.maxSets
  let output := putU32 output 16 request.poolSizeCount
  loop request.poolSizeCount.toNat (fun index output =>
    encodePoolSize output (24 + index * 8) (slot request.poolSizes index)) output

def read (input : Buffer) : DescriptorPoolCreateRequest where
  deviceId := getU64 input 0
  flags := getU32 input 8
  maxSets := getU32 input 12
  poolSizeCount := getU32 input 16
  poolSizes := fill 16 (getU32 input 16).toNat fun index => decodePoolSize input (24 + index * 8)

end DescriptorPoolCreateRequest

def encodeDescriptorPoolCreateRequest (request : DescriptorPoolCreateRequest) : Except Errno (Buffer × Nat) :=
  if !request.isEncodable then .error .einval else .ok (request.payload, request.size)

def decodeDescriptorPoolCreateRequest (input : Buffer) (inputLength : Nat) :
    Except Errno DescriptorPoolCreateRequest :=
  if inputLength < 24 || getU32 input 20 != 0 then .error .einval
  else
    let poolSizeCount := getU32 input 16
    if poolSizeCount > 16 || inputLength != 24 + poolSizeCount.toNat * 8 then .error .eproto
    else
      let decoded := DescriptorPoolCreateRequest.read input
      validated (encodeDescriptorPoolCreateRequest decoded) decoded

structure DescriptorSetAllocateRequest where
  descriptorPoolId : UInt64
  descriptorSetCount : UInt32
  setLayoutIds : Fin 16 → UInt64

namespace DescriptorSetAllocateRequest

def isEncodable (request : DescriptorSetAllocateRequest) : Bool :=
  !(!handleExpect request.descriptorPoolId .descriptorPool || request.descriptorSetCount == 0 ||
      request.descriptorSetCount > 16) &&
    (List.range request.descriptorSetCount.toNat).all (fun index =>
      handleExpect (slot request.setLayoutIds index) .descriptorSetLayout)

def size (request : DescriptorSetAllocateRequest) : Nat := 16 + request.descriptorSetCount.toNat * 8

def payload (request : DescriptorSetAllocateRequest) : Buffer :=
  let output := putU64 zeroed 0 request.descriptorPoolId
  let output := putU32 output 8 request.descriptorSetCount
  loop request.descriptorSetCount.toNat (fun index output =>
    putU64 output (16 + index * 8) (slot request.setLayoutIds index)) output

def read (input : Buffer) : DescriptorSetAllocateRequest where
  descriptorPoolId := getU64 input 0
  descriptorSetCount := getU32 input 8
  setLayoutIds := fill 16 (getU32 input 8).toNat fun index => getU64 input (16 + index * 8)

end DescriptorSetAllocateRequest

def encodeDescriptorSetAllocateRequest (request : DescriptorSetAllocateRequest) : Except Errno (Buffer × Nat) :=
  if !request.isEncodable then .error .einval else .ok (request.payload, request.size)

def decodeDescriptorSetAllocateRequest (input : Buffer) (inputLength : Nat) :
    Except Errno DescriptorSetAllocateRequest :=
  if inputLength < 16 || getU32 input 12 != 0 then .error .einval
  else
    let setCount := getU32 input 8
    if setCount == 0 || setCount > 16 || inputLength != 16 + setCount.toNat * 8 then .error .eproto
    else
      let decoded := DescriptorSetAllocateRequest.read input
      validated (encodeDescriptorSetAllocateRequest decoded) decoded

structure DescriptorSetAllocateResponse where
  vulkanResult : Int32
  descriptorSetCount : UInt32
  descriptorSetIds : Fin 16 → UInt64

namespace DescriptorSetAllocateResponse

def isEncodable (response : DescriptorSetAllocateResponse) : Bool :=
  !(response.descriptorSetCount > 16 || (response.vulkanResult == 0 && response.descriptorSetCount == 0) ||
      (response.vulkanResult != 0 && response.descriptorSetCount != 0)) &&
    (List.range response.descriptorSetCount.toNat).all (fun index =>
      handleExpect (slot response.descriptorSetIds index) .descriptorSet)

def size (response : DescriptorSetAllocateResponse) : Nat := 8 + response.descriptorSetCount.toNat * 8

def payload (response : DescriptorSetAllocateResponse) : Buffer :=
  let output := putU32 zeroed 0 response.vulkanResult.toUInt32
  let output := putU32 output 4 response.descriptorSetCount
  loop response.descriptorSetCount.toNat (fun index output =>
    putU64 output (8 + index * 8) (slot response.descriptorSetIds index)) output

def read (input : Buffer) : DescriptorSetAllocateResponse where
  vulkanResult := (getU32 input 0).toInt32
  descriptorSetCount := getU32 input 4
  descriptorSetIds := fill 16 (getU32 input 4).toNat fun index => getU64 input (8 + index * 8)

end DescriptorSetAllocateResponse

def encodeDescriptorSetAllocateResponse (response : DescriptorSetAllocateResponse) :
    Except Errno (Buffer × Nat) :=
  if !response.isEncodable then .error .einval else .ok (response.payload, response.size)

def decodeDescriptorSetAllocateResponse (input : Buffer) (inputLength : Nat) :
    Except Errno DescriptorSetAllocateResponse :=
  if inputLength < 8 then .error .einval
  else
    let setCount := getU32 input 4
    if setCount > 16 || inputLength != 8 + setCount.toNat * 8 then .error .eproto
    else
      let decoded := DescriptorSetAllocateResponse.read input
      validated (encodeDescriptorSetAllocateResponse decoded) decoded

def descriptorJournalRegionBytes : UInt32 := 16777216

def descriptorJournalMaxRecords : UInt32 := 65536

/-- An allocation together with the journal that is applied before it. -/
structure DescriptorTransactionAllocateRequest where
  journalGeneration : UInt64
  journalSequence : UInt64
  journalLength : UInt32
  journalRecordCount : UInt32
  allocation : DescriptorSetAllocateRequest

namespace DescriptorTransactionAllocateRequest

def journalIsValid (generation sequence : UInt64) (length recordCount : UInt32) : Bool :=
  !(generation == 0 || sequence == 0 || length > descriptorJournalRegionBytes ||
    recordCount > descriptorJournalMaxRecords || (length == 0) != (recordCount == 0))

def prefixPayload (request : DescriptorTransactionAllocateRequest) (allocationLength : Nat) : Buffer :=
  let output := putU64 zeroed 0 request.journalGeneration
  let output := putU64 output 8 request.journalSequence
  let output := putU32 output 16 request.journalLength
  let output := putU32 output 20 request.journalRecordCount
  let output := putU32 output 24 (UInt32.ofNat allocationLength)
  putU32 output 28 0

end DescriptorTransactionAllocateRequest

def encodeDescriptorTransactionAllocateRequest (request : DescriptorTransactionAllocateRequest) :
    Except Errno (Buffer × Nat) :=
  if !DescriptorTransactionAllocateRequest.journalIsValid request.journalGeneration request.journalSequence
      request.journalLength request.journalRecordCount then .error .einval
  else do
    let allocation ← encodeDescriptorSetAllocateRequest request.allocation
    if allocation.2 > 144 then .error .e2big
    else .ok (copyInto (request.prefixPayload allocation.2) 32 allocation.1 allocation.2, 32 + allocation.2)

def decodeDescriptorTransactionAllocateRequest (input : Buffer) (inputLength : Nat) :
    Except Errno DescriptorTransactionAllocateRequest :=
  if inputLength < 32 + 16 then .error .einval
  else
    let allocationLength := (getU32 input 24).toNat
    let generation := getU64 input 0
    let sequence := getU64 input 8
    let length := getU32 input 16
    let recordCount := getU32 input 20
    if !DescriptorTransactionAllocateRequest.journalIsValid generation sequence length recordCount ||
        getU32 input 28 != 0 || allocationLength > 144 || inputLength != 32 + allocationLength then
      .error .eproto
    else do
      let allocation ← decodeDescriptorSetAllocateRequest (window input 32 allocationLength) allocationLength
      let decoded : DescriptorTransactionAllocateRequest :=
        ⟨generation, sequence, length, recordCount, allocation⟩
      compared (encodeDescriptorTransactionAllocateRequest decoded) input inputLength decoded

structure DescriptorWrite where
  descriptorSetId : UInt64
  dstBinding : UInt32
  dstArrayElement : UInt32
  descriptorCount : UInt32
  descriptorType : UInt32
  firstSampler : UInt32
  deriving Inhabited

def encodeDescriptorWrite (output : Buffer) (cursor : Nat) (write : DescriptorWrite) : Buffer :=
  let output := putU64 output cursor write.descriptorSetId
  let output := putU32 output (cursor + 8) write.dstBinding
  let output := putU32 output (cursor + 12) write.dstArrayElement
  let output := putU32 output (cursor + 16) write.descriptorCount
  let output := putU32 output (cursor + 20) write.descriptorType
  putU32 output (cursor + 24) write.firstSampler

def decodeDescriptorWrite (input : Buffer) (cursor : Nat) : DescriptorWrite :=
  ⟨getU64 input cursor, getU32 input (cursor + 8), getU32 input (cursor + 12), getU32 input (cursor + 16),
    getU32 input (cursor + 20), getU32 input (cursor + 24)⟩

def descriptorWriteIsValid (samplerCount : UInt32) (write : DescriptorWrite) : Bool :=
  !(!handleExpect write.descriptorSetId .descriptorSet || write.descriptorCount == 0 ||
    write.firstSampler ≥ samplerCount || write.descriptorCount > samplerCount - write.firstSampler)

structure DescriptorUpdateRequest where
  deviceId : UInt64
  writeCount : UInt32
  samplerCount : UInt32
  writes : Fin 32 → DescriptorWrite
  samplerIds : Fin 128 → UInt64

namespace DescriptorUpdateRequest

def isEncodable (request : DescriptorUpdateRequest) : Bool :=
  !(!handleExpect request.deviceId .device || request.writeCount == 0 || request.writeCount > 32 ||
      request.samplerCount == 0 || request.samplerCount > 128) &&
    (List.range request.writeCount.toNat).all (fun index =>
      descriptorWriteIsValid request.samplerCount (slot request.writes index)) &&
    (List.range request.samplerCount.toNat).all (fun index =>
      handleExpect (slot request.samplerIds index) .sampler)

def size (request : DescriptorUpdateRequest) : Nat :=
  16 + request.writeCount.toNat * 32 + request.samplerCount.toNat * 8

def payload (request : DescriptorUpdateRequest) : Buffer :=
  let output := putU64 zeroed 0 request.deviceId
  let output := putU32 output 8 request.writeCount
  let output := putU32 output 12 request.samplerCount
  let output := loop request.writeCount.toNat (fun index output =>
    encodeDescriptorWrite output (16 + index * 32) (slot request.writes index)) output
  loop request.samplerCount.toNat (fun index output =>
    putU64 output (16 + request.writeCount.toNat * 32 + index * 8) (slot request.samplerIds index)) output

def read (input : Buffer) : DescriptorUpdateRequest where
  deviceId := getU64 input 0
  writeCount := getU32 input 8
  samplerCount := getU32 input 12
  writes := fill 32 (getU32 input 8).toNat fun index => decodeDescriptorWrite input (16 + index * 32)
  samplerIds := fill 128 (getU32 input 12).toNat fun index =>
    getU64 input (16 + (getU32 input 8).toNat * 32 + index * 8)

end DescriptorUpdateRequest

def encodeDescriptorUpdateRequest (request : DescriptorUpdateRequest) : Except Errno (Buffer × Nat) :=
  if !request.isEncodable then .error .einval else .ok (request.payload, request.size)

def decodeDescriptorUpdateRequest (input : Buffer) (inputLength : Nat) : Except Errno DescriptorUpdateRequest :=
  if inputLength < 16 then .error .einval
  else
    let writeCount := getU32 input 8
    let samplerCount := getU32 input 12
    if writeCount > 32 || samplerCount > 128 ||
        inputLength != 16 + writeCount.toNat * 32 + samplerCount.toNat * 8 then .error .eproto
    else if (List.range writeCount.toNat).any (fun index => getU32 input (16 + index * 32 + 28) != 0) then
      .error .eproto
    else
      let decoded := DescriptorUpdateRequest.read input
      validated (encodeDescriptorUpdateRequest decoded) decoded

structure DescriptorUpdateTemplateEntry where
  dstBinding : UInt32
  dstArrayElement : UInt32
  descriptorCount : UInt32
  descriptorType : UInt32
  offset : UInt64
  stride : UInt64
  deriving Inhabited

def maxTemplateDataSize : UInt64 := 1048576

def templateEntryIsBounded (entry : DescriptorUpdateTemplateEntry) : Bool :=
  if entry.descriptorCount == 0 || entry.descriptorType > 10 || entry.stride == 0 ||
      entry.offset ≥ maxTemplateDataSize || entry.stride > maxTemplateDataSize then false
  else
    let remaining := entry.descriptorCount.toUInt64 - 1
    decide (remaining ≤ (maxTemplateDataSize - 1 - entry.offset) / entry.stride)

def encodeTemplateEntry (output : Buffer) (cursor : Nat) (entry : DescriptorUpdateTemplateEntry) : Buffer :=
  let output := putU32 output cursor entry.dstBinding
  let output := putU32 output (cursor + 4) entry.dstArrayElement
  let output := putU32 output (cursor + 8) entry.descriptorCount
  let output := putU32 output (cursor + 12) entry.descriptorType
  let output := putU64 output (cursor + 16) entry.offset
  putU64 output (cursor + 24) entry.stride

def decodeTemplateEntry (input : Buffer) (cursor : Nat) : DescriptorUpdateTemplateEntry :=
  ⟨getU32 input cursor, getU32 input (cursor + 4), getU32 input (cursor + 8), getU32 input (cursor + 12),
    getU64 input (cursor + 16), getU64 input (cursor + 24)⟩

structure DescriptorUpdateTemplateCreateRequest where
  deviceId : UInt64
  flags : UInt32
  entryCount : UInt32
  templateType : UInt32
  set : UInt32
  descriptorSetLayoutId : UInt64
  pipelineLayoutId : UInt64
  pipelineBindPoint : UInt32
  entries : Fin 32 → DescriptorUpdateTemplateEntry

namespace DescriptorUpdateTemplateCreateRequest

def isEncodable (request : DescriptorUpdateTemplateCreateRequest) : Bool :=
  !(!handleExpect request.deviceId .device ||
      !handleExpect request.descriptorSetLayoutId .descriptorSetLayout || request.flags != 0 ||
      request.entryCount == 0 || request.entryCount > 32 || request.templateType != 0 || request.set != 0 ||
      request.pipelineLayoutId != 0 || request.pipelineBindPoint != 0) &&
    (List.range request.entryCount.toNat).all (fun index => templateEntryIsBounded (slot request.entries index))

def size (request : DescriptorUpdateTemplateCreateRequest) : Nat := 48 + request.entryCount.toNat * 32

def payload (request : DescriptorUpdateTemplateCreateRequest) : Buffer :=
  let output := putU64 zeroed 0 request.deviceId
  let output := putU32 output 8 request.flags
  let output := putU32 output 12 request.entryCount
  let output := putU32 output 16 request.templateType
  let output := putU32 output 20 request.set
  let output := putU64 output 24 request.descriptorSetLayoutId
  let output := putU64 output 32 request.pipelineLayoutId
  let output := putU32 output 40 request.pipelineBindPoint
  loop request.entryCount.toNat (fun index output =>
    encodeTemplateEntry output (48 + index * 32) (slot request.entries index)) output

def read (input : Buffer) : DescriptorUpdateTemplateCreateRequest where
  deviceId := getU64 input 0
  flags := getU32 input 8
  entryCount := getU32 input 12
  templateType := getU32 input 16
  set := getU32 input 20
  descriptorSetLayoutId := getU64 input 24
  pipelineLayoutId := getU64 input 32
  pipelineBindPoint := getU32 input 40
  entries := fill 32 (getU32 input 12).toNat fun index => decodeTemplateEntry input (48 + index * 32)

end DescriptorUpdateTemplateCreateRequest

def encodeDescriptorUpdateTemplateCreateRequest (request : DescriptorUpdateTemplateCreateRequest) :
    Except Errno (Buffer × Nat) :=
  if !request.isEncodable then .error .einval else .ok (request.payload, request.size)

def decodeDescriptorUpdateTemplateCreateRequest (input : Buffer) (inputLength : Nat) :
    Except Errno DescriptorUpdateTemplateCreateRequest :=
  if inputLength < 48 || getU32 input 44 != 0 then .error .einval
  else
    let entryCount := getU32 input 12
    if entryCount == 0 || entryCount > 32 || inputLength != 48 + entryCount.toNat * 32 then .error .eproto
    else
      let decoded := DescriptorUpdateTemplateCreateRequest.read input
      compared (encodeDescriptorUpdateTemplateCreateRequest decoded) input inputLength decoded

structure DescriptorTemplateValue where
  descriptorType : UInt32
  imageLayout : UInt32
  objectId : UInt64
  auxiliaryObjectId : UInt64
  offset : UInt64
  range : UInt64
  deriving Inhabited, DecidableEq

def idIsNullOr (id : UInt64) (type : ObjectType) : Bool := id == 0 || handleExpect id type

def templateValueIsCanonical (value : DescriptorTemplateValue) : Bool :=
  match value.descriptorType.toNat with
  | 0 =>
      idIsNullOr value.objectId .sampler && value.auxiliaryObjectId == 0 && value.imageLayout == 0 &&
        value.offset == 0 && value.range == 0
  | 1 =>
      idIsNullOr value.objectId .imageView && idIsNullOr value.auxiliaryObjectId .sampler &&
        value.offset == 0 && value.range == 0
  | 2 | 3 | 10 =>
      idIsNullOr value.objectId .imageView && value.auxiliaryObjectId == 0 && value.offset == 0 &&
        value.range == 0
  | 4 | 5 =>
      value.objectId == 0 && value.auxiliaryObjectId == 0 && value.imageLayout == 0 && value.offset == 0 &&
        value.range == 0
  | 6 | 7 | 8 | 9 =>
      idIsNullOr value.objectId .buffer && value.auxiliaryObjectId == 0 && value.imageLayout == 0
  | _ => false

def encodeTemplateValue (output : Buffer) (cursor : Nat) (value : DescriptorTemplateValue) : Buffer :=
  let output := putU32 output cursor value.descriptorType
  let output := putU32 output (cursor + 4) value.imageLayout
  let output := putU64 output (cursor + 8) value.objectId
  let output := putU64 output (cursor + 16) value.auxiliaryObjectId
  let output := putU64 output (cursor + 24) value.offset
  putU64 output (cursor + 32) value.range

def decodeTemplateValue (input : Buffer) (cursor : Nat) : DescriptorTemplateValue :=
  ⟨getU32 input cursor, getU32 input (cursor + 4), getU64 input (cursor + 8), getU64 input (cursor + 16),
    getU64 input (cursor + 24), getU64 input (cursor + 32)⟩

structure DescriptorTemplateUpdateRequest where
  deviceId : UInt64
  descriptorSetId : UInt64
  descriptorUpdateTemplateId : UInt64
  valueCount : UInt32
  values : Fin 64 → DescriptorTemplateValue

namespace DescriptorTemplateUpdateRequest

def isEncodable (request : DescriptorTemplateUpdateRequest) : Bool :=
  !(!handleExpect request.deviceId .device || !handleExpect request.descriptorSetId .descriptorSet ||
      !handleExpect request.descriptorUpdateTemplateId .descriptorUpdateTemplate || request.valueCount == 0 ||
      request.valueCount > 64) &&
    (List.range request.valueCount.toNat).all (fun index => templateValueIsCanonical (slot request.values index))

def size (request : DescriptorTemplateUpdateRequest) : Nat := 32 + request.valueCount.toNat * 40

def payload (request : DescriptorTemplateUpdateRequest) : Buffer :=
  let output := putU64 zeroed 0 request.deviceId
  let output := putU64 output 8 request.descriptorSetId
  let output := putU64 output 16 request.descriptorUpdateTemplateId
  let output := putU32 output 24 request.valueCount
  loop request.valueCount.toNat (fun index output =>
    encodeTemplateValue output (32 + index * 40) (slot request.values index)) output

def read (input : Buffer) : DescriptorTemplateUpdateRequest where
  deviceId := getU64 input 0
  descriptorSetId := getU64 input 8
  descriptorUpdateTemplateId := getU64 input 16
  valueCount := getU32 input 24
  values := fill 64 (getU32 input 24).toNat fun index => decodeTemplateValue input (32 + index * 40)

end DescriptorTemplateUpdateRequest

def encodeDescriptorTemplateUpdateRequest (request : DescriptorTemplateUpdateRequest) :
    Except Errno (Buffer × Nat) :=
  if !request.isEncodable then .error .einval else .ok (request.payload, request.size)

def decodeDescriptorTemplateUpdateRequest (input : Buffer) (inputLength : Nat) :
    Except Errno DescriptorTemplateUpdateRequest :=
  if inputLength < 32 || getU32 input 28 != 0 then .error .einval
  else
    let valueCount := getU32 input 24
    if valueCount == 0 || valueCount > 64 || inputLength != 32 + valueCount.toNat * 40 then .error .eproto
    else
      let decoded := DescriptorTemplateUpdateRequest.read input
      compared (encodeDescriptorTemplateUpdateRequest decoded) input inputLength decoded

end VulkanBridge
