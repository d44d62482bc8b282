import VulkanBridge.ByteStrings
import VulkanBridge.CheckedLoops
import VulkanBridge.Protocol
import VulkanBridge.CommandStream
import VulkanBridge.CommandCodec

/-!
The requests of the strict transport: the codecs of `protocol.c` and
`vulkan_descriptor_wire.c` for begin, end, fill, clear and descriptor bind, and
the answers of `bridge_service.c`. The type test of the codecs is the one of
`handleExpect`.
-/

namespace VulkanBridge

open ByteBuffer CheckedLoops

inductive ServiceOpcode where
  | commandBufferBegin
  | commandBufferEnd
  | commandBufferFill
  | commandBufferClearColorImage
  | commandBufferBindDescriptorSets
  | commandBufferImmediateRecord
  deriving DecidableEq, Repr

structure ProtocolRequest where
  opcode : ServiceOpcode
  payload : Buffer
  payloadLength : Nat

/-- A response; `status` is `none` where the header has 0. -/
structure ProtocolResponse where
  status : Option Errno
  payload : Buffer
  payloadLength : Nat

def encodeCommandBufferBeginRequest (request : CommandBufferBeginRequest) : Except Errno Buffer :=
  if !handleExpect request.commandBufferId .commandBuffer then .error .einval
  else
    let output := putU64 zeroed 0 request.commandBufferId
    .ok (putU32 output 8 request.flags)

def decodeCommandBufferBeginRequest (input : Buffer) : Except Errno CommandBufferBeginRequest :=
  let decoded : CommandBufferBeginRequest := ⟨getU64 input 0, getU32 input 8⟩
  if !handleExpect decoded.commandBufferId .commandBuffer || getU32 input 12 != 0 then .error .eproto
  else .ok decoded

def encodeCommandBufferId (commandBufferId : UInt64) : Except Errno Buffer :=
  if !handleExpect commandBufferId .commandBuffer then .error .einval
  else .ok (putU64 zeroed 0 commandBufferId)

def decodeCommandBufferId (input : Buffer) : Except Errno UInt64 :=
  let decoded := getU64 input 0
  if !handleExpect decoded .commandBuffer then .error .eproto else .ok decoded

def encodeCommandBufferFillRequest (request : CommandBufferFillRequest) : Except Errno Buffer :=
  if request.size == 0 || !handleExpect request.commandBufferId .commandBuffer ||
      !handleExpect request.bufferId .buffer then .error .einval
  else
    let output := putU64 zeroed 0 request.commandBufferId
    let output := putU64 output 8 request.bufferId
    let output := putU64 output 16 request.offset
    let output := putU64 output 24 request.size
    .ok (putU32 output 32 request.data)

def decodeCommandBufferFillRequest (input : Buffer) : Except Errno CommandBufferFillRequest :=
  let request : CommandBufferFillRequest :=
    ⟨getU64 input 0, getU64 input 8, getU64 input 16, getU64 input 24, getU32 input 32⟩
  if handleExpect request.commandBufferId .commandBuffer && handleExpect request.bufferId .buffer &&
      request.size != 0 && getU32 input 36 == 0 then .ok request
  else .error .eproto

def encodeCommandBufferClearColorImageRequest (request : CommandBufferClearColorImageRequest) :
    Except Errno Buffer :=
  if !handleExpect request.commandBufferId .commandBuffer || !handleExpect request.imageId .image then
    .error .einval
  else .ok (putU64 (putU64 zeroed 0 request.commandBufferId) 8 request.imageId)

def decodeCommandBufferClearColorImageRequest (input : Buffer) :
    Except Errno CommandBufferClearColorImageRequest :=
  let request : CommandBufferClearColorImageRequest := ⟨getU64 input 0, getU64 input 8⟩
  if handleExpect request.commandBufferId .commandBuffer && handleExpect request.imageId .image then
    .ok request
  else .error .eproto

namespace BindDescriptorSetsRequest

def isEncodable (request : BindDescriptorSetsRequest) : Bool :=
  !(!handleExpect request.commandBufferId .commandBuffer ||
      !handleExpect request.pipelineLayoutId .pipelineLayout || request.pipelineBindPoint > 1 ||
      request.descriptorSetCount == 0 || request.descriptorSetCount > 8 ||
      request.dynamicOffsetCount > 32) &&
    (List.range request.descriptorSetCount.toNat).all (fun index =>
      handleExpect (slot request.descriptorSetIds index) .descriptorSet)

def size (request : BindDescriptorSetsRequest) : Nat :=
  32 + request.descriptorSetCount.toNat * 8 + request.dynamicOffsetCount.toNat * 4

def payload (request : BindDescriptorSetsRequest) : Buffer :=
  let output := putU64 zeroed 0 request.commandBufferId
  let output := putU64 output 8 request.pipelineLayoutId
  let output := putU32 output 16 request.pipelineBindPoint
  let output := putU32 output 20 request.firstSet
  let output := putU32 output 24 request.descriptorSetCount
  let output := putU32 output 28 request.dynamicOffsetCount
  let output := loop request.descriptorSetCount.toNat (fun index output =>
    putU64 output (32 + index * 8) (slot request.descriptorSetIds index)) output
  loop request.dynamicOffsetCount.toNat (fun index output =>
    putU32 output (32 + request.descriptorSetCount.toNat * 8 + index * 4)
      (slot request.dynamicOffsets index)) output

end BindDescriptorSetsRequest

def encodeBindDescriptorSetsRequest (request : BindDescriptorSetsRequest) : Except Errno (Buffer × Nat) :=
  if !request.isEncodable then .error .einval else .ok (request.payload, request.size)

def decodeBindDescriptorSetsRequest (input : Buffer) (inputLength : Nat) :
    Except Errno BindDescriptorSetsRequest :=
  if inputLength < 32 then .error .einval
  else
    let setCount := getU32 input 24
    let offsetCount := getU32 input 28
    if setCount == 0 || setCount > 8 || offsetCount > 32 ||
        inputLength != 32 + setCount.toNat * 8 + offsetCount.toNat * 4 then .error .eproto
    else
      let decoded : BindDescriptorSetsRequest :=
        { commandBufferId := getU64 input 0
          pipelineLayoutId := getU64 input 8
          pipelineBindPoint := getU32 input 16
          firstSet := getU32 input 20
          descriptorSetCount := setCount
          dynamicOffsetCount := offsetCount
          descriptorSetIds := fill 8 setCount.toNat fun index => getU64 input (32 + index * 8)
          dynamicOffsets := fill 32 offsetCount.toNat fun index =>
            getU32 input (32 + setCount.toNat * 8 + index * 4) }
      match encodeBindDescriptorSetsRequest decoded with
      | .error _ => .error .eproto
      | .ok (validation, validationLength) =>
          if validationLength != inputLength || !sameBytes validation input inputLength then .error .eproto
          else .ok decoded

theorem decode_encode_begin {request : CommandBufferBeginRequest} {payload : Buffer}
    (encoded : encodeCommandBufferBeginRequest request = .ok payload) :
    decodeCommandBufferBeginRequest payload = .ok request := by
  simp only [encodeCommandBufferBeginRequest, refused_eq_ok, Bool.not_eq_true',
    Bool.not_eq_false, Except.ok.injEq] at encoded
  obtain ⟨handle, rfl⟩ := encoded
  simp (disch := omega) only [decodeCommandBufferBeginRequest, getU64_putU32_apart, getU64_putU64,
    getU32_putU32, getU32_putU32_apart, getU32_putU64_apart, getU32_zeroed, handle]
  rfl

theorem decode_encode_id {commandBufferId : UInt64} {payload : Buffer}
    (encoded : encodeCommandBufferId commandBufferId = .ok payload) :
    decodeCommandBufferId payload = .ok commandBufferId := by
  simp only [encodeCommandBufferId, refused_eq_ok, Bool.not_eq_true', Bool.not_eq_false,
    Except.ok.injEq] at encoded
  obtain ⟨handle, rfl⟩ := encoded
  simp only [decodeCommandBufferId, getU64_putU64, handle]
  rfl

theorem decode_encode_fill {request : CommandBufferFillRequest} {payload : Buffer}
    (encoded : encodeCommandBufferFillRequest request = .ok payload) :
    decodeCommandBufferFillRequest payload = .ok request := by
  simp only [encodeCommandBufferFillRequest, refused_eq_ok, Bool.or_eq_true, Bool.not_eq_true',
    not_or, Bool.not_eq_false, Bool.not_eq_true, Except.ok.injEq] at encoded
  obtain ⟨⟨⟨size, commandBuffer⟩, buffer⟩, rfl⟩ := encoded
  simp (disch := omega) only [decodeCommandBufferFillRequest, getU64_putU32_apart, getU64_putU64,
    getU64_putU64_apart, getU32_putU32, getU32_putU32_apart, getU32_putU64_apart, getU32_zeroed,
    commandBuffer, buffer, bne, size]
  rfl

theorem decode_encode_clearColorImage {request : CommandBufferClearColorImageRequest} {payload : Buffer}
    (encoded : encodeCommandBufferClearColorImageRequest request = .ok payload) :
    decodeCommandBufferClearColorImageRequest payload = .ok request := by
  simp only [encodeCommandBufferClearColorImageRequest, refused_eq_ok, Bool.or_eq_true,
    Bool.not_eq_true', not_or, Bool.not_eq_false, Except.ok.injEq] at encoded
  obtain ⟨⟨commandBuffer, image⟩, rfl⟩ := encoded
  simp (disch := omega) only [decodeCommandBufferClearColorImageRequest, getU64_putU64,
    getU64_putU64_apart, commandBuffer, image]
  rfl

namespace BindDescriptorSetsRequest

/-- The request with the array slots behind the counts zero. -/
def cleared (request : BindDescriptorSetsRequest) : BindDescriptorSetsRequest :=
  { request with
    descriptorSetIds := keep request.descriptorSetCount.toNat request.descriptorSetIds
    dynamicOffsets := keep request.dynamicOffsetCount.toNat request.dynamicOffsets }

theorem cleared_payload (request : BindDescriptorSetsRequest) : request.cleared.payload = request.payload := by
  have sets : ∀ output, loop request.descriptorSetCount.toNat (fun index output =>
      putU64 output (32 + index * 8) (slot request.cleared.descriptorSetIds index)) output =
        loop request.descriptorSetCount.toNat (fun index output =>
          putU64 output (32 + index * 8) (slot request.descriptorSetIds index)) output := by
    apply loop_congr
    intro index used
    simp only [cleared, slot_keep _ used]
  have offsets : ∀ output, loop request.dynamicOffsetCount.toNat (fun index output =>
      putU32 output (32 + request.descriptorSetCount.toNat * 8 + index * 4)
        (slot request.cleared.dynamicOffsets index)) output =
        loop request.dynamicOffsetCount.toNat (fun index output =>
          putU32 output (32 + request.descriptorSetCount.toNat * 8 + index * 4)
            (slot request.dynamicOffsets index)) output := by
    apply loop_congr
    intro index used
    simp only [cleared, slot_keep _ used]
  exact (offsets _).trans (congrArg _ (sets _))

theorem payload_header (request : BindDescriptorSetsRequest) :
    getU64 request.payload 0 = request.commandBufferId ∧
      getU64 request.payload 8 = request.pipelineLayoutId ∧
      getU32 request.payload 16 = request.pipelineBindPoint ∧ getU32 request.payload 20 = request.firstSet ∧
      getU32 request.payload 24 = request.descriptorSetCount ∧
      getU32 request.payload 28 = request.dynamicOffsetCount := by
  simp (disch := omega) only [payload, getU64_arrayU32_apart, getU32_arrayU32_apart,
    getU64_arrayU64_apart, getU32_arrayU64_apart, getU32_putU32, getU32_putU32_apart, getU64_putU64,
    getU64_putU64_apart, getU64_putU32_apart, and_self]

theorem getU64_payload_set (request : BindDescriptorSetsRequest) {index : Nat}
    (used : index < request.descriptorSetCount.toNat) :
    getU64 request.payload (32 + index * 8) = slot request.descriptorSetIds index := by
  simp (disch := omega) only [payload, getU64_arrayU32_apart]
  exact getU64_arrayU64 _ _ 32 _ used

theorem getU32_payload_dynamic (request : BindDescriptorSetsRequest) {index : Nat}
    (used : index < request.dynamicOffsetCount.toNat) :
    getU32 request.payload (32 + request.descriptorSetCount.toNat * 8 + index * 4) =
      slot request.dynamicOffsets index :=
  getU32_arrayU32 _ _ _ _ used

theorem isEncodable_cleared (request : BindDescriptorSetsRequest) :
    request.cleared.isEncodable = request.isEncodable := by
  simp only [isEncodable, cleared]
  congr 1
  apply Bool.eq_iff_iff.mpr
  simp only [List.all_eq_true, List.mem_range]
  constructor
  · intro kept index used
    rw [← slot_keep _ used]
    exact kept index used
  · intro given index used
    rw [slot_keep _ used]
    exact given index used

end BindDescriptorSetsRequest

open BindDescriptorSetsRequest in
theorem decode_encode_bindDescriptorSets {request : BindDescriptorSetsRequest} {payload : Buffer}
    {length : Nat} (encoded : encodeBindDescriptorSetsRequest request = .ok (payload, length)) :
    decodeBindDescriptorSetsRequest payload length = .ok request.cleared := by
  simp only [encodeBindDescriptorSetsRequest, refused_eq_ok, Bool.not_eq_true',
    Bool.not_eq_false, Except.ok.injEq, Prod.mk.injEq] at encoded
  obtain ⟨encodable, rfl, rfl⟩ := encoded
  obtain ⟨commandBuffer, layout, bindPoint, first, sets, dynamic⟩ := request.payload_header
  have counts := encodable
  simp only [isEncodable, Bool.and_eq_true, Bool.not_eq_true', Bool.or_eq_false_iff] at counts
  obtain ⟨⟨⟨⟨⟨_, _⟩, someSets⟩, fewSets⟩, fewOffsets⟩, _⟩ := counts
  have long : ¬request.size < 32 := by
    simp only [size]
    omega
  have again : encodeBindDescriptorSetsRequest request.cleared = .ok (request.payload, request.size) := by
    rw [encodeBindDescriptorSetsRequest, isEncodable_cleared, encodable, cleared_payload]
    rfl
  have same := sameBytes_refl request.payload request.size
  have decoded : ({ commandBufferId := request.commandBufferId
                    pipelineLayoutId := request.pipelineLayoutId
                    pipelineBindPoint := request.pipelineBindPoint
                    firstSet := request.firstSet
                    descriptorSetCount := request.descriptorSetCount
                    dynamicOffsetCount := request.dynamicOffsetCount
                    descriptorSetIds := fill 8 request.descriptorSetCount.toNat fun index =>
                      getU64 request.payload (32 + index * 8)
                    dynamicOffsets := fill 32 request.dynamicOffsetCount.toNat fun index =>
                      getU32 request.payload (32 + request.descriptorSetCount.toNat * 8 + index * 4) } :
                  BindDescriptorSetsRequest) = request.cleared := by
    rw [cleared, fill_eq_keep _ _ fun index _ used => request.getU64_payload_set used,
      fill_eq_keep _ _ fun index _ used => request.getU32_payload_dynamic used]
  simp only [decodeBindDescriptorSetsRequest, long, ↓reduceIte, sets, dynamic, someSets, fewSets, fewOffsets,
    commandBuffer, layout, bindPoint, first, decoded, again, same]
  simp [size]

end VulkanBridge
