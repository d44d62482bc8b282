import VulkanBridge.CommandRequests
import VulkanBridge.DescriptorBlocks

/-!
The descriptor codecs are exact inverses. A format collects what one of them does: the
values it admits, what they are written as, and what is read back.
-/

namespace VulkanBridge

open ByteBuffer CheckedLoops

/-! ## Decoders that encode again -/

theorem validated_eq_ok {α : Type} {encoded : Except Errno (Buffer × Nat)} {decoded value : α} :
    validated encoded decoded = .ok value ↔ (∃ result, encoded = .ok result) ∧ decoded = value := by
  cases encoded with
  | error code => simp [validated]
  | ok result => simp [validated]

theorem compared_eq_ok {α : Type} {encoded : Except Errno (Buffer × Nat)} {input : Buffer} {inputLength : Nat}
    {decoded value : α} : compared encoded input inputLength decoded = .ok value ↔
      (∃ validation, encoded = .ok (validation, inputLength) ∧ sameBytes validation input inputLength = true) ∧
        decoded = value := by
  cases encoded with
  | error code => simp [compared]
  | ok result =>
      obtain ⟨validation, validationLength⟩ := result
      simp only [compared, refused_eq_ok, Except.ok.injEq, Prod.mk.injEq]
      constructor
      · rintro ⟨accepted, same⟩
        simp only [Bool.or_eq_true, bne_iff_ne, Bool.not_eq_true', not_or, Decidable.not_not,
          Bool.not_eq_false] at accepted
        exact ⟨⟨validation, ⟨rfl, accepted.1⟩, accepted.2⟩, same⟩
      · rintro ⟨⟨other, ⟨rfl, rfl⟩, same⟩, decodedSame⟩
        refine ⟨?_, decodedSame⟩
        simp [same]

theorem admitted_eq_ok {α : Type} {admitted : Bool} {code : Errno} {made result : α} :
    (if !admitted then .error code else .ok made : Except Errno α) = .ok result ↔
      admitted = true ∧ result = made := by
  simp only [refused_eq_ok, Bool.not_eq_true', Bool.not_eq_false, Except.ok.injEq, eq_comm (a := made)]

theorem graft_unused {source : Buffer} {first last count : Nat} (next : last = first + 4)
    (unused : getU32 source first = 0) (ends : EndsBy source (last + count)) :
    graft (graft zeroed source 0 first) source last count = source := by
  subst next
  rw [graft_extend zeroed source 0 first 4, graft_fuse _ _ (by omega), graft_whole source _ (by simpa using ends)]
  intro index lower upper
  exact (getU32_eq_zero_iff source first).mp unused index (by omega) (by omega)

namespace DescriptorSetLayoutCreateRequest

variable (request : DescriptorSetLayoutCreateRequest)

def cleared : DescriptorSetLayoutCreateRequest :=
  { request with bindings := keep request.bindingCount.toNat request.bindings }

theorem payload_header : getU64 request.payload 0 = request.deviceId ∧
    getU32 request.payload 8 = request.flags ∧ getU32 request.payload 12 = request.bindingCount ∧
    getU32 request.payload 16 = request.hasBindingFlags ∧ getU32 request.payload 20 = 0 := by
  simp (disch := omega) only [payload, getU64_elements_apart encodeLayoutBinding_writes,
    getU32_elements_apart encodeLayoutBinding_writes, getU32_putU32, getU32_putU32_apart, getU64_putU64,
    getU64_putU32_apart, getU32_putU64_apart, getU32_zeroed, and_self]

theorem payload_ends : EndsBy request.payload request.size := by
  intro index outside
  simp only [size] at outside
  simp (disch := omega) only [payload, elements_apart encodeLayoutBinding_writes, putU32_apart, putU64_apart,
    zeroed]

theorem read_payload : read request.payload = request.cleared := by
  obtain ⟨device, flags, count, has, -⟩ := request.payload_header
  have bindings : (fill 32 request.bindingCount.toNat fun index =>
      decodeLayoutBinding request.payload (24 + index * 20)) = keep request.bindingCount.toNat request.bindings := by
    apply fill_eq_keep
    intro index _ used
    exact layoutBindingBlock.get_loop _ 24 _ _ used
  simp only [read, cleared, device, flags, count, has, bindings]

theorem isEncodable_cleared : request.cleared.isEncodable = request.isEncodable := by
  simp only [isEncodable, cleared]
  congr 1
  apply all_range_congr
  intro index used
  rw [slot_keep _ used]
  congr 1
  apply all_range_congr
  intro prior before
  rw [slot_keep _ (by omega)]

def Framed (source : Buffer) (length : Nat) : Prop :=
  getU32 source 20 = 0 ∧ ¬getU32 source 12 > 32 ∧ length = 24 + (getU32 source 12).toNat * 20

theorem payload_framed (encodable : request.isEncodable = true) : Framed request.payload request.size := by
  obtain ⟨-, -, count, -, unused⟩ := request.payload_header
  simp only [isEncodable, Bool.and_eq_true, Bool.not_eq_true', Bool.or_eq_false_iff,
    decide_eq_false_iff_not] at encodable
  refine ⟨unused, ?_, ?_⟩
  · rw [count]
    exact encodable.1.1.2
  · rw [count]
    rfl

theorem payload_read {source : Buffer} {length : Nat} (ends : EndsBy source length)
    (framed : Framed source length) : (read source).payload = source ∧ (read source).size = length := by
  obtain ⟨unused, few, rfl⟩ := framed
  refine ⟨?_, rfl⟩
  have small := toNat_le_of_not_gt 32 rfl few
  simp only [read, payload, putU64_getU64, putU32_getU32,
    arrayBlock_read encodeLayoutBinding decodeLayoutBinding _ _ 24 20 small fun index _ buffer =>
      encodeLayoutBinding_decode buffer source _]
  simp (disch := omega) only [graft_fuse]
  exact graft_unused rfl unused ends

def format : WireFormat DescriptorSetLayoutCreateRequest where
  admits := isEncodable
  payload := payload
  size := size
  read := read
  framed := Framed
  cleared := cleared
  payload_ends value _ := payload_ends value
  payload_framed := payload_framed
  read_payload value _ := read_payload value
  admits_cleared := isEncodable_cleared
  payload_read _ _ := payload_read

theorem encode_eq_ok (result : Buffer × Nat) : encodeDescriptorSetLayoutCreateRequest request = .ok result ↔
    request.isEncodable = true ∧ result = (request.payload, request.size) :=
  admitted_eq_ok

theorem decode_eq_ok (source : Buffer) (length : Nat) (value : DescriptorSetLayoutCreateRequest) :
    decodeDescriptorSetLayoutCreateRequest source length = .ok value ↔
      Framed source length ∧ (read source).isEncodable = true ∧ read source = value := by
  simp only [decodeDescriptorSetLayoutCreateRequest, refused_eq_ok, validated_eq_ok, encode_eq_ok]
  simp only [Bool.or_eq_true, decide_eq_true_eq, bne_iff_ne, not_or, Decidable.not_not, Framed]
  constructor
  · rintro ⟨⟨-, unused⟩, ⟨few, long⟩, ⟨result, encodable, -⟩, same⟩
    exact ⟨⟨unused, few, long⟩, encodable, same⟩
  · rintro ⟨⟨unused, few, long⟩, encodable, same⟩
    exact ⟨⟨by omega, unused⟩, ⟨few, long⟩, ⟨_, encodable, rfl⟩, same⟩

theorem exactInverse :
    ExactInverse encodeDescriptorSetLayoutCreateRequest decodeDescriptorSetLayoutCreateRequest cleared :=
  format.exactInverse encode_eq_ok fun source length _ => decode_eq_ok source length

end DescriptorSetLayoutCreateRequest

namespace DescriptorPoolCreateRequest

variable (request : DescriptorPoolCreateRequest)

def cleared : DescriptorPoolCreateRequest :=
  { request with poolSizes := keep request.poolSizeCount.toNat request.poolSizes }

theorem payload_header : getU64 request.payload 0 = request.deviceId ∧
    getU32 request.payload 8 = request.flags ∧ getU32 request.payload 12 = request.maxSets ∧
    getU32 request.payload 16 = request.poolSizeCount ∧ getU32 request.payload 20 = 0 := by
  simp (disch := omega) only [payload, getU64_elements_apart encodePoolSize_writes,
    getU32_elements_apart encodePoolSize_writes, getU32_putU32, getU32_putU32_apart, getU64_putU64,
    getU64_putU32_apart, getU32_putU64_apart, getU32_zeroed, and_self]

theorem payload_ends : EndsBy request.payload request.size := by
  intro index outside
  simp only [size] at outside
  simp (disch := omega) only [payload, elements_apart encodePoolSize_writes, putU32_apart, putU64_apart, zeroed]

theorem read_payload : read request.payload = request.cleared := by
  obtain ⟨device, flags, sets, count, -⟩ := request.payload_header
  have poolSizes : (fill 16 request.poolSizeCount.toNat fun index =>
      decodePoolSize request.payload (24 + index * 8)) = keep request.poolSizeCount.toNat request.poolSizes := by
    apply fill_eq_keep
    intro index _ used
    exact poolSizeBlock.get_loop _ 24 _ _ used
  simp only [read, cleared, device, flags, sets, count, poolSizes]

theorem isEncodable_cleared : request.cleared.isEncodable = request.isEncodable := by
  simp only [isEncodable, cleared]
  congr 1
  apply all_range_congr
  intro index used
  rw [slot_keep _ used]
  congr 1
  apply all_range_congr
  intro prior before
  rw [slot_keep _ (by omega)]

def Framed (source : Buffer) (length : Nat) : Prop :=
  getU32 source 20 = 0 ∧ ¬getU32 source 16 > 16 ∧ length = 24 + (getU32 source 16).toNat * 8

theorem payload_framed (encodable : request.isEncodable = true) : Framed request.payload request.size := by
  obtain ⟨-, -, -, count, unused⟩ := request.payload_header
  simp only [isEncodable, Bool.and_eq_true, Bool.not_eq_true', Bool.or_eq_false_iff,
    decide_eq_false_iff_not] at encodable
  refine ⟨unused, ?_, ?_⟩
  · rw [count]
    exact encodable.1.2
  · rw [count]
    rfl

theorem payload_read {source : Buffer} {length : Nat} (ends : EndsBy source length)
    (framed : Framed source length) : (read source).payload = source ∧ (read source).size = length := by
  obtain ⟨unused, few, rfl⟩ := framed
  refine ⟨?_, rfl⟩
  have small := toNat_le_of_not_gt 16 rfl few
  simp only [read, payload, putU64_getU64, putU32_getU32,
    arrayBlock_read encodePoolSize decodePoolSize _ _ 24 8 small fun index _ buffer =>
      encodePoolSize_decode buffer source _]
  simp (disch := omega) only [graft_fuse]
  exact graft_unused rfl unused ends

def format : WireFormat DescriptorPoolCreateRequest where
  admits := isEncodable
  payload := payload
  size := size
  read := read
  framed := Framed
  cleared := cleared
  payload_ends value _ := payload_ends value
  payload_framed := payload_framed
  read_payload value _ := read_payload value
  admits_cleared := isEncodable_cleared
  payload_read _ _ := payload_read

theorem encode_eq_ok (result : Buffer × Nat) : encodeDescriptorPoolCreateRequest request = .ok result ↔
    request.isEncodable = true ∧ result = (request.payload, request.size) :=
  admitted_eq_ok

theorem decode_eq_ok (source : Buffer) (length : Nat) (value : DescriptorPoolCreateRequest) :
    decodeDescriptorPoolCreateRequest source length = .ok value ↔
      Framed source length ∧ (read source).isEncodable = true ∧ read source = value := by
  simp only [decodeDescriptorPoolCreateRequest, refused_eq_ok, validated_eq_ok, encode_eq_ok]
  simp only [Bool.or_eq_true, decide_eq_true_eq, bne_iff_ne, not_or, Decidable.not_not, Framed]
  constructor
  · rintro ⟨⟨-, unused⟩, ⟨few, long⟩, ⟨result, encodable, -⟩, same⟩
    exact ⟨⟨unused, few, long⟩, encodable, same⟩
  · rintro ⟨⟨unused, few, long⟩, encodable, same⟩
    exact ⟨⟨by omega, unused⟩, ⟨few, long⟩, ⟨_, encodable, rfl⟩, same⟩

theorem exactInverse :
    ExactInverse encodeDescriptorPoolCreateRequest decodeDescriptorPoolCreateRequest cleared :=
  format.exactInverse encode_eq_ok fun source length _ => decode_eq_ok source length

end DescriptorPoolCreateRequest

namespace DescriptorSetAllocateRequest

variable (request : DescriptorSetAllocateRequest)

def cleared : DescriptorSetAllocateRequest :=
  { request with setLayoutIds := keep request.descriptorSetCount.toNat request.setLayoutIds }

theorem payload_header : getU64 request.payload 0 = request.descriptorPoolId ∧
    getU32 request.payload 8 = request.descriptorSetCount ∧ getU32 request.payload 12 = 0 := by
  simp (disch := omega) only [payload, getU64_arrayU64_apart, getU32_arrayU64_apart, getU32_putU32,
    getU32_putU32_apart, getU64_putU64, getU64_putU32_apart, getU32_putU64_apart, getU32_zeroed, and_self]

theorem payload_ends : EndsBy request.payload request.size := by
  intro index outside
  simp only [size] at outside
  simp (disch := omega) only [payload, arrayU64_apart, putU32_apart, putU64_apart, zeroed]

theorem read_payload : read request.payload = request.cleared := by
  obtain ⟨pool, count, -⟩ := request.payload_header
  have layouts : (fill 16 request.descriptorSetCount.toNat fun index =>
      getU64 request.payload (16 + index * 8)) =
        keep request.descriptorSetCount.toNat request.setLayoutIds := by
    apply fill_eq_keep
    intro index _ used
    exact getU64_arrayU64 _ _ 16 _ used
  simp only [read, cleared, pool, count, layouts]

theorem isEncodable_cleared : request.cleared.isEncodable = request.isEncodable := by
  simp only [isEncodable, cleared]
  congr 1
  apply all_range_congr
  intro index used
  rw [slot_keep _ used]

def Framed (source : Buffer) (length : Nat) : Prop :=
  getU32 source 12 = 0 ∧ getU32 source 8 ≠ 0 ∧ ¬getU32 source 8 > 16 ∧
    length = 16 + (getU32 source 8).toNat * 8

theorem payload_framed (encodable : request.isEncodable = true) : Framed request.payload request.size := by
  obtain ⟨-, count, unused⟩ := request.payload_header
  simp only [isEncodable, Bool.and_eq_true, Bool.not_eq_true', Bool.or_eq_false_iff, decide_eq_false_iff_not,
    beq_eq_false_iff_ne] at encodable
  refine ⟨unused, ?_, ?_, ?_⟩
  · rw [count]
    exact encodable.1.1.2
  · rw [count]
    exact encodable.1.2
  · rw [count]
    rfl

theorem payload_read {source : Buffer} {length : Nat} (ends : EndsBy source length)
    (framed : Framed source length) : (read source).payload = source ∧ (read source).size = length := by
  obtain ⟨unused, -, few, rfl⟩ := framed
  refine ⟨?_, rfl⟩
  have small := toNat_le_of_not_gt 16 rfl few
  simp only [read, payload, putU64_getU64, putU32_getU32, arrayU64_read _ _ _ small]
  simp (disch := omega) only [graft_fuse]
  exact graft_unused rfl unused ends

def format : WireFormat DescriptorSetAllocateRequest where
  admits := isEncodable
  payload := payload
  size := size
  read := read
  framed := Framed
  cleared := cleared
  payload_ends value _ := payload_ends value
  payload_framed := payload_framed
  read_payload value _ := read_payload value
  admits_cleared := isEncodable_cleared
  payload_read _ _ := payload_read

theorem encode_eq_ok (result : Buffer × Nat) : encodeDescriptorSetAllocateRequest request = .ok result ↔
    request.isEncodable = true ∧ result = (request.payload, request.size) :=
  admitted_eq_ok

theorem decode_eq_ok (source : Buffer) (length : Nat) (value : DescriptorSetAllocateRequest) :
    decodeDescriptorSetAllocateRequest source length = .ok value ↔
      Framed source length ∧ (read source).isEncodable = true ∧ read source = value := by
  simp only [decodeDescriptorSetAllocateRequest, refused_eq_ok, validated_eq_ok, encode_eq_ok]
  simp only [Bool.or_eq_true, decide_eq_true_eq, bne_iff_ne, beq_iff_eq, not_or, Decidable.not_not, Framed]
  constructor
  · rintro ⟨⟨-, unused⟩, ⟨⟨some, few⟩, long⟩, ⟨result, encodable, -⟩, same⟩
    exact ⟨⟨unused, some, few, long⟩, encodable, same⟩
  · rintro ⟨⟨unused, some, few, long⟩, encodable, same⟩
    exact ⟨⟨by omega, unused⟩, ⟨⟨some, few⟩, long⟩, ⟨_, encodable, rfl⟩, same⟩

theorem exactInverse :
    ExactInverse encodeDescriptorSetAllocateRequest decodeDescriptorSetAllocateRequest cleared :=
  format.exactInverse encode_eq_ok fun source length _ => decode_eq_ok source length

end DescriptorSetAllocateRequest

namespace DescriptorSetAllocateResponse

variable (response : DescriptorSetAllocateResponse)

def cleared : DescriptorSetAllocateResponse :=
  { response with descriptorSetIds := keep response.descriptorSetCount.toNat response.descriptorSetIds }

theorem payload_header : (getU32 response.payload 0).toInt32 = response.vulkanResult ∧
    getU32 response.payload 4 = response.descriptorSetCount := by
  simp (disch := omega) only [payload, getU32_arrayU64_apart, getU32_putU32, getU32_putU32_apart,
    toInt32_toUInt32, and_self]

theorem payload_ends : EndsBy response.payload response.size := by
  intro index outside
  simp only [size] at outside
  simp (disch := omega) only [payload, arrayU64_apart, putU32_apart, zeroed]

theorem read_payload : read response.payload = response.cleared := by
  obtain ⟨result, count⟩ := response.payload_header
  have sets : (fill 16 response.descriptorSetCount.toNat fun index =>
      getU64 response.payload (8 + index * 8)) =
        keep response.descriptorSetCount.toNat response.descriptorSetIds := by
    apply fill_eq_keep
    intro index _ used
    exact getU64_arrayU64 _ _ 8 _ used
  simp only [read, cleared, result, count, sets]

theorem isEncodable_cleared : response.cleared.isEncodable = response.isEncodable := by
  simp only [isEncodable, cleared]
  congr 1
  apply all_range_congr
  intro index used
  rw [slot_keep _ used]

def Framed (source : Buffer) (length : Nat) : Prop :=
  ¬getU32 source 4 > 16 ∧ length = 8 + (getU32 source 4).toNat * 8

theorem payload_framed (encodable : response.isEncodable = true) : Framed response.payload response.size := by
  obtain ⟨-, count⟩ := response.payload_header
  simp only [isEncodable, Bool.and_eq_true, Bool.not_eq_true', Bool.or_eq_false_iff,
    decide_eq_false_iff_not] at encodable
  constructor
  · rw [count]
    exact encodable.1.1.1
  · rw [count]
    rfl

theorem payload_read {source : Buffer} {length : Nat} (ends : EndsBy source length)
    (framed : Framed source length) : (read source).payload = source ∧ (read source).size = length := by
  obtain ⟨few, rfl⟩ := framed
  refine ⟨?_, rfl⟩
  have small := toNat_le_of_not_gt 16 rfl few
  simp only [read, payload, putU32_getI32, putU32_getU32, arrayU64_read _ _ _ small]
  simp (disch := omega) only [graft_fuse]
  exact graft_whole source _ ends

def format : WireFormat DescriptorSetAllocateResponse where
  admits := isEncodable
  payload := payload
  size := size
  read := read
  framed := Framed
  cleared := cleared
  payload_ends value _ := payload_ends value
  payload_framed := payload_framed
  read_payload value _ := read_payload value
  admits_cleared := isEncodable_cleared
  payload_read _ _ := payload_read

theorem encode_eq_ok (result : Buffer × Nat) : encodeDescriptorSetAllocateResponse response = .ok result ↔
    response.isEncodable = true ∧ result = (response.payload, response.size) :=
  admitted_eq_ok

theorem decode_eq_ok (source : Buffer) (length : Nat) (value : DescriptorSetAllocateResponse) :
    decodeDescriptorSetAllocateResponse source length = .ok value ↔
      Framed source length ∧ (read source).isEncodable = true ∧ read source = value := by
  simp only [decodeDescriptorSetAllocateResponse, refused_eq_ok, validated_eq_ok, encode_eq_ok]
  simp only [Bool.or_eq_true, decide_eq_true_eq, bne_iff_ne, not_or, Decidable.not_not, Framed]
  constructor
  · rintro ⟨-, framed, ⟨result, encodable, -⟩, same⟩
    exact ⟨framed, encodable, same⟩
  · rintro ⟨framed, encodable, same⟩
    exact ⟨by omega, framed, ⟨_, encodable, rfl⟩, same⟩

theorem exactInverse :
    ExactInverse encodeDescriptorSetAllocateResponse decodeDescriptorSetAllocateResponse cleared :=
  format.exactInverse encode_eq_ok fun source length _ => decode_eq_ok source length

end DescriptorSetAllocateResponse

namespace DescriptorTransactionAllocateRequest

variable (request : DescriptorTransactionAllocateRequest)

def isEncodable : Bool :=
  journalIsValid request.journalGeneration request.journalSequence request.journalLength
    request.journalRecordCount && request.allocation.isEncodable

def size : Nat := 32 + request.allocation.size

def payload : Buffer :=
  copyInto (request.prefixPayload request.allocation.size) 32 request.allocation.payload request.allocation.size

def read (input : Buffer) : DescriptorTransactionAllocateRequest :=
  ⟨getU64 input 0, getU64 input 8, getU32 input 16, getU32 input 20,
    DescriptorSetAllocateRequest.read (window input 32 (getU32 input 24).toNat)⟩

def cleared : DescriptorTransactionAllocateRequest := { request with allocation := request.allocation.cleared }

def Framed (source : Buffer) (length : Nat) : Prop :=
  getU32 source 28 = 0 ∧ (getU32 source 24).toNat ≤ 144 ∧ length = 32 + (getU32 source 24).toNat ∧
    DescriptorSetAllocateRequest.Framed (window source 32 (getU32 source 24).toNat) (getU32 source 24).toNat

theorem allocation_size {allocation : DescriptorSetAllocateRequest} (encodable : allocation.isEncodable = true) :
    allocation.size ≤ 144 := by
  simp only [DescriptorSetAllocateRequest.isEncodable, Bool.and_eq_true, Bool.not_eq_true', Bool.or_eq_false_iff,
    decide_eq_false_iff_not] at encodable
  have small := toNat_le_of_not_gt 16 rfl encodable.1.2
  simp only [DescriptorSetAllocateRequest.size]
  omega

theorem payload_header : getU64 request.payload 0 = request.journalGeneration ∧
    getU64 request.payload 8 = request.journalSequence ∧ getU32 request.payload 16 = request.journalLength ∧
    getU32 request.payload 20 = request.journalRecordCount ∧
    getU32 request.payload 24 = UInt32.ofNat request.allocation.size ∧ getU32 request.payload 28 = 0 := by
  simp (disch := omega) only [payload, prefixPayload, getU64_copyInto_apart, getU32_copyInto_apart, getU32_putU32,
    getU32_putU32_apart, getU64_putU64, getU64_putU32_apart, getU64_putU64_apart, and_self]

theorem payload_length (encodable : request.isEncodable = true) :
    (getU32 request.payload 24).toNat = request.allocation.size := by
  obtain ⟨-, -, -, -, length, -⟩ := request.payload_header
  simp only [isEncodable, Bool.and_eq_true] at encodable
  have small := allocation_size encodable.2
  rw [length, UInt32.toNat_ofNat', Nat.mod_eq_of_lt (by omega)]

theorem payload_allocation (encodable : request.isEncodable = true) :
    window request.payload 32 (getU32 request.payload 24).toNat = request.allocation.payload := by
  rw [request.payload_length encodable]
  exact window_copyInto _ _ _ _ (DescriptorSetAllocateRequest.payload_ends _)

theorem payload_ends : EndsBy request.payload request.size := by
  intro index outside
  simp only [size] at outside
  simp (disch := omega) only [payload, prefixPayload, copyInto_apart, putU32_apart, putU64_apart, zeroed]

theorem read_payload (encodable : request.isEncodable = true) : read request.payload = request.cleared := by
  obtain ⟨generation, sequence, length, count, -, -⟩ := request.payload_header
  simp only [read, cleared, generation, sequence, length, count, request.payload_allocation encodable,
    DescriptorSetAllocateRequest.read_payload]

theorem isEncodable_cleared : request.cleared.isEncodable = request.isEncodable := by
  simp only [isEncodable, cleared, DescriptorSetAllocateRequest.isEncodable_cleared]

theorem payload_framed (encodable : request.isEncodable = true) : Framed request.payload request.size := by
  obtain ⟨-, -, -, -, -, unused⟩ := request.payload_header
  have parts := encodable
  simp only [isEncodable, Bool.and_eq_true] at parts
  refine ⟨unused, ?_, ?_, ?_⟩
  · rw [request.payload_length encodable]
    exact allocation_size parts.2
  · rw [request.payload_length encodable]
    rfl
  · rw [request.payload_allocation encodable, request.payload_length encodable]
    exact DescriptorSetAllocateRequest.payload_framed _ parts.2

theorem payload_read {source : Buffer} {length : Nat} (ends : EndsBy source length)
    (framed : Framed source length) : (read source).payload = source ∧ (read source).size = length := by
  obtain ⟨unused, -, rfl, allocation⟩ := framed
  obtain ⟨whole, size⟩ := DescriptorSetAllocateRequest.payload_read (window_endsBy _ _ _) allocation
  constructor
  · have copied : ∀ target, copyInto target 32 (window source 32 (getU32 source 24).toNat)
        (getU32 source 24).toNat = graft target source 32 (getU32 source 24).toNat := by
      intro target
      apply copyInto_graft
      intro index inside
      simp only [window, if_pos inside]
    simp only [payload, prefixPayload, read, whole, size, copied, UInt32.ofNat_toNat, putU64_getU64,
      putU32_getU32, putU32_blank _ unused]
    simp (disch := omega) only [graft_fuse]
    exact graft_whole source _ ends
  · simp only [DescriptorTransactionAllocateRequest.size, read, size]

def format : WireFormat DescriptorTransactionAllocateRequest where
  admits := isEncodable
  payload := payload
  size := size
  read := read
  framed := Framed
  cleared := cleared
  payload_ends value _ := payload_ends value
  payload_framed := payload_framed
  read_payload := read_payload
  admits_cleared := isEncodable_cleared
  payload_read _ _ := payload_read

theorem encode_eq_ok (result : Buffer × Nat) : encodeDescriptorTransactionAllocateRequest request = .ok result ↔
    request.isEncodable = true ∧ result = (request.payload, request.size) := by
  simp only [encodeDescriptorTransactionAllocateRequest, refused_eq_ok, bind_eq_ok,
    DescriptorSetAllocateRequest.encode_eq_ok, Bool.not_eq_true', Bool.not_eq_false, isEncodable, Bool.and_eq_true]
  constructor
  · rintro ⟨journal, made, ⟨encodable, rfl⟩, -, same⟩
    exact ⟨⟨journal, encodable⟩, (Except.ok.inj same).symm⟩
  · rintro ⟨⟨journal, encodable⟩, rfl⟩
    exact ⟨journal, _, ⟨encodable, rfl⟩, Nat.not_lt.mpr (allocation_size encodable), rfl⟩

theorem decode_eq_ok (source : Buffer) (length : Nat) (ends : EndsBy source length)
    (value : DescriptorTransactionAllocateRequest) :
    decodeDescriptorTransactionAllocateRequest source length = .ok value ↔
      Framed source length ∧ (read source).isEncodable = true ∧ read source = value := by
  simp only [decodeDescriptorTransactionAllocateRequest, refused_eq_ok, bind_eq_ok, compared_eq_ok,
    DescriptorSetAllocateRequest.decode_eq_ok, encode_eq_ok]
  simp only [Bool.or_eq_true, decide_eq_true_eq, bne_iff_ne, not_or, Decidable.not_not, Bool.not_eq_true',
    Bool.not_eq_false, not_lt, Prod.mk.injEq]
  constructor
  · rintro ⟨-, ⟨⟨⟨-, unused⟩, few⟩, long⟩, allocation, ⟨framed, -, rfl⟩, ⟨validation, ⟨encodable, -⟩, -⟩, same⟩
    exact ⟨⟨unused, few, long, framed⟩, encodable, same⟩
  · rintro ⟨framed, encodable, same⟩
    have again := format.canonical ends framed
    obtain ⟨unused, few, long, inner⟩ := framed
    have parts := encodable
    simp only [isEncodable, Bool.and_eq_true] at parts
    have minimal := inner.2.2.2
    refine ⟨by omega, ⟨⟨⟨parts.1, unused⟩, few⟩, long⟩, _, ⟨inner, parts.2, rfl⟩,
      ⟨_, ⟨encodable, rfl, again.1.symm⟩, again.2⟩, same⟩

theorem exactInverse :
    ExactInverse encodeDescriptorTransactionAllocateRequest decodeDescriptorTransactionAllocateRequest cleared :=
  format.exactInverse encode_eq_ok decode_eq_ok

end DescriptorTransactionAllocateRequest

namespace DescriptorUpdateRequest

variable (request : DescriptorUpdateRequest)

def cleared : DescriptorUpdateRequest :=
  { request with
    writes := keep request.writeCount.toNat request.writes
    samplerIds := keep request.samplerCount.toNat request.samplerIds }

theorem payload_header : getU64 request.payload 0 = request.deviceId ∧
    getU32 request.payload 8 = request.writeCount ∧ getU32 request.payload 12 = request.samplerCount := by
  simp (disch := omega) only [payload, getU64_arrayU64_apart, getU32_arrayU64_apart,
    getU64_elements_apart encodeDescriptorWrite_writes, getU32_elements_apart encodeDescriptorWrite_writes,
    getU32_putU32, getU32_putU32_apart, getU64_putU64, getU64_putU32_apart, and_self]

theorem payload_write {index : Nat} (used : index < request.writeCount.toNat) :
    decodeDescriptorWrite request.payload (16 + index * 32) = slot request.writes index := by
  have apart := (decodeDescriptorWrite_reads (16 + index * 32)).apart
    (elements_within putU64_writes request.samplerCount.toNat (16 + request.writeCount.toNat * 32)
      (slot request.samplerIds)) (by omega)
  exact (apart _).trans (descriptorWriteBlock.get_loop _ 16 _ _ used)

theorem payload_sampler {index : Nat} (used : index < request.samplerCount.toNat) :
    getU64 request.payload (16 + request.writeCount.toNat * 32 + index * 8) = slot request.samplerIds index :=
  getU64_arrayU64 _ _ _ _ used

theorem payload_unused {index : Nat} (used : index < request.writeCount.toNat) :
    getU32 request.payload (16 + index * 32 + 28) = 0 := by
  have part : ∀ cursor write, WritesWithin (encodeDescriptorWrite · cursor write) cursor (cursor + 28) := by
    intro cursor write buffer position outside
    simp (disch := omega) only [encodeDescriptorWrite, putU32_apart, putU64_apart]
  simp only [payload]
  rw [getU32_arrayU64_apart _ _ _ _ _ (by omega)]
  refine (loop_skip (getU32_reads _) ?_ _).trans ?_
  · intro element _ buffer position lower upper
    apply part
    omega
  · simp (disch := omega) only [getU32_putU32_apart, getU32_putU64_apart, getU32_zeroed]

theorem payload_ends : EndsBy request.payload request.size := by
  intro index outside
  simp only [size] at outside
  simp (disch := omega) only [payload, arrayU64_apart, elements_apart encodeDescriptorWrite_writes, putU32_apart,
    putU64_apart, zeroed]

theorem read_payload : read request.payload = request.cleared := by
  obtain ⟨device, writeCount, samplerCount⟩ := request.payload_header
  have writes : (fill 32 request.writeCount.toNat fun index =>
      decodeDescriptorWrite request.payload (16 + index * 32)) = keep request.writeCount.toNat request.writes := by
    apply fill_eq_keep
    intro index _ used
    exact request.payload_write used
  have samplers : (fill 128 request.samplerCount.toNat fun index =>
      getU64 request.payload (16 + request.writeCount.toNat * 32 + index * 8)) =
        keep request.samplerCount.toNat request.samplerIds := by
    apply fill_eq_keep
    intro index _ used
    exact request.payload_sampler used
  simp only [read, cleared, device, writeCount, samplerCount, writes, samplers]

theorem isEncodable_cleared : request.cleared.isEncodable = request.isEncodable := by
  simp only [isEncodable, cleared]
  congr 1
  · congr 1
    apply all_range_congr
    intro index used
    rw [slot_keep _ used]
  · apply all_range_congr
    intro index used
    rw [slot_keep _ used]

def Framed (source : Buffer) (length : Nat) : Prop :=
  ¬getU32 source 8 > 32 ∧ ¬getU32 source 12 > 128 ∧
    length = 16 + (getU32 source 8).toNat * 32 + (getU32 source 12).toNat * 8 ∧
    ∀ index, index < (getU32 source 8).toNat → getU32 source (16 + index * 32 + 28) = 0

theorem payload_framed (encodable : request.isEncodable = true) : Framed request.payload request.size := by
  obtain ⟨-, writes, samplers⟩ := request.payload_header
  simp only [isEncodable, Bool.and_eq_true, Bool.not_eq_true', Bool.or_eq_false_iff,
    decide_eq_false_iff_not] at encodable
  obtain ⟨⟨⟨⟨⟨-, fewWrites⟩, -⟩, fewSamplers⟩, -⟩, -⟩ := encodable
  refine ⟨?_, ?_, ?_, ?_⟩
  · rw [writes]
    exact fewWrites
  · rw [samplers]
    exact fewSamplers
  · rw [writes, samplers]
    rfl
  · rw [writes]
    intro index used
    exact request.payload_unused used

theorem writes_read {source : Buffer} {count : Nat} (small : count ≤ 32)
    (unused : ∀ index, index < count → getU32 source (16 + index * 32 + 28) = 0) :
    loop count (fun index output => encodeDescriptorWrite output (16 + index * 32)
        (slot (fill 32 count fun index => decodeDescriptorWrite source (16 + index * 32)) index))
      (graft zeroed source 0 16) = graft (graft zeroed source 0 16) source 16 (count * 32) := by
  apply loop_graft (graft zeroed source 0 16) source (show 28 ≤ 32 by omega)
  · intro index inside buffer
    rw [slot_fill _ (by omega) inside]
    exact encodeDescriptorWrite_decode buffer source _
  · intro index inside position lower upper
    rw [(getU32_eq_zero_iff source _).mp (unused index inside) position (by omega) (by omega)]
    simp only [graft, if_neg (show ¬(0 ≤ position ∧ position < 0 + 16) by omega), zeroed]

theorem payload_read {source : Buffer} {length : Nat} (ends : EndsBy source length)
    (framed : Framed source length) : (read source).payload = source ∧ (read source).size = length := by
  obtain ⟨fewWrites, fewSamplers, rfl, unused⟩ := framed
  refine ⟨?_, rfl⟩
  have smallWrites := toNat_le_of_not_gt 32 rfl fewWrites
  have smallSamplers := toNat_le_of_not_gt 128 rfl fewSamplers
  have head : putU32 (putU32 (putU64 zeroed 0 (getU64 source 0)) 8 (getU32 source 8)) 12 (getU32 source 12) =
      graft zeroed source 0 16 := by
    simp only [putU64_getU64, putU32_getU32]
    simp (disch := omega) only [graft_fuse]
  simp only [read, payload, head, writes_read smallWrites unused, arrayU64_read _ _ _ smallSamplers]
  simp (disch := omega) only [graft_fuse]
  exact graft_whole source _ (ends.mono (by omega))

def format : WireFormat DescriptorUpdateRequest where
  admits := isEncodable
  payload := payload
  size := size
  read := read
  framed := Framed
  cleared := cleared
  payload_ends value _ := payload_ends value
  payload_framed := payload_framed
  read_payload value _ := read_payload value
  admits_cleared := isEncodable_cleared
  payload_read _ _ := payload_read

theorem encode_eq_ok (result : Buffer × Nat) : encodeDescriptorUpdateRequest request = .ok result ↔
    request.isEncodable = true ∧ result = (request.payload, request.size) :=
  admitted_eq_ok

theorem decode_eq_ok (source : Buffer) (length : Nat) (value : DescriptorUpdateRequest) :
    decodeDescriptorUpdateRequest source length = .ok value ↔
      Framed source length ∧ (read source).isEncodable = true ∧ read source = value := by
  simp only [decodeDescriptorUpdateRequest, refused_eq_ok, validated_eq_ok, encode_eq_ok]
  simp only [Bool.or_eq_true, decide_eq_true_eq, bne_iff_ne, not_or, Decidable.not_not, List.any_eq_true,
    List.mem_range, not_exists, not_and, Framed]
  constructor
  · rintro ⟨-, ⟨⟨fewWrites, fewSamplers⟩, long⟩, unused, ⟨result, encodable, -⟩, same⟩
    exact ⟨⟨fewWrites, fewSamplers, long, unused⟩, encodable, same⟩
  · rintro ⟨⟨fewWrites, fewSamplers, long, unused⟩, encodable, same⟩
    exact ⟨by omega, ⟨⟨fewWrites, fewSamplers⟩, long⟩, unused, ⟨_, encodable, rfl⟩, same⟩

theorem exactInverse :
    ExactInverse encodeDescriptorUpdateRequest decodeDescriptorUpdateRequest cleared :=
  format.exactInverse encode_eq_ok fun source length _ => decode_eq_ok source length

end DescriptorUpdateRequest

namespace DescriptorUpdateTemplateCreateRequest

variable (request : DescriptorUpdateTemplateCreateRequest)

def cleared : DescriptorUpdateTemplateCreateRequest :=
  { request with entries := keep request.entryCount.toNat request.entries }

theorem payload_header : getU64 request.payload 0 = request.deviceId ∧
    getU32 request.payload 8 = request.flags ∧ getU32 request.payload 12 = request.entryCount ∧
    getU32 request.payload 16 = request.templateType ∧ getU32 request.payload 20 = request.set ∧
    getU64 request.payload 24 = request.descriptorSetLayoutId ∧
    getU64 request.payload 32 = request.pipelineLayoutId ∧
    getU32 request.payload 40 = request.pipelineBindPoint ∧ getU32 request.payload 44 = 0 := by
  simp (disch := omega) only [payload, getU64_elements_apart encodeTemplateEntry_writes,
    getU32_elements_apart encodeTemplateEntry_writes, getU32_putU32, getU32_putU32_apart, getU64_putU64,
    getU64_putU32_apart, getU64_putU64_apart, getU32_putU64_apart, getU32_zeroed, and_self]

theorem payload_ends : EndsBy request.payload request.size := by
  intro index outside
  simp only [size] at outside
  simp (disch := omega) only [payload, elements_apart encodeTemplateEntry_writes, putU32_apart, putU64_apart,
    zeroed]

theorem read_payload : read request.payload = request.cleared := by
  obtain ⟨device, flags, count, type, set, setLayout, layout, bindPoint, -⟩ := request.payload_header
  have entries : (fill 32 request.entryCount.toNat fun index =>
      decodeTemplateEntry request.payload (48 + index * 32)) = keep request.entryCount.toNat request.entries := by
    apply fill_eq_keep
    intro index _ used
    exact templateEntryBlock.get_loop _ 48 _ _ used
  simp only [read, cleared, device, flags, count, type, set, setLayout, layout, bindPoint, entries]

theorem isEncodable_cleared : request.cleared.isEncodable = request.isEncodable := by
  simp only [isEncodable, cleared]
  congr 1
  apply all_range_congr
  intro index used
  rw [slot_keep _ used]

def Framed (source : Buffer) (length : Nat) : Prop :=
  getU32 source 44 = 0 ∧ getU32 source 12 ≠ 0 ∧ ¬getU32 source 12 > 32 ∧
    length = 48 + (getU32 source 12).toNat * 32

theorem payload_framed (encodable : request.isEncodable = true) : Framed request.payload request.size := by
  obtain ⟨-, -, count, -, -, -, -, -, unused⟩ := request.payload_header
  simp only [isEncodable, Bool.and_eq_true, Bool.not_eq_true', Bool.or_eq_false_iff, decide_eq_false_iff_not,
    beq_eq_false_iff_ne] at encodable
  obtain ⟨⟨⟨⟨⟨⟨⟨-, some⟩, few⟩, -⟩, -⟩, -⟩, -⟩, -⟩ := encodable
  refine ⟨unused, ?_, ?_, ?_⟩
  · rw [count]
    exact some
  · rw [count]
    exact few
  · rw [count]
    rfl

theorem payload_read {source : Buffer} {length : Nat} (ends : EndsBy source length)
    (framed : Framed source length) : (read source).payload = source ∧ (read source).size = length := by
  obtain ⟨unused, -, few, rfl⟩ := framed
  refine ⟨?_, rfl⟩
  have small := toNat_le_of_not_gt 32 rfl few
  simp only [read, payload, putU64_getU64, putU32_getU32,
    arrayBlock_read encodeTemplateEntry decodeTemplateEntry _ _ 48 32 small fun index _ buffer =>
      encodeTemplateEntry_decode buffer source _]
  simp (disch := omega) only [graft_fuse]
  exact graft_unused rfl unused ends

def format : WireFormat DescriptorUpdateTemplateCreateRequest where
  admits := isEncodable
  payload := payload
  size := size
  read := read
  framed := Framed
  cleared := cleared
  payload_ends value _ := payload_ends value
  payload_framed := payload_framed
  read_payload value _ := read_payload value
  admits_cleared := isEncodable_cleared
  payload_read _ _ := payload_read

theorem encode_eq_ok (result : Buffer × Nat) : encodeDescriptorUpdateTemplateCreateRequest request = .ok result ↔
    request.isEncodable = true ∧ result = (request.payload, request.size) :=
  admitted_eq_ok

theorem decode_eq_ok (source : Buffer) (length : Nat) (ends : EndsBy source length)
    (value : DescriptorUpdateTemplateCreateRequest) :
    decodeDescriptorUpdateTemplateCreateRequest source length = .ok value ↔
      Framed source length ∧ (read source).isEncodable = true ∧ read source = value := by
  simp only [decodeDescriptorUpdateTemplateCreateRequest, refused_eq_ok, compared_eq_ok, encode_eq_ok]
  simp only [Bool.or_eq_true, decide_eq_true_eq, bne_iff_ne, beq_iff_eq, not_or, Decidable.not_not,
    Prod.mk.injEq]
  constructor
  · rintro ⟨⟨-, unused⟩, ⟨⟨some, few⟩, long⟩, ⟨validation, ⟨encodable, -⟩, -⟩, same⟩
    exact ⟨⟨unused, some, few, long⟩, encodable, same⟩
  · rintro ⟨framed, encodable, same⟩
    have again := format.canonical ends framed
    obtain ⟨unused, some, few, long⟩ := framed
    exact ⟨⟨by omega, unused⟩, ⟨⟨some, few⟩, long⟩, ⟨_, ⟨encodable, rfl, again.1.symm⟩, again.2⟩, same⟩

theorem exactInverse :
    ExactInverse encodeDescriptorUpdateTemplateCreateRequest decodeDescriptorUpdateTemplateCreateRequest cleared :=
  format.exactInverse encode_eq_ok decode_eq_ok

end DescriptorUpdateTemplateCreateRequest

namespace DescriptorTemplateUpdateRequest

variable (request : DescriptorTemplateUpdateRequest)

def cleared : DescriptorTemplateUpdateRequest :=
  { request with values := keep request.valueCount.toNat request.values }

theorem payload_header : getU64 request.payload 0 = request.deviceId ∧
    getU64 request.payload 8 = request.descriptorSetId ∧
    getU64 request.payload 16 = request.descriptorUpdateTemplateId ∧
    getU32 request.payload 24 = request.valueCount ∧ getU32 request.payload 28 = 0 := by
  simp (disch := omega) only [payload, getU64_elements_apart encodeTemplateValue_writes,
    getU32_elements_apart encodeTemplateValue_writes, getU32_putU32, getU32_putU32_apart, getU64_putU64,
    getU64_putU32_apart, getU64_putU64_apart, getU32_putU64_apart, getU32_zeroed, and_self]

theorem payload_ends : EndsBy request.payload request.size := by
  intro index outside
  simp only [size] at outside
  simp (disch := omega) only [payload, elements_apart encodeTemplateValue_writes, putU32_apart, putU64_apart,
    zeroed]

theorem read_payload : read request.payload = request.cleared := by
  obtain ⟨device, set, template, count, -⟩ := request.payload_header
  have values : (fill 64 request.valueCount.toNat fun index =>
      decodeTemplateValue request.payload (32 + index * 40)) = keep request.valueCount.toNat request.values := by
    apply fill_eq_keep
    intro index _ used
    exact templateValueBlock.get_loop _ 32 _ _ used
  simp only [read, cleared, device, set, template, count, values]

theorem isEncodable_cleared : request.cleared.isEncodable = request.isEncodable := by
  simp only [isEncodable, cleared]
  congr 1
  apply all_range_congr
  intro index used
  rw [slot_keep _ used]

def Framed (source : Buffer) (length : Nat) : Prop :=
  getU32 source 28 = 0 ∧ getU32 source 24 ≠ 0 ∧ ¬getU32 source 24 > 64 ∧
    length = 32 + (getU32 source 24).toNat * 40

theorem payload_framed (encodable : request.isEncodable = true) : Framed request.payload request.size := by
  obtain ⟨-, -, -, count, unused⟩ := request.payload_header
  simp only [isEncodable, Bool.and_eq_true, Bool.not_eq_true', Bool.or_eq_false_iff, decide_eq_false_iff_not,
    beq_eq_false_iff_ne] at encodable
  refine ⟨unused, ?_, ?_, ?_⟩
  · rw [count]
    exact encodable.1.1.2
  · rw [count]
    exact encodable.1.2
  · rw [count]
    rfl

theorem payload_read {source : Buffer} {length : Nat} (ends : EndsBy source length)
    (framed : Framed source length) : (read source).payload = source ∧ (read source).size = length := by
  obtain ⟨unused, -, few, rfl⟩ := framed
  refine ⟨?_, rfl⟩
  have small := toNat_le_of_not_gt 64 rfl few
  simp only [read, payload, putU64_getU64, putU32_getU32,
    arrayBlock_read encodeTemplateValue decodeTemplateValue _ _ 32 40 small fun index _ buffer =>
      encodeTemplateValue_decode buffer source _]
  simp (disch := omega) only [graft_fuse]
  exact graft_unused rfl unused ends

def format : WireFormat DescriptorTemplateUpdateRequest where
  admits := isEncodable
  payload := payload
  size := size
  read := read
  framed := Framed
  cleared := cleared
  payload_ends value _ := payload_ends value
  payload_framed := payload_framed
  read_payload value _ := read_payload value
  admits_cleared := isEncodable_cleared
  payload_read _ _ := payload_read

theorem encode_eq_ok (result : Buffer × Nat) : encodeDescriptorTemplateUpdateRequest request = .ok result ↔
    request.isEncodable = true ∧ result = (request.payload, request.size) :=
  admitted_eq_ok

theorem decode_eq_ok (source : Buffer) (length : Nat) (ends : EndsBy source length)
    (value : DescriptorTemplateUpdateRequest) :
    decodeDescriptorTemplateUpdateRequest source length = .ok value ↔
      Framed source length ∧ (read source).isEncodable = true ∧ read source = value := by
  simp only [decodeDescriptorTemplateUpdateRequest, refused_eq_ok, compared_eq_ok, encode_eq_ok]
  simp only [Bool.or_eq_true, decide_eq_true_eq, bne_iff_ne, beq_iff_eq, not_or, Decidable.not_not,
    Prod.mk.injEq]
  constructor
  · rintro ⟨⟨-, unused⟩, ⟨⟨some, few⟩, long⟩, ⟨validation, ⟨encodable, -⟩, -⟩, same⟩
    exact ⟨⟨unused, some, few, long⟩, encodable, same⟩
  · rintro ⟨framed, encodable, same⟩
    have again := format.canonical ends framed
    obtain ⟨unused, some, few, long⟩ := framed
    exact ⟨⟨by omega, unused⟩, ⟨⟨some, few⟩, long⟩, ⟨_, ⟨encodable, rfl, again.1.symm⟩, again.2⟩, same⟩

theorem exactInverse :
    ExactInverse encodeDescriptorTemplateUpdateRequest decodeDescriptorTemplateUpdateRequest cleared :=
  format.exactInverse encode_eq_ok decode_eq_ok

end DescriptorTemplateUpdateRequest

namespace BindDescriptorSetsRequest

variable (request : BindDescriptorSetsRequest)

def read (input : Buffer) : BindDescriptorSetsRequest where
  commandBufferId := getU64 input 0
  pipelineLayoutId := getU64 input 8
  pipelineBindPoint := getU32 input 16
  firstSet := getU32 input 20
  descriptorSetCount := getU32 input 24
  dynamicOffsetCount := getU32 input 28
  descriptorSetIds := fill 8 (getU32 input 24).toNat fun index => getU64 input (32 + index * 8)
  dynamicOffsets := fill 32 (getU32 input 28).toNat fun index =>
    getU32 input (32 + (getU32 input 24).toNat * 8 + index * 4)

theorem payload_ends : EndsBy request.payload request.size := by
  intro index outside
  simp only [size] at outside
  simp (disch := omega) only [payload, arrayU32_apart, arrayU64_apart, putU32_apart, putU64_apart, zeroed]

theorem read_payload : read request.payload = request.cleared := by
  obtain ⟨commandBuffer, layout, bindPoint, first, sets, dynamic⟩ := request.payload_header
  have ids : (fill 8 request.descriptorSetCount.toNat fun index => getU64 request.payload (32 + index * 8)) =
      keep request.descriptorSetCount.toNat request.descriptorSetIds := by
    apply fill_eq_keep
    intro index _ used
    exact request.getU64_payload_set used
  have offsets : (fill 32 request.dynamicOffsetCount.toNat fun index =>
      getU32 request.payload (32 + request.descriptorSetCount.toNat * 8 + index * 4)) =
        keep request.dynamicOffsetCount.toNat request.dynamicOffsets := by
    apply fill_eq_keep
    intro index _ used
    exact request.getU32_payload_dynamic used
  simp only [read, cleared, commandBuffer, layout, bindPoint, first, sets, dynamic, ids, offsets]

def Framed (source : Buffer) (length : Nat) : Prop :=
  getU32 source 24 ≠ 0 ∧ ¬getU32 source 24 > 8 ∧ ¬getU32 source 28 > 32 ∧
    length = 32 + (getU32 source 24).toNat * 8 + (getU32 source 28).toNat * 4

theorem payload_framed (encodable : request.isEncodable = true) : Framed request.payload request.size := by
  obtain ⟨-, -, -, -, sets, dynamic⟩ := request.payload_header
  simp only [isEncodable, Bool.and_eq_true, Bool.not_eq_true', Bool.or_eq_false_iff, decide_eq_false_iff_not,
    beq_eq_false_iff_ne] at encodable
  obtain ⟨⟨⟨⟨-, someSets⟩, fewSets⟩, fewOffsets⟩, -⟩ := encodable
  refine ⟨?_, ?_, ?_, ?_⟩
  · rw [sets]
    exact someSets
  · rw [sets]
    exact fewSets
  · rw [dynamic]
    exact fewOffsets
  · rw [sets, dynamic]
    rfl

theorem payload_read {source : Buffer} {length : Nat} (ends : EndsBy source length)
    (framed : Framed source length) : (read source).payload = source ∧ (read source).size = length := by
  obtain ⟨-, fewSets, fewOffsets, rfl⟩ := framed
  refine ⟨?_, rfl⟩
  have smallSets := toNat_le_of_not_gt 8 rfl fewSets
  have smallOffsets := toNat_le_of_not_gt 32 rfl fewOffsets
  simp only [read, payload, putU64_getU64, putU32_getU32, arrayU64_read _ _ _ smallSets,
    arrayU32_read _ _ _ smallOffsets]
  simp (disch := omega) only [graft_fuse]
  exact graft_whole source _ (ends.mono (by omega))

def format : WireFormat BindDescriptorSetsRequest where
  admits := isEncodable
  payload := payload
  size := size
  read := read
  framed := Framed
  cleared := cleared
  payload_ends value _ := payload_ends value
  payload_framed := payload_framed
  read_payload value _ := read_payload value
  admits_cleared := isEncodable_cleared
  payload_read _ _ := payload_read

theorem encode_eq_ok (result : Buffer × Nat) : encodeBindDescriptorSetsRequest request = .ok result ↔
    request.isEncodable = true ∧ result = (request.payload, request.size) :=
  admitted_eq_ok

theorem decode_eq_ok (source : Buffer) (length : Nat) (ends : EndsBy source length)
    (value : BindDescriptorSetsRequest) : decodeBindDescriptorSetsRequest source length = .ok value ↔
      Framed source length ∧ (read source).isEncodable = true ∧ read source = value := by
  have again : decodeBindDescriptorSetsRequest source length =
      if length < 32 then .error .einval
      else if getU32 source 24 == 0 || getU32 source 24 > 8 || getU32 source 28 > 32 ||
          length != 32 + (getU32 source 24).toNat * 8 + (getU32 source 28).toNat * 4 then .error .eproto
      else compared (encodeBindDescriptorSetsRequest (read source)) source length (read source) := rfl
  simp only [again, refused_eq_ok, compared_eq_ok, encode_eq_ok]
  simp only [Bool.or_eq_true, decide_eq_true_eq, bne_iff_ne, beq_iff_eq, not_or, Decidable.not_not,
    Prod.mk.injEq]
  constructor
  · rintro ⟨-, ⟨⟨⟨some, fewSets⟩, fewOffsets⟩, long⟩, ⟨validation, ⟨encodable, -⟩, -⟩, same⟩
    exact ⟨⟨some, fewSets, fewOffsets, long⟩, encodable, same⟩
  · rintro ⟨framed, encodable, same⟩
    have canonical := format.canonical ends framed
    obtain ⟨some, fewSets, fewOffsets, long⟩ := framed
    exact ⟨by omega, ⟨⟨⟨some, fewSets⟩, fewOffsets⟩, long⟩,
      ⟨_, ⟨encodable, rfl, canonical.1.symm⟩, canonical.2⟩, same⟩

theorem exactInverse :
    ExactInverse encodeBindDescriptorSetsRequest decodeBindDescriptorSetsRequest cleared :=
  format.exactInverse encode_eq_ok decode_eq_ok

end BindDescriptorSetsRequest

/-- Each descriptor codec is an exact inverse, up to the array slots behind the counts. -/
theorem descriptor_codecs_exact :
    ExactInverse encodeDescriptorSetLayoutCreateRequest decodeDescriptorSetLayoutCreateRequest
        DescriptorSetLayoutCreateRequest.cleared ∧
      ExactInverse encodeDescriptorPoolCreateRequest decodeDescriptorPoolCreateRequest
        DescriptorPoolCreateRequest.cleared ∧
      ExactInverse encodeDescriptorSetAllocateRequest decodeDescriptorSetAllocateRequest
        DescriptorSetAllocateRequest.cleared ∧
      ExactInverse encodeDescriptorSetAllocateResponse decodeDescriptorSetAllocateResponse
        DescriptorSetAllocateResponse.cleared ∧
      ExactInverse encodeDescriptorTransactionAllocateRequest decodeDescriptorTransactionAllocateRequest
        DescriptorTransactionAllocateRequest.cleared ∧
      ExactInverse encodeDescriptorUpdateRequest decodeDescriptorUpdateRequest DescriptorUpdateRequest.cleared ∧
      ExactInverse encodeDescriptorUpdateTemplateCreateRequest decodeDescriptorUpdateTemplateCreateRequest
        DescriptorUpdateTemplateCreateRequest.cleared ∧
      ExactInverse encodeDescriptorTemplateUpdateRequest decodeDescriptorTemplateUpdateRequest
        DescriptorTemplateUpdateRequest.cleared ∧
      ExactInverse encodeBindDescriptorSetsRequest decodeBindDescriptorSetsRequest
        BindDescriptorSetsRequest.cleared :=
  ⟨DescriptorSetLayoutCreateRequest.exactInverse, DescriptorPoolCreateRequest.exactInverse,
    DescriptorSetAllocateRequest.exactInverse, DescriptorSetAllocateResponse.exactInverse,
    DescriptorTransactionAllocateRequest.exactInverse, DescriptorUpdateRequest.exactInverse,
    DescriptorUpdateTemplateCreateRequest.exactInverse, DescriptorTemplateUpdateRequest.exactInverse,
    BindDescriptorSetsRequest.exactInverse⟩

end VulkanBridge
