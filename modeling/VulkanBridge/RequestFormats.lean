import VulkanBridge.DescriptorFormats
import VulkanBridge.RequestWire

/-!
What a decoder of `protocol.c` makes of the bytes that the encoder of the same request
wrote.
-/

namespace VulkanBridge

open ByteBuffer CheckedLoops

namespace DeviceBufferRequirementsRequest

variable (request : DeviceBufferRequirementsRequest)

def cleared : DeviceBufferRequirementsRequest :=
  { request with queueFamilyIndices := keep request.queueFamilyIndexCount.toNat request.queueFamilyIndices }

def IsDecodable : Prop :=
  request.usage ≠ 0 ∧ ∀ index earlier, index < request.queueFamilyIndexCount.toNat → earlier < index →
    slot request.queueFamilyIndices earlier ≠ slot request.queueFamilyIndices index

theorem count_le (sharing : deviceBufferSharingIsValid request.sharingMode request.queueFamilyIndexCount = true) :
    request.queueFamilyIndexCount.toNat ≤ 8 := by
  unfold deviceBufferSharingIsValid at sharing
  split at sharing
  · rw [beq_iff_eq.mp sharing]
    decide
  · split at sharing
    · simp only [Bool.and_eq_true, decide_eq_true_eq] at sharing
      exact UInt32.le_iff_toNat_le.mp sharing.2
    · cases sharing

theorem payload_ends (few : request.queueFamilyIndexCount.toNat ≤ 8) : EndsBy request.payload 64 := by
  intro index outside
  have behind : 32 + request.queueFamilyIndexCount.toNat * 4 ≤ index :=
    Nat.le_trans (Nat.add_le_add_left (Nat.mul_le_mul_right 4 few) 32) outside
  simp (disch := omega) only [payload, arrayU32_apart, putU32_apart, putU64_apart, zeroed]

theorem payload_header : getU64 request.payload 0 = request.deviceId ∧ getU64 request.payload 8 = request.size ∧
    getU32 request.payload 16 = request.flags ∧ getU32 request.payload 20 = request.usage ∧
    getU32 request.payload 24 = request.sharingMode ∧
    getU32 request.payload 28 = request.queueFamilyIndexCount := by
  simp (disch := omega) only [payload, getU64_arrayU32_apart, getU32_arrayU32_apart, getU32_putU32,
    getU32_putU32_apart, getU64_putU64, getU64_putU32_apart, getU64_putU64_apart, and_self]

theorem read_payload : read request.payload = request.cleared := by
  obtain ⟨device, size, flags, usage, mode, count⟩ := request.payload_header
  have families : (fill 8 8 fun index => getU32 request.payload (32 + index * 4)) =
      keep request.queueFamilyIndexCount.toNat request.queueFamilyIndices := by
    funext index
    simp only [fill, keep, if_pos index.isLt]
    by_cases used : index.val < request.queueFamilyIndexCount.toNat
    · rw [if_pos used, ← slot_val request.queueFamilyIndices index]
      exact getU32_arrayU32 _ _ 32 _ used
    · rw [if_neg used]
      simp (disch := omega) only [payload, getU32_arrayU32_apart, getU32_putU32_apart, getU32_putU64_apart,
        getU32_zeroed]
      rfl
  simp only [read, cleared, device, size, flags, usage, mode, count, families]

theorem slot_keep_idle {size count index : Nat} (items : Fin size → UInt32) (idle : count ≤ index) :
    slot (keep count items) index = 0 := by
  unfold slot
  split
  · simp only [keep, if_neg (show ¬index < count by omega)]
    rfl
  · rfl

theorem families_differ (few : request.queueFamilyIndexCount.toNat ≤ 8) :
    ((List.range 8).any fun index =>
      index ≥ request.queueFamilyIndexCount.toNat && slot request.cleared.queueFamilyIndices index != 0 ||
        index < request.queueFamilyIndexCount.toNat && (List.range index).any (fun earlier =>
          slot request.cleared.queueFamilyIndices earlier == slot request.cleared.queueFamilyIndices index)) = false ↔
      ∀ index earlier, index < request.queueFamilyIndexCount.toNat → earlier < index →
        slot request.queueFamilyIndices earlier ≠ slot request.queueFamilyIndices index := by
  simp only [List.any_eq_false, List.mem_range, Bool.or_eq_true, Bool.and_eq_true, decide_eq_true_eq, bne_iff_ne,
    List.any_eq_true, beq_iff_eq, not_or, not_and, Decidable.not_not, not_exists]
  constructor
  · intro checked index earlier used before same
    have usedEarlier := Nat.lt_trans before used
    refine (checked index (by omega)).2 used earlier before ?_
    simp only [cleared, slot_keep _ used, slot_keep _ usedEarlier]
    exact same
  · intro differ index inside
    constructor
    · intro idle
      exact slot_keep_idle _ idle
    · intro used earlier before same
      have usedEarlier := Nat.lt_trans before used
      simp only [cleared, slot_keep _ used, slot_keep _ usedEarlier] at same
      exact differ index earlier used before same

theorem decodes_iff {payload : Buffer} (encoded : encodeDeviceBufferRequirementsRequest request = .ok payload) :
    EndsBy payload 64 ∧
      (decodeDeviceBufferRequirementsRequest payload = .ok request.cleared ↔ request.IsDecodable) := by
  simp only [encodeDeviceBufferRequirementsRequest, refused_eq_ok, Except.ok.injEq, Bool.not_eq_true,
    Bool.or_eq_false_iff, Bool.not_eq_false'] at encoded
  obtain ⟨⟨⟨size, device⟩, sharing⟩, rfl⟩ := encoded
  have few := request.count_le sharing
  refine ⟨request.payload_ends few, ?_⟩
  simp only [decodeDeviceBufferRequirementsRequest, request.read_payload, refused_eq_ok, Bool.not_eq_true,
    Bool.or_eq_false_iff, Bool.not_eq_false', and_true, IsDecodable]
  refine and_congr ?_ (request.families_differ few)
  constructor
  · rintro ⟨⟨-, usage⟩, -⟩
    exact beq_eq_false_iff_ne.mp usage
  · intro usage
    exact ⟨⟨⟨device, size⟩, beq_eq_false_iff_ne.mpr usage⟩, sharing⟩

end DeviceBufferRequirementsRequest

namespace ImageCreateRequest

variable (request : ImageCreateRequest)

theorem payload_ends : EndsBy request.payload 176 := by
  intro index outside
  simp (disch := omega) only [payload, arrayU32_apart, putU32_apart, putU64_apart, zeroed]

theorem payload_unused : getU32 request.payload 76 = 0 := by
  simp (disch := omega) only [payload, getU32_arrayU32_apart, getU32_putU32_apart, getU32_putU64_apart,
    getU32_zeroed]

theorem read_payload : read request.payload = request := by
  have families : (fill 8 8 fun index => getU32 request.payload (80 + index * 4)) =
      request.queueFamilyIndices := by
    apply fill_eq_self
    intro index inside
    simp (disch := omega) only [payload, getU32_arrayU32_apart]
    exact getU32_arrayU32 _ 8 80 _ inside
  have formats : (fill 16 16 fun index => getU32 request.payload (112 + index * 4)) = request.viewFormats := by
    apply fill_eq_self
    intro index inside
    exact getU32_arrayU32 _ 16 112 _ inside
  simp only [read, families, formats]
  simp (disch := omega) only [payload, getU64_arrayU32_apart, getU32_arrayU32_apart, getU32_putU32,
    getU32_putU32_apart, getU64_putU64, getU64_putU32_apart]

theorem decodes {payload : Buffer} (encoded : encodeImageCreateRequest request = .ok payload) :
    EndsBy payload 176 ∧ decodeImageCreateRequest payload = .ok request := by
  obtain ⟨valid, rfl⟩ := admitted_eq_ok.mp encoded
  refine ⟨request.payload_ends, ?_⟩
  simp only [decodeImageCreateRequest, request.payload_unused, request.read_payload, valid]
  rfl

end ImageCreateRequest

theorem SwapchainPrepareRequest.decodes {request : SwapchainPrepareRequest} {payload : Buffer}
    (encoded : encodeSwapchainPrepareRequest request = .ok payload) :
    EndsBy payload 40 ∧ decodeSwapchainPrepareRequest payload = .ok request := by
  have again := encoded
  simp only [encodeSwapchainPrepareRequest, refused_eq_ok, Except.ok.injEq] at encoded
  obtain ⟨-, rfl⟩ := encoded
  constructor
  · intro index outside
    simp (disch := omega) only [putU32_apart, putU64_apart, zeroed]
  · simp (disch := omega) only [decodeSwapchainPrepareRequest, getU64_putU64, getU64_putU64_apart,
      getU64_putU32_apart, getU32_putU64_apart, getU32_putU32, getU32_putU32_apart]
    rw [again]
    rfl

theorem encodeSemaphoreWaitRecord_writes (record : Nat) (semaphore : SemaphoreWaitRecord) :
    WritesWithin (encodeSemaphoreWaitRecord · record semaphore) record (record + 16) := by
  intro buffer index outside
  simp (disch := omega) only [encodeSemaphoreWaitRecord, putU64_apart]

theorem decodeSemaphoreWaitRecord_reads (record : Nat) :
    ReadsWithin (decodeSemaphoreWaitRecord · record) record (record + 16) := by
  intro left right same
  simp (disch := omega) only [decodeSemaphoreWaitRecord, getU64_same same]

theorem decodeSemaphoreWaitRecord_encode (buffer : Buffer) (record : Nat) (semaphore : SemaphoreWaitRecord) :
    decodeSemaphoreWaitRecord (encodeSemaphoreWaitRecord buffer record semaphore) record = semaphore := by
  simp (disch := omega) only [decodeSemaphoreWaitRecord, encodeSemaphoreWaitRecord, getU64_putU64,
    getU64_putU64_apart]

def semaphoreWaitBlock : Block SemaphoreWaitRecord :=
  ⟨16, encodeSemaphoreWaitRecord, decodeSemaphoreWaitRecord, encodeSemaphoreWaitRecord_writes,
    decodeSemaphoreWaitRecord_reads, decodeSemaphoreWaitRecord_encode⟩

namespace SemaphoreWaitRequest

variable (request : SemaphoreWaitRequest)

def cleared : SemaphoreWaitRequest :=
  { request with semaphores := keep request.semaphoreCount.toNat request.semaphores }

theorem payload_header : getU64 request.payload 0 = request.deviceId ∧
    getU64 request.payload 8 = request.timeout ∧ getU32 request.payload 16 = request.flags ∧
    getU32 request.payload 20 = request.semaphoreCount := by
  simp (disch := omega) only [payload, getU64_elements_apart encodeSemaphoreWaitRecord_writes,
    getU32_elements_apart encodeSemaphoreWaitRecord_writes, getU32_putU32, getU32_putU32_apart, getU64_putU64,
    getU64_putU32_apart, getU64_putU64_apart, and_self]

theorem payload_ends : EndsBy request.payload (24 + request.semaphoreCount.toNat * 16) := by
  intro index outside
  simp (disch := omega) only [payload, elements_apart encodeSemaphoreWaitRecord_writes, putU32_apart, putU64_apart,
    zeroed]

theorem read_payload : read request.payload = request.cleared := by
  obtain ⟨device, timeout, flags, count⟩ := request.payload_header
  have semaphores : (fill 16 request.semaphoreCount.toNat fun index =>
      decodeSemaphoreWaitRecord request.payload (24 + index * 16)) =
        keep request.semaphoreCount.toNat request.semaphores := by
    apply fill_eq_keep
    intro index _ used
    exact semaphoreWaitBlock.get_loop _ 24 _ _ used
  simp only [read, cleared, device, timeout, flags, count, semaphores]

theorem semaphoresAreTyped_cleared : request.cleared.semaphoresAreTyped = request.semaphoresAreTyped := by
  simp only [semaphoresAreTyped, cleared]
  apply all_range_congr
  intro index used
  rw [slot_keep _ used]

theorem decodes {payload : Buffer} {length : Nat}
    (encoded : encodeSemaphoreWaitRequest request = .ok (payload, length)) :
    EndsBy payload length ∧ decodeSemaphoreWaitRequest payload length = .ok request.cleared := by
  simp only [encodeSemaphoreWaitRequest, refused_eq_ok, Except.ok.injEq, Prod.mk.injEq, Bool.not_eq_true,
    Bool.or_eq_false_iff, Bool.not_eq_false', decide_eq_false_iff_not] at encoded
  obtain ⟨⟨⟨⟨device, some⟩, few⟩, flags⟩, typed, rfl, rfl⟩ := encoded
  have small : request.semaphoreCount.toNat ≤ 16 := toNat_le_of_not_gt 16 rfl few
  have expected : (24 + request.semaphoreCount * 16).toNat = 24 + request.semaphoreCount.toNat * 16 := by
    rw [UInt32.toNat_add, UInt32.toNat_mul]
    simp
    omega
  refine ⟨request.payload_ends, ?_⟩
  obtain ⟨-, -, -, count⟩ := request.payload_header
  simp only [decodeSemaphoreWaitRequest, count, expected, request.read_payload, refused_eq_ok,
    Bool.not_eq_true, Bool.or_eq_false_iff, Bool.not_eq_false', decide_eq_false_iff_not, and_true,
    semaphoresAreTyped_cleared]
  refine ⟨by omega, ⟨⟨some, few⟩, ?_⟩, ⟨device, flags⟩, typed⟩
  exact bne_self_eq_false _

end SemaphoreWaitRequest

def readSubmitSemaphore (input : Buffer) (offset : Nat) : SubmitSemaphoreRecord :=
  ⟨getU64 input offset, getU64 input (offset + 8), getU64 input (offset + 16), getU32 input (offset + 24)⟩

theorem encodeSubmitSemaphore_writes (offset : Nat) (record : SubmitSemaphoreRecord) :
    WritesWithin (encodeSubmitSemaphore · offset record) offset (offset + 28) := by
  intro buffer index outside
  simp (disch := omega) only [encodeSubmitSemaphore, putU32_apart, putU64_apart]

theorem readSubmitSemaphore_reads (offset : Nat) :
    ReadsWithin (readSubmitSemaphore · offset) offset (offset + 28) := by
  intro left right same
  simp (disch := omega) only [readSubmitSemaphore, getU32_same same, getU64_same same]

theorem readSubmitSemaphore_encode (buffer : Buffer) (offset : Nat) (record : SubmitSemaphoreRecord) :
    readSubmitSemaphore (encodeSubmitSemaphore buffer offset record) offset = record := by
  simp (disch := omega) only [readSubmitSemaphore, encodeSubmitSemaphore, getU32_putU32, getU64_putU64,
    getU64_putU32_apart, getU64_putU64_apart]

def submitSemaphoreBlock : Block SubmitSemaphoreRecord :=
  ⟨32, encodeSubmitSemaphore, readSubmitSemaphore,
    fun offset record => (encodeSubmitSemaphore_writes offset record).mono (by omega) (by omega),
    fun offset => (readSubmitSemaphore_reads offset).mono (by omega) (by omega), readSubmitSemaphore_encode⟩

theorem decodeSubmitSemaphore_eq_ok {input : Buffer} {offset : Nat} {record : SubmitSemaphoreRecord}
    (reads : readSubmitSemaphore input offset = record) (typed : handleExpect record.semaphoreId .semaphore = true)
    (unused : getU32 input (offset + 28) = 0) : decodeSubmitSemaphore input offset = .ok record := by
  subst reads
  have accepted : ¬(handleExpect (getU64 input offset) .semaphore = false ∨ getU32 input (offset + 28) ≠ 0) := by
    rintro (untyped | used)
    · rw [readSubmitSemaphore] at typed
      rw [untyped] at typed
      cases typed
    · exact used unused
  exact if_neg accepted

def readSubmitCommand (streamWire : Bool) (input : Buffer) (offset : Nat) : SubmitCommandRecord :=
  if streamWire then
    ⟨getU64 input offset, getU64 input (offset + 8), getU64 input (offset + 16), getU32 input (offset + 24),
      getU32 input (offset + 28), getU32 input (offset + 32), getU32 input (offset + 36)⟩
  else ⟨getU64 input offset, 0, 0, 0, 0, getU32 input (offset + 8), 0⟩

open QueueSubmit2Request in
theorem encodeSubmitCommand_writes (streamWire : Bool) (offset : Nat) (record : SubmitCommandRecord) :
    WritesWithin (encodeSubmitCommand streamWire · offset record) offset
      (offset + if streamWire then 40 else 12) := by
  intro buffer index outside
  cases streamWire with
  | false =>
      simp only [Bool.false_eq_true, if_false] at outside
      simp (disch := omega) only [encodeSubmitCommand, Bool.false_eq_true, if_false, putU32_apart, putU64_apart]
  | true =>
      simp only [if_true] at outside
      simp (disch := omega) only [encodeSubmitCommand, if_true, putU32_apart, putU64_apart]

theorem readSubmitCommand_reads (streamWire : Bool) (offset : Nat) :
    ReadsWithin (readSubmitCommand streamWire · offset) offset
      (offset + QueueSubmit2Request.commandRecordSize streamWire) := by
  intro left right same
  cases streamWire with
  | false =>
      simp only [QueueSubmit2Request.commandRecordSize, Bool.false_eq_true, if_false] at same
      simp (disch := omega) only [readSubmitCommand, Bool.false_eq_true, if_false, getU32_same same, getU64_same same]
  | true =>
      simp only [QueueSubmit2Request.commandRecordSize, if_true] at same
      simp (disch := omega) only [readSubmitCommand, if_true, getU32_same same, getU64_same same]

theorem readSubmitCommand_encode {streamWire : Bool} (buffer : Buffer) (offset : Nat) {record : SubmitCommandRecord}
    (plain : streamWire = false → record.namesNoStream = true) :
    readSubmitCommand streamWire (encodeSubmitCommand streamWire buffer offset record) offset = record := by
  cases streamWire with
  | true =>
      simp (disch := omega) only [readSubmitCommand, encodeSubmitCommand, if_true, getU32_putU32, getU64_putU64,
        getU32_putU32_apart, getU64_putU32_apart, getU64_putU64_apart]
  | false =>
      have blank := plain rfl
      simp only [SubmitCommandRecord.namesNoStream, Bool.not_eq_true', Bool.or_eq_false_iff,
        bne_eq_false_iff_eq] at blank
      obtain ⟨commandBufferId, streamGeneration, streamSequence, streamOffset, streamLength, deviceMask, streamFlags⟩ :=
        record
      obtain ⟨⟨⟨⟨rfl, rfl⟩, rfl⟩, rfl⟩, rfl⟩ := blank
      simp (disch := omega) only [readSubmitCommand, encodeSubmitCommand, Bool.false_eq_true, if_false, getU32_putU32,
        getU64_putU64, getU64_putU32_apart]

theorem decodeSubmitCommand_eq_ok {streamWire : Bool} {input : Buffer} {offset : Nat} {record : SubmitCommandRecord}
    (reads : readSubmitCommand streamWire input offset = record) (valid : record.isValid = true)
    (unused : streamWire = false → getU32 input (offset + 12) = 0) :
    decodeSubmitCommand streamWire input offset = .ok record := by
  subst reads
  cases streamWire with
  | true => exact if_pos valid
  | false =>
      unfold decodeSubmitCommand
      refine guarded_eq_ok.mpr ⟨?_, ?_⟩
      · rintro ⟨-, used⟩
        exact absurd (unused rfl) used
      · exact if_pos valid

theorem getU32_elements_unused {α : Type} {put : Buffer → Nat → α → Buffer} {size part : Nat}
    (writes : ∀ offset value, WritesWithin (put · offset value) offset (offset + part)) (rest : part + 4 ≤ size)
    (buffer : Buffer) (count base element : Nat) (value : Nat → α) :
    getU32 (loop count (fun index buffer => put buffer (base + index * size) (value index)) buffer)
      (base + element * size + part) = getU32 buffer (base + element * size + part) := by
  apply loop_skip (getU32_reads _)
  intro index _ current position lower upper
  apply writes
  rcases Nat.lt_trichotomy index element with before | rfl | after
  · have inside : (index + 1) * size ≤ element * size := Nat.mul_le_mul_right _ before
    rw [Nat.succ_mul] at inside
    omega
  · omega
  · have inside : (element + 1) * size ≤ index * size := Nat.mul_le_mul_right _ after
    rw [Nat.succ_mul] at inside
    omega

namespace QueueSubmit2Request

theorem encodeSubmitSemaphore_within (offset : Nat) (record : SubmitSemaphoreRecord) :
    WritesWithin (encodeSubmitSemaphore · offset record) offset (offset + 32) :=
  (encodeSubmitSemaphore_writes offset record).mono (by omega) (by omega)

theorem encodeSubmitCommand_within (streamWire : Bool) (offset : Nat) (record : SubmitCommandRecord) :
    WritesWithin (encodeSubmitCommand streamWire · offset record) offset (offset + commandRecordSize streamWire) := by
  refine (encodeSubmitCommand_writes streamWire offset record).mono (by omega) ?_
  cases streamWire <;> simp [commandRecordSize]

variable (request : QueueSubmit2Request) (streamWire : Bool)

def commandsAt : Nat := 32 + request.waits.length * 32

def signalsAt : Nat := request.commandsAt + request.commands.length * commandRecordSize streamWire

def header : Buffer :=
  let output := putU64 zeroed 0 request.queueId
  let output := putU64 output 8 request.fenceId
  let output := putU32 output 16 request.flags
  let output := putU32 output 20 (UInt32.ofNat request.waits.length)
  let output := putU32 output 24 (UInt32.ofNat request.commands.length)
  putU32 output 28 (UInt32.ofNat request.signals.length)

def withWaits : Buffer :=
  loop request.waits.length (fun index output =>
    encodeSubmitSemaphore output (32 + index * 32) (semaphoreAt request.waits index)) request.header

def withCommands : Buffer :=
  loop request.commands.length (fun index output =>
    encodeSubmitCommand streamWire output (request.commandsAt + index * commandRecordSize streamWire)
      (commandAt request.commands index)) request.withWaits

theorem payload_eq : request.payload streamWire =
    loop request.signals.length (fun index output =>
      encodeSubmitSemaphore output (request.signalsAt streamWire + index * 32) (semaphoreAt request.signals index))
      (request.withCommands streamWire) := rfl

theorem payload_before {α : Type} {read : Buffer → α} {low high : Nat} (reads : ReadsWithin read low high)
    (before : high ≤ request.signalsAt streamWire) :
    read (request.payload streamWire) = read (request.withCommands streamWire) :=
  reads.apart (elements_within encodeSubmitSemaphore_within _ _ _) (.inl before) _

theorem withCommands_before {α : Type} {read : Buffer → α} {low high : Nat} (reads : ReadsWithin read low high)
    (before : high ≤ request.commandsAt) : read (request.withCommands streamWire) = read request.withWaits :=
  reads.apart (elements_within (encodeSubmitCommand_within streamWire) _ _ _) (.inl before) _

theorem withWaits_apart {α : Type} {read : Buffer → α} {low high : Nat} (reads : ReadsWithin read low high)
    (apart : high ≤ 32 ∨ request.commandsAt ≤ low) : read request.withWaits = read request.header :=
  reads.apart (elements_within encodeSubmitSemaphore_within _ _ _) apart _

theorem header_blank {offset : Nat} (behind : 32 ≤ offset) : getU32 request.header offset = 0 := by
  simp (disch := omega) only [header, getU32_putU32_apart, getU32_putU64_apart, getU32_zeroed]

theorem header_fields : getU64 request.header 0 = request.queueId ∧ getU64 request.header 8 = request.fenceId ∧
    getU32 request.header 16 = request.flags ∧ getU32 request.header 20 = UInt32.ofNat request.waits.length ∧
    getU32 request.header 24 = UInt32.ofNat request.commands.length ∧
    getU32 request.header 28 = UInt32.ofNat request.signals.length := by
  simp (disch := omega) only [header, getU32_putU32, getU32_putU32_apart, getU64_putU64, getU64_putU32_apart,
    getU64_putU64_apart, and_self]

theorem payload_header {α : Type} {read : Buffer → α} {low high : Nat} (reads : ReadsWithin read low high)
    (before : high ≤ 32) : read (request.payload streamWire) = read request.header := by
  have first : 32 ≤ request.commandsAt := by
    simp only [commandsAt]
    omega
  have second : request.commandsAt ≤ request.signalsAt streamWire := Nat.le_add_right _ _
  rw [request.payload_before streamWire reads (by omega), request.withCommands_before streamWire reads (by omega),
    request.withWaits_apart reads (.inl before)]

theorem payload_ends : EndsBy (request.payload streamWire) (request.size streamWire) := by
  intro index outside
  simp only [size] at outside
  have wide : (request.waits.length + request.signals.length) * 32 =
      request.waits.length * 32 + request.signals.length * 32 := Nat.add_mul _ _ _
  rw [payload_eq, elements_apart encodeSubmitSemaphore_within _ _ _ _ index
    (by simp only [signalsAt, commandsAt]; omega),
    withCommands, elements_apart (encodeSubmitCommand_within streamWire) _ _ _ _ index
      (by simp only [commandsAt]; omega),
    withWaits, elements_apart encodeSubmitSemaphore_within _ _ _ _ index (by omega)]
  simp (disch := omega) only [header, putU32_apart, putU64_apart, zeroed]

theorem wait_read {index : Nat} (used : index < request.waits.length) :
    readSubmitSemaphore (request.payload streamWire) (32 + index * 32) = semaphoreAt request.waits index ∧
      getU32 (request.payload streamWire) (32 + index * 32 + 28) = 0 := by
  have inside : 32 + index * 32 + 32 ≤ request.commandsAt := by
    simp only [commandsAt]
    omega
  have second : request.commandsAt ≤ request.signalsAt streamWire := Nat.le_add_right _ _
  have fields := readSubmitSemaphore_reads (32 + index * 32)
  have unused := getU32_reads (32 + index * 32 + 28)
  constructor
  · rw [request.payload_before streamWire fields (by omega), request.withCommands_before streamWire fields (by omega)]
    exact submitSemaphoreBlock.get_loop _ 32 _ _ used
  · rw [request.payload_before streamWire unused (by omega), request.withCommands_before streamWire unused (by omega),
      withWaits, getU32_elements_unused encodeSubmitSemaphore_writes (by omega)]
    exact request.header_blank (by omega)

theorem command_read {index : Nat} (used : index < request.commands.length)
    (plain : streamWire = false → (commandAt request.commands index).namesNoStream = true) :
    readSubmitCommand streamWire (request.payload streamWire)
        (request.commandsAt + index * commandRecordSize streamWire) = commandAt request.commands index ∧
      (streamWire = false → getU32 (request.payload streamWire)
        (request.commandsAt + index * commandRecordSize streamWire + 12) = 0) := by
  have inside : (index + 1) * commandRecordSize streamWire ≤ request.commands.length * commandRecordSize streamWire :=
    Nat.mul_le_mul_right _ used
  rw [Nat.succ_mul] at inside
  have last : request.commandsAt + index * commandRecordSize streamWire + commandRecordSize streamWire ≤
      request.signalsAt streamWire := by
    simp only [signalsAt]
    omega
  constructor
  · rw [request.payload_before streamWire (readSubmitCommand_reads streamWire _) last]
    refine elements_read (encodeSubmitCommand_within streamWire) _ _ _ _ (readSubmitCommand_reads streamWire _) used ?_
    intro buffer
    exact readSubmitCommand_encode buffer _ plain
  · rintro rfl
    have unused := getU32_reads (request.commandsAt + index * commandRecordSize false + 12)
    have width : commandRecordSize false = 16 := rfl
    have skipped := getU32_elements_unused (encodeSubmitCommand_writes false)
      (show 12 + 4 ≤ commandRecordSize false from Nat.le_refl 16) request.withWaits request.commands.length
      request.commandsAt index (commandAt request.commands)
    rw [request.payload_before false unused (by omega)]
    refine skipped.trans ?_
    have first : 32 ≤ request.commandsAt := by
      simp only [commandsAt]
      omega
    refine (request.withWaits_apart unused (.inr (by omega))).trans ?_
    exact request.header_blank (by omega)

theorem signal_read {index : Nat} (used : index < request.signals.length) :
    readSubmitSemaphore (request.payload streamWire) (request.signalsAt streamWire + index * 32) =
        semaphoreAt request.signals index ∧
      getU32 (request.payload streamWire) (request.signalsAt streamWire + index * 32 + 28) = 0 := by
  constructor
  · exact submitSemaphoreBlock.get_loop _ (request.signalsAt streamWire) _ _ used
  · have unused := getU32_reads (request.signalsAt streamWire + index * 32 + 28)
    have first : 32 ≤ request.commandsAt := by
      simp only [commandsAt]
      omega
    have second : request.signalsAt streamWire =
      request.commandsAt + request.commands.length * commandRecordSize streamWire := rfl
    rw [payload_eq, getU32_elements_unused encodeSubmitSemaphore_writes (by omega), withCommands,
      unused.apart (elements_within (encodeSubmitCommand_within streamWire) _ _ _) (.inr (by omega)),
      request.withWaits_apart unused (.inr (by omega))]
    exact request.header_blank (by omega)

theorem range_map_getD {α : Type} (items : List α) (blank : α) :
    (List.range items.length).map (fun index => items.getD index blank) = items := by
  apply List.ext_getElem
  · simp
  · intro index _ inside
    simp [inside]

theorem getD_mem {α : Type} {items : List α} {index : Nat} (used : index < items.length) (blank : α) :
    items.getD index blank ∈ items := by
  rw [List.getD_eq_getElem?_getD, List.getElem?_eq_getElem used, Option.getD_some]
  exact List.getElem_mem used

variable {request} {streamWire}

theorem decodes {payload : Buffer} {length : Nat}
    (encoded : encodeQueueSubmit2Request request streamWire = .ok (payload, length)) :
    EndsBy payload length ∧ decodeQueueSubmit2Request payload length streamWire = .ok request := by
  simp only [encodeQueueSubmit2Request, refused_eq_ok, Except.ok.injEq, Prod.mk.injEq] at encoded
  obtain ⟨header, waits, commands, streams, signals, rfl, rfl⟩ := encoded
  refine ⟨request.payload_ends streamWire, ?_⟩
  simp only [Bool.not_eq_true, Bool.or_eq_false_iff, Bool.not_eq_false', decide_eq_false_iff_not, Nat.not_lt,
    Bool.and_eq_false_imp, bne_iff_ne] at header
  obtain ⟨⟨⟨⟨queue, fence⟩, fewWaits⟩, fewCommands⟩, fewSignals⟩ := header
  simp only [Bool.not_eq_true, List.any_eq_false, Bool.not_eq_false'] at waits commands signals
  obtain ⟨isQueue, isFence, isFlags, waitCount, commandCount, signalCount⟩ := request.header_fields
  have headerU64 : ∀ offset, offset + 8 ≤ 32 → getU64 (request.payload streamWire) offset =
      getU64 request.header offset := fun offset before =>
        request.payload_header streamWire (getU64_reads offset) before
  have headerU32 : ∀ offset, offset + 4 ≤ 32 → getU32 (request.payload streamWire) offset =
      getU32 request.header offset := fun offset before =>
        request.payload_header streamWire (getU32_reads offset) before
  have counted : ∀ count : Nat, count ≤ 16 → (UInt32.ofNat count).toNat = count := by
    intro count few
    rw [UInt32.toNat_ofNat']
    exact Nat.mod_eq_of_lt (by omega)
  have waitsRead : (List.range request.waits.length).mapM
      (fun index => decodeSubmitSemaphore (request.payload streamWire) (32 + index * 32)) = .ok request.waits := by
    refine (mapM_eq_ok ?_).trans (congrArg Except.ok (range_map_getD request.waits ⟨0, 0, 0, 0⟩))
    intro index member
    obtain ⟨reads, unused⟩ := request.wait_read streamWire (List.mem_range.mp member)
    exact decodeSubmitSemaphore_eq_ok reads (waits _ (getD_mem (List.mem_range.mp member) _)) unused
  have commandsRead : (List.range request.commands.length).mapM (fun index =>
      decodeSubmitCommand streamWire (request.payload streamWire)
        (32 + request.waits.length * 32 + index * if streamWire then 40 else 16)) = .ok request.commands := by
    refine (mapM_eq_ok ?_).trans (congrArg Except.ok (range_map_getD request.commands ⟨0, 0, 0, 0, 0, 0, 0⟩))
    intro index member
    have used := List.mem_range.mp member
    have accepted := commands _ (getD_mem used ⟨0, 0, 0, 0, 0, 0, 0⟩)
    simp only [Bool.or_eq_false_iff, Bool.not_eq_false', Bool.and_eq_false_imp, Bool.not_eq_true'] at accepted
    obtain ⟨reads, unused⟩ := request.command_read streamWire used accepted.2
    exact decodeSubmitCommand_eq_ok reads accepted.1 unused
  have signalsRead : (List.range request.signals.length).mapM (fun index =>
      decodeSubmitSemaphore (request.payload streamWire)
        (32 + request.waits.length * 32 + request.commands.length * (if streamWire then 40 else 16) + index * 32)) =
      .ok request.signals := by
    refine (mapM_eq_ok ?_).trans (congrArg Except.ok (range_map_getD request.signals ⟨0, 0, 0, 0⟩))
    intro index member
    obtain ⟨reads, unused⟩ := request.signal_read streamWire (List.mem_range.mp member)
    exact decodeSubmitSemaphore_eq_ok reads (signals _ (getD_mem (List.mem_range.mp member) _)) unused
  unfold decodeQueueSubmit2Request
  simp only [headerU64, headerU32, isQueue, isFence, isFlags, waitCount, commandCount, signalCount, counted _ fewWaits,
    counted _ fewCommands, counted _ fewSignals, Nat.reduceAdd, Nat.reduceLeDiff]
  refine guarded_eq_ok.mpr ⟨?_, ?_⟩
  · intro short
    simp only [size] at short
    omega
  refine guarded_eq_ok.mpr ⟨?_, ?_⟩
  · intro many
    omega
  refine guarded_eq_ok.mpr ⟨?_, ?_⟩
  · intro other
    exact absurd rfl other
  refine guarded_eq_ok.mpr ⟨?_, ?_⟩
  · rintro (untyped | ⟨fenced, untyped⟩)
    · rw [queue] at untyped
      cases untyped
    · rw [fence fenced] at untyped
      cases untyped
  rw [waitsRead, ok_bind, commandsRead, ok_bind]
  refine guarded_eq_ok.mpr ⟨?_, ?_⟩
  · rintro ⟨isStream, none⟩
    exact absurd (by simp [isStream, none]) streams
  rw [signalsRead]
  rfl

end QueueSubmit2Request

end VulkanBridge
