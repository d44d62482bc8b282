import VulkanBridge.CommandBatch

/-!
The structures that are stored inside a payload, each as a block of fixed size
that is read back as it was written.
-/

namespace VulkanBridge

open ByteBuffer

theorem toInt32_toUInt32 (value : Int32) : value.toUInt32.toInt32 = value := by
  simp

theorem putU32_getI32 (target source : Buffer) (offset : Nat) :
    putU32 target offset (getU32 source offset).toInt32.toUInt32 = graft target source offset 4 := by
  rw [← putU32_getU32]
  simp

section Reads

variable {left right : Buffer} {low high : Nat}
  (same : ∀ index, low ≤ index → index < high → left index = right index)

include same

theorem getU32_same (offset : Nat) (lower : low ≤ offset) (upper : offset + 4 ≤ high) :
    getU32 left offset = getU32 right offset :=
  (getU32_reads offset).mono lower upper left right same

theorem getU64_same (offset : Nat) (lower : low ≤ offset) (upper : offset + 8 ≤ high) :
    getU64 left offset = getU64 right offset :=
  (getU64_reads offset).mono lower upper left right same

end Reads

theorem encodeRenderingAttachment_writes (output : Nat) (attachment : RenderingAttachment) :
    WritesWithin (encodeRenderingAttachment · output attachment) output (output + 56) := by
  intro buffer index outside
  simp (disch := omega) only [encodeRenderingAttachment, arrayU32_apart, putU32_apart, putU64_apart]

theorem decodeRenderingAttachment_reads (input : Nat) :
    ReadsWithin (decodeRenderingAttachment · input) input (input + 56) := by
  intro left right same
  have words : ∀ index, index < 4 → index < 4 →
      getU32 left (input + 40 + index * 4) = getU32 right (input + 40 + index * 4) := by
    intro index bound _
    exact getU32_same same _ (by omega) (by omega)
  simp (disch := omega) only [decodeRenderingAttachment, getU32_same same, getU64_same same,
    fill_congr words]

theorem decodeRenderingAttachment_encode (buffer : Buffer) (output : Nat)
    (attachment : RenderingAttachment) :
    decodeRenderingAttachment (encodeRenderingAttachment buffer output attachment) output = attachment := by
  have words : ∀ index, index < 4 →
      getU32 (encodeRenderingAttachment buffer output attachment) (output + 40 + index * 4) =
        slot attachment.clearWords index := by
    intro index bound
    exact getU32_arrayU32 _ 4 (output + 40) _ bound
  simp only [decodeRenderingAttachment, fill_eq_self _ _ words]
  simp (disch := omega) only [encodeRenderingAttachment, getU32_arrayU32_apart, getU64_arrayU32_apart,
    getU32_putU32, getU64_putU64, getU32_putU32_apart, getU64_putU32_apart, getU64_putU64_apart]

def renderingAttachmentBlock : Block RenderingAttachment :=
  ⟨56, encodeRenderingAttachment, decodeRenderingAttachment, encodeRenderingAttachment_writes,
    decodeRenderingAttachment_reads, decodeRenderingAttachment_encode⟩

theorem encodeRenderingAttachment_decode (target source : Buffer) (offset : Nat) :
    encodeRenderingAttachment target offset (decodeRenderingAttachment source offset) =
      graft target source offset 56 := by
  have words : ∀ buffer, loop 4 (fun index buffer => putU32 buffer (offset + 40 + index * 4)
      (slot (fill 4 4 fun index => getU32 source (offset + 40 + index * 4)) index)) buffer =
        graft buffer source (offset + 40) 16 := by
    intro buffer
    rw [← arrayU32_graft buffer 4 (offset + 40) source]
    apply loop_congr
    intro index bound
    rw [slot_fill _ bound bound]
  simp only [encodeRenderingAttachment, decodeRenderingAttachment, words, putU32_getU32, putU64_getU64]
  simp (disch := omega) only [graft_fuse]

theorem encodeImageRange_writes (output : Nat) (range : ImageSubresourceRange) :
    WritesWithin (encodeImageRange · output range) output (output + 24) := by
  intro buffer index outside
  simp (disch := omega) only [encodeImageRange, putU32_apart]

theorem decodeImageRange_reads (input : Nat) :
    ReadsWithin (decodeImageRange · input) input (input + 24) := by
  intro left right same
  simp (disch := omega) only [decodeImageRange, getU32_same same]

theorem decodeImageRange_encode (buffer : Buffer) (output : Nat) (range : ImageSubresourceRange) :
    decodeImageRange (encodeImageRange buffer output range) output = range := by
  simp (disch := omega) only [decodeImageRange, encodeImageRange, getU32_putU32, getU32_putU32_apart]

def imageRangeBlock : Block ImageSubresourceRange :=
  ⟨24, encodeImageRange, decodeImageRange, encodeImageRange_writes, decodeImageRange_reads,
    decodeImageRange_encode⟩

theorem encodeImageRange_decode (target source : Buffer) (offset : Nat)
    (reserved : getU32 source (offset + 20) = 0) :
    encodeImageRange target offset (decodeImageRange source offset) = graft target source offset 24 := by
  simp only [encodeImageRange, decodeImageRange, putU32_getU32, putU32_blank _ reserved]
  simp (disch := omega) only [graft_fuse]

theorem validateImageRangeWire_reads (input : Nat) :
    ReadsWithin (validateImageRangeWire · input) input (input + 24) := by
  intro left right same
  simp (disch := omega) only [validateImageRangeWire, getU32_same same]

theorem validateImageRangeWire_encode (buffer : Buffer) (output : Nat) (range : ImageSubresourceRange) :
    validateImageRangeWire (encodeImageRange buffer output range) output = imageRangeIsValid range := by
  simp (disch := omega) only [validateImageRangeWire, encodeImageRange, getU32_putU32,
    getU32_putU32_apart, imageRangeIsValid]
  simp [bne]

theorem validateImageRangeWire_reserved {payload : Buffer} {input : Nat}
    (valid : validateImageRangeWire payload input = true) : getU32 payload (input + 20) = 0 := by
  simp only [validateImageRangeWire, Bool.not_eq_true', Bool.or_eq_false_iff,
    bne_eq_false_iff_eq] at valid
  exact valid.2

theorem encodeMemoryBarrier2_writes (record : Nat) (barrier : MemoryBarrier2) :
    WritesWithin (encodeMemoryBarrier2 · record barrier) record (record + 32) := by
  intro buffer index outside
  simp (disch := omega) only [encodeMemoryBarrier2, putU64_apart]

theorem decodeMemoryBarrier2_reads (input : Nat) :
    ReadsWithin (decodeMemoryBarrier2 · input) input (input + 32) := by
  intro left right same
  simp (disch := omega) only [decodeMemoryBarrier2, getU64_same same]

theorem decodeMemoryBarrier2_encode (buffer : Buffer) (record : Nat) (barrier : MemoryBarrier2) :
    decodeMemoryBarrier2 (encodeMemoryBarrier2 buffer record barrier) record = barrier := by
  simp (disch := omega) only [decodeMemoryBarrier2, encodeMemoryBarrier2, getU64_putU64,
    getU64_putU64_apart]

def memoryBarrier2Block : Block MemoryBarrier2 :=
  ⟨32, encodeMemoryBarrier2, decodeMemoryBarrier2, encodeMemoryBarrier2_writes,
    decodeMemoryBarrier2_reads, decodeMemoryBarrier2_encode⟩

theorem encodeMemoryBarrier2_decode (target source : Buffer) (offset : Nat) :
    encodeMemoryBarrier2 target offset (decodeMemoryBarrier2 source offset) =
      graft target source offset 32 := by
  simp only [encodeMemoryBarrier2, decodeMemoryBarrier2, putU64_getU64]
  simp (disch := omega) only [graft_fuse]

theorem encodeBufferBarrier2_writes (record : Nat) (barrier : BufferBarrier2) :
    WritesWithin (encodeBufferBarrier2 · record barrier) record (record + 64) := by
  intro buffer index outside
  simp (disch := omega) only [encodeBufferBarrier2, putU64_apart, putU32_apart]

theorem decodeBufferBarrier2_reads (input : Nat) :
    ReadsWithin (decodeBufferBarrier2 · input) input (input + 64) := by
  intro left right same
  simp (disch := omega) only [decodeBufferBarrier2, getU64_same same, getU32_same same]

theorem decodeBufferBarrier2_encode (buffer : Buffer) (record : Nat) (barrier : BufferBarrier2) :
    decodeBufferBarrier2 (encodeBufferBarrier2 buffer record barrier) record = barrier := by
  simp (disch := omega) only [decodeBufferBarrier2, encodeBufferBarrier2, getU64_putU64, getU32_putU32,
    getU64_putU64_apart, getU64_putU32_apart, getU32_putU64_apart, getU32_putU32_apart]

def bufferBarrier2Block : Block BufferBarrier2 :=
  ⟨64, encodeBufferBarrier2, decodeBufferBarrier2, encodeBufferBarrier2_writes,
    decodeBufferBarrier2_reads, decodeBufferBarrier2_encode⟩

theorem encodeBufferBarrier2_decode (target source : Buffer) (offset : Nat) :
    encodeBufferBarrier2 target offset (decodeBufferBarrier2 source offset) =
      graft target source offset 64 := by
  simp only [encodeBufferBarrier2, decodeBufferBarrier2, putU64_getU64, putU32_getU32]
  simp (disch := omega) only [graft_fuse]

theorem encodeImageBarrier2_writes (record : Nat) (barrier : ImageBarrier2) :
    WritesWithin (encodeImageBarrier2 · record barrier) record (record + 80) := by
  intro buffer index outside
  simp (disch := omega) only [encodeImageBarrier2, encodeImageRange, putU64_apart, putU32_apart]

theorem decodeImageBarrier2_reads (input : Nat) :
    ReadsWithin (decodeImageBarrier2 · input) input (input + 80) := by
  intro left right same
  simp (disch := omega) only [decodeImageBarrier2, decodeImageRange, getU64_same same, getU32_same same]

theorem decodeImageBarrier2_encode (buffer : Buffer) (record : Nat) (barrier : ImageBarrier2) :
    decodeImageBarrier2 (encodeImageBarrier2 buffer record barrier) record = barrier := by
  simp (disch := omega) only [decodeImageBarrier2, encodeImageBarrier2, decodeImageRange,
    encodeImageRange, getU64_putU64, getU32_putU32, getU64_putU64_apart, getU64_putU32_apart,
    getU32_putU64_apart, getU32_putU32_apart]

def imageBarrier2Block : Block ImageBarrier2 :=
  ⟨80, encodeImageBarrier2, decodeImageBarrier2, encodeImageBarrier2_writes,
    decodeImageBarrier2_reads, decodeImageBarrier2_encode⟩

theorem encodeImageBarrier2_decode (target source : Buffer) (offset : Nat)
    (reserved : getU32 source (offset + 56 + 20) = 0) :
    encodeImageBarrier2 target offset (decodeImageBarrier2 source offset) =
      graft target source offset 80 := by
  simp only [encodeImageBarrier2, decodeImageBarrier2, putU64_getU64, putU32_getU32,
    encodeImageRange_decode _ source (offset + 56) reserved]
  simp (disch := omega) only [graft_fuse]

theorem encodeTransferRegion_writes (wire : Nat) (region : TransferRegion) :
    WritesWithin (encodeTransferRegion · wire region) wire (wire + 124) := by
  intro buffer index outside
  simp (disch := omega) only [encodeTransferRegion, encodeTransferLayers, loop, putU64_apart, putU32_apart]

theorem decodeTransferRegion_reads (wire : Nat) :
    ReadsWithin (decodeTransferRegion · wire) wire (wire + 124) := by
  intro left right same
  have sources : ∀ offset, offset < 2 → offset < 2 →
      (⟨(getU32 left (wire + 64 + offset * 12)).toInt32, (getU32 left (wire + 68 + offset * 12)).toInt32,
          (getU32 left (wire + 72 + offset * 12)).toInt32⟩ : Offset3D) =
        ⟨(getU32 right (wire + 64 + offset * 12)).toInt32, (getU32 right (wire + 68 + offset * 12)).toInt32,
          (getU32 right (wire + 72 + offset * 12)).toInt32⟩ := by
    intro offset bound _
    simp (disch := omega) only [getU32_same same]
  have destinations : ∀ offset, offset < 2 → offset < 2 →
      (⟨(getU32 left (wire + 88 + offset * 12)).toInt32, (getU32 left (wire + 92 + offset * 12)).toInt32,
          (getU32 left (wire + 96 + offset * 12)).toInt32⟩ : Offset3D) =
        ⟨(getU32 right (wire + 88 + offset * 12)).toInt32, (getU32 right (wire + 92 + offset * 12)).toInt32,
          (getU32 right (wire + 96 + offset * 12)).toInt32⟩ := by
    intro offset bound _
    simp (disch := omega) only [getU32_same same]
  simp (disch := omega) only [decodeTransferRegion, decodeTransferLayers, getU64_same same,
    getU32_same same, fill_congr sources, fill_congr destinations]

theorem decodeTransferRegion_encode (buffer : Buffer) (wire : Nat) (region : TransferRegion) :
    decodeTransferRegion (encodeTransferRegion buffer wire region) wire = region := by
  have sources : ∀ offset, offset < 2 →
      (⟨(getU32 (encodeTransferRegion buffer wire region) (wire + 64 + offset * 12)).toInt32,
          (getU32 (encodeTransferRegion buffer wire region) (wire + 68 + offset * 12)).toInt32,
          (getU32 (encodeTransferRegion buffer wire region) (wire + 72 + offset * 12)).toInt32⟩ : Offset3D) =
        slot region.sourceOffsets offset := by
    intro offset bound
    have which : offset = 0 ∨ offset = 1 := by omega
    rcases which with rfl | rfl
    all_goals
      simp (disch := omega) only [encodeTransferRegion, encodeTransferLayers, loop, getU32_putU32,
        getU32_putU32_apart, toInt32_toUInt32, Nat.zero_mul, Nat.one_mul, Nat.add_zero]
  have destinations : ∀ offset, offset < 2 →
      (⟨(getU32 (encodeTransferRegion buffer wire region) (wire + 88 + offset * 12)).toInt32,
          (getU32 (encodeTransferRegion buffer wire region) (wire + 92 + offset * 12)).toInt32,
          (getU32 (encodeTransferRegion buffer wire region) (wire + 96 + offset * 12)).toInt32⟩ : Offset3D) =
        slot region.destinationOffsets offset := by
    intro offset bound
    have which : offset = 0 ∨ offset = 1 := by omega
    rcases which with rfl | rfl
    all_goals
      simp (disch := omega) only [encodeTransferRegion, encodeTransferLayers, loop, getU32_putU32,
        getU32_putU32_apart, toInt32_toUInt32, Nat.zero_mul, Nat.one_mul, Nat.add_zero]
  simp only [decodeTransferRegion, fill_eq_self _ _ sources, fill_eq_self _ _ destinations]
  simp (disch := omega) only [encodeTransferRegion, decodeTransferLayers, encodeTransferLayers, loop,
    getU64_putU64, getU32_putU32, getU64_putU64_apart, getU64_putU32_apart, getU32_putU32_apart]

def transferRegionBlock : Block TransferRegion where
  size := 128
  put := encodeTransferRegion
  get := decodeTransferRegion
  writes wire region := (encodeTransferRegion_writes wire region).mono (Nat.le_refl _) (by omega)
  reads wire := (decodeTransferRegion_reads wire).mono (Nat.le_refl _) (by omega)
  get_put := decodeTransferRegion_encode

theorem encodeTransferRegion_decode (target source : Buffer) (offset : Nat) :
    encodeTransferRegion target offset (decodeTransferRegion source offset) =
      graft target source offset 124 := by
  simp only [encodeTransferRegion, decodeTransferRegion, encodeTransferLayers, decodeTransferLayers,
    putU64_getU64, putU32_getU32, loop, slot_fill _ (show 0 < 2 by omega) (show 0 < 2 by omega),
    slot_fill _ (show 1 < 2 by omega) (show 1 < 2 by omega), putU32_getI32, Nat.zero_mul, Nat.one_mul,
    Nat.add_zero]
  simp (disch := omega) only [graft_fuse]
  rw [graft_swap _ source (offset + 88)]
  simp (disch := omega) only [graft_fuse]

theorem encodeClearAttachment_writes (output : Nat) (attachment : ClearAttachment) :
    WritesWithin (encodeClearAttachment · output attachment) output (output + 24) := by
  intro buffer index outside
  simp (disch := omega) only [encodeClearAttachment, arrayU32_apart, putU32_apart]

theorem decodeClearAttachment_reads (input : Nat) :
    ReadsWithin (decodeClearAttachment · input) input (input + 24) := by
  intro left right same
  have words : ∀ word, word < 4 → word < 4 →
      getU32 left (input + 8 + word * 4) = getU32 right (input + 8 + word * 4) := by
    intro word bound _
    exact getU32_same same _ (by omega) (by omega)
  simp (disch := omega) only [decodeClearAttachment, getU32_same same, fill_congr words]

theorem decodeClearAttachment_encode (buffer : Buffer) (output : Nat) (attachment : ClearAttachment) :
    decodeClearAttachment (encodeClearAttachment buffer output attachment) output = attachment := by
  have words : ∀ word, word < 4 →
      getU32 (encodeClearAttachment buffer output attachment) (output + 8 + word * 4) =
        slot attachment.clearWords word := by
    intro word bound
    exact getU32_arrayU32 _ 4 (output + 8) _ bound
  simp only [decodeClearAttachment, fill_eq_self _ _ words]
  simp (disch := omega) only [encodeClearAttachment, getU32_arrayU32_apart, getU32_putU32,
    getU32_putU32_apart]

def clearAttachmentBlock : Block ClearAttachment :=
  ⟨24, encodeClearAttachment, decodeClearAttachment, encodeClearAttachment_writes,
    decodeClearAttachment_reads, decodeClearAttachment_encode⟩

theorem encodeClearAttachment_decode (target source : Buffer) (offset : Nat) :
    encodeClearAttachment target offset (decodeClearAttachment source offset) =
      graft target source offset 24 := by
  have words : ∀ buffer, loop 4 (fun word buffer => putU32 buffer (offset + 8 + word * 4)
      (slot (fill 4 4 fun word => getU32 source (offset + 8 + word * 4)) word)) buffer =
        graft buffer source (offset + 8) 16 := by
    intro buffer
    rw [← arrayU32_graft buffer 4 (offset + 8) source]
    apply loop_congr
    intro word bound
    rw [slot_fill _ bound bound]
  simp only [encodeClearAttachment, decodeClearAttachment, words, putU32_getU32]
  simp (disch := omega) only [graft_fuse]

theorem encodeClearRect_writes (output : Nat) (rect : ClearRect) :
    WritesWithin (encodeClearRect · output rect) output (output + 24) := by
  intro buffer index outside
  simp (disch := omega) only [encodeClearRect, putU32_apart]

theorem decodeClearRect_reads (input : Nat) :
    ReadsWithin (decodeClearRect · input) input (input + 24) := by
  intro left right same
  simp (disch := omega) only [decodeClearRect, getU32_same same]

theorem decodeClearRect_encode (buffer : Buffer) (output : Nat) (rect : ClearRect) :
    decodeClearRect (encodeClearRect buffer output rect) output = rect := by
  simp (disch := omega) only [decodeClearRect, encodeClearRect, getU32_putU32, getU32_putU32_apart,
    toInt32_toUInt32]

def clearRectBlock : Block ClearRect :=
  ⟨24, encodeClearRect, decodeClearRect, encodeClearRect_writes, decodeClearRect_reads,
    decodeClearRect_encode⟩

theorem encodeClearRect_decode (target source : Buffer) (offset : Nat) :
    encodeClearRect target offset (decodeClearRect source offset) = graft target source offset 24 := by
  simp only [encodeClearRect, decodeClearRect, putU32_getI32, putU32_getU32]
  simp (disch := omega) only [graft_fuse]

theorem toNat_le_of_not_gt {count word : UInt32} (limit : Nat) (value : word.toNat = limit)
    (small : ¬count > word) : count.toNat ≤ limit :=
  value ▸ UInt32.le_iff_toNat_le.mp (UInt32.not_lt.mp small)

theorem all_range_used {count limit : Nat} (bound : count ≤ limit) {every active : Nat → Bool}
    (used : ∀ index, index < count → every index = active index)
    (idle : ∀ index, count ≤ index → index < limit → every index = true) :
    (List.range limit).all every = (List.range count).all active := by
  rw [Bool.eq_iff_iff]
  simp only [List.all_eq_true, List.mem_range]
  constructor
  · intro checked index inside
    rw [← used index inside]
    exact checked index (by omega)
  · intro checked index inside
    by_cases inUse : index < count
    · rw [used index inUse]
      exact checked index inUse
    · exact idle index (by omega) inside

theorem all_range_congr {count : Nat} {left right : Nat → Bool}
    (same : ∀ index, index < count → left index = right index) :
    (List.range count).all left = (List.range count).all right :=
  all_range_used (Nat.le_refl count) same (fun index lower upper => by omega)

theorem arrayU64_read (target source : Buffer) {size count : Nat} (base : Nat) (bound : count ≤ size) :
    loop count (fun index buffer => putU64 buffer (base + index * 8)
        (slot (fill size count fun index => getU64 source (base + index * 8)) index)) target =
      graft target source base (count * 8) := by
  rw [← arrayU64_graft target count base source]
  apply loop_congr
  intro index inside
  rw [slot_fill _ (by omega) inside]

theorem arrayU32_read (target source : Buffer) {size count : Nat} (base : Nat) (bound : count ≤ size) :
    loop count (fun index buffer => putU32 buffer (base + index * 4)
        (slot (fill size count fun index => getU32 source (base + index * 4)) index)) target =
      graft target source base (count * 4) := by
  rw [← arrayU32_graft target count base source]
  apply loop_congr
  intro index inside
  rw [slot_fill _ (by omega) inside]

theorem arrayBytes_read (target source : Buffer) {size count : Nat} (base : Nat) (bound : count ≤ size) :
    copyInto target base (slot (fill size count fun index => source (base + index))) count =
      graft target source base count := by
  apply copyInto_graft
  intro index inside
  rw [slot_fill _ (by omega) inside]

theorem arrayBlock_read {α : Type} [Inhabited α] (encode : Buffer → Nat → α → Buffer)
    (decode : Buffer → Nat → α) (target source : Buffer) {size count : Nat} (base stride : Nat)
    (bound : count ≤ size)
    (each : ∀ index, index < count → ∀ buffer, encode buffer (base + index * stride)
      (decode source (base + index * stride)) = graft buffer source (base + index * stride) stride) :
    loop count (fun index buffer => encode buffer (base + index * stride)
        (slot (fill size count fun index => decode source (base + index * stride)) index)) target =
      graft target source base (count * stride) := by
  apply loop_graft target source (Nat.le_refl stride)
  · intro index inside buffer
    rw [slot_fill _ (by omega) inside]
    exact each index inside buffer
  · intro index _ position lower upper
    omega

theorem bytesAreZero_iff (bytes : Buffer) (offset size : Nat) : bytesAreZero bytes offset size = true ↔
    ∀ index, offset ≤ index → index < offset + size → bytes index = 0 := by
  simp only [bytesAreZero, List.all_eq_true, List.mem_range, beq_iff_eq]
  constructor
  · intro zero index lower upper
    have here := zero (index - offset) (by omega)
    rwa [show offset + (index - offset) = index by omega] at here
  · intro zero index inside
    exact zero _ (by omega) (by omega)

theorem imageRangeWireIsZero_iff (payload : Buffer) (input : Nat) :
    imageRangeWireIsZero payload input = true ↔
      ∀ index, input ≤ index → index < input + 24 → payload index = 0 := by
  simp only [imageRangeWireIsZero, List.all_eq_true, List.mem_range, beq_iff_eq]
  constructor
  · intro zero index lower upper
    have word := zero ((index - input) / 4) (by omega)
    exact (getU32_eq_zero_iff _ _).mp word index (by omega) (by omega)
  · intro zero word inside
    exact (getU32_eq_zero_iff _ _).mpr fun index lower upper => zero index (by omega) (by omega)

end VulkanBridge
