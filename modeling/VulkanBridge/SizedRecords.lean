import VulkanBridge.OptionalRecords

/-!
The records of variable length: buffer updates, transfers and barriers carry
only the elements their counts announce.
-/

namespace VulkanBridge

open ByteBuffer

namespace UpdateBufferCommand

def cleared (command : UpdateBufferCommand) : UpdateBufferCommand :=
  { command with data := keep command.dataSize.toNat command.data }

theorem payload_header (command : UpdateBufferCommand) :
    getU64 command.payload 0 = command.bufferId ∧ getU64 command.payload 8 = command.offset ∧
      getU32 command.payload 16 = command.dataSize ∧ getU32 command.payload 20 = 0 := by
  simp (disch := omega) only [payload, getU64_copyInto_apart, getU32_copyInto_apart, getU32_putU32,
    getU32_putU32_apart, getU64_putU64, getU64_putU64_apart, getU64_putU32_apart, and_self]

theorem payload_data (command : UpdateBufferCommand) {index : Nat} (used : index < command.dataSize.toNat) :
    command.payload (24 + index) = slot command.data index :=
  copyInto_inside _ _ 24 used

theorem payload_endsBy (command : UpdateBufferCommand) :
    EndsBy command.payload (24 + command.dataSize.toNat) := by
  intro index outside
  simp (disch := omega) only [payload, copyInto_apart, putU32_apart, putU64_apart, zeroed]

theorem validate_payload (command : UpdateBufferCommand) :
    validateUpdateBuffer command.payload = command.isAppendable := by
  obtain ⟨buffer, offset, size, reserved⟩ := command.payload_header
  rw [Bool.eq_iff_iff]
  simp only [validateUpdateBuffer, isAppendable, buffer, offset, size, reserved, bne_self_eq_false,
    Bool.or_false, Bool.not_eq_true', Bool.or_eq_false_iff]
  tauto

theorem payload_length {command : UpdateBufferCommand} (appendable : command.isAppendable = true) :
    updateBufferLengthIsValid command.payload (24 + command.dataSize.toNat) = true := by
  obtain ⟨_, _, size, _⟩ := command.payload_header
  simp only [isAppendable, Bool.not_eq_true', Bool.or_eq_false_iff, beq_eq_false_iff_ne,
    decide_eq_false_iff_not, bne_eq_false_iff_eq] at appendable
  obtain ⟨⟨⟨⟨_, positive⟩, large⟩, _⟩, aligned⟩ := appendable
  simp only [updateBufferLengthIsValid, size, if_neg (show ¬24 + command.dataSize.toNat < 24 by omega),
    Bool.and_eq_true, bne_iff_ne, ne_eq, beq_iff_eq, decide_eq_true_eq]
  exact ⟨⟨⟨positive, UInt32.not_lt.mp large⟩, aligned⟩, trivial⟩

theorem read_payload (command : UpdateBufferCommand) : read command.payload = command.cleared := by
  obtain ⟨buffer, offset, size, _⟩ := command.payload_header
  simp only [read, cleared, buffer, offset, size,
    fill_eq_keep _ _ fun index _ used => command.payload_data used]

theorem length_eq {source : Buffer} {size : Nat} (length : updateBufferLengthIsValid source size = true) :
    size = 24 + (getU32 source 16).toNat := by
  simp only [updateBufferLengthIsValid] at length
  split at length
  · exact absurd length (by decide)
  · simp only [Bool.and_eq_true, beq_iff_eq] at length
    exact length.2

theorem payload_read {source : Buffer} {size : Nat} (ends : EndsBy source size)
    (length : updateBufferLengthIsValid source size = true) (valid : validateUpdateBuffer source = true) :
    (read source).payload = source := by
  simp only [validateUpdateBuffer, Bool.not_eq_true', Bool.or_eq_false_iff, decide_eq_false_iff_not,
    bne_eq_false_iff_eq] at valid
  obtain ⟨⟨⟨_, large⟩, _⟩, reserved⟩ := valid
  have small := toNat_le_of_not_gt 65536 rfl large
  simp only [read, payload, putU64_getU64, putU32_getU32, arrayBytes_read _ _ _ small,
    putU32_blank _ reserved]
  simp (disch := omega) only [graft_fuse]
  exact graft_whole source _ (length_eq length ▸ ends)

end UpdateBufferCommand

namespace TransferCommand

def cleared (command : TransferCommand) : TransferCommand :=
  { command with regions := keep command.regionCount.toNat command.regions }

theorem region_writes (wire : Nat) (region : TransferRegion) :
    WritesWithin (encodeTransferRegion · wire region) wire (wire + 128) :=
  transferRegionBlock.writes wire region

theorem payload_header (command : TransferCommand) :
    getU64 command.payload 0 = command.sourceId ∧ getU64 command.payload 8 = command.destinationId ∧
      getU32 command.payload 16 = command.sourceLayout ∧
      getU32 command.payload 20 = command.destinationLayout ∧
      getU32 command.payload 24 = command.filter ∧ getU32 command.payload 28 = command.regionCount := by
  simp (disch := omega) only [payload, getU64_elements_apart region_writes,
    getU32_elements_apart region_writes, getU32_putU32, getU32_putU32_apart, getU64_putU64,
    getU64_putU64_apart, getU64_putU32_apart, and_self]

theorem decodeTransferRegion_payload (command : TransferCommand) {index : Nat}
    (used : index < command.regionCount.toNat) :
    decodeTransferRegion command.payload (32 + index * 128) = slot command.regions index :=
  transferRegionBlock.get_loop _ 32 _ _ used

theorem getU32_payload_reserved (command : TransferCommand) (index : Nat) :
    getU32 command.payload (32 + index * 128 + 124) = 0 := by
  rw [payload, loop_skip (getU32_reads _)]
  · simp (disch := omega) only [getU32_putU32_apart, getU32_putU64_apart, getU32_zeroed]
  · intro other _ buffer position lower upper
    apply encodeTransferRegion_writes
    omega

theorem payload_endsBy (command : TransferCommand) :
    EndsBy command.payload (transferPayloadSize command.regionCount.toNat) := by
  intro index outside
  simp only [transferPayloadSize] at outside
  simp (disch := omega) only [payload, elements_apart region_writes, putU32_apart, putU64_apart, zeroed]

theorem validate_region (opcode : UInt16) (command : TransferCommand) {index : Nat}
    (used : index < command.regionCount.toNat) :
    (!((opcode == Opcode.copyBuffer2.code && getU64 command.payload (32 + index * 128 + 16) == 0) ||
        (opcode != Opcode.copyBuffer2.code && (getU32 command.payload (32 + index * 128 + 112) == 0 ||
          getU32 command.payload (32 + index * 128 + 116) == 0 ||
          getU32 command.payload (32 + index * 128 + 120) == 0)) ||
        (!transferSourceIsBuffer opcode && (getU32 command.payload (32 + index * 128 + 32) == 0 ||
          getU32 command.payload (32 + index * 128 + 44) == 0)) ||
        (!transferDestinationIsBuffer opcode && (getU32 command.payload (32 + index * 128 + 48) == 0 ||
          getU32 command.payload (32 + index * 128 + 60) == 0)) ||
        getU32 command.payload (32 + index * 128 + 124) != 0)) =
      transferRegionIsAppendable opcode (slot command.regions index) := by
  have region := command.decodeTransferRegion_payload used
  have size : getU64 command.payload (32 + index * 128 + 16) = (slot command.regions index).size :=
    congrArg TransferRegion.size region
  have width : getU32 command.payload (32 + index * 128 + 112) = (slot command.regions index).extent.width :=
    congrArg (·.extent.width) region
  have height : getU32 command.payload (32 + index * 128 + 116) =
      (slot command.regions index).extent.height :=
    congrArg (·.extent.height) region
  have depth : getU32 command.payload (32 + index * 128 + 120) = (slot command.regions index).extent.depth :=
    congrArg (·.extent.depth) region
  have sourceAspect : getU32 command.payload (32 + index * 128 + 32) =
      (slot command.regions index).sourceLayers.aspectMask :=
    congrArg (·.sourceLayers.aspectMask) region
  have sourceCount : getU32 command.payload (32 + index * 128 + 44) =
      (slot command.regions index).sourceLayers.layerCount :=
    congrArg (·.sourceLayers.layerCount) region
  have destinationAspect : getU32 command.payload (32 + index * 128 + 48) =
      (slot command.regions index).destinationLayers.aspectMask :=
    congrArg (·.destinationLayers.aspectMask) region
  have destinationCount : getU32 command.payload (32 + index * 128 + 60) =
      (slot command.regions index).destinationLayers.layerCount :=
    congrArg (·.destinationLayers.layerCount) region
  simp only [size, width, height, depth, sourceAspect, sourceCount, destinationAspect, destinationCount,
    command.getU32_payload_reserved index, transferRegionIsAppendable, transferLayersAreValid, bne,
    Bool.not_and, Bool.not_not, beq_self_eq_true, Bool.not_true, Bool.or_false]

/-- The validator wants the filter of every transfer but a blit to be zero, the
append function does not look at it. -/
theorem validate_payload {opcode : UInt16} (command : TransferCommand)
    (known : transferOpcodeIsValid opcode = true) :
    validateTransfer opcode command.payload =
      (command.isAppendable opcode && !(opcode != Opcode.blitImage2.code && command.filter != 0)) := by
  obtain ⟨source, destination, sourceLayout, destinationLayout, filter, count⟩ := command.payload_header
  simp only [validateTransfer, isAppendable, source, destination, sourceLayout, destinationLayout, filter,
    count, known, all_range_congr fun index used => command.validate_region opcode used]
  rw [Bool.eq_iff_iff]
  simp only [Bool.and_eq_true, Bool.not_eq_true', Bool.or_eq_false_iff, Bool.not_true]
  tauto

theorem payload_length {opcode : UInt16} {command : TransferCommand}
    (appendable : command.isAppendable opcode = true) :
    transferLengthIsValid command.payload (transferPayloadSize command.regionCount.toNat) = true := by
  obtain ⟨_, _, _, _, _, count⟩ := command.payload_header
  simp only [isAppendable, Bool.and_eq_true, Bool.not_eq_true', Bool.or_eq_false_iff, beq_eq_false_iff_ne,
    decide_eq_false_iff_not] at appendable
  obtain ⟨⟨⟨⟨_, positive⟩, large⟩, _⟩, _⟩ := appendable
  have room : ¬transferPayloadSize command.regionCount.toNat < 32 := by
    simp only [transferPayloadSize]
    omega
  simp only [transferLengthIsValid, count, if_neg room, Bool.and_eq_true, bne_iff_ne, ne_eq, beq_iff_eq,
    decide_eq_true_eq]
  exact ⟨⟨positive, UInt32.not_lt.mp large⟩, trivial⟩

theorem read_payload (command : TransferCommand) : read command.payload = command.cleared := by
  obtain ⟨source, destination, sourceLayout, destinationLayout, filter, count⟩ := command.payload_header
  simp only [read, cleared, source, destination, sourceLayout, destinationLayout, filter, count,
    fill_eq_keep _ _ fun index _ used => command.decodeTransferRegion_payload used]

theorem length_eq {source : Buffer} {size : Nat} (length : transferLengthIsValid source size = true) :
    size = 32 + (getU32 source 28).toNat * 128 := by
  simp only [transferLengthIsValid] at length
  split at length
  · exact absurd length (by decide)
  · simp only [Bool.and_eq_true, beq_iff_eq] at length
    exact length.2

theorem payload_read {opcode : UInt16} {source : Buffer} {size : Nat} (ends : EndsBy source size)
    (length : transferLengthIsValid source size = true) (valid : validateTransfer opcode source = true) :
    (read source).payload = source := by
  simp only [validateTransfer, Bool.and_eq_true, Bool.not_eq_true', Bool.or_eq_false_iff,
    decide_eq_false_iff_not, bne_eq_false_iff_eq, List.all_eq_true, List.mem_range] at valid
  obtain ⟨⟨_, large⟩, checked⟩ := valid
  have small := toNat_le_of_not_gt 16 rfl large
  have regions : loop (getU32 source 28).toNat (fun index payload =>
      encodeTransferRegion payload (32 + index * 128) (slot (fill 16 (getU32 source 28).toNat fun index =>
        decodeTransferRegion source (32 + index * 128)) index)) (graft zeroed source 0 32) =
      graft (graft zeroed source 0 32) source 32 ((getU32 source 28).toNat * 128) := by
    apply loop_graft _ _ (show 124 ≤ 128 by omega)
    · intro index inside buffer
      rw [slot_fill _ (by omega) inside, encodeTransferRegion_decode]
    · intro index inside position lower upper
      rw [graft, if_neg (show ¬(0 ≤ position ∧ position < 0 + 32) by omega)]
      exact (getU32_eq_zero_iff _ _).mp (checked index inside).2 position (by omega) (by omega)
  simp only [read, payload, putU64_getU64, putU32_getU32]
  simp (disch := omega) only [graft_fuse]
  rw [regions, graft_fuse _ _ (by omega)]
  exact graft_whole source _ (length_eq length ▸ ends)

end TransferCommand

namespace ImageBarrier2Command

def cleared (command : ImageBarrier2Command) : ImageBarrier2Command :=
  { command with
    memory := keep command.memoryCount.toNat command.memory
    buffers := keep command.bufferCount.toNat command.buffers
    images := keep command.imageCount.toNat command.images }

theorem payload_header (command : ImageBarrier2Command) :
    getU32 command.payload 0 = command.dependencyFlags ∧ getU32 command.payload 4 = command.memoryCount ∧
      getU32 command.payload 8 = command.bufferCount ∧ getU32 command.payload 12 = command.imageCount := by
  simp (disch := omega) only [payload, getU32_elements_apart encodeImageBarrier2_writes,
    getU32_elements_apart encodeBufferBarrier2_writes, getU32_elements_apart encodeMemoryBarrier2_writes,
    getU32_putU32, getU32_putU32_apart, and_self]

theorem decodeMemoryBarrier2_payload (command : ImageBarrier2Command) {index : Nat}
    (used : index < command.memoryCount.toNat) :
    decodeMemoryBarrier2 command.payload (16 + index * 32) = slot command.memory index := by
  simp only [payload]
  rw [(decodeMemoryBarrier2_reads _).apart (elements_within encodeImageBarrier2_writes _ _ _) (by omega),
    (decodeMemoryBarrier2_reads _).apart (elements_within encodeBufferBarrier2_writes _ _ _) (by omega)]
  exact memoryBarrier2Block.get_loop _ 16 _ _ used

theorem decodeBufferBarrier2_payload (command : ImageBarrier2Command) {index : Nat}
    (used : index < command.bufferCount.toNat) :
    decodeBufferBarrier2 command.payload (16 + command.memoryCount.toNat * 32 + index * 64) =
      slot command.buffers index := by
  simp only [payload]
  rw [(decodeBufferBarrier2_reads _).apart (elements_within encodeImageBarrier2_writes _ _ _) (by omega)]
  exact bufferBarrier2Block.get_loop _ _ _ _ used

theorem decodeImageBarrier2_payload (command : ImageBarrier2Command) {index : Nat}
    (used : index < command.imageCount.toNat) :
    decodeImageBarrier2 command.payload
        (16 + command.memoryCount.toNat * 32 + command.bufferCount.toNat * 64 + index * 80) =
      slot command.images index :=
  imageBarrier2Block.get_loop _ _ _ _ used

theorem validateImageRangeWire_payload (command : ImageBarrier2Command) {index : Nat}
    (used : index < command.imageCount.toNat) :
    validateImageRangeWire command.payload
        (16 + command.memoryCount.toNat * 32 + command.bufferCount.toNat * 64 + index * 80 + 56) =
      imageRangeIsValid (slot command.images index).range := by
  apply elements_read encodeImageBarrier2_writes _ _ _ _
    ((validateImageRangeWire_reads _).mono (Nat.le_add_right _ 56) (by omega)) used
  intro buffer
  exact validateImageRangeWire_encode _ _ _

theorem payload_endsBy (command : ImageBarrier2Command) : EndsBy command.payload command.payloadSize := by
  intro index outside
  simp only [payloadSize, barrierPayloadSize] at outside
  simp (disch := omega) only [payload, elements_apart encodeImageBarrier2_writes,
    elements_apart encodeBufferBarrier2_writes, elements_apart encodeMemoryBarrier2_writes, putU32_apart,
    zeroed]

theorem validate_payload (command : ImageBarrier2Command) :
    validateImageBarrier2 command.payload = command.isAppendable := by
  obtain ⟨flags, memory, buffers, images⟩ := command.payload_header
  simp only [validateImageBarrier2, isAppendable, flags, memory, buffers, images]
  congr 1
  · congr 1
    apply all_range_congr
    intro index used
    have barrier := command.decodeBufferBarrier2_payload used
    have buffer : getU64 command.payload (16 + command.memoryCount.toNat * 32 + index * 64 + 40) =
        (slot command.buffers index).bufferId :=
      congrArg BufferBarrier2.bufferId barrier
    have size : getU64 command.payload (16 + command.memoryCount.toNat * 32 + index * 64 + 56) =
        (slot command.buffers index).size :=
      congrArg BufferBarrier2.size barrier
    rw [buffer, size]
  · apply all_range_congr
    intro index used
    have image : getU64 command.payload (16 + command.memoryCount.toNat * 32 +
        command.bufferCount.toNat * 64 + index * 80 + 48) = (slot command.images index).imageId :=
      congrArg ImageBarrier2.imageId (command.decodeImageBarrier2_payload used)
    rw [image, command.validateImageRangeWire_payload used]

theorem isAppendable_counts {command : ImageBarrier2Command} (appendable : command.isAppendable = true) :
    command.memoryCount ≤ 64 ∧ command.bufferCount ≤ 256 ∧ command.imageCount ≤ 2048 := by
  simp only [isAppendable, Bool.and_eq_true, Bool.not_eq_true', Bool.or_eq_false_iff,
    decide_eq_false_iff_not] at appendable
  obtain ⟨⟨⟨⟨⟨_, memory⟩, buffers⟩, images⟩, _⟩, _⟩ := appendable
  exact ⟨UInt32.not_lt.mp memory, UInt32.not_lt.mp buffers, UInt32.not_lt.mp images⟩

theorem payload_length {command : ImageBarrier2Command} (appendable : command.isAppendable = true) :
    imageBarrier2LengthIsValid command.payload command.payloadSize = true := by
  obtain ⟨_, memory, buffers, images⟩ := command.payload_header
  have room : ¬command.payloadSize < 16 := by
    simp only [payloadSize, barrierPayloadSize]
    omega
  simp only [imageBarrier2LengthIsValid, memory, buffers, images, if_neg room, Bool.and_eq_true, beq_iff_eq,
    decide_eq_true_eq]
  exact ⟨⟨⟨(isAppendable_counts appendable).1, (isAppendable_counts appendable).2.1⟩,
    (isAppendable_counts appendable).2.2⟩, rfl⟩

theorem read_payload (command : ImageBarrier2Command) : read command.payload = command.cleared := by
  obtain ⟨flags, memory, buffers, images⟩ := command.payload_header
  simp only [read, cleared, flags, memory, buffers, images,
    fill_eq_keep _ _ fun index _ used => command.decodeMemoryBarrier2_payload used,
    fill_eq_keep _ _ fun index _ used => command.decodeBufferBarrier2_payload used,
    fill_eq_keep _ _ fun index _ used => command.decodeImageBarrier2_payload used]

theorem length_eq {source : Buffer} {size : Nat} (length : imageBarrier2LengthIsValid source size = true) :
    size = 16 + (getU32 source 4).toNat * 32 + (getU32 source 8).toNat * 64 + (getU32 source 12).toNat * 80 := by
  simp only [imageBarrier2LengthIsValid] at length
  split at length
  · exact absurd length (by decide)
  · simp only [Bool.and_eq_true, beq_iff_eq] at length
    exact length.2

theorem payload_read {source : Buffer} {size : Nat} (ends : EndsBy source size)
    (length : imageBarrier2LengthIsValid source size = true) (valid : validateImageBarrier2 source = true) :
    (read source).payload = source := by
  simp only [validateImageBarrier2, Bool.and_eq_true, Bool.not_eq_true', Bool.or_eq_false_iff,
    decide_eq_false_iff_not, List.all_eq_true, List.mem_range, Bool.not_eq_false'] at valid
  obtain ⟨⟨⟨⟨⟨_, manyMemory⟩, manyBuffers⟩, manyImages⟩, _⟩, checked⟩ := valid
  have images : ∀ index, index < (getU32 source 12).toNat → ∀ buffer,
      encodeImageBarrier2 buffer
          (16 + (getU32 source 4).toNat * 32 + (getU32 source 8).toNat * 64 + index * 80)
          (decodeImageBarrier2 source
            (16 + (getU32 source 4).toNat * 32 + (getU32 source 8).toNat * 64 + index * 80)) =
        graft buffer source
          (16 + (getU32 source 4).toNat * 32 + (getU32 source 8).toNat * 64 + index * 80) 80 := by
    intro index used buffer
    exact encodeImageBarrier2_decode _ _ _ (validateImageRangeWire_reserved (checked index used).2)
  simp only [read, payload, putU32_getU32,
    arrayBlock_read encodeMemoryBarrier2 decodeMemoryBarrier2 _ _ _ _ (toNat_le_of_not_gt 64 rfl manyMemory)
      (fun index _ buffer => encodeMemoryBarrier2_decode buffer source _),
    arrayBlock_read encodeBufferBarrier2 decodeBufferBarrier2 _ _ _ _
      (toNat_le_of_not_gt 256 rfl manyBuffers)
      (fun index _ buffer => encodeBufferBarrier2_decode buffer source _),
    arrayBlock_read encodeImageBarrier2 decodeImageBarrier2 _ _ _ _ (toNat_le_of_not_gt 2048 rfl manyImages)
      images]
  simp (disch := omega) only [graft_fuse]
  exact graft_whole source _ (length_eq length ▸ ends)

end ImageBarrier2Command

end VulkanBridge
