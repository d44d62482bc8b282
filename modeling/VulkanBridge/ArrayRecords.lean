import VulkanBridge.FixedRecords

/-!
The records with arrays: slots behind the count are zero in the payload, so the
decoder returns the command with those slots cleared.
-/

namespace VulkanBridge

open ByteBuffer

namespace InitImageBarrierCommand

def cleared (command : InitImageBarrierCommand) : InitImageBarrierCommand :=
  { command with imageIds := keep command.imageCount.toNat command.imageIds }

theorem getU32_payload_zero (command : InitImageBarrierCommand) :
    getU32 command.payload 0 = command.imageCount := by
  simp (disch := omega) only [payload, getU32_arrayU64_apart, getU32_putU32]

theorem getU64_payload_used (command : InitImageBarrierCommand) {index : Nat}
    (used : index < command.imageCount.toNat) :
    getU64 command.payload (8 + index * 8) = slot command.imageIds index :=
  getU64_arrayU64 _ _ 8 _ used

theorem getU64_payload_idle (command : InitImageBarrierCommand) {index : Nat}
    (idle : command.imageCount.toNat ≤ index) : getU64 command.payload (8 + index * 8) = 0 := by
  simp (disch := omega) only [payload, getU64_arrayU64_apart, getU64_putU32_apart, getU64_zeroed]

theorem validate_payload (command : InitImageBarrierCommand) :
    validateInitImageBarrier command.payload = command.isAppendable := by
  have reserved : getU32 command.payload 4 = 0 := by
    simp (disch := omega) only [payload, getU32_arrayU64_apart, getU32_putU32_apart, getU32_zeroed]
  simp only [validateInitImageBarrier, isAppendable, getU32_payload_zero, reserved, bne_self_eq_false,
    Bool.or_false]
  by_cases large : command.imageCount > 4
  · simp [large]
  · congr 1
    apply all_range_used (toNat_le_of_not_gt 4 rfl large)
    · intro index used
      rw [if_neg (by omega), getU64_payload_used command used]
      congr 1
      apply all_range_congr
      intro earlier before
      rw [getU64_payload_used command (by omega), bne_comm]
    · intro index idle _
      rw [if_pos idle, getU64_payload_idle command idle]
      rfl

theorem read_payload (command : InitImageBarrierCommand) : read command.payload = command.cleared := by
  simp only [read, cleared, getU32_payload_zero]
  congr 1
  apply fill_eq_keep
  intro index _ used
  exact getU64_payload_used command used

theorem payload_endsBy (command : InitImageBarrierCommand) (appendable : command.isAppendable = true) :
    EndsBy command.payload 40 := by
  have small : command.imageCount.toNat ≤ 4 := by
    simp only [isAppendable, Bool.and_eq_true, Bool.not_eq_true', Bool.or_eq_false_iff,
      decide_eq_false_iff_not] at appendable
    exact toNat_le_of_not_gt 4 rfl appendable.1.2
  intro index outside
  simp (disch := omega) only [payload, arrayU64_apart, putU32_apart, zeroed]

theorem payload_read {source : Buffer} (ends : EndsBy source 40)
    (valid : validateInitImageBarrier source = true) : (read source).payload = source := by
  simp only [validateInitImageBarrier, Bool.and_eq_true, Bool.not_eq_true', Bool.or_eq_false_iff,
    decide_eq_false_iff_not, bne_eq_false_iff_eq, List.all_eq_true, List.mem_range] at valid
  obtain ⟨⟨⟨_, large⟩, reserved⟩, checked⟩ := valid
  have small := toNat_le_of_not_gt 4 rfl large
  simp only [read, payload, putU32_getU32, arrayU64_read _ _ _ small]
  rw [graft_extend zeroed source 0 4 4 fun index lower upper =>
    (getU32_eq_zero_iff source 4).mp reserved index (by omega) (by omega), graft_fuse _ _ (by omega)]
  apply graft_array_whole 8 8 _ 4 small ends
  intro element idle inside
  have zero := checked element inside
  rw [if_pos idle, beq_iff_eq] at zero
  exact (getU64_eq_zero_iff _ _).mp zero

end InitImageBarrierCommand

namespace ClearColorImageGeneralCommand

def cleared (command : ClearColorImageGeneralCommand) : ClearColorImageGeneralCommand :=
  { command with ranges := keep command.rangeCount.toNat command.ranges }

theorem payload_header (command : ClearColorImageGeneralCommand) :
    getU64 command.payload 0 = command.imageId ∧ getU32 command.payload 8 = command.imageLayout ∧
      getU32 command.payload 12 = command.rangeCount := by
  simp (disch := omega) only [payload, getU64_elements_apart encodeImageRange_writes,
    getU32_elements_apart encodeImageRange_writes, getU64_arrayU32_apart, getU32_arrayU32_apart,
    getU32_putU32, getU32_putU32_apart, getU64_putU64, getU64_putU32_apart, and_self]

theorem getU32_payload_color (command : ClearColorImageGeneralCommand) {index : Nat} (bound : index < 4) :
    getU32 command.payload (16 + index * 4) = slot command.colorWords index := by
  simp (disch := omega) only [payload, getU32_elements_apart encodeImageRange_writes]
  exact getU32_arrayU32 _ 4 16 _ bound

theorem decodeImageRange_payload (command : ClearColorImageGeneralCommand) {index : Nat}
    (used : index < command.rangeCount.toNat) :
    decodeImageRange command.payload (32 + index * 24) = slot command.ranges index :=
  imageRangeBlock.get_loop _ 32 _ _ used

theorem validateImageRangeWire_payload (command : ClearColorImageGeneralCommand) {index : Nat}
    (used : index < command.rangeCount.toNat) :
    validateImageRangeWire command.payload (32 + index * 24) = imageRangeIsValid (slot command.ranges index) :=
  elements_read encodeImageRange_writes _ _ 32 _ (validateImageRangeWire_reads _) used fun _ =>
    validateImageRangeWire_encode _ _ _

theorem payload_endsBy (command : ClearColorImageGeneralCommand) :
    EndsBy command.payload (32 + command.rangeCount.toNat * 24) := by
  intro index outside
  simp (disch := omega) only [payload, elements_apart encodeImageRange_writes, arrayU32_apart,
    putU32_apart, putU64_apart, zeroed]

theorem validate_payload (command : ClearColorImageGeneralCommand) :
    validateClearColorImageGeneral command.payload = command.isAppendable := by
  obtain ⟨image, layout, count⟩ := command.payload_header
  rw [Bool.eq_iff_iff]
  simp only [validateClearColorImageGeneral, isAppendable, image, layout, count]
  by_cases large : command.rangeCount > 4
  · simp [large]
  · rw [all_range_used (toNat_le_of_not_gt 4 rfl large)
      (fun index used => (if_pos used).trans (command.validateImageRangeWire_payload used))]
    · simp
      tauto
    · intro index idle _
      rw [if_neg (by omega), imageRangeWireIsZero_iff]
      exact fun position lower _ => command.payload_endsBy position (by omega)

theorem read_payload (command : ClearColorImageGeneralCommand) : read command.payload = command.cleared := by
  obtain ⟨image, layout, count⟩ := command.payload_header
  simp only [read, cleared, image, layout, count,
    fill_eq_self _ _ fun index bound => command.getU32_payload_color bound,
    fill_eq_keep _ _ fun index _ used => command.decodeImageRange_payload used]

theorem payload_read {source : Buffer} (ends : EndsBy source 128)
    (valid : validateClearColorImageGeneral source = true) : (read source).payload = source := by
  simp only [validateClearColorImageGeneral, Bool.and_eq_true, Bool.not_eq_true', Bool.or_eq_false_iff,
    decide_eq_false_iff_not, List.all_eq_true, List.mem_range] at valid
  obtain ⟨⟨_, large⟩, checked⟩ := valid
  have small := toNat_le_of_not_gt 4 rfl large
  have ranges : ∀ index, index < (getU32 source 12).toNat → ∀ buffer,
      encodeImageRange buffer (32 + index * 24) (decodeImageRange source (32 + index * 24)) =
        graft buffer source (32 + index * 24) 24 := by
    intro index used buffer
    have wire := checked index (by omega)
    rw [if_pos used] at wire
    exact encodeImageRange_decode _ _ _ (validateImageRangeWire_reserved wire)
  simp only [read, payload, putU64_getU64, putU32_getU32, arrayU32_read _ _ _ (Nat.le_refl 4),
    arrayBlock_read encodeImageRange decodeImageRange _ _ _ _ small ranges]
  simp (disch := omega) only [graft_fuse]
  apply graft_array_whole 32 24 _ 4 small ends
  intro element idle inside
  have zero := checked element inside
  rw [if_neg (by omega)] at zero
  exact (imageRangeWireIsZero_iff _ _).mp zero

end ClearColorImageGeneralCommand

namespace ClearDepthStencilImageCommand

def cleared (command : ClearDepthStencilImageCommand) : ClearDepthStencilImageCommand :=
  { command with ranges := keep command.rangeCount.toNat command.ranges }

theorem payload_header (command : ClearDepthStencilImageCommand) :
    getU64 command.payload 0 = command.imageId ∧ getU32 command.payload 8 = command.imageLayout ∧
      getU32 command.payload 12 = command.rangeCount ∧ getU32 command.payload 16 = command.depthWord ∧
      getU32 command.payload 20 = command.stencil := by
  simp (disch := omega) only [payload, getU64_elements_apart encodeImageRange_writes,
    getU32_elements_apart encodeImageRange_writes, getU32_putU32, getU32_putU32_apart, getU64_putU64,
    getU64_putU32_apart, and_self]

theorem decodeImageRange_payload (command : ClearDepthStencilImageCommand) {index : Nat}
    (used : index < command.rangeCount.toNat) :
    decodeImageRange command.payload (24 + index * 24) = slot command.ranges index :=
  imageRangeBlock.get_loop _ 24 _ _ used

theorem validateImageRangeWire_payload (command : ClearDepthStencilImageCommand) {index : Nat}
    (used : index < command.rangeCount.toNat) :
    validateImageRangeWire command.payload (24 + index * 24) = imageRangeIsValid (slot command.ranges index) :=
  elements_read encodeImageRange_writes _ _ 24 _ (validateImageRangeWire_reads _) used fun _ =>
    validateImageRangeWire_encode _ _ _

theorem payload_endsBy (command : ClearDepthStencilImageCommand) :
    EndsBy command.payload (24 + command.rangeCount.toNat * 24) := by
  intro index outside
  simp (disch := omega) only [payload, elements_apart encodeImageRange_writes, putU32_apart, putU64_apart,
    zeroed]

theorem validate_payload (command : ClearDepthStencilImageCommand) :
    validateClearDepthStencilImage command.payload = command.isAppendable := by
  obtain ⟨image, layout, count, depth, _⟩ := command.payload_header
  simp only [validateClearDepthStencilImage, isAppendable, image, layout, count, depth]
  by_cases large : command.rangeCount > 4
  · simp [large]
  · congr 1
    apply all_range_used (toNat_le_of_not_gt 4 rfl large)
    · intro index used
      have aspect : getU32 command.payload (24 + index * 24) = (slot command.ranges index).aspectMask :=
        congrArg ImageSubresourceRange.aspectMask (command.decodeImageRange_payload used)
      rw [if_pos used, command.validateImageRangeWire_payload used, aspect]
    · intro index idle _
      rw [if_neg (by omega), imageRangeWireIsZero_iff]
      exact fun position lower _ => command.payload_endsBy position (by omega)

theorem read_payload (command : ClearDepthStencilImageCommand) : read command.payload = command.cleared := by
  obtain ⟨image, layout, count, depth, stencil⟩ := command.payload_header
  simp only [read, cleared, image, layout, count, depth, stencil,
    fill_eq_keep _ _ fun index _ used => command.decodeImageRange_payload used]

theorem payload_read {source : Buffer} (ends : EndsBy source 120)
    (valid : validateClearDepthStencilImage source = true) : (read source).payload = source := by
  simp only [validateClearDepthStencilImage, Bool.and_eq_true, Bool.not_eq_true', Bool.or_eq_false_iff,
    decide_eq_false_iff_not, List.all_eq_true, List.mem_range] at valid
  obtain ⟨⟨⟨_, large⟩, _⟩, checked⟩ := valid
  have small := toNat_le_of_not_gt 4 rfl large
  have ranges : ∀ index, index < (getU32 source 12).toNat → ∀ buffer,
      encodeImageRange buffer (24 + index * 24) (decodeImageRange source (24 + index * 24)) =
        graft buffer source (24 + index * 24) 24 := by
    intro index used buffer
    have wire := checked index (by omega)
    rw [if_pos used] at wire
    simp only [Bool.not_eq_true', Bool.or_eq_false_iff, Bool.not_eq_false'] at wire
    exact encodeImageRange_decode _ _ _ (validateImageRangeWire_reserved wire.1)
  simp only [read, payload, putU64_getU64, putU32_getU32,
    arrayBlock_read encodeImageRange decodeImageRange _ _ _ _ small ranges]
  simp (disch := omega) only [graft_fuse]
  apply graft_array_whole 24 24 _ 4 small ends
  intro element idle inside
  have zero := checked element inside
  rw [if_neg (by omega)] at zero
  exact (imageRangeWireIsZero_iff _ _).mp zero

end ClearDepthStencilImageCommand

namespace BindDescriptorSetsCommand

def cleared (command : BindDescriptorSetsCommand) : BindDescriptorSetsCommand :=
  { command with
    descriptorSetIds := keep command.descriptorSetCount.toNat command.descriptorSetIds
    dynamicOffsets := keep command.dynamicOffsetCount.toNat command.dynamicOffsets }

theorem isAppendable_counts {command : BindDescriptorSetsCommand}
    (appendable : command.isAppendable = true) :
    command.descriptorSetCount.toNat ≤ 8 ∧ command.dynamicOffsetCount.toNat ≤ 32 := by
  simp only [isAppendable, Bool.and_eq_true, Bool.not_eq_true', Bool.or_eq_false_iff,
    decide_eq_false_iff_not] at appendable
  exact ⟨toNat_le_of_not_gt 8 rfl appendable.1.1.2, toNat_le_of_not_gt 32 rfl appendable.1.2⟩

theorem payload_header (command : BindDescriptorSetsCommand) :
    getU64 command.payload 0 = command.pipelineLayoutId ∧
      getU32 command.payload 8 = command.pipelineBindPoint ∧ getU32 command.payload 12 = command.firstSet ∧
      getU32 command.payload 16 = command.descriptorSetCount ∧
      getU32 command.payload 20 = command.dynamicOffsetCount := by
  simp (disch := omega) only [payload, getU64_arrayU32_apart, getU32_arrayU32_apart,
    getU64_arrayU64_apart, getU32_arrayU64_apart, getU32_putU32, getU32_putU32_apart, getU64_putU64,
    getU64_putU32_apart, and_self]

theorem getU64_payload_set (command : BindDescriptorSetsCommand) {index : Nat}
    (used : index < command.descriptorSetCount.toNat) (inside : index < 8) :
    getU64 command.payload (24 + index * 8) = slot command.descriptorSetIds index := by
  simp (disch := omega) only [payload, getU64_arrayU32_apart]
  exact getU64_arrayU64 _ _ 24 _ used

theorem getU64_payload_idle (command : BindDescriptorSetsCommand) {index : Nat}
    (idle : command.descriptorSetCount.toNat ≤ index) (inside : index < 8) :
    getU64 command.payload (24 + index * 8) = 0 := by
  simp (disch := omega) only [payload, getU64_arrayU32_apart, getU64_arrayU64_apart,
    getU64_putU32_apart, getU64_putU64_apart, getU64_zeroed]

theorem payload_endsBy (command : BindDescriptorSetsCommand)
    (fewSets : command.descriptorSetCount.toNat ≤ 8) :
    EndsBy command.payload (24 + 8 * 8 + command.dynamicOffsetCount.toNat * 4) := by
  intro index outside
  simp (disch := omega) only [payload, arrayU32_apart, arrayU64_apart, putU32_apart, putU64_apart, zeroed]

theorem getU32_payload_dynamic (command : BindDescriptorSetsCommand) {index : Nat}
    (used : index < command.dynamicOffsetCount.toNat) :
    getU32 command.payload (24 + 8 * 8 + index * 4) = slot command.dynamicOffsets index :=
  getU32_arrayU32 _ _ (24 + 8 * 8) _ used

theorem validate_payload (command : BindDescriptorSetsCommand) :
    validateBindDescriptorSets command.payload = command.isAppendable := by
  obtain ⟨layout, bindPoint, _, sets, dynamic⟩ := command.payload_header
  simp only [validateBindDescriptorSets, isAppendable, layout, bindPoint, sets, dynamic]
  by_cases large : command.descriptorSetCount > 8
  · simp [large]
  have fewSets := toNat_le_of_not_gt 8 rfl large
  have offsets : (List.range 32).all (fun index => decide (index < command.dynamicOffsetCount.toNat) ||
      getU32 command.payload (24 + 8 * 8 + index * 4) == 0) = true := by
    simp only [List.all_eq_true, Bool.or_eq_true, decide_eq_true_eq, beq_iff_eq]
    intro index _
    by_cases used : index < command.dynamicOffsetCount.toNat
    · exact Or.inl used
    · exact Or.inr ((command.payload_endsBy fewSets).getU32_zero _ (by omega))
  rw [offsets, Bool.and_true]
  congr 1
  apply all_range_used fewSets
  · intro index used
    rw [if_pos used, command.getU64_payload_set used (by omega)]
  · intro index idle inside
    rw [if_neg (by omega), command.getU64_payload_idle idle inside]
    rfl

theorem read_payload (command : BindDescriptorSetsCommand) : read command.payload = command.cleared := by
  obtain ⟨layout, bindPoint, first, sets, dynamic⟩ := command.payload_header
  simp only [read, cleared, layout, bindPoint, first, sets, dynamic,
    fill_eq_keep _ _ fun index inside used => command.getU64_payload_set used inside,
    fill_eq_keep _ _ fun index _ used => command.getU32_payload_dynamic used]

theorem validate_counts {source : Buffer} (valid : validateBindDescriptorSets source = true) :
    (getU32 source 16).toNat ≤ 8 ∧ (getU32 source 20).toNat ≤ 32 := by
  simp only [validateBindDescriptorSets, Bool.and_eq_true, Bool.not_eq_true', Bool.or_eq_false_iff,
    decide_eq_false_iff_not] at valid
  exact ⟨toNat_le_of_not_gt 8 rfl valid.1.1.1.2, toNat_le_of_not_gt 32 rfl valid.1.1.2⟩

theorem payload_read {source : Buffer} (ends : EndsBy source 216)
    (valid : validateBindDescriptorSets source = true) : (read source).payload = source := by
  obtain ⟨fewSets, fewOffsets⟩ := validate_counts valid
  simp only [validateBindDescriptorSets, Bool.and_eq_true, List.all_eq_true, List.mem_range,
    Bool.or_eq_true, decide_eq_true_eq, beq_iff_eq] at valid
  obtain ⟨⟨_, setsChecked⟩, offsetsChecked⟩ := valid
  have idleSets : ∀ index, 24 + (getU32 source 16).toNat * 8 ≤ index → index < 24 + 8 * 8 →
      source index = 0 := by
    apply blank_blocks
    intro element idle inside
    have zero := setsChecked element inside
    rw [if_neg (by omega), beq_iff_eq] at zero
    exact (getU64_eq_zero_iff _ _).mp zero
  simp only [read, payload, putU64_getU64, putU32_getU32, arrayU64_read _ _ _ fewSets,
    arrayU32_read _ _ _ fewOffsets]
  simp (disch := omega) only [graft_fuse]
  rw [graft_extend zeroed source 0 _ ((8 - (getU32 source 16).toNat) * 8) fun index lower upper =>
    idleSets index (by omega) (by omega), graft_fuse _ _ (by omega),
    show 8 + 4 + 4 + 4 + 4 + (getU32 source 16).toNat * 8 + (8 - (getU32 source 16).toNat) * 8 = 88 by omega]
  apply graft_array_whole 88 4 _ 32 fewOffsets ends
  intro element idle inside
  rcases offsetsChecked element inside with used | zero
  · omega
  · exact (getU32_eq_zero_iff _ _).mp zero

end BindDescriptorSetsCommand

namespace PushConstantsCommand

def cleared (command : PushConstantsCommand) : PushConstantsCommand :=
  { command with data := keep command.size.toNat command.data }

theorem payload_header (command : PushConstantsCommand) :
    getU64 command.payload 0 = command.pipelineLayoutId ∧ getU32 command.payload 8 = command.stageFlags ∧
      getU32 command.payload 12 = command.offset ∧ getU32 command.payload 16 = command.size ∧
      getU32 command.payload 20 = 0 := by
  simp (disch := omega) only [payload, getU64_copyInto_apart, getU32_copyInto_apart, getU32_putU32,
    getU32_putU32_apart, getU32_putU64_apart, getU64_putU64, getU64_putU32_apart, getU32_zeroed, and_self]

theorem payload_data (command : PushConstantsCommand) {index : Nat} (used : index < command.size.toNat) :
    command.payload (24 + index) = slot command.data index :=
  copyInto_inside _ _ 24 used

theorem payload_endsBy (command : PushConstantsCommand) :
    EndsBy command.payload (24 + command.size.toNat) := by
  intro index outside
  simp (disch := omega) only [payload, copyInto_apart, putU32_apart, putU64_apart, zeroed]

theorem validate_payload (command : PushConstantsCommand) :
    validatePushConstants command.payload = command.isAppendable := by
  obtain ⟨layout, stages, offset, size, reserved⟩ := command.payload_header
  have idle : (List.range 256).all (fun index =>
      decide (index < command.size.toNat) || command.payload (24 + index) == 0) = true := by
    simp only [List.all_eq_true, Bool.or_eq_true, decide_eq_true_eq, beq_iff_eq]
    intro index _
    by_cases used : index < command.size.toNat
    · exact Or.inl used
    · exact Or.inr (command.payload_endsBy _ (by omega))
  rw [Bool.eq_iff_iff]
  simp only [validatePushConstants, isAppendable, layout, stages, offset, size, reserved, idle,
    bne_self_eq_false, Bool.or_false, Bool.and_true, Bool.not_eq_true', Bool.or_eq_false_iff]
  tauto

theorem read_payload (command : PushConstantsCommand) : read command.payload = command.cleared := by
  obtain ⟨layout, stages, offset, size, _⟩ := command.payload_header
  simp only [read, cleared, layout, stages, offset, size,
    fill_eq_keep _ _ fun index _ used => command.payload_data used]

theorem payload_read {source : Buffer} (ends : EndsBy source 280)
    (valid : validatePushConstants source = true) : (read source).payload = source := by
  simp only [validatePushConstants, Bool.and_eq_true, Bool.not_eq_true', Bool.or_eq_false_iff,
    decide_eq_false_iff_not, bne_eq_false_iff_eq, List.all_eq_true, List.mem_range, Bool.or_eq_true,
    decide_eq_true_eq, beq_iff_eq] at valid
  obtain ⟨⟨⟨⟨⟨⟨_, large⟩, _⟩, _⟩, _⟩, reserved⟩, checked⟩ := valid
  have small := toNat_le_of_not_gt 256 rfl large
  simp only [read, payload, putU64_getU64, putU32_getU32, arrayBytes_read _ _ _ small]
  simp (disch := omega) only [graft_fuse]
  rw [graft_extend zeroed source 0 _ 4 fun index lower upper =>
    (getU32_eq_zero_iff source 20).mp reserved index (by omega) (by omega), graft_fuse _ _ (by omega),
    ← Nat.mul_one (getU32 source 16).toNat]
  apply graft_array_whole 24 1 _ 256 small ends
  intro element idle inside index lower upper
  rcases checked element inside with used | zero
  · omega
  · rwa [show index = 24 + element by omega]

end PushConstantsCommand

namespace DynamicStateCommand

def cleared (command : DynamicStateCommand) : DynamicStateCommand :=
  { command with values := keep command.valueCount.toNat command.values }

theorem payload_header (command : DynamicStateCommand) :
    getU32 command.payload 0 = command.kind ∧ getU32 command.payload 4 = command.valueCount := by
  simp (disch := omega) only [payload, getU32_arrayU32_apart, getU32_putU32, getU32_putU32_apart, and_self]

theorem getU32_payload_used (command : DynamicStateCommand) {index : Nat}
    (used : index < command.valueCount.toNat) :
    getU32 command.payload (8 + index * 4) = slot command.values index :=
  getU32_arrayU32 _ _ 8 _ used

theorem payload_endsBy (command : DynamicStateCommand) :
    EndsBy command.payload (8 + command.valueCount.toNat * 4) := by
  intro index outside
  simp (disch := omega) only [payload, arrayU32_apart, putU32_apart, zeroed]

theorem read_payload (command : DynamicStateCommand) : read command.payload = command.cleared := by
  obtain ⟨kind, count⟩ := command.payload_header
  simp only [read, cleared, kind, count,
    fill_eq_keep _ _ fun index _ used => command.getU32_payload_used used]

theorem expectedCount_le (kind : DynamicStateKind) : ¬kind.expectedCount > 8 := by
  cases kind <;> decide

theorem validate_count {source : Buffer} (valid : validateDynamicState source = true) :
    ¬getU32 source 4 > 8 := by
  simp only [validateDynamicState] at valid
  cases known : DynamicStateKind.ofCode (getU32 source 0) with
  | none => simp [known] at valid
  | some kind =>
      simp only [known, Bool.and_eq_true, beq_iff_eq] at valid
      rw [valid.1.1]
      exact expectedCount_le kind

theorem validate_idle {source : Buffer} (valid : validateDynamicState source = true) {index : Nat}
    (idle : (getU32 source 4).toNat ≤ index) (inside : index < 8) : getU32 source (8 + index * 4) = 0 := by
  simp only [validateDynamicState] at valid
  cases known : DynamicStateKind.ofCode (getU32 source 0) with
  | none => simp [known] at valid
  | some kind =>
      simp only [known, Bool.and_eq_true, List.all_eq_true, List.mem_range, Bool.or_eq_true,
        decide_eq_true_eq, beq_iff_eq] at valid
      rcases valid.1.2 index inside with used | zero
      · omega
      · exact zero

theorem isAppendable_eq (command : DynamicStateCommand) :
    command.isAppendable = validateDynamicState command.payload := by
  have dispatch : validatePayload Opcode.dynamicState.code command.payload =
      validateDynamicState command.payload := by
    simp only [validatePayload, Opcode.ofCode_code]
  cases valid : validateDynamicState command.payload with
  | false => simp only [isAppendable, dispatch, valid, Bool.and_false]
  | true =>
      have few := validate_count valid
      rw [command.payload_header.2] at few
      simp [isAppendable, dispatch, valid, few]

theorem payload_read {source : Buffer} (ends : EndsBy source 40)
    (valid : validateDynamicState source = true) : (read source).payload = source := by
  have small := toNat_le_of_not_gt 8 rfl (validate_count valid)
  simp only [read, payload, putU32_getU32, arrayU32_read _ _ _ small]
  simp (disch := omega) only [graft_fuse]
  apply graft_array_whole 8 4 _ 8 small ends
  intro element idle inside
  exact (getU32_eq_zero_iff _ _).mp (validate_idle valid idle inside)

end DynamicStateCommand

namespace ClearAttachmentsCommand

def cleared (command : ClearAttachmentsCommand) : ClearAttachmentsCommand :=
  { command with
    attachments := keep command.attachmentCount.toNat command.attachments
    rects := keep command.rectCount.toNat command.rects }

theorem payload_header (command : ClearAttachmentsCommand) :
    getU32 command.payload 0 = command.attachmentCount ∧
      getU32 command.payload 4 = command.rectCount := by
  simp (disch := omega) only [payload, getU32_elements_apart encodeClearRect_writes,
    getU32_elements_apart encodeClearAttachment_writes, getU32_putU32, getU32_putU32_apart, and_self]

theorem decodeClearAttachment_payload (command : ClearAttachmentsCommand) {index : Nat}
    (used : index < command.attachmentCount.toNat) (inside : index < 8) :
    decodeClearAttachment command.payload (8 + index * 24) = slot command.attachments index := by
  rw [payload, (decodeClearAttachment_reads (8 + index * 24)).apart
    (elements_within encodeClearRect_writes command.rectCount.toNat (8 + 8 * 24) _) (by omega)]
  exact clearAttachmentBlock.get_loop _ 8 _ _ used

theorem decodeClearRect_payload (command : ClearAttachmentsCommand) {index : Nat}
    (used : index < command.rectCount.toNat) :
    decodeClearRect command.payload (8 + 8 * 24 + index * 24) = slot command.rects index :=
  clearRectBlock.get_loop _ (8 + 8 * 24) _ _ used

theorem payload_idle (command : ClearAttachmentsCommand) {index : Nat}
    (lower : 8 + command.attachmentCount.toNat * 24 ≤ index) (upper : index < 8 + 8 * 24) :
    command.payload index = 0 := by
  simp (disch := omega) only [payload, elements_apart encodeClearRect_writes,
    elements_apart encodeClearAttachment_writes, putU32_apart, zeroed]

theorem payload_endsBy (command : ClearAttachmentsCommand) (few : command.attachmentCount.toNat ≤ 8) :
    EndsBy command.payload (8 + 8 * 24 + command.rectCount.toNat * 24) := by
  intro index outside
  simp (disch := omega) only [payload, elements_apart encodeClearRect_writes,
    elements_apart encodeClearAttachment_writes, putU32_apart, zeroed]

theorem validate_payload (command : ClearAttachmentsCommand) :
    validateClearAttachments command.payload = command.isAppendable := by
  obtain ⟨attachments, rects⟩ := command.payload_header
  simp only [validateClearAttachments, isAppendable, attachments, rects]
  by_cases manyAttachments : command.attachmentCount > 8
  · simp [manyAttachments]
  by_cases manyRects : command.rectCount > 8
  · simp [manyRects]
  have fewAttachments := toNat_le_of_not_gt 8 rfl manyAttachments
  have fewRects := toNat_le_of_not_gt 8 rfl manyRects
  congr 1
  · congr 1
    apply all_range_used fewAttachments
    · intro index used
      have aspect : getU32 command.payload (8 + index * 24) = (slot command.attachments index).aspectMask :=
        congrArg ClearAttachment.aspectMask (command.decodeClearAttachment_payload used (by omega))
      rw [if_pos used, aspect]
    · intro index idle inside
      rw [if_neg (by omega), bytesAreZero_iff]
      exact fun position lower upper => command.payload_idle (by omega) (by omega)
  · apply all_range_used fewRects
    · intro index used
      have rect := command.decodeClearRect_payload used
      have width : getU32 command.payload (8 + 8 * 24 + index * 24 + 8) = (slot command.rects index).width :=
        congrArg ClearRect.width rect
      have height : getU32 command.payload (8 + 8 * 24 + index * 24 + 12) = (slot command.rects index).height :=
        congrArg ClearRect.height rect
      have layers : getU32 command.payload (8 + 8 * 24 + index * 24 + 20) =
          (slot command.rects index).layerCount :=
        congrArg ClearRect.layerCount rect
      rw [if_pos used, width, height, layers]
    · intro index idle inside
      rw [if_neg (by omega), bytesAreZero_iff]
      exact fun position lower upper => command.payload_endsBy fewAttachments position (by omega)

theorem read_payload (command : ClearAttachmentsCommand) : read command.payload = command.cleared := by
  obtain ⟨attachments, rects⟩ := command.payload_header
  simp only [read, cleared, attachments, rects,
    fill_eq_keep _ _ fun index inside used => command.decodeClearAttachment_payload used inside,
    fill_eq_keep _ _ fun index _ used => command.decodeClearRect_payload used]

theorem validate_counts {source : Buffer} (valid : validateClearAttachments source = true) :
    ¬getU32 source 0 > 8 ∧ ¬getU32 source 4 > 8 := by
  simp only [validateClearAttachments, Bool.and_eq_true, Bool.not_eq_true', Bool.or_eq_false_iff,
    decide_eq_false_iff_not] at valid
  exact ⟨valid.1.1.1.1.2, valid.1.1.2⟩

theorem payload_read {source : Buffer} (ends : EndsBy source 392)
    (valid : validateClearAttachments source = true) : (read source).payload = source := by
  obtain ⟨manyAttachments, manyRects⟩ := validate_counts valid
  have fewAttachments := toNat_le_of_not_gt 8 rfl manyAttachments
  have fewRects := toNat_le_of_not_gt 8 rfl manyRects
  simp only [validateClearAttachments, Bool.and_eq_true, List.all_eq_true, List.mem_range] at valid
  obtain ⟨⟨_, attachmentsChecked⟩, rectsChecked⟩ := valid
  have idleAttachments : ∀ index, 8 + (getU32 source 0).toNat * 24 ≤ index → index < 8 + 8 * 24 →
      source index = 0 := by
    apply blank_blocks
    intro element idle inside
    have zero := attachmentsChecked element inside
    rw [if_neg (by omega)] at zero
    exact (bytesAreZero_iff _ _ _).mp zero
  simp only [read, payload, putU32_getU32,
    arrayBlock_read encodeClearAttachment decodeClearAttachment _ _ _ _ fewAttachments
      (fun index _ buffer => encodeClearAttachment_decode buffer source _),
    arrayBlock_read encodeClearRect decodeClearRect _ _ _ _ fewRects
      (fun index _ buffer => encodeClearRect_decode buffer source _)]
  simp (disch := omega) only [graft_fuse]
  rw [graft_extend zeroed source 0 _ ((8 - (getU32 source 0).toNat) * 24) fun index lower upper =>
    idleAttachments index (by omega) (by omega), graft_fuse _ _ (by omega),
    show 4 + 4 + (getU32 source 0).toNat * 24 + (8 - (getU32 source 0).toNat) * 24 = 200 by omega]
  apply graft_array_whole 200 24 _ 8 fewRects ends
  intro element idle inside
  have zero := rectsChecked element inside
  rw [if_neg (by omega)] at zero
  exact (bytesAreZero_iff _ _ _).mp zero

end ClearAttachmentsCommand

end VulkanBridge
