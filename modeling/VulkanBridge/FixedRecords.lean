import VulkanBridge.CommandBlocks

/-!
The records without arrays. For each: the validator accepts a payload the
append function builds exactly when the append function admits the command, the
decoder returns the command, and a validated payload is the encoding of what
the decoder reads from it.
-/

namespace VulkanBridge

open ByteBuffer

namespace BindGraphicsPipelineCommand

theorem validate_payload (command : BindGraphicsPipelineCommand) :
    validateBindGraphicsPipeline command.payload = command.isAppendable := by
  simp [validateBindGraphicsPipeline, payload, isAppendable]

theorem read_payload (command : BindGraphicsPipelineCommand) : read command.payload = command := by
  simp [read, payload]

theorem payload_endsBy (command : BindGraphicsPipelineCommand) : EndsBy command.payload 16 := by
  intro index outside
  simp (disch := omega) only [payload, putU32_apart, putU64_apart, zeroed]

theorem payload_read {source : Buffer} (ends : EndsBy source 16)
    (valid : validateBindGraphicsPipeline source = true) : (read source).payload = source := by
  simp only [validateBindGraphicsPipeline, Bool.not_eq_true', Bool.or_eq_false_iff,
    bne_eq_false_iff_eq] at valid
  simp only [read, payload, putU64_getU64, putU32_blank _ valid.1.2, putU32_blank _ valid.2]
  simp (disch := omega) only [graft_fuse]
  exact graft_whole source 16 ends

end BindGraphicsPipelineCommand

namespace PushRotationCommand

theorem validate_payload (command : PushRotationCommand) :
    validatePushRotation command.payload = command.isAppendable := by
  rw [Bool.eq_iff_iff]
  simp [validatePushRotation, payload, isAppendable]
  tauto

theorem read_payload (command : PushRotationCommand) : read command.payload = command := by
  simp [read, payload]

theorem payload_endsBy (command : PushRotationCommand) : EndsBy command.payload 16 := by
  intro index outside
  simp (disch := omega) only [payload, putU32_apart, putU64_apart, zeroed]

theorem payload_read {source : Buffer} (ends : EndsBy source 16) : (read source).payload = source := by
  simp only [read, payload, putU64_getU64, putU32_getU32]
  simp (disch := omega) only [graft_fuse]
  exact graft_whole source 16 ends

end PushRotationCommand

namespace SetViewportCommand

theorem payload_eq (command : SetViewportCommand) : command.payload =
    putU32 (putU32 (putU32 (putU32 (putU32 (putU32 zeroed 0 command.x) 4 command.y) 8 command.width)
      12 command.height) 16 command.minimumDepth) 20 command.maximumDepth := by
  simp only [payload, loop, values, List.getD_cons_zero, List.getD_cons_succ, Nat.reduceMul]

theorem validate_payload (command : SetViewportCommand) :
    validateSetViewport command.payload = command.isAppendable := by
  simp [validateSetViewport, payload_eq, isAppendable, values, List.range_succ]

theorem read_payload (command : SetViewportCommand) : read command.payload = command := by
  simp [read, payload_eq]

theorem payload_endsBy (command : SetViewportCommand) : EndsBy command.payload 24 := by
  intro index outside
  simp (disch := omega) only [payload_eq, putU32_apart, zeroed]

theorem payload_read {source : Buffer} (ends : EndsBy source 24) : (read source).payload = source := by
  simp only [payload_eq, read, putU32_getU32]
  simp (disch := omega) only [graft_fuse]
  exact graft_whole source 24 ends

end SetViewportCommand

namespace SetScissorCommand

theorem validate_payload (command : SetScissorCommand) :
    validateSetScissor command.payload = command.isAppendable := by
  simp [validateSetScissor, payload, isAppendable]

theorem read_payload (command : SetScissorCommand) : read command.payload = command := by
  simp [read, payload]

theorem payload_endsBy (command : SetScissorCommand) : EndsBy command.payload 16 := by
  intro index outside
  simp (disch := omega) only [payload, putU32_apart, zeroed]

theorem payload_read {source : Buffer} (ends : EndsBy source 16) : (read source).payload = source := by
  simp only [payload, read, putU32_getI32, putU32_getU32]
  simp (disch := omega) only [graft_fuse]
  exact graft_whole source 16 ends

end SetScissorCommand

namespace DrawCommand

theorem validate_payload (command : DrawCommand) :
    validateDraw command.payload = command.isAppendable := by
  simp [validateDraw, payload, isAppendable]

theorem read_payload (command : DrawCommand) : read command.payload = command := by
  simp [read, payload]

theorem payload_endsBy (command : DrawCommand) : EndsBy command.payload 16 := by
  intro index outside
  simp (disch := omega) only [payload, putU32_apart, zeroed]

theorem payload_read {source : Buffer} (ends : EndsBy source 16) : (read source).payload = source := by
  simp only [payload, read, putU32_getU32]
  simp (disch := omega) only [graft_fuse]
  exact graft_whole source 16 ends

end DrawCommand

namespace FillBufferCommand

theorem validate_payload (command : FillBufferCommand) :
    validateFillBuffer command.payload = command.isAppendable := by
  rw [Bool.eq_iff_iff]
  simp [validateFillBuffer, payload, isAppendable]
  tauto

theorem read_payload (command : FillBufferCommand) : read command.payload = command := by
  simp [read, payload]

theorem payload_endsBy (command : FillBufferCommand) : EndsBy command.payload 32 := by
  intro index outside
  simp (disch := omega) only [payload, putU32_apart, putU64_apart, zeroed]

theorem payload_read {source : Buffer} (ends : EndsBy source 32)
    (valid : validateFillBuffer source = true) : (read source).payload = source := by
  have reserved : getU32 source 28 = 0 := by
    simp only [validateFillBuffer, Bool.not_eq_true', Bool.or_eq_false_iff, bne_eq_false_iff_eq] at valid
    exact valid.2
  simp only [payload, read, putU64_getU64, putU32_getU32, putU32_blank _ reserved]
  simp (disch := omega) only [graft_fuse]
  exact graft_whole source 32 ends

end FillBufferCommand

namespace BufferHostReadBarrierCommand

theorem validate_payload (command : BufferHostReadBarrierCommand) :
    validateBufferHostReadBarrier command.payload = command.isAppendable := by
  simp [validateBufferHostReadBarrier, payload, isAppendable, Bool.and_comm]

theorem read_payload (command : BufferHostReadBarrierCommand) : read command.payload = command := by
  simp [read, payload]

theorem payload_endsBy (command : BufferHostReadBarrierCommand) : EndsBy command.payload 24 := by
  intro index outside
  simp (disch := omega) only [payload, putU64_apart, zeroed]

theorem payload_read {source : Buffer} (ends : EndsBy source 24) : (read source).payload = source := by
  simp only [payload, read, putU64_getU64]
  simp (disch := omega) only [graft_fuse]
  exact graft_whole source 24 ends

end BufferHostReadBarrierCommand

namespace VulkanBeginCommand

theorem validate_payload (command : VulkanBeginCommand) :
    validateVulkanBegin command.payload = command.isAppendable := by
  simp [validateVulkanBegin, payload, isAppendable, bne]

theorem read_payload (command : VulkanBeginCommand) : read command.payload = command := by
  simp [read, payload]

theorem payload_endsBy (command : VulkanBeginCommand) : EndsBy command.payload 8 := by
  intro index outside
  simp (disch := omega) only [payload, putU32_apart, zeroed]

theorem payload_read {source : Buffer} (ends : EndsBy source 8)
    (valid : validateVulkanBegin source = true) : (read source).payload = source := by
  have reserved : getU32 source 4 = 0 := by
    simp only [validateVulkanBegin, Bool.not_eq_true', Bool.or_eq_false_iff, bne_eq_false_iff_eq] at valid
    exact valid.2
  simp only [payload, read, putU32_getU32, putU32_blank _ reserved]
  simp (disch := omega) only [graft_fuse]
  exact graft_whole source 8 ends

end VulkanBeginCommand

namespace ClearColorImageCommand

theorem validate_payload (command : ClearColorImageCommand) :
    validateClearColorImage command.payload = command.isAppendable := by
  simp [validateClearColorImage, payload, isAppendable]

theorem read_payload (command : ClearColorImageCommand) : read command.payload = command := by
  simp [read, payload]

theorem payload_endsBy (command : ClearColorImageCommand) : EndsBy command.payload 16 := by
  intro index outside
  simp (disch := omega) only [payload, putU64_apart, zeroed]

theorem payload_read {source : Buffer} (ends : EndsBy source 16)
    (valid : validateClearColorImage source = true) : (read source).payload = source := by
  have reserved : getU64 source 8 = 0 := by
    simp only [validateClearColorImage, Bool.not_eq_true', Bool.or_eq_false_iff,
      bne_eq_false_iff_eq] at valid
    exact valid.2
  simp only [payload, read, putU64_getU64]
  rw [← reserved, putU64_getU64]
  simp (disch := omega) only [graft_fuse]
  exact graft_whole source 16 ends

end ClearColorImageCommand

namespace BindIndexBufferCommand

theorem validate_payload (opcode : UInt16) (command : BindIndexBufferCommand)
    (known : opcode = Opcode.bindIndexBuffer.code ∨ opcode = Opcode.bindIndexBuffer2.code) :
    validateBindIndexBuffer opcode command.payload = command.isAppendable opcode := by
  rw [Bool.eq_iff_iff]
  rcases known with rfl | rfl
  all_goals
    simp [validateBindIndexBuffer, payload, isAppendable]
    tauto

theorem read_payload (command : BindIndexBufferCommand) : read command.payload = command := by
  simp [read, payload]

theorem payload_endsBy (command : BindIndexBufferCommand) : EndsBy command.payload 32 := by
  intro index outside
  simp (disch := omega) only [payload, putU64_apart, putU32_apart, zeroed]

theorem payload_read {opcode : UInt16} {source : Buffer} (ends : EndsBy source 32)
    (valid : validateBindIndexBuffer opcode source = true) : (read source).payload = source := by
  have reserved : getU32 source 28 = 0 := by
    simp only [validateBindIndexBuffer, Bool.not_eq_true', Bool.or_eq_false_iff,
      bne_eq_false_iff_eq] at valid
    exact valid.2
  simp only [payload, read, putU64_getU64, putU32_getU32]
  simp (disch := omega) only [graft_fuse]
  rw [graft_extend zeroed source 0 _ 4 fun index lower upper =>
    (getU32_eq_zero_iff source 28).mp reserved index (by omega) (by omega)]
  exact graft_whole source 32 ends

end BindIndexBufferCommand

namespace DrawIndexedCommand

theorem validate_payload (command : DrawIndexedCommand) : validateDrawIndexed command.payload = true := by
  simp [validateDrawIndexed, payload]

theorem read_payload (command : DrawIndexedCommand) : read command.payload = command := by
  simp [read, payload]

theorem payload_endsBy (command : DrawIndexedCommand) : EndsBy command.payload 24 := by
  intro index outside
  simp (disch := omega) only [payload, putU32_apart, zeroed]

theorem payload_read {source : Buffer} (ends : EndsBy source 24)
    (valid : validateDrawIndexed source = true) : (read source).payload = source := by
  have reserved : getU32 source 20 = 0 := by
    simpa [validateDrawIndexed] using valid
  simp only [payload, read, putU32_getI32, putU32_getU32]
  simp (disch := omega) only [graft_fuse]
  rw [graft_extend zeroed source 0 _ 4 fun index lower upper =>
    (getU32_eq_zero_iff source 20).mp reserved index (by omega) (by omega)]
  exact graft_whole source 24 ends

end DrawIndexedCommand

namespace DrawIndirectCommand

theorem validate_payload (opcode : UInt16) (command : DrawIndirectCommand)
    (known : opcode = Opcode.drawIndirect.code ∨ opcode = Opcode.drawIndexedIndirect.code) :
    validateDrawIndirect opcode command.payload = command.isAppendable opcode := by
  rcases known with rfl | rfl
  all_goals simp [validateDrawIndirect, payload, isAppendable, Opcode.code]

theorem read_payload (command : DrawIndirectCommand) : read command.payload = command := by
  simp [read, payload]

theorem payload_endsBy (command : DrawIndirectCommand) : EndsBy command.payload 32 := by
  intro index outside
  simp (disch := omega) only [payload, putU64_apart, putU32_apart, zeroed]

theorem payload_read {opcode : UInt16} {source : Buffer} (ends : EndsBy source 32)
    (valid : validateDrawIndirect opcode source = true) : (read source).payload = source := by
  have reserved : getU64 source 24 = 0 := by
    simp only [validateDrawIndirect, Bool.not_eq_true', Bool.or_eq_false_iff, bne_eq_false_iff_eq] at valid
    exact valid.2
  simp only [payload, read, putU64_getU64, putU32_getU32]
  simp (disch := omega) only [graft_fuse]
  rw [graft_extend zeroed source 0 _ 8 fun index lower upper =>
    (getU64_eq_zero_iff source 24).mp reserved index (by omega) (by omega)]
  exact graft_whole source 32 ends

end DrawIndirectCommand

namespace DrawIndirectCountCommand

theorem validate_payload (opcode : UInt16) (command : DrawIndirectCountCommand)
    (known : opcode = Opcode.drawIndirectCount.code ∨ opcode = Opcode.drawIndexedIndirectCount.code) :
    validateDrawIndirectCount opcode command.payload = command.isAppendable opcode := by
  rcases known with rfl | rfl
  all_goals simp [validateDrawIndirectCount, payload, isAppendable, Opcode.code]

theorem read_payload (command : DrawIndirectCountCommand) : read command.payload = command := by
  simp [read, payload]

theorem payload_endsBy (command : DrawIndirectCountCommand) : EndsBy command.payload 48 := by
  intro index outside
  simp (disch := omega) only [payload, putU64_apart, putU32_apart, zeroed]

theorem payload_read {opcode : UInt16} {source : Buffer} (ends : EndsBy source 48)
    (valid : validateDrawIndirectCount opcode source = true) : (read source).payload = source := by
  have reserved : getU64 source 40 = 0 := by
    simp only [validateDrawIndirectCount, Bool.not_eq_true', Bool.or_eq_false_iff,
      bne_eq_false_iff_eq] at valid
    exact valid.2
  simp only [payload, read, putU64_getU64, putU32_getU32]
  simp (disch := omega) only [graft_fuse]
  rw [graft_extend zeroed source 0 _ 8 fun index lower upper =>
    (getU64_eq_zero_iff source 40).mp reserved index (by omega) (by omega)]
  exact graft_whole source 48 ends

end DrawIndirectCountCommand

namespace QueryCommand

theorem validate_payload (command : QueryCommand) :
    validateQuery command.payload = command.isAppendable := by
  simp only [validateQuery, isAppendable]
  have kind : getU32 command.payload 32 = command.kind := by simp [payload]
  rw [kind]
  cases QueryKind.ofCode command.kind with
  | none => simp
  | some known => cases known <;> simp [payload, bne]

theorem read_payload (command : QueryCommand) : read command.payload = command := by
  simp [read, payload]

theorem payload_endsBy (command : QueryCommand) : EndsBy command.payload 40 := by
  intro index outside
  simp (disch := omega) only [payload, putU64_apart, putU32_apart, zeroed]

theorem payload_read {source : Buffer} (ends : EndsBy source 40)
    (valid : validateQuery source = true) : (read source).payload = source := by
  have reserved : getU32 source 36 = 0 := by
    simp only [validateQuery, Bool.and_eq_true, Bool.not_eq_true', Bool.or_eq_false_iff,
      bne_eq_false_iff_eq] at valid
    exact valid.1.2
  simp only [payload, read, putU64_getU64, putU32_getU32]
  simp (disch := omega) only [graft_fuse]
  rw [graft_extend zeroed source 0 _ 4 fun index lower upper =>
    (getU32_eq_zero_iff source 36).mp reserved index (by omega) (by omega)]
  exact graft_whole source 40 ends

end QueryCommand

end VulkanBridge
