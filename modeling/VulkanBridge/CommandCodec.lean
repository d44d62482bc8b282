import VulkanBridge.SizedRecords

/-!
One command as one record: what the append function accepts, the validator
accepts apart from the filter of a transfer, the decoder returns the command with
its idle parts cleared, and an accepted record has one encoding only.
-/

namespace VulkanBridge

open ByteBuffer

namespace Command

/-- The command as a decoder returns it: array slots behind their count and the
parts that a flag switches off are zero. -/
def cleared : Command → Command
  | .beginRendering command => .beginRendering command.cleared
  | .initImageBarrier command => .initImageBarrier command.cleared
  | .imageBarrier2 command => .imageBarrier2 command.cleared
  | .clearColorImageGeneral command => .clearColorImageGeneral command.cleared
  | .bindDescriptorSets command => .bindDescriptorSets command.cleared
  | .pushConstants command => .pushConstants command.cleared
  | .transfer opcode command => .transfer opcode command.cleared
  | .bindVertexBuffers opcode command => .bindVertexBuffers opcode command.cleared
  | .dynamicState command => .dynamicState command.cleared
  | .clearDepthStencilImage command => .clearDepthStencilImage command.cleared
  | .clearAttachments command => .clearAttachments command.cleared
  | .updateBuffer command => .updateBuffer command.cleared
  | command => command

def misfiltered : Command → Bool
  | .transfer opcode command => opcode != Opcode.blitImage2.code && command.filter != 0
  | _ => false

def record (command : Command) : CommandRecord :=
  ⟨command.encoding.opcode, command.encoding.payload, command.encoding.payloadSize⟩

end Command

theorem transferOpcode_cases {opcode : UInt16} (known : transferOpcodeIsValid opcode = true) :
    opcode = Opcode.copyBuffer2.code ∨ opcode = Opcode.copyBufferToImage2.code ∨
      opcode = Opcode.copyImageToBuffer2.code ∨ opcode = Opcode.copyImage2.code ∨
      opcode = Opcode.blitImage2.code ∨ opcode = Opcode.resolveImage2.code := by
  simp only [transferOpcodeIsValid, Opcode.code, Bool.and_eq_true, decide_eq_true_eq,
    UInt16.le_iff_toNat_le] at known
  simp only [Opcode.code, ← UInt16.toNat_inj]
  simp only [UInt16.reduceToNat] at *
  omega

theorem TransferCommand.isAppendable_opcode {opcode : UInt16} {command : TransferCommand}
    (appendable : command.isAppendable opcode = true) : transferOpcodeIsValid opcode = true := by
  simp only [isAppendable, Bool.and_eq_true, Bool.not_eq_true', Bool.or_eq_false_iff,
    Bool.not_eq_false'] at appendable
  exact appendable.1.1.1.1

theorem TransferCommand.isAppendable_count {opcode : UInt16} {command : TransferCommand}
    (appendable : command.isAppendable opcode = true) : command.regionCount.toNat ≤ 16 := by
  simp only [isAppendable, Bool.and_eq_true, Bool.not_eq_true', Bool.or_eq_false_iff,
    decide_eq_false_iff_not] at appendable
  exact toNat_le_of_not_gt 16 rfl appendable.1.1.2

theorem BindVertexBuffersCommand.isAppendable_count {opcode : UInt16} {command : BindVertexBuffersCommand}
    (appendable : command.isAppendable opcode = true) : command.bindingCount.toNat ≤ 16 := by
  simp only [isAppendable, Bool.and_eq_true, Bool.not_eq_true', Bool.or_eq_false_iff,
    decide_eq_false_iff_not] at appendable
  exact toNat_le_of_not_gt 16 rfl appendable.1.1.1.1.2

theorem BindVertexBuffersCommand.isAppendable_opcode {opcode : UInt16} {command : BindVertexBuffersCommand}
    (appendable : command.isAppendable opcode = true) :
    opcode = Opcode.bindVertexBuffers.code ∨ opcode = Opcode.bindVertexBuffers2.code := by
  simp only [isAppendable, Bool.and_eq_true, Bool.not_eq_true', Bool.or_eq_false_iff,
    Bool.and_eq_false_iff, bne_eq_false_iff_eq] at appendable
  exact appendable.1.1.1.1.1.1

theorem BindIndexBufferCommand.isAppendable_opcode {opcode : UInt16} {command : BindIndexBufferCommand}
    (appendable : command.isAppendable opcode = true) :
    opcode = Opcode.bindIndexBuffer.code ∨ opcode = Opcode.bindIndexBuffer2.code := by
  simp only [isAppendable, Bool.not_eq_true', Bool.or_eq_false_iff, Bool.and_eq_false_iff,
    bne_eq_false_iff_eq] at appendable
  exact appendable.1.1.1

theorem DrawIndirectCommand.isAppendable_opcode {opcode : UInt16} {command : DrawIndirectCommand}
    (appendable : command.isAppendable opcode = true) :
    opcode = Opcode.drawIndirect.code ∨ opcode = Opcode.drawIndexedIndirect.code := by
  simp only [isAppendable, Bool.not_eq_true', Bool.or_eq_false_iff, Bool.and_eq_false_iff,
    Bool.not_eq_false', beq_iff_eq, bne_eq_false_iff_eq] at appendable
  exact appendable.1.1.1.symm

theorem DrawIndirectCountCommand.isAppendable_opcode {opcode : UInt16} {command : DrawIndirectCountCommand}
    (appendable : command.isAppendable opcode = true) :
    opcode = Opcode.drawIndirectCount.code ∨ opcode = Opcode.drawIndexedIndirectCount.code := by
  simp only [isAppendable, Bool.not_eq_true', Bool.or_eq_false_iff, Bool.and_eq_false_iff,
    Bool.not_eq_false', beq_iff_eq, bne_eq_false_iff_eq] at appendable
  exact appendable.1.1.1.1.symm

theorem BeginRenderingCommand.isAppendable_count {command : BeginRenderingCommand}
    (appendable : command.isAppendable = true) : command.colorAttachmentCount.toNat ≤ 8 := by
  simp only [isAppendable, Bool.and_eq_true, Bool.not_eq_true', Bool.or_eq_false_iff,
    decide_eq_false_iff_not] at appendable
  exact toNat_le_of_not_gt 8 rfl appendable.1.1.1.1.1.1.2

theorem ClearColorImageGeneralCommand.isAppendable_size (command : ClearColorImageGeneralCommand)
    (appendable : command.isAppendable = true) : 32 + command.rangeCount.toNat * 24 ≤ 128 := by
  simp only [isAppendable, Bool.and_eq_true, Bool.not_eq_true', Bool.or_eq_false_iff,
    decide_eq_false_iff_not] at appendable
  have small := toNat_le_of_not_gt 4 rfl appendable.1.1.2
  omega

theorem PushConstantsCommand.isAppendable_size (command : PushConstantsCommand)
    (appendable : command.isAppendable = true) : 24 + command.size.toNat ≤ 280 := by
  simp only [isAppendable, Bool.not_eq_true', Bool.or_eq_false_iff, decide_eq_false_iff_not] at appendable
  have small := toNat_le_of_not_gt 256 rfl appendable.1.1.1.1.2
  omega

theorem DynamicStateCommand.isAppendable_size (command : DynamicStateCommand)
    (appendable : command.isAppendable = true) : 8 + command.valueCount.toNat * 4 ≤ 40 := by
  simp only [isAppendable, Bool.and_eq_true, Bool.not_eq_true', decide_eq_false_iff_not] at appendable
  have small := toNat_le_of_not_gt 8 rfl appendable.1
  omega

theorem ClearDepthStencilImageCommand.isAppendable_size (command : ClearDepthStencilImageCommand)
    (appendable : command.isAppendable = true) : 24 + command.rangeCount.toNat * 24 ≤ 120 := by
  simp only [isAppendable, Bool.and_eq_true, Bool.not_eq_true', Bool.or_eq_false_iff,
    decide_eq_false_iff_not] at appendable
  have small := toNat_le_of_not_gt 4 rfl appendable.1.1.2
  omega

theorem ClearAttachmentsCommand.isAppendable_counts {command : ClearAttachmentsCommand}
    (appendable : command.isAppendable = true) :
    command.attachmentCount.toNat ≤ 8 ∧ command.rectCount.toNat ≤ 8 := by
  simp only [isAppendable, Bool.and_eq_true, Bool.not_eq_true', Bool.or_eq_false_iff,
    decide_eq_false_iff_not] at appendable
  exact ⟨toNat_le_of_not_gt 8 rfl appendable.1.1.1.1.2, toNat_le_of_not_gt 8 rfl appendable.1.1.2⟩

theorem UpdateBufferCommand.isAppendable_size {command : UpdateBufferCommand}
    (appendable : command.isAppendable = true) : command.dataSize.toNat ≤ 65536 := by
  simp only [isAppendable, Bool.not_eq_true', Bool.or_eq_false_iff, decide_eq_false_iff_not] at appendable
  exact toNat_le_of_not_gt 65536 rfl appendable.1.1.2

namespace Command

theorem encoding_endsBy {command : Command} (appendable : command.encoding.appendable = true) :
    EndsBy command.encoding.payload command.encoding.payloadSize := by
  cases command with
  | beginRendering command => exact command.payload_endsBy (BeginRenderingCommand.isAppendable_count appendable)
  | bindGraphicsPipeline command => exact command.payload_endsBy
  | pushRotation command => exact command.payload_endsBy
  | setViewport command => exact command.payload_endsBy
  | setScissor command => exact command.payload_endsBy
  | draw command => exact command.payload_endsBy
  | endRendering => exact fun _ _ => rfl
  | fillBuffer command => exact command.payload_endsBy
  | bufferHostReadBarrier command => exact command.payload_endsBy
  | vulkanBegin command => exact command.payload_endsBy
  | clearColorImage command => exact command.payload_endsBy
  | initImageBarrier command => exact command.payload_endsBy appendable
  | vulkanEnd => exact fun _ _ => rfl
  | imageBarrier2 command => exact command.payload_endsBy
  | clearColorImageGeneral command => exact command.payload_endsBy.mono (command.isAppendable_size appendable)
  | bindDescriptorSets command =>
      obtain ⟨fewSets, fewOffsets⟩ := BindDescriptorSetsCommand.isAppendable_counts appendable
      exact (command.payload_endsBy fewSets).mono (show _ ≤ 216 by omega)
  | pushConstants command => exact command.payload_endsBy.mono (command.isAppendable_size appendable)
  | transfer opcode command => exact command.payload_endsBy
  | bindVertexBuffers opcode command =>
      exact command.payload_endsBy (BindVertexBuffersCommand.isAppendable_count appendable)
  | bindIndexBuffer opcode command => exact command.payload_endsBy
  | drawIndexed command => exact command.payload_endsBy
  | drawIndirect opcode command => exact command.payload_endsBy
  | drawIndirectCount opcode command => exact command.payload_endsBy
  | dynamicState command => exact command.payload_endsBy.mono (command.isAppendable_size appendable)
  | clearDepthStencilImage command => exact command.payload_endsBy.mono (command.isAppendable_size appendable)
  | clearAttachments command =>
      obtain ⟨fewAttachments, fewRects⟩ := ClearAttachmentsCommand.isAppendable_counts appendable
      exact (command.payload_endsBy fewAttachments).mono (show _ ≤ 392 by omega)
  | updateBuffer command => exact command.payload_endsBy
  | query command => exact command.payload_endsBy

theorem encoding_size {command : Command} (appendable : command.encoding.appendable = true) :
    command.encoding.payloadSize ≤ 182288 := by
  cases command with
  | imageBarrier2 command =>
      obtain ⟨memory, buffers, images⟩ := ImageBarrier2Command.isAppendable_counts appendable
      simp only [encoding, ImageBarrier2Command.payloadSize, barrierPayloadSize]
      simp only [UInt32.le_iff_toNat_le, UInt32.reduceToNat] at memory buffers images
      omega
  | transfer opcode command =>
      have few := TransferCommand.isAppendable_count appendable
      simp only [encoding, transferPayloadSize]
      omega
  | updateBuffer command =>
      have small := UpdateBufferCommand.isAppendable_size appendable
      simp only [encoding]
      omega
  | _ => simp only [encoding, Nat.reduceLeDiff]

theorem payloadLengthIsValid_transfer {opcode : UInt16} {payload : Buffer} {size : Nat}
    (known : transferOpcodeIsValid opcode = true) :
    payloadLengthIsValid opcode payload size = transferLengthIsValid payload size := by
  rcases transferOpcode_cases known with rfl | rfl | rfl | rfl | rfl | rfl
  all_goals simp only [payloadLengthIsValid, Opcode.ofCode_code, known, Bool.not_true, Bool.false_eq_true, if_false]

theorem encoding_length {command : Command} (appendable : command.encoding.appendable = true) :
    payloadLengthIsValid command.encoding.opcode command.encoding.payload command.encoding.payloadSize =
      true := by
  cases command with
  | imageBarrier2 command =>
      simp only [encoding, payloadLengthIsValid, Opcode.ofCode_code]
      exact ImageBarrier2Command.payload_length appendable
  | updateBuffer command =>
      simp only [encoding, payloadLengthIsValid, Opcode.ofCode_code]
      exact UpdateBufferCommand.payload_length appendable
  | transfer opcode command =>
      rw [encoding, payloadLengthIsValid_transfer (TransferCommand.isAppendable_opcode appendable)]
      exact TransferCommand.payload_length appendable
  | bindVertexBuffers opcode command =>
      rcases BindVertexBuffersCommand.isAppendable_opcode appendable with rfl | rfl
      all_goals rfl
  | bindIndexBuffer opcode command =>
      rcases BindIndexBufferCommand.isAppendable_opcode appendable with rfl | rfl
      all_goals rfl
  | drawIndirect opcode command =>
      rcases DrawIndirectCommand.isAppendable_opcode appendable with rfl | rfl
      all_goals rfl
  | drawIndirectCount opcode command =>
      rcases DrawIndirectCountCommand.isAppendable_opcode appendable with rfl | rfl
      all_goals rfl
  | _ => rfl

theorem validatePayload_transfer {opcode : UInt16} (payload : Buffer)
    (known : transferOpcodeIsValid opcode = true) :
    validatePayload opcode payload = validateTransfer opcode payload := by
  rcases transferOpcode_cases known with rfl | rfl | rfl | rfl | rfl | rfl
  all_goals simp only [validatePayload, Opcode.ofCode_code]

theorem encoding_valid {command : Command} (appendable : command.encoding.appendable = true) :
    validatePayload command.encoding.opcode command.encoding.payload = !command.misfiltered := by
  cases command with
  | transfer opcode command =>
      have known := TransferCommand.isAppendable_opcode appendable
      rw [encoding, validatePayload_transfer _ known, command.validate_payload known]
      exact (congrArg (· && _) appendable).trans (Bool.true_and _)
  | bindVertexBuffers opcode command =>
      have known := BindVertexBuffersCommand.isAppendable_opcode appendable
      refine Eq.trans ?_ ((command.validate_payload known).trans appendable)
      rcases known with rfl | rfl
      all_goals simp only [encoding, validatePayload, Opcode.ofCode_code]
  | bindIndexBuffer opcode command =>
      have known := BindIndexBufferCommand.isAppendable_opcode appendable
      refine Eq.trans ?_ ((command.validate_payload opcode known).trans appendable)
      rcases known with rfl | rfl
      all_goals simp only [encoding, validatePayload, Opcode.ofCode_code]
  | drawIndirect opcode command =>
      have known := DrawIndirectCommand.isAppendable_opcode appendable
      refine Eq.trans ?_ ((command.validate_payload opcode known).trans appendable)
      rcases known with rfl | rfl
      all_goals simp only [encoding, validatePayload, Opcode.ofCode_code]
  | drawIndirectCount opcode command =>
      have known := DrawIndirectCountCommand.isAppendable_opcode appendable
      refine Eq.trans ?_ ((command.validate_payload opcode known).trans appendable)
      rcases known with rfl | rfl
      all_goals simp only [encoding, validatePayload, Opcode.ofCode_code]
  | beginRendering command => exact command.validate_payload.trans appendable
  | bindGraphicsPipeline command => exact command.validate_payload.trans appendable
  | pushRotation command => exact command.validate_payload.trans appendable
  | setViewport command => exact command.validate_payload.trans appendable
  | setScissor command => exact command.validate_payload.trans appendable
  | draw command => exact command.validate_payload.trans appendable
  | endRendering => rfl
  | fillBuffer command => exact command.validate_payload.trans appendable
  | bufferHostReadBarrier command => exact command.validate_payload.trans appendable
  | vulkanBegin command => exact command.validate_payload.trans appendable
  | clearColorImage command => exact command.validate_payload.trans appendable
  | initImageBarrier command => exact command.validate_payload.trans appendable
  | vulkanEnd => rfl
  | imageBarrier2 command => exact command.validate_payload.trans appendable
  | clearColorImageGeneral command => exact command.validate_payload.trans appendable
  | bindDescriptorSets command => exact command.validate_payload.trans appendable
  | pushConstants command => exact command.validate_payload.trans appendable
  | drawIndexed command => exact command.validate_payload
  | dynamicState command => exact command.isAppendable_eq.symm.trans appendable
  | clearDepthStencilImage command => exact command.validate_payload.trans appendable
  | clearAttachments command => exact command.validate_payload.trans appendable
  | updateBuffer command => exact command.validate_payload.trans appendable
  | query command => exact command.validate_payload.trans appendable

end Command

section Decoders

variable {α : Type} (read : Buffer → α) (payload : Buffer)

theorem decodeFixed_ok (opcode : Opcode) :
    decodeFixed opcode read ⟨opcode.code, payload, expectedPayloadSize opcode⟩ = .ok (read payload) := by
  simp [decodeFixed]

theorem decodeEither_ok {first second : Opcode} {opcode : UInt16}
    (known : opcode = first.code ∨ opcode = second.code) :
    decodeEither first second read ⟨opcode, payload, expectedPayloadSize first⟩ = .ok (read payload) := by
  rcases known with rfl | rfl
  all_goals simp [decodeEither]

theorem decodeSized_ok {accepts : UInt16 → Bool} {opcode : UInt16} {size : Nat}
    (accepted : accepts opcode = true) (length : payloadLengthIsValid opcode payload size = true) :
    decodeSized accepts read ⟨opcode, payload, size⟩ = .ok (read payload) := by
  simp [decodeSized, accepted, length]

end Decoders

theorem commandDecode_transfer {opcode : UInt16} {payload : Buffer} {size : Nat}
    (known : transferOpcodeIsValid opcode = true) (length : transferLengthIsValid payload size = true) :
    commandDecode ⟨opcode, payload, size⟩ = .ok (.transfer opcode (TransferCommand.read payload)) := by
  have decoded : commandDecodeTransfer ⟨opcode, payload, size⟩ = .ok (TransferCommand.read payload) :=
    decodeSized_ok _ _ known ((Command.payloadLengthIsValid_transfer known).trans length)
  rcases transferOpcode_cases known with rfl | rfl | rfl | rfl | rfl | rfl
  all_goals simp only [commandDecode, Opcode.ofCode_code, decoded, Except.map]

theorem commandDecode_bindVertexBuffers {opcode : UInt16} (payload : Buffer)
    (known : opcode = Opcode.bindVertexBuffers.code ∨ opcode = Opcode.bindVertexBuffers2.code) :
    commandDecode ⟨opcode, payload, 528⟩ =
      .ok (.bindVertexBuffers opcode (BindVertexBuffersCommand.read payload)) := by
  have decoded := decodeEither_ok BindVertexBuffersCommand.read payload known
  rcases known with rfl | rfl
  all_goals
    simp only [commandDecode, Opcode.ofCode_code]
    exact congrArg (Except.map _) decoded

theorem commandDecode_bindIndexBuffer {opcode : UInt16} (payload : Buffer)
    (known : opcode = Opcode.bindIndexBuffer.code ∨ opcode = Opcode.bindIndexBuffer2.code) :
    commandDecode ⟨opcode, payload, 32⟩ =
      .ok (.bindIndexBuffer opcode (BindIndexBufferCommand.read payload)) := by
  have decoded := decodeEither_ok BindIndexBufferCommand.read payload known
  rcases known with rfl | rfl
  all_goals
    simp only [commandDecode, Opcode.ofCode_code]
    exact congrArg (Except.map _) decoded

theorem commandDecode_drawIndirect {opcode : UInt16} (payload : Buffer)
    (known : opcode = Opcode.drawIndirect.code ∨ opcode = Opcode.drawIndexedIndirect.code) :
    commandDecode ⟨opcode, payload, 32⟩ = .ok (.drawIndirect opcode (DrawIndirectCommand.read payload)) := by
  have decoded := decodeEither_ok DrawIndirectCommand.read payload known
  rcases known with rfl | rfl
  all_goals
    simp only [commandDecode, Opcode.ofCode_code]
    exact congrArg (Except.map _) decoded

theorem commandDecode_drawIndirectCount {opcode : UInt16} (payload : Buffer)
    (known : opcode = Opcode.drawIndirectCount.code ∨ opcode = Opcode.drawIndexedIndirectCount.code) :
    commandDecode ⟨opcode, payload, 48⟩ =
      .ok (.drawIndirectCount opcode (DrawIndirectCountCommand.read payload)) := by
  have decoded := decodeEither_ok DrawIndirectCountCommand.read payload known
  rcases known with rfl | rfl
  all_goals
    simp only [commandDecode, Opcode.ofCode_code]
    exact congrArg (Except.map _) decoded

theorem commandDecode_imageBarrier2 {payload : Buffer} {size : Nat}
    (length : imageBarrier2LengthIsValid payload size = true) :
    commandDecode ⟨Opcode.imageBarrier2.code, payload, size⟩ =
      .ok (.imageBarrier2 (ImageBarrier2Command.read payload)) := by
  have decoded : commandDecodeImageBarrier2 ⟨Opcode.imageBarrier2.code, payload, size⟩ =
      .ok (ImageBarrier2Command.read payload) :=
    decodeSized_ok _ _ (beq_self_eq_true _) (by simpa only [payloadLengthIsValid, Opcode.ofCode_code])
  simp only [commandDecode, Opcode.ofCode_code, decoded, Except.map]

theorem commandDecode_updateBuffer {payload : Buffer} {size : Nat}
    (length : updateBufferLengthIsValid payload size = true) :
    commandDecode ⟨Opcode.updateBuffer.code, payload, size⟩ =
      .ok (.updateBuffer (UpdateBufferCommand.read payload)) := by
  have decoded : commandDecodeUpdateBuffer ⟨Opcode.updateBuffer.code, payload, size⟩ =
      .ok (UpdateBufferCommand.read payload) :=
    decodeSized_ok _ _ (beq_self_eq_true _) (by simpa only [payloadLengthIsValid, Opcode.ofCode_code])
  simp only [commandDecode, Opcode.ofCode_code, decoded, Except.map]

theorem commandDecode_dynamicState {payload : Buffer} (valid : validateDynamicState payload = true) :
    commandDecode ⟨Opcode.dynamicState.code, payload, 40⟩ =
      .ok (.dynamicState (DynamicStateCommand.read payload)) := by
  have few : ¬(DynamicStateCommand.read payload).valueCount > 8 := DynamicStateCommand.validate_count valid
  simp only [commandDecode, Opcode.ofCode_code, commandDecodeDynamicState]
  rw [show decodeFixed .dynamicState DynamicStateCommand.read ⟨Opcode.dynamicState.code, payload, 40⟩ =
    .ok (DynamicStateCommand.read payload) from decodeFixed_ok _ _ _]
  simp only [bind, Except.bind, if_neg few, Except.map]

theorem commandDecode_clearDepthStencilImage {payload : Buffer}
    (valid : validateClearDepthStencilImage payload = true) :
    commandDecode ⟨Opcode.clearDepthStencilImage.code, payload, 120⟩ =
      .ok (.clearDepthStencilImage (ClearDepthStencilImageCommand.read payload)) := by
  have few : ¬(ClearDepthStencilImageCommand.read payload).rangeCount > 4 := by
    simp only [validateClearDepthStencilImage, Bool.and_eq_true, Bool.not_eq_true', Bool.or_eq_false_iff,
      decide_eq_false_iff_not] at valid
    exact valid.1.1.2
  simp only [commandDecode, Opcode.ofCode_code, commandDecodeClearDepthStencilImage]
  rw [show decodeFixed .clearDepthStencilImage ClearDepthStencilImageCommand.read
    ⟨Opcode.clearDepthStencilImage.code, payload, 120⟩ =
      .ok (ClearDepthStencilImageCommand.read payload) from decodeFixed_ok _ _ _]
  simp only [bind, Except.bind, if_neg few, Except.map]

theorem commandDecode_clearAttachments {payload : Buffer} (valid : validateClearAttachments payload = true) :
    commandDecode ⟨Opcode.clearAttachments.code, payload, 392⟩ =
      .ok (.clearAttachments (ClearAttachmentsCommand.read payload)) := by
  obtain ⟨fewAttachments, fewRects⟩ := ClearAttachmentsCommand.validate_counts valid
  have few : ¬((ClearAttachmentsCommand.read payload).attachmentCount > 8 ||
      (ClearAttachmentsCommand.read payload).rectCount > 8) = true := by
    simp only [Bool.or_eq_true, decide_eq_true_eq, not_or]
    exact ⟨fewAttachments, fewRects⟩
  simp only [commandDecode, Opcode.ofCode_code, commandDecodeClearAttachments]
  rw [show decodeFixed .clearAttachments ClearAttachmentsCommand.read
    ⟨Opcode.clearAttachments.code, payload, 392⟩ = .ok (ClearAttachmentsCommand.read payload) from
      decodeFixed_ok _ _ _]
  simp only [bind, Except.bind, if_neg few, Except.map]

theorem commandDecode_query {payload : Buffer} (valid : validateQuery payload = true) :
    commandDecode ⟨Opcode.query.code, payload, 40⟩ = .ok (.query (QueryCommand.read payload)) := by
  have accepted : validatePayload Opcode.query.code payload = true := by
    simpa only [validatePayload, Opcode.ofCode_code]
  simp only [commandDecode, Opcode.ofCode_code, commandDecodeQuery]
  rw [show decodeFixed .query QueryCommand.read ⟨Opcode.query.code, payload, 40⟩ =
    .ok (QueryCommand.read payload) from decodeFixed_ok _ _ _]
  simp only [bind, Except.bind, accepted, Bool.not_true, Bool.false_eq_true, if_false, Except.map]

theorem commandDecode_record {command : Command} (appendable : command.encoding.appendable = true) :
    commandDecode command.record = .ok command.cleared := by
  cases command with
  | transfer opcode command =>
      rw [Command.record, Command.cleared, ← command.read_payload]
      exact commandDecode_transfer (TransferCommand.isAppendable_opcode appendable)
        (TransferCommand.payload_length appendable)
  | bindVertexBuffers opcode command =>
      rw [Command.record, Command.cleared,
        ← command.read_payload (BindVertexBuffersCommand.isAppendable_count appendable)]
      exact commandDecode_bindVertexBuffers _ (BindVertexBuffersCommand.isAppendable_opcode appendable)
  | bindIndexBuffer opcode command =>
      exact (commandDecode_bindIndexBuffer _ (BindIndexBufferCommand.isAppendable_opcode appendable)).trans
        (congrArg (Except.ok ∘ Command.bindIndexBuffer opcode) command.read_payload)
  | drawIndirect opcode command =>
      exact (commandDecode_drawIndirect _ (DrawIndirectCommand.isAppendable_opcode appendable)).trans
        (congrArg (Except.ok ∘ Command.drawIndirect opcode) command.read_payload)
  | drawIndirectCount opcode command =>
      exact (commandDecode_drawIndirectCount _ (DrawIndirectCountCommand.isAppendable_opcode appendable)).trans
        (congrArg (Except.ok ∘ Command.drawIndirectCount opcode) command.read_payload)
  | imageBarrier2 command =>
      rw [Command.record, Command.cleared, ← command.read_payload]
      exact commandDecode_imageBarrier2 (ImageBarrier2Command.payload_length appendable)
  | updateBuffer command =>
      rw [Command.record, Command.cleared, ← command.read_payload]
      exact commandDecode_updateBuffer (UpdateBufferCommand.payload_length appendable)
  | dynamicState command =>
      rw [Command.record, Command.cleared, ← command.read_payload]
      exact commandDecode_dynamicState (command.isAppendable_eq.symm.trans appendable)
  | clearDepthStencilImage command =>
      rw [Command.record, Command.cleared, ← command.read_payload]
      exact commandDecode_clearDepthStencilImage (command.validate_payload.trans appendable)
  | clearAttachments command =>
      rw [Command.record, Command.cleared, ← command.read_payload]
      exact commandDecode_clearAttachments (command.validate_payload.trans appendable)
  | query command =>
      exact (commandDecode_query (command.validate_payload.trans appendable)).trans
        (congrArg (Except.ok ∘ Command.query) command.read_payload)
  | endRendering => rfl
  | vulkanEnd => rfl
  | beginRendering command => exact congrArg (Except.ok ∘ Command.beginRendering) command.read_payload
  | initImageBarrier command => exact congrArg (Except.ok ∘ Command.initImageBarrier) command.read_payload
  | clearColorImageGeneral command => exact congrArg (Except.ok ∘ Command.clearColorImageGeneral) command.read_payload
  | bindDescriptorSets command => exact congrArg (Except.ok ∘ Command.bindDescriptorSets) command.read_payload
  | pushConstants command => exact congrArg (Except.ok ∘ Command.pushConstants) command.read_payload
  | bindGraphicsPipeline command => exact congrArg (Except.ok ∘ Command.bindGraphicsPipeline) command.read_payload
  | pushRotation command => exact congrArg (Except.ok ∘ Command.pushRotation) command.read_payload
  | setViewport command => exact congrArg (Except.ok ∘ Command.setViewport) command.read_payload
  | setScissor command => exact congrArg (Except.ok ∘ Command.setScissor) command.read_payload
  | draw command => exact congrArg (Except.ok ∘ Command.draw) command.read_payload
  | fillBuffer command => exact congrArg (Except.ok ∘ Command.fillBuffer) command.read_payload
  | bufferHostReadBarrier command => exact congrArg (Except.ok ∘ Command.bufferHostReadBarrier) command.read_payload
  | vulkanBegin command => exact congrArg (Except.ok ∘ Command.vulkanBegin) command.read_payload
  | clearColorImage command => exact congrArg (Except.ok ∘ Command.clearColorImage) command.read_payload
  | drawIndexed command => exact congrArg (Except.ok ∘ Command.drawIndexed) command.read_payload

def Canonical (record : CommandRecord) : Prop :=
  ∃ command, commandDecode record = .ok command ∧
    command.encoding = ⟨true, record.opcode, record.payload, record.payloadLength⟩

theorem encoding_of_read {α : Type} {isAppendable : α → Bool} {payload : α → Buffer} {read : Buffer → α}
    {validate : Buffer → Bool} {source : Buffer} (opcode : UInt16) (size : Nat)
    (validate_payload : validate (payload (read source)) = isAppendable (read source))
    (payload_read : payload (read source) = source) (valid : validate source = true) :
    (⟨isAppendable (read source), opcode, payload (read source), size⟩ : CommandEncoding) =
      ⟨true, opcode, source, size⟩ := by
  rw [← validate_payload, payload_read, valid]

section Canonical

variable {source : Buffer}

theorem canonical_transfer {opcode : UInt16} {size : Nat} (known : transferOpcodeIsValid opcode = true)
    (ends : EndsBy source size) (length : payloadLengthIsValid opcode source size = true)
    (valid : validatePayload opcode source = true) : Canonical ⟨opcode, source, size⟩ := by
  rw [Command.payloadLengthIsValid_transfer known] at length
  rw [Command.validatePayload_transfer _ known] at valid
  have same := TransferCommand.payload_read ends length valid
  have appendable : (TransferCommand.read source).isAppendable opcode = true := by
    have checked := (TransferCommand.read source).validate_payload known
    rw [same, valid] at checked
    exact ((Bool.and_eq_true _ _).mp checked.symm).1
  refine ⟨_, commandDecode_transfer known length, ?_⟩
  simp only [Command.encoding, same, appendable]
  rw [TransferCommand.length_eq length]
  rfl

theorem canonical_bindVertexBuffers {opcode : UInt16}
    (known : opcode = Opcode.bindVertexBuffers.code ∨ opcode = Opcode.bindVertexBuffers2.code)
    (ends : EndsBy source 528) (valid : validateBindVertexBuffers opcode source = true) :
    Canonical ⟨opcode, source, 528⟩ :=
  ⟨_, commandDecode_bindVertexBuffers source known, encoding_of_read opcode 528
    (BindVertexBuffersCommand.validate_payload _ known) (BindVertexBuffersCommand.payload_read ends valid) valid⟩

theorem canonical_bindIndexBuffer {opcode : UInt16}
    (known : opcode = Opcode.bindIndexBuffer.code ∨ opcode = Opcode.bindIndexBuffer2.code)
    (ends : EndsBy source 32) (valid : validateBindIndexBuffer opcode source = true) :
    Canonical ⟨opcode, source, 32⟩ :=
  ⟨_, commandDecode_bindIndexBuffer source known, encoding_of_read opcode 32
    (BindIndexBufferCommand.validate_payload opcode _ known) (BindIndexBufferCommand.payload_read ends valid)
    valid⟩

theorem canonical_drawIndirect {opcode : UInt16}
    (known : opcode = Opcode.drawIndirect.code ∨ opcode = Opcode.drawIndexedIndirect.code)
    (ends : EndsBy source 32) (valid : validateDrawIndirect opcode source = true) :
    Canonical ⟨opcode, source, 32⟩ :=
  ⟨_, commandDecode_drawIndirect source known, encoding_of_read opcode 32
    (DrawIndirectCommand.validate_payload opcode _ known) (DrawIndirectCommand.payload_read ends valid) valid⟩

theorem canonical_drawIndirectCount {opcode : UInt16}
    (known : opcode = Opcode.drawIndirectCount.code ∨ opcode = Opcode.drawIndexedIndirectCount.code)
    (ends : EndsBy source 48) (valid : validateDrawIndirectCount opcode source = true) :
    Canonical ⟨opcode, source, 48⟩ :=
  ⟨_, commandDecode_drawIndirectCount source known, encoding_of_read opcode 48
    (DrawIndirectCountCommand.validate_payload opcode _ known)
    (DrawIndirectCountCommand.payload_read ends valid) valid⟩

theorem canonical_imageBarrier2 {size : Nat} (ends : EndsBy source size)
    (length : imageBarrier2LengthIsValid source size = true) (valid : validateImageBarrier2 source = true) :
    Canonical ⟨Opcode.imageBarrier2.code, source, size⟩ := by
  refine ⟨_, commandDecode_imageBarrier2 length, ?_⟩
  rw [ImageBarrier2Command.length_eq length] at ends ⊢
  exact encoding_of_read _ _ (ImageBarrier2Command.validate_payload _)
    (ImageBarrier2Command.payload_read ends (ImageBarrier2Command.length_eq length ▸ length) valid) valid

theorem canonical_updateBuffer {size : Nat} (ends : EndsBy source size)
    (length : updateBufferLengthIsValid source size = true) (valid : validateUpdateBuffer source = true) :
    Canonical ⟨Opcode.updateBuffer.code, source, size⟩ := by
  refine ⟨_, commandDecode_updateBuffer length, ?_⟩
  rw [UpdateBufferCommand.length_eq length] at ends ⊢
  exact encoding_of_read _ _ (UpdateBufferCommand.validate_payload _)
    (UpdateBufferCommand.payload_read ends (UpdateBufferCommand.length_eq length ▸ length) valid) valid

theorem canonical_empty {opcode : Opcode} (empty : opcode = .endRendering ∨ opcode = .vulkanEnd)
    (ends : EndsBy source 0) : Canonical ⟨opcode.code, source, 0⟩ := by
  have blank : source = zeroed := funext fun index => ends index (Nat.zero_le index)
  rw [blank]
  rcases empty with rfl | rfl
  · exact ⟨.endRendering, rfl, rfl⟩
  · exact ⟨.vulkanEnd, rfl, rfl⟩

theorem canonical_of_valid {opcode : UInt16} {size : Nat} (ends : EndsBy source size)
    (length : payloadLengthIsValid opcode source size = true)
    (valid : validatePayload opcode source = true) : Canonical ⟨opcode, source, size⟩ := by
  cases known : Opcode.ofCode opcode with
  | none => simp [validatePayload, known] at valid
  | some kind =>
      obtain rfl := Opcode.code_of_ofCode known
      simp only [validatePayload, Opcode.ofCode_code] at valid
      cases kind with
      | copyBuffer2 | copyBufferToImage2 | copyImageToBuffer2 | copyImage2 | blitImage2 | resolveImage2 =>
          exact canonical_transfer (by decide) ends length
            ((Command.validatePayload_transfer _ (by decide)).trans valid)
      | imageBarrier2 => exact canonical_imageBarrier2 ends length valid
      | updateBuffer => exact canonical_updateBuffer ends length valid
      | endRendering =>
          obtain rfl : size = 0 := beq_iff_eq.mp length
          exact canonical_empty (Or.inl rfl) ends
      | vulkanEnd =>
          obtain rfl : size = 0 := beq_iff_eq.mp length
          exact canonical_empty (Or.inr rfl) ends
      | bindVertexBuffers =>
          obtain rfl : size = 528 := beq_iff_eq.mp length
          exact canonical_bindVertexBuffers (Or.inl rfl) ends valid
      | bindVertexBuffers2 =>
          obtain rfl : size = 528 := beq_iff_eq.mp length
          exact canonical_bindVertexBuffers (Or.inr rfl) ends valid
      | bindIndexBuffer =>
          obtain rfl : size = 32 := beq_iff_eq.mp length
          exact canonical_bindIndexBuffer (Or.inl rfl) ends valid
      | bindIndexBuffer2 =>
          obtain rfl : size = 32 := beq_iff_eq.mp length
          exact canonical_bindIndexBuffer (Or.inr rfl) ends valid
      | drawIndirect =>
          obtain rfl : size = 32 := beq_iff_eq.mp length
          exact canonical_drawIndirect (Or.inl rfl) ends valid
      | drawIndexedIndirect =>
          obtain rfl : size = 32 := beq_iff_eq.mp length
          exact canonical_drawIndirect (Or.inr rfl) ends valid
      | drawIndirectCount =>
          obtain rfl : size = 48 := beq_iff_eq.mp length
          exact canonical_drawIndirectCount (Or.inl rfl) ends valid
      | drawIndexedIndirectCount =>
          obtain rfl : size = 48 := beq_iff_eq.mp length
          exact canonical_drawIndirectCount (Or.inr rfl) ends valid
      | beginRendering =>
          obtain rfl : size = 600 := beq_iff_eq.mp length
          exact ⟨_, rfl, encoding_of_read _ 600 (BeginRenderingCommand.validate_payload _)
            (BeginRenderingCommand.payload_read ends valid) valid⟩
      | bindGraphicsPipeline =>
          obtain rfl : size = 16 := beq_iff_eq.mp length
          exact ⟨_, rfl, encoding_of_read _ 16 (BindGraphicsPipelineCommand.validate_payload _)
            (BindGraphicsPipelineCommand.payload_read ends valid) valid⟩
      | setViewport =>
          obtain rfl : size = 24 := beq_iff_eq.mp length
          exact ⟨_, rfl, encoding_of_read _ 24 (SetViewportCommand.validate_payload _)
            (SetViewportCommand.payload_read ends) valid⟩
      | setScissor =>
          obtain rfl : size = 16 := beq_iff_eq.mp length
          exact ⟨_, rfl, encoding_of_read _ 16 (SetScissorCommand.validate_payload _)
            (SetScissorCommand.payload_read ends) valid⟩
      | draw =>
          obtain rfl : size = 16 := beq_iff_eq.mp length
          exact ⟨_, rfl, encoding_of_read _ 16 (DrawCommand.validate_payload _)
            (DrawCommand.payload_read ends) valid⟩
      | fillBuffer =>
          obtain rfl : size = 32 := beq_iff_eq.mp length
          exact ⟨_, rfl, encoding_of_read _ 32 (FillBufferCommand.validate_payload _)
            (FillBufferCommand.payload_read ends valid) valid⟩
      | bufferHostReadBarrier =>
          obtain rfl : size = 24 := beq_iff_eq.mp length
          exact ⟨_, rfl, encoding_of_read _ 24 (BufferHostReadBarrierCommand.validate_payload _)
            (BufferHostReadBarrierCommand.payload_read ends) valid⟩
      | pushRotation =>
          obtain rfl : size = 16 := beq_iff_eq.mp length
          exact ⟨_, rfl, encoding_of_read _ 16 (PushRotationCommand.validate_payload _)
            (PushRotationCommand.payload_read ends) valid⟩
      | clearColorImageGeneral =>
          obtain rfl : size = 128 := beq_iff_eq.mp length
          exact ⟨_, rfl, encoding_of_read _ 128 (ClearColorImageGeneralCommand.validate_payload _)
            (ClearColorImageGeneralCommand.payload_read ends valid) valid⟩
      | bindDescriptorSets =>
          obtain rfl : size = 216 := beq_iff_eq.mp length
          exact ⟨_, rfl, encoding_of_read _ 216 (BindDescriptorSetsCommand.validate_payload _)
            (BindDescriptorSetsCommand.payload_read ends valid) valid⟩
      | pushConstants =>
          obtain rfl : size = 280 := beq_iff_eq.mp length
          exact ⟨_, rfl, encoding_of_read _ 280 (PushConstantsCommand.validate_payload _)
            (PushConstantsCommand.payload_read ends valid) valid⟩
      | vulkanBegin =>
          obtain rfl : size = 8 := beq_iff_eq.mp length
          exact ⟨_, rfl, encoding_of_read _ 8 (VulkanBeginCommand.validate_payload _)
            (VulkanBeginCommand.payload_read ends valid) valid⟩
      | clearColorImage =>
          obtain rfl : size = 16 := beq_iff_eq.mp length
          exact ⟨_, rfl, encoding_of_read _ 16 (ClearColorImageCommand.validate_payload _)
            (ClearColorImageCommand.payload_read ends valid) valid⟩
      | initImageBarrier =>
          obtain rfl : size = 40 := beq_iff_eq.mp length
          exact ⟨_, rfl, encoding_of_read _ 40 (InitImageBarrierCommand.validate_payload _)
            (InitImageBarrierCommand.payload_read ends valid) valid⟩
      | drawIndexed =>
          obtain rfl : size = 24 := beq_iff_eq.mp length
          refine ⟨.drawIndexed (DrawIndexedCommand.read source), rfl, ?_⟩
          rw [Command.encoding, DrawIndexedCommand.payload_read ends valid]
      | dynamicState =>
          obtain rfl : size = 40 := beq_iff_eq.mp length
          exact ⟨_, commandDecode_dynamicState valid, encoding_of_read _ 40
            (DynamicStateCommand.isAppendable_eq _).symm (DynamicStateCommand.payload_read ends valid) valid⟩
      | clearDepthStencilImage =>
          obtain rfl : size = 120 := beq_iff_eq.mp length
          exact ⟨_, commandDecode_clearDepthStencilImage valid, encoding_of_read _ 120
            (ClearDepthStencilImageCommand.validate_payload _)
            (ClearDepthStencilImageCommand.payload_read ends valid) valid⟩
      | clearAttachments =>
          obtain rfl : size = 392 := beq_iff_eq.mp length
          exact ⟨_, commandDecode_clearAttachments valid, encoding_of_read _ 392
            (ClearAttachmentsCommand.validate_payload _) (ClearAttachmentsCommand.payload_read ends valid) valid⟩
      | query =>
          obtain rfl : size = 40 := beq_iff_eq.mp length
          exact ⟨_, commandDecode_query valid, encoding_of_read _ 40
            (QueryCommand.validate_payload _) (QueryCommand.payload_read ends valid) valid⟩

end Canonical

end VulkanBridge
