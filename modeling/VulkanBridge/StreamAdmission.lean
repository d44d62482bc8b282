import VulkanBridge.CheckedLoops
import VulkanBridge.CommandMeaning
import VulkanBridge.DecodedRecords

/-!
The stream validator accepts a decoded record exactly where the service admits
its command.
-/

namespace VulkanBridge

open CheckedLoops

namespace ServiceContext

variable {context : ServiceContext} {deviceId : UInt64} {instanceId deviceBits : UInt64}

theorem owns_plain {type : ObjectType} (plain : type.container = none) (id : UInt64) :
    context.Owns deviceId type id ↔ ∃ bits, context.objects.lookup id type = .ok (deviceId, bits) := by
  rw [Owns, plain]

theorem childMatchesDevice_iff (live : context.objects.lookup deviceId .device = .ok (instanceId, deviceBits))
    (type : ObjectType) (plain : type.container = none) (id : UInt64) :
    context.childMatchesDevice id type deviceId = .ok () ↔ context.Owns deviceId type id := by
  rw [owns_plain plain]
  simp only [childMatchesDevice, resolveDeviceChild, bind_eq_ok, pure_eq_ok, Prod.exists]
  constructor
  · rintro ⟨child, ⟨parent, bits, found, _, _, _, rfl⟩, matched⟩
    by_cases same : parent = deviceId
    · exact ⟨bits, by rw [found, same]⟩
    · simp [same] at matched
  · rintro ⟨bits, found⟩
    exact ⟨_, ⟨deviceId, bits, found, instanceId, deviceBits, live, rfl⟩, by simp⟩

theorem forall_nullable {type : ObjectType} {id : UInt64} {property : ObjectType × UInt64 → Prop} :
    (∀ handle ∈ nullable type id, property handle) ↔ (id ≠ 0 → property (type, id)) := by
  by_cases null : id = 0
  · simp [nullable, null]
  · simp [nullable, null]

theorem imageViewMatchesDevice_iff (id : UInt64) :
    context.imageViewMatchesDevice id deviceId = .ok () ↔
      ∀ handle ∈ nullable .imageView id, context.Owns deviceId handle.1 handle.2 := by
  rw [forall_nullable]
  simp only [imageViewMatchesDevice, descriptorTemplateResolveImageView, bind_eq_ok, pure_eq_ok, and_true]
  by_cases null : id = 0
  · simp [null]
  · simp only [null, ↓reduceIte, bind_eq_ok, Prod.exists, ne_eq, not_false_eq_true, forall_const, Owns,
      ObjectType.container]
    constructor
    · rintro ⟨view, image, bits, found, parent, imageBits, parentFound, matched⟩
      by_cases same : parent = deviceId
      · exact ⟨image, bits, imageBits, found, by rw [parentFound, same]⟩
      · simp [same] at matched
    · rintro ⟨image, bits, imageBits, found, parentFound⟩
      exact ⟨bits, image, bits, found, deviceId, imageBits, parentFound, by simp⟩

theorem optionalBufferMatchesDevice_iff
    (live : context.objects.lookup deviceId .device = .ok (instanceId, deviceBits)) (id : UInt64) :
    context.optionalBufferMatchesDevice id deviceId = .ok () ↔
      ∀ handle ∈ nullable .buffer id, context.Owns deviceId handle.1 handle.2 := by
  rw [forall_nullable, optionalBufferMatchesDevice]
  by_cases null : id = 0
  · simp [null]
  · simp only [ne_eq, null, not_false_eq_true, ↓reduceIte, forall_const]
    exact childMatchesDevice_iff live .buffer rfl id

theorem descriptorSetMatchesDevice_iff (id : UInt64) :
    context.descriptorSetMatchesDevice id deviceId = .ok () ↔ context.Owns deviceId .descriptorSet id := by
  simp only [descriptorSetMatchesDevice, bind_eq_ok, Prod.exists, Owns, ObjectType.container]
  constructor
  · rintro ⟨pool, bits, found, parent, poolBits, parentFound, matched⟩
    by_cases same : parent = deviceId
    · exact ⟨pool, bits, poolBits, found, by rw [parentFound, same]⟩
    · simp [same] at matched
  · rintro ⟨pool, bits, poolBits, found, parentFound⟩
    exact ⟨pool, bits, found, deviceId, poolBits, parentFound, by simp⟩

theorem forall_views {attachment : RenderingAttachment} {property : ObjectType × UInt64 → Prop} :
    (∀ handle ∈ attachment.views, property handle) ↔
      (∀ handle ∈ nullable .imageView attachment.imageViewId, property handle) ∧
        ∀ handle ∈ nullable .imageView attachment.resolveImageViewId, property handle := by
  rw [RenderingAttachment.views, List.forall_mem_append]

theorem colorAttachmentMatchesDevice_iff (attachment : RenderingAttachment) :
    context.colorAttachmentMatchesDevice attachment deviceId = .ok () ↔
      ∀ handle ∈ attachment.views, context.Owns deviceId handle.1 handle.2 := by
  simp only [forall_views, colorAttachmentMatchesDevice, guarded_eq_ok, when_eq_ok,
    imageViewMatchesDevice_iff, forall_nullable]
  exact and_congr ⟨fun owned present => owned present present, fun owned present _ => owned present⟩
    ⟨fun owned present => owned present present, fun owned present _ => owned present⟩

theorem depthAttachmentMatchesDevice_iff (attachment : RenderingAttachment) :
    context.depthAttachmentMatchesDevice attachment deviceId = .ok () ↔
      ∀ handle ∈ attachment.views, context.Owns deviceId handle.1 handle.2 := by
  simp only [forall_views, depthAttachmentMatchesDevice, unit_bind_eq_ok, when_eq_ok,
    imageViewMatchesDevice_iff, forall_nullable]
  exact and_congr_right fun _ =>
    ⟨fun owned present => owned present present, fun owned present _ => owned present⟩

variable {record : CommandRecord} {rendering after : Bool}

theorem validateBeginRenderingRecord_iff {command : BeginRenderingCommand}
    (decoded : commandDecodeBeginRendering record = .ok command) :
    context.validateBeginRenderingRecord record deviceId rendering = .ok after ↔
      rendering = false ∧ (∀ handle ∈ (Command.beginRendering command).handles,
        context.Owns deviceId handle.1 handle.2) ∧ true = after := by
  simp only [validateBeginRenderingRecord, decoded, ok_bind, guarded_eq_ok, unit_bind_eq_ok, List.forM_eq_forM,
    forM_eq_ok, colorAttachmentMatchesDevice_iff, depthAttachmentMatchesDevice_iff, pure_eq_ok, reduceCtorEq, imp_false,
    Bool.not_eq_true, Command.handles, BeginRenderingCommand.attachments, List.forall_mem_flatMap,
    List.forall_mem_append, and_assoc]
  refine and_congr_right fun _ => and_congr_right fun _ => and_congr ?_ (and_congr ?_ Iff.rfl)
  · by_cases present : command.hasDepthAttachment = 0 <;> simp [present]
  · by_cases present : command.hasStencilAttachment = 0 <;> simp [present]

theorem validatePipelineBarrierRecord_iff
    (live : context.objects.lookup deviceId .device = .ok (instanceId, deviceBits))
    {command : ImageBarrier2Command} (decoded : commandDecodeImageBarrier2 record = .ok command) :
    context.validatePipelineBarrierRecord record deviceId = .ok () ↔
      (Command.imageBarrier2 command).isSupported = true ∧
        ∀ handle ∈ (Command.imageBarrier2 command).handles, context.Owns deviceId handle.1 handle.2 := by
  simp only [validatePipelineBarrierRecord, decoded, ok_bind, guarded_eq_ok, unit_bind_eq_ok, List.forM_eq_forM,
    forM_eq_ok, refused_eq_ok, childMatchesDevice_iff live .buffer rfl,
    childMatchesDevice_iff live .image rfl, reduceCtorEq, imp_false, Command.isSupported,
    Command.handles, Bool.and_eq_true, List.all_eq_true, List.forall_mem_append, List.forall_mem_map,
    bne_iff_ne, ne_eq, beq_iff_eq, Bool.not_eq_eq_eq_not, Bool.not_true, Bool.not_eq_false, Decidable.not_not]
  constructor
  · rintro ⟨flags, buffers, images⟩
    exact ⟨⟨⟨flags, fun entry member => (buffers entry member).1⟩, fun entry member => (images entry member).1⟩,
      fun entry member => (buffers entry member).2, fun entry member => (images entry member).2⟩
  · rintro ⟨⟨⟨flags, sizes⟩, supported⟩, buffers, images⟩
    exact ⟨flags, fun entry member => ⟨sizes entry member, buffers entry member⟩,
      fun entry member => ⟨supported entry member, images entry member⟩⟩

theorem transferSourceType_plain (opcode : UInt16) : (transferSourceType opcode).container = none := by
  rw [transferSourceType]
  split <;> rfl

theorem transferDestinationType_plain (opcode : UInt16) :
    (transferDestinationType opcode).container = none := by
  rw [transferDestinationType]
  split <;> rfl

theorem validateTransferCommandRecord_iff
    (live : context.objects.lookup deviceId .device = .ok (instanceId, deviceBits))
    {command : TransferCommand} (decoded : commandDecodeTransfer record = .ok command) :
    context.validateTransferCommandRecord record deviceId = .ok () ↔
      ∀ handle ∈ (Command.transfer record.opcode command).handles, context.Owns deviceId handle.1 handle.2 := by
  simp only [validateTransferCommandRecord, decoded, ok_bind, unit_bind_eq_ok,
    childMatchesDevice_iff live _ (transferSourceType_plain record.opcode),
    childMatchesDevice_iff live _ (transferDestinationType_plain record.opcode), Command.handles,
    List.forall_mem_cons, List.not_mem_nil, false_implies, implies_true, and_true]

theorem validateClearColorImageGeneralRecord_iff
    (live : context.objects.lookup deviceId .device = .ok (instanceId, deviceBits))
    {command : ClearColorImageGeneralCommand}
    (decoded : commandDecodeClearColorImageGeneral record = .ok command) :
    context.validateClearColorImageGeneralRecord record deviceId = .ok () ↔
      (Command.clearColorImageGeneral command).isSupported = true ∧
        ∀ handle ∈ (Command.clearColorImageGeneral command).handles,
          context.Owns deviceId handle.1 handle.2 := by
  simp only [validateClearColorImageGeneralRecord, decoded, ok_bind, guarded_eq_ok,
    childMatchesDevice_iff live .image rfl, reduceCtorEq, imp_false, Command.isSupported,
    Command.handles, List.forall_mem_singleton, Bool.and_eq_true, Bool.or_eq_true, beq_iff_eq,
    Bool.not_eq_eq_eq_not, Bool.not_true, Bool.not_eq_false, and_assoc]
  refine and_congr ?_ Iff.rfl
  rw [Decidable.not_and_iff_not_or_not, Decidable.not_not, Decidable.not_not]

theorem validateBindDescriptorSetsRecord_iff
    (live : context.objects.lookup deviceId .device = .ok (instanceId, deviceBits))
    {command : BindDescriptorSetsCommand} (decoded : commandDecodeBindDescriptorSets record = .ok command) :
    context.validateBindDescriptorSetsRecord record deviceId = .ok () ↔
      ∀ handle ∈ (Command.bindDescriptorSets command).handles, context.Owns deviceId handle.1 handle.2 := by
  simp only [validateBindDescriptorSetsRecord, decoded, ok_bind, unit_bind_eq_ok, List.forM_eq_forM, forM_eq_ok,
    childMatchesDevice_iff live .pipelineLayout rfl, descriptorSetMatchesDevice_iff,
    Command.handles, List.forall_mem_cons, List.forall_mem_map]

theorem range_inside_iff (first count total : UInt32) :
    (first ≤ total ∧ count ≤ total - first) ↔ first.toNat + count.toNat ≤ total.toNat := by
  constructor
  · rintro ⟨low, high⟩
    rw [UInt32.le_iff_toNat_le, UInt32.toNat_sub_of_le _ _ low] at high
    rw [UInt32.le_iff_toNat_le] at low
    omega
  · intro inside
    have low : first ≤ total := by
      rw [UInt32.le_iff_toNat_le]
      omega
    refine ⟨low, ?_⟩
    rw [UInt32.le_iff_toNat_le, UInt32.toNat_sub_of_le _ _ low]
    omega

theorem queryPoolRangeMatchesDevice_iff {command : QueryCommand} (counted : command.queryCount ≠ 0) :
    context.queryPoolRangeMatchesDevice command.queryPoolId deviceId command.firstQuery command.queryCount =
        .ok () ↔
      context.Owns deviceId .queryPool command.queryPoolId ∧ context.QueriesInside deviceId (.query command) := by
  rw [owns_plain rfl, queryPoolRangeMatchesDevice, QueriesInside, native]
  cases found : context.queryPoolMetadataFind command.queryPoolId with
  | none => simp
  | some metadata =>
      cases entry : context.objects.lookup command.queryPoolId .queryPool with
      | error code => simp
      | ok pair =>
          obtain ⟨parent, bits⟩ := pair
          simp only [Bool.or_eq_true, bne_iff_ne, ne_eq, beq_iff_eq, decide_eq_true_eq, refused_eq_ok,
            and_true, not_or, Decidable.not_not, counted, not_false_eq_true, gt_iff_lt, UInt32.not_lt,
            Except.ok.injEq, Prod.mk.injEq, exists_and_left, exists_eq', Option.some.injEq, exists_eq_left']
          constructor
          · rintro ⟨⟨⟨device, low⟩, high⟩, parentSame, nonzero⟩
            exact ⟨parentSame, nonzero, device, (range_inside_iff _ _ _).mp ⟨low, high⟩⟩
          · rintro ⟨parentSame, nonzero, device, inside⟩
            obtain ⟨low, high⟩ := (range_inside_iff _ _ _).mpr inside
            exact ⟨⟨⟨device, low⟩, high⟩, parentSame, nonzero⟩

theorem commandDecodeQuery_counted {command : QueryCommand}
    (decoded : commandDecodeQuery record = .ok command) : command.queryCount ≠ 0 := by
  simp only [commandDecodeQuery, bind_eq_ok, decodeFixed, refused_eq_ok, Except.ok.injEq] at decoded
  obtain ⟨_, ⟨known, rfl⟩, valid, rfl⟩ := decoded
  simp only [Bool.or_eq_true, bne_iff_ne, ne_eq, not_or, Decidable.not_not] at known
  simp only [known.1, validatePayload, Opcode.ofCode_code, validateQuery] at valid
  intro empty
  simp only [QueryCommand.read] at empty
  simp [empty] at valid

theorem validateQueryRecord_iff {command : QueryCommand} (decoded : commandDecodeQuery record = .ok command) :
    context.validateQueryRecord record deviceId = .ok () ↔
      (Command.query command).isSupported = true ∧ context.Owns deviceId .queryPool command.queryPoolId ∧
        context.QueriesInside deviceId (.query command) := by
  simp only [validateQueryRecord, decoded, ok_bind, unit_bind_eq_ok, when_eq_ok, reduceCtorEq, imp_false,
    queryPoolRangeMatchesDevice_iff (commandDecodeQuery_counted decoded), Command.isSupported]
  rw [and_comm]
  refine and_congr ?_ Iff.rfl
  simp [imp_iff_not_or]

theorem payload_empty {opcode : Opcode} (known : Opcode.ofCode record.opcode = some opcode)
    (bare : opcode = .endRendering ∨ opcode = .vulkanEnd)
    (sized : payloadLengthIsValid record.opcode record.payload record.payloadLength = true) :
    record.payloadLength = 0 := by
  have code := Opcode.code_of_ofCode known
  rcases bare with rfl | rfl
  all_goals
    have plain : transferOpcodeIsValid record.opcode = false := by
      rw [← code]
      rfl
    simpa only [payloadLengthIsValid, known, plain, expectedPayloadSize, Bool.not_false, ↓reduceIte,
      beq_iff_eq] using sized

theorem admits_iff {command : Command} :
    context.Admits deviceId rendering command ↔
      command.isStreamed = true ∧ (∀ handle ∈ command.handles, context.Owns deviceId handle.1 handle.2) ∧
        command.placed rendering = true ∧ command.isSupported = true ∧
        context.QueriesInside deviceId command :=
  ⟨fun admits => ⟨admits.streamed, admits.owned, admits.placed, admits.supported, admits.queries⟩,
    fun ⟨streamed, owned, placed, supported, queries⟩ => ⟨streamed, owned, placed, supported, queries⟩⟩

attribute [local simp] Command.isStreamed Command.handles Command.placed Command.isDraw Command.isSupported
  Command.renderingAfter QueriesInside validateStreamCommand validateRenderCommandRecord ok_bind
  unit_bind_eq_ok guarded_eq_ok forM_eq_ok

theorem validateStreamCommand_iff
    (live : context.objects.lookup deviceId .device = .ok (instanceId, deviceBits)) {command : Command}
    (sized : payloadLengthIsValid record.opcode record.payload record.payloadLength = true)
    (decodes : Decodes record command) :
    context.validateStreamCommand record deviceId rendering = .ok after ↔
      context.Admits deviceId rendering command ∧ command.renderingAfter rendering = after := by
  have child := fun type plain id => childMatchesDevice_iff live type plain id
  rw [admits_iff]
  cases decodes with
  | beginRendering known decoded => 
      simp [-bind_pure_comp, known, validateBeginRenderingRecord_iff decoded, and_comm, and_left_comm]
  | bindGraphicsPipeline known decoded => simp [-bind_pure_comp, known, decoded, child .pipeline rfl]
  | pushRotation known decoded => simp [-bind_pure_comp, known]
  | setViewport known decoded => simp [-bind_pure_comp, known, decoded]
  | setScissor known decoded => simp [-bind_pure_comp, known, decoded]
  | draw known decoded => simp [-bind_pure_comp, known, decoded]
  | fillBuffer known decoded => simp [-bind_pure_comp, known, decoded, child .buffer rfl]
  | bufferHostReadBarrier known decoded => simp [-bind_pure_comp, known]
  | vulkanBegin known decoded => simp [-bind_pure_comp, known]
  | clearColorImage known decoded => simp [-bind_pure_comp, known, decoded, child .image rfl]
  | initImageBarrier known decoded => simp [-bind_pure_comp, known, decoded, child .image rfl]
  | imageBarrier2 known decoded =>
      simp [-bind_pure_comp, known, validatePipelineBarrierRecord_iff live decoded, and_comm]
  | clearColorImageGeneral known decoded =>
      simp [-bind_pure_comp, known, validateClearColorImageGeneralRecord_iff live decoded, and_comm]
  | bindDescriptorSets known decoded =>
      simp [-bind_pure_comp, known, validateBindDescriptorSetsRecord_iff live decoded]
  | pushConstants known decoded => simp [-bind_pure_comp, known, decoded, child .pipelineLayout rfl]
  | drawIndexed known decoded => simp [-bind_pure_comp, known, decoded]
  | dynamicState known decoded => simp [-bind_pure_comp, known, decoded]
  | clearDepthStencilImage known decoded => simp [-bind_pure_comp, known, decoded, child .image rfl]
  | clearAttachments known decoded => simp [-bind_pure_comp, known, decoded]
  | updateBuffer known decoded => simp [-bind_pure_comp, known, decoded, child .buffer rfl]
  | query known decoded => simp [-bind_pure_comp, known, validateQueryRecord_iff decoded, and_left_comm]
  | endRendering known =>
      have empty := payload_empty known (.inl rfl) sized
      simp only [validateStreamCommand, validateRenderCommandRecord, known, empty, refused_eq_ok]
      simp
  | vulkanEnd known => simp [-bind_pure_comp, known]
  | transfer known kind decoded =>
      simp only [List.mem_cons, List.not_mem_nil, or_false] at kind
      rcases kind with rfl | rfl | rfl | rfl | rfl | rfl <;>
        simp [-bind_pure_comp, known, validateTransferCommandRecord_iff live decoded]
  | bindVertexBuffers known kind decoded =>
      simp only [List.mem_cons, List.not_mem_nil, or_false] at kind
      rcases kind with rfl | rfl <;>
        simp only [validateStreamCommand, validateRenderCommandRecord, known, decoded, ok_bind, unit_bind_eq_ok,
          List.forM_eq_forM, forM_eq_ok, optionalBufferMatchesDevice_iff live, pure_eq_ok, Command.handles,
          List.forall_mem_flatMap, Command.placed, Command.isDraw, Command.isStreamed, Command.isSupported,
          QueriesInside, Command.renderingAfter] <;>
        simp only [true_and, Bool.not_false, Bool.true_or, and_true]
  | bindIndexBuffer known kind decoded =>
      simp only [List.mem_cons, List.not_mem_nil, or_false] at kind
      rcases kind with rfl | rfl <;>
        simp [-bind_pure_comp, known, decoded, optionalBufferMatchesDevice_iff live]
  | drawIndirect known kind decoded =>
      simp only [List.mem_cons, List.not_mem_nil, or_false] at kind
      rcases kind with rfl | rfl <;>
        simp [-bind_pure_comp, known, decoded, child .buffer rfl, and_assoc, and_left_comm]
  | drawIndirectCount known kind decoded =>
      simp only [List.mem_cons, List.not_mem_nil, or_false] at kind
      rcases kind with rfl | rfl <;>
        simp [-bind_pure_comp, known, decoded, child .buffer rfl, and_assoc, and_left_comm]

end ServiceContext

end VulkanBridge
