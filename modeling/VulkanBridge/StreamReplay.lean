import VulkanBridge.CommandBatchRoundTrip
import VulkanBridge.StreamAdmission

/-!
A validated command stream replays: every record the validator accepted is
recorded on the native command buffer with the calls its command stands for.
-/

namespace VulkanBridge

open ByteBuffer CheckedLoops

namespace ServiceContext

variable {driver : NativeDriver} {context : ServiceContext} {commandBufferId : UInt64}
  {owner : ResolvedCommandBuffer}

theorem resolveCommandBuffer_live (resolved : context.resolveCommandBuffer commandBufferId = .ok owner) :
    ∃ instanceId, context.objects.lookup owner.deviceId .device = .ok (instanceId, owner.device) := by
  simp only [resolveCommandBuffer, resolveCommandPool, bind_eq_ok, Prod.exists, pure_eq_ok, Prod.mk.injEq]
    at resolved
  obtain ⟨_, _, _, _, _, _, ⟨_, _, _, _, _, found, rfl, rfl, rfl⟩, rfl⟩ := resolved
  exact ⟨_, found⟩

theorem resolveCommandBuffer_owns (resolved : context.resolveCommandBuffer commandBufferId = .ok owner) :
    context.OwnsNative owner.deviceId (.commandBuffer, owner.commandBuffer) := by
  simp only [resolveCommandBuffer, resolveCommandPool, bind_eq_ok, Prod.exists, pure_eq_ok, Prod.mk.injEq]
    at resolved
  obtain ⟨pool, bits, found, _, _, _, ⟨_, _, pooled, _, _, _, rfl, rfl, rfl⟩, rfl⟩ := resolved
  refine ⟨commandBufferId, ⟨pool, bits, _, found, pooled⟩, ?_⟩
  simp only [native, found]

theorem native_of_lookup {type : ObjectType} {id parent bits : UInt64}
    (found : context.objects.lookup id type = .ok (parent, bits)) : context.native type id = bits := by
  simp only [native, found]

theorem native_zero (type : ObjectType) : context.native type 0 = 0 := by
  have refused : handleExpect 0 type = false := by
    rw [Bool.eq_false_iff]
    exact fun expects => handleExpect_ne_zero expects rfl
  simp only [native, HandleTable.lookup, refused, Bool.not_false, Bool.or_true, ↓reduceIte]

theorem resolveDeviceChild_owned (resolved : context.resolveCommandBuffer commandBufferId = .ok owner)
    {type : ObjectType} (plain : type.container = none) {id : UInt64}
    (owns : context.Owns owner.deviceId type id) :
    context.resolveDeviceChild id type = .ok ⟨owner.deviceId, owner.device, context.native type id⟩ := by
  obtain ⟨instanceId, live⟩ := resolveCommandBuffer_live resolved
  obtain ⟨bits, found⟩ := (owns_plain plain id).mp owns
  simp only [resolveDeviceChild, found, live, ok_bind, native_of_lookup found]
  rfl

theorem sameDevice_owned (bits : UInt64) : sameDevice owner ⟨owner.deviceId, owner.device, bits⟩ = true := by
  simp [sameDevice]

theorem resolveOwnChild_owned (resolved : context.resolveCommandBuffer commandBufferId = .ok owner)
    {type : ObjectType} (plain : type.container = none) {id : UInt64}
    (owns : context.Owns owner.deviceId type id) :
    context.resolveOwnChild owner id type = .ok (context.native type id) := by
  simp only [resolveOwnChild, resolveDeviceChild_owned resolved plain owns, ok_bind,
    sameDevice_owned, ↓reduceIte]

theorem resolveOptionalBuffer_owned
    (resolved : context.resolveCommandBuffer commandBufferId = .ok owner) {id : UInt64}
    (owns : ∀ handle ∈ nullable .buffer id, context.Owns owner.deviceId handle.1 handle.2) :
    context.resolveOptionalBuffer owner id = .ok (context.native .buffer id) := by
  by_cases null : id = 0
  · simp only [resolveOptionalBuffer, null, ↓reduceIte, native_zero]
  · simp only [resolveOptionalBuffer, null, ↓reduceIte]
    exact resolveOwnChild_owned resolved rfl (forall_nullable.mp owns null)

theorem resolveImageView_owned {deviceId id : UInt64}
    (owns : ∀ handle ∈ nullable .imageView id, context.Owns deviceId handle.1 handle.2) :
    context.descriptorTemplateResolveImageView id deviceId = .ok (context.native .imageView id) := by
  by_cases null : id = 0
  · simp only [descriptorTemplateResolveImageView, null, ↓reduceIte, native_zero]
  · obtain ⟨image, bits, imageBits, found, parentFound⟩ := forall_nullable.mp owns null
    simp only [descriptorTemplateResolveImageView, null, ↓reduceIte, found, parentFound, ok_bind, bne_self_eq_false,
      Bool.false_eq_true, native_of_lookup found]

theorem resolveDescriptorSet_owned {deviceId id : UInt64} (owns : context.Owns deviceId .descriptorSet id) :
    context.resolveDescriptorSet deviceId id = .ok (context.native .descriptorSet id) := by
  obtain ⟨pool, bits, poolBits, found, parentFound⟩ := owns
  simp only [resolveDescriptorSet, found, parentFound, ok_bind, bne_self_eq_false, Bool.false_eq_true, ↓reduceIte,
    native_of_lookup found]

theorem attachmentView_owned {deviceId id : UInt64}
    (owns : ∀ handle ∈ nullable .imageView id, context.Owns deviceId handle.1 handle.2) :
    context.attachmentView deviceId id = .ok (context.native .imageView id) := by
  rw [attachmentView, resolveImageView_owned owns]
  split
  next => rfl
  next null => rw [Decidable.not_not.mp null, native_zero]

theorem renderingAttachmentFromCommand_owned (driver : NativeDriver) {attachment : RenderingAttachment}
    (owns : ∀ handle ∈ attachment.views, context.Owns owner.deviceId handle.1 handle.2) :
    context.renderingAttachmentFromCommand owner.deviceId attachment =
      .ok ((context.target driver owner).attachment attachment) := by
  obtain ⟨view, resolveView⟩ := forall_views.mp owns
  simp only [renderingAttachmentFromCommand, attachmentView_owned view, attachmentView_owned resolveView, ok_bind]
  rfl

theorem optionalAttachment_owned (driver : NativeDriver) {present : UInt32} {attachment : RenderingAttachment}
    (owns : present ≠ 0 → ∀ handle ∈ attachment.views, context.Owns owner.deviceId handle.1 handle.2) :
    context.optionalAttachment owner.deviceId present attachment =
      .ok (if present ≠ 0 then some ((context.target driver owner).attachment attachment) else none) := by
  rw [optionalAttachment]
  by_cases absent : present = 0
  · simp only [absent, ne_eq, not_true_eq_false, ↓reduceIte]
  · simp only [ne_eq, absent, not_false_eq_true, ↓reduceIte,
      renderingAttachmentFromCommand_owned driver (owns absent)]
    rfl

theorem listed_keep {α : Type} [Inhabited α] {size : Nat} (count : UInt32) (items : Fin size → α) :
    listed count (keep count.toNat items) = listed count items := by
  refine List.map_congr_left fun index member => ?_
  have inside := List.mem_range.mp member
  simp only [slot, keep, inside, ↓reduceIte]

theorem stageMask_narrow {command : QueryCommand} (known : QueryKind.writeTimestamp.code = command.kind)
    (supported : (Command.query command).isSupported = true) :
    command.stageMask.toUInt32.toUInt64 = command.stageMask := by
  simp only [Command.isSupported, known, beq_self_eq_true, Bool.true_and, Bool.not_eq_true',
    decide_eq_false_iff_not, gt_iff_lt, UInt64.not_lt, UInt64.le_iff_toNat_le] at supported
  apply UInt64.toNat_inj.mp
  rw [UInt32.toNat_toUInt64, UInt64.toNat_toUInt32]
  exact Nat.mod_eq_of_lt (Nat.lt_succ_of_le supported)

def Issues {α : Type} (driver : NativeDriver) (device : UInt64) (result : Except Errno α) (value : α) : Prop :=
  result = .ok value ∨ (∃ name, driver.present device name = false) ∧ ∃ code, result = .error code

namespace Issues

variable {α β : Type} {device : UInt64} {result : Except Errno α} {value : α}

theorem bind {next : α → Except Errno β} {last : β} (issues : Issues driver device result value)
    (later : Issues driver device (next value) last) : Issues driver device (result >>= next) last := by
  rcases issues with done | ⟨absent, code, refused⟩
  · rw [done]
    exact later
  · exact .inr ⟨absent, code, by rw [refused]; rfl⟩

end Issues

theorem resolve_issues (device : UInt64) (first : EntryPoint) (rest : List EntryPoint) :
    Issues driver device (driver.resolve device (first :: rest)) (driver.chosen device (first :: rest)) := by
  rw [NativeDriver.resolve, NativeDriver.chosen]
  cases found : (first :: rest).find? (driver.present device) with
  | some name => exact .inl rfl
  | none =>
      refine .inr ⟨⟨first, ?_⟩, _, rfl⟩
      exact Bool.eq_false_iff.mpr (List.find?_eq_none.mp found first List.mem_cons_self)

theorem callNative_issues (context : ServiceContext) (first : EntryPoint) (rest : List EntryPoint)
    (arguments : NativeArguments) : Issues driver owner.device (callNative driver owner (first :: rest) arguments)
      [(context.target driver owner).call (first :: rest) arguments] :=
  (resolve_issues owner.device first rest).bind (.inl rfl)

section

theorem replayBeginRendering_owned {command : BeginRenderingCommand}
    (owns : ∀ handle ∈ (Command.beginRendering command).handles, context.Owns owner.deviceId handle.1 handle.2) :
    Issues driver owner.device (context.replayBeginRendering driver owner command)
      ((Command.beginRendering command).nativeCalls (context.target driver owner)) := by
  simp only [Command.handles, BeginRenderingCommand.attachments, List.forall_mem_flatMap,
    List.forall_mem_append] at owns
  obtain ⟨⟨colors, depth⟩, stencil⟩ := owns
  have depthOwned : command.hasDepthAttachment ≠ 0 → ∀ handle ∈ command.depthAttachment.views,
      context.Owns owner.deviceId handle.1 handle.2 := fun has => depth _ (by simp [has])
  have stencilOwned : command.hasStencilAttachment ≠ 0 → ∀ handle ∈ command.stencilAttachment.views,
      context.Owns owner.deviceId handle.1 handle.2 := fun has => stencil _ (by simp [has])
  simp only [replayBeginRendering, ok_bind, optionalAttachment_owned driver depthOwned,
    optionalAttachment_owned driver stencilOwned,
    mapM_eq_ok fun attachment member =>
      renderingAttachmentFromCommand_owned driver (colors attachment member)]
  exact callNative_issues context _ _ _

theorem replayDynamicState_valid {command : DynamicStateCommand}
    (appendable : command.isAppendable = true) :
    Issues driver owner.device (replayDynamicState driver owner command)
      ((Command.dynamicState command).nativeCalls (context.target driver owner)) := by
  have valid := command.isAppendable_eq.symm.trans appendable
  simp only [validateDynamicState, command.payload_header.1] at valid
  cases known : DynamicStateKind.ofCode command.kind with
  | none => simp [known] at valid
  | some kind =>
      simp only [replayDynamicState, known, Command.nativeCalls]
      cases kind <;> exact callNative_issues context _ _ _

variable (resolved : context.resolveCommandBuffer commandBufferId = .ok owner)
include resolved

theorem replayImageBarrier2_owned {command : ImageBarrier2Command}
    (owns : ∀ handle ∈ (Command.imageBarrier2 command).handles, context.Owns owner.deviceId handle.1 handle.2) :
    Issues driver owner.device (context.replayCommandStreamImageBarrier2 driver commandBufferId command)
      ((Command.imageBarrier2 command).nativeCalls (context.target driver owner)) := by
  simp only [Command.handles, List.forall_mem_append, List.forall_mem_map] at owns
  have buffers : (listed command.bufferCount command.buffers).mapM (fun barrier => do
      let buffer ← context.resolveOwnChild owner barrier.bufferId .buffer
      return { barrier with bufferId := buffer }) =
      .ok ((listed command.bufferCount command.buffers).map (context.target driver owner).bufferBarrier) :=
    mapM_eq_ok fun barrier member => by
      rw [resolveOwnChild_owned resolved rfl (owns.1 barrier member)]
      rfl
  have images : (listed command.imageCount command.images).mapM (fun barrier => do
      let image ← context.resolveOwnChild owner barrier.imageId .image
      return { barrier with imageId := image }) =
      .ok ((listed command.imageCount command.images).map (context.target driver owner).imageBarrier) :=
    mapM_eq_ok fun barrier member => by
      rw [resolveOwnChild_owned resolved rfl (owns.2 barrier member)]
      rfl
  simp only [replayCommandStreamImageBarrier2, resolved, ok_bind, buffers, images]
  exact callNative_issues context _ _ _

theorem commandBufferFill_owned {command : FillBufferCommand} (appendable : command.isAppendable = true)
    (owns : context.Owns owner.deviceId .buffer command.bufferId) :
    Issues driver owner.device (context.commandBufferFill driver (command.request commandBufferId))
      ((Command.fillBuffer command).nativeCalls (context.target driver owner)) := by
  simp only [FillBufferCommand.isAppendable, Bool.not_eq_true', Bool.or_eq_false_iff] at appendable
  rw [FillBufferCommand.request]
  simp only [commandBufferFill, appendable, resolved, ok_bind, Bool.or_self, Bool.false_eq_true, ↓reduceIte,
    resolveOwnChild_owned resolved rfl owns]
  exact (resolve_issues owner.device _ _).bind ((resolve_issues owner.device _ _).bind (.inl rfl))

theorem commandBufferImageBarrier_owned {command : InitImageBarrierCommand}
    (appendable : command.isAppendable = true)
    (owns : ∀ handle ∈ (Command.initImageBarrier command).handles,
      context.Owns owner.deviceId handle.1 handle.2) :
    Issues driver owner.device (context.commandBufferImageBarrier driver (command.request commandBufferId))
      ((Command.initImageBarrier command).nativeCalls (context.target driver owner)) := by
  simp only [InitImageBarrierCommand.isAppendable, Bool.and_eq_true, Bool.not_eq_true'] at appendable
  simp only [Command.handles, List.forall_mem_map] at owns
  have barriers : (listed command.imageCount command.imageIds).mapM (fun imageId => do
      let image ← context.resolveOwnChild owner imageId .image
      return initImageBarrier image) =
      .ok ((listed command.imageCount command.imageIds).map fun id =>
        initImageBarrier (context.native .image id)) :=
    mapM_eq_ok fun id member => by
      rw [resolveOwnChild_owned resolved rfl (owns id member)]
      rfl
  rw [InitImageBarrierCommand.request]
  simp only [commandBufferImageBarrier, appendable.1, listed_keep, barriers, resolved, ok_bind,
    Bool.false_eq_true, ↓reduceIte]
  exact callNative_issues context _ _ _

theorem commandBufferBindDescriptorSets_owned {command : BindDescriptorSetsCommand}
    (appendable : command.isAppendable = true)
    (owns : ∀ handle ∈ (Command.bindDescriptorSets command).handles,
      context.Owns owner.deviceId handle.1 handle.2) :
    Issues driver owner.device (context.commandBufferBindDescriptorSets driver (command.request commandBufferId))
      ((Command.bindDescriptorSets command).nativeCalls (context.target driver owner)) := by
  have bounds : (command.pipelineBindPoint > 1 || command.descriptorSetCount == 0 ||
      command.descriptorSetCount > 8 || command.dynamicOffsetCount > 32) = false := by
    simp only [BindDescriptorSetsCommand.isAppendable, Bool.and_eq_true, Bool.not_eq_true',
      Bool.or_eq_false_iff] at appendable
    simp only [appendable, Bool.or_self]
  simp only [Command.handles, List.forall_mem_cons, List.forall_mem_map] at owns
  obtain ⟨bits, layout⟩ := (owns_plain rfl command.pipelineLayoutId).mp owns.1
  rw [BindDescriptorSetsCommand.request]
  simp only [commandBufferBindDescriptorSets, bounds, listed_keep, layout, resolved, ok_bind,
    Bool.false_eq_true, ↓reduceIte, bne_self_eq_false,
    mapM_eq_ok fun id member => resolveDescriptorSet_owned (owns.2 id member), Command.nativeCalls,
    ← native_of_lookup layout]
  exact callNative_issues context _ _ _

theorem replayQuery_owned {command : QueryCommand} (appendable : command.isAppendable = true)
    (supported : (Command.query command).isSupported = true)
    (owns : context.Owns owner.deviceId .queryPool command.queryPoolId) :
    Issues driver owner.device (context.replayQuery driver owner command)
      ((Command.query command).nativeCalls (context.target driver owner)) := by
  have pool := resolveOwnChild_owned resolved rfl owns
  simp only [replayQuery, pool, ok_bind, Command.nativeCalls, NativeTarget.query]
  cases known : QueryKind.ofCode command.kind with
  | none => simp [QueryCommand.isAppendable, known] at appendable
  | some kind =>
      cases kind with
      | writeTimestamp =>
          have narrow : command.stageMask.toUInt32.toUInt64 = command.stageMask :=
            stageMask_narrow (QueryKind.code_of_ofCode known) supported
          simp only [narrow]
          exact callNative_issues context _ _ _
      | reset | beginQuery | endQuery | writeTimestamp2 | beginIndexed | endIndexed =>
          exact callNative_issues context _ _ _

theorem replayDrawIndirectCount_owned {opcode : UInt16} {command : DrawIndirectCountCommand}
    (owns : ∀ handle ∈ (Command.drawIndirectCount opcode command).handles,
      context.Owns owner.deviceId handle.1 handle.2) :
    Issues driver owner.device (context.replayDrawIndirectCount driver owner opcode command)
      ((Command.drawIndirectCount opcode command).nativeCalls (context.target driver owner)) := by
  simp only [Command.handles, List.forall_mem_cons, List.not_mem_nil, false_implies, implies_true,
    and_true] at owns
  simp only [replayDrawIndirectCount, resolveDeviceChild_owned resolved rfl owns.1,
    resolveDeviceChild_owned resolved rfl owns.2, ok_bind, sameDevice_owned, Bool.not_true, Bool.or_self,
    Bool.false_eq_true, ↓reduceIte, Command.nativeCalls, NativeTarget.drawIndirectCountNames]
  split <;> exact callNative_issues context _ _ _

theorem replayTransfer_owned {opcode : UInt16} {command : TransferCommand}
    (owns : ∀ handle ∈ (Command.transfer opcode command).handles,
      context.Owns owner.deviceId handle.1 handle.2) :
    Issues driver owner.device (context.replayTransfer driver owner opcode command)
      ((Command.transfer opcode command).nativeCalls (context.target driver owner)) := by
  simp only [Command.handles, List.forall_mem_cons, List.not_mem_nil, false_implies, implies_true,
    and_true] at owns
  simp only [replayTransfer, resolveDeviceChild_owned resolved (transferSourceType_plain opcode) owns.1,
    resolveDeviceChild_owned resolved (transferDestinationType_plain opcode) owns.2, ok_bind, sameDevice_owned,
    Bool.not_true, Bool.or_self, Bool.false_eq_true, ↓reduceIte]
  exact callNative_issues context _ _ _

theorem replayBindVertexBuffers_owned {opcode : UInt16} {command : BindVertexBuffersCommand}
    (owns : ∀ handle ∈ (Command.bindVertexBuffers opcode command).handles,
      context.Owns owner.deviceId handle.1 handle.2) :
    Issues driver owner.device (context.replayBindVertexBuffers driver owner opcode command)
      ((Command.bindVertexBuffers opcode command).nativeCalls (context.target driver owner)) := by
  simp only [Command.handles, List.forall_mem_flatMap] at owns
  simp only [replayBindVertexBuffers, ok_bind, Command.nativeCalls, NativeTarget.bindVertexBuffers,
    mapM_eq_ok fun id member => resolveOptionalBuffer_owned resolved (owns id member)]
  split <;> exact callNative_issues context _ _ _

theorem replayBindIndexBuffer_owned {opcode : UInt16} {command : BindIndexBufferCommand}
    (owns : ∀ handle ∈ (Command.bindIndexBuffer opcode command).handles,
      context.Owns owner.deviceId handle.1 handle.2) :
    Issues driver owner.device (context.replayBindIndexBuffer driver owner opcode command)
      ((Command.bindIndexBuffer opcode command).nativeCalls (context.target driver owner)) := by
  simp only [replayBindIndexBuffer, resolveOptionalBuffer_owned resolved owns, ok_bind, Command.nativeCalls,
    NativeTarget.bindIndexBuffer]
  split <;> exact callNative_issues context _ _ _

theorem replayDrawIndirect_owned {opcode : UInt16} {command : DrawIndirectCommand}
    (owns : ∀ handle ∈ (Command.drawIndirect opcode command).handles,
      context.Owns owner.deviceId handle.1 handle.2) :
    Issues driver owner.device (context.replayDrawIndirect driver owner opcode command)
      ((Command.drawIndirect opcode command).nativeCalls (context.target driver owner)) := by
  simp only [Command.handles, List.forall_mem_singleton] at owns
  simp only [replayDrawIndirect, resolveOwnChild_owned resolved rfl owns, ok_bind, Command.nativeCalls,
    NativeTarget.drawIndirectNames]
  split <;> exact callNative_issues context _ _ _

/-- Every record the service admits is replayed with the calls of its command, or the
device lacks one of them. -/
theorem replayStreamCommand_admitted {record : CommandRecord} {command : Command} {rendering : Bool}
    (decodes : Decodes record command) (appendable : command.encoding.appendable = true)
    (admits : context.Admits owner.deviceId rendering command) :
    Issues driver owner.device (context.replayStreamCommand driver commandBufferId record)
      (command.nativeCalls (context.target driver owner)) := by
  have owns := admits.owned
  have own := fun type plain id => @resolveOwnChild_owned context commandBufferId owner resolved type plain id
  cases decodes with
  | beginRendering known decoded =>
      simp only [replayStreamCommand, replayRenderCommandRecord, known, resolved, decoded, ok_bind]
      exact replayBeginRendering_owned owns
  | bindGraphicsPipeline known decoded =>
      simp only [Command.handles, List.forall_mem_singleton] at owns
      simp only [replayStreamCommand, replayRenderCommandRecord, known, resolved, decoded, ok_bind,
        replayBindGraphicsPipeline, own .pipeline rfl _ owns]
      exact callNative_issues context _ _ _
  | pushRotation | bufferHostReadBarrier | vulkanBegin | vulkanEnd =>
      exact absurd admits.streamed (by simp [Command.isStreamed])
  | setViewport known decoded =>
      simp only [replayStreamCommand, replayRenderCommandRecord, known, resolved, decoded, ok_bind,
        replaySetViewport]
      exact callNative_issues context _ _ _
  | setScissor known decoded =>
      simp only [replayStreamCommand, replayRenderCommandRecord, known, resolved, decoded, ok_bind,
        replaySetScissor]
      exact callNative_issues context _ _ _
  | draw known decoded =>
      simp only [replayStreamCommand, replayRenderCommandRecord, known, resolved, decoded, ok_bind, replayDraw]
      exact callNative_issues context _ _ _
  | drawIndexed known decoded =>
      simp only [replayStreamCommand, replayRenderCommandRecord, known, resolved, decoded, ok_bind,
        replayDrawIndexed]
      exact callNative_issues context _ _ _
  | endRendering known =>
      simp only [replayStreamCommand, replayRenderCommandRecord, known, resolved, ok_bind, replayEndRendering]
      exact callNative_issues context _ _ _
  | fillBuffer known decoded =>
      simp only [Command.handles, List.forall_mem_singleton] at owns
      simp only [replayStreamCommand, known, decoded, ok_bind]
      exact commandBufferFill_owned resolved appendable owns
  | clearColorImage known decoded =>
      simp only [Command.handles, List.forall_mem_singleton] at owns
      simp only [replayStreamCommand, known, decoded, ok_bind, commandBufferClearColorImage, resolved,
        own .image rfl _ owns]
      exact callNative_issues context _ _ _
  | initImageBarrier known decoded =>
      simp only [replayStreamCommand, known, decoded, ok_bind]
      exact commandBufferImageBarrier_owned resolved appendable owns
  | imageBarrier2 known decoded =>
      simp only [replayStreamCommand, known, decoded, ok_bind]
      exact replayImageBarrier2_owned resolved owns
  | clearColorImageGeneral known decoded =>
      simp only [Command.handles, List.forall_mem_singleton] at owns
      simp only [replayStreamCommand, known, decoded, ok_bind, replayCommandStreamClearColorImageGeneral,
        resolved, own .image rfl _ owns]
      exact callNative_issues context _ _ _
  | bindDescriptorSets known decoded =>
      simp only [replayStreamCommand, known, decoded, ok_bind]
      exact commandBufferBindDescriptorSets_owned resolved appendable owns
  | pushConstants known decoded =>
      simp only [Command.handles, List.forall_mem_singleton] at owns
      simp only [replayStreamCommand, replayRenderCommandRecord, known, resolved, decoded, ok_bind,
        replayPushConstants, own .pipelineLayout rfl _ owns]
      exact callNative_issues context _ _ _
  | @dynamicState command known decoded =>
      simp only [replayStreamCommand, replayRenderCommandRecord, known, resolved, decoded, ok_bind]
      exact replayDynamicState_valid appendable
  | clearDepthStencilImage known decoded =>
      simp only [Command.handles, List.forall_mem_singleton] at owns
      simp only [replayStreamCommand, replayRenderCommandRecord, known, resolved, decoded, ok_bind,
        replayCommandStreamClearDepthStencilImage, own .image rfl _ owns]
      exact callNative_issues context _ _ _
  | clearAttachments known decoded =>
      simp only [replayStreamCommand, replayRenderCommandRecord, known, resolved, decoded, ok_bind,
        replayCommandStreamClearAttachments]
      exact callNative_issues context _ _ _
  | updateBuffer known decoded =>
      simp only [Command.handles, List.forall_mem_singleton] at owns
      simp only [replayStreamCommand, replayRenderCommandRecord, known, resolved, decoded, ok_bind,
        replayUpdateBuffer, own .buffer rfl _ owns]
      exact callNative_issues context _ _ _
  | query known decoded =>
      simp only [Command.handles, List.forall_mem_singleton] at owns
      simp only [replayStreamCommand, replayRenderCommandRecord, known, resolved, decoded, ok_bind]
      exact replayQuery_owned resolved appendable admits.supported owns
  | transfer known kind decoded =>
      simp only [List.mem_cons, List.not_mem_nil, or_false] at kind
      rcases kind with rfl | rfl | rfl | rfl | rfl | rfl <;>
        simp only [replayStreamCommand, replayRenderCommandRecord, known, resolved, decoded, ok_bind] <;>
        exact replayTransfer_owned resolved owns
  | bindVertexBuffers known kind decoded =>
      simp only [List.mem_cons, List.not_mem_nil, or_false] at kind
      rcases kind with rfl | rfl <;>
        simp only [replayStreamCommand, replayRenderCommandRecord, known, resolved, decoded, ok_bind] <;>
        exact replayBindVertexBuffers_owned resolved owns
  | bindIndexBuffer known kind decoded =>
      simp only [List.mem_cons, List.not_mem_nil, or_false] at kind
      rcases kind with rfl | rfl <;>
        simp only [replayStreamCommand, replayRenderCommandRecord, known, resolved, decoded, ok_bind] <;>
        exact replayBindIndexBuffer_owned resolved owns
  | drawIndirect known kind decoded =>
      simp only [List.mem_cons, List.not_mem_nil, or_false] at kind
      rcases kind with rfl | rfl <;>
        simp only [replayStreamCommand, replayRenderCommandRecord, known, resolved, decoded, ok_bind] <;>
        exact replayDrawIndirect_owned resolved owns
  | drawIndirectCount known kind decoded =>
      simp only [List.mem_cons, List.not_mem_nil, or_false] at kind
      rcases kind with rfl | rfl <;>
        simp only [replayStreamCommand, replayRenderCommandRecord, known, resolved, decoded, ok_bind] <;>
        exact replayDrawIndirectCount_owned resolved owns

end

end ServiceContext

end VulkanBridge
