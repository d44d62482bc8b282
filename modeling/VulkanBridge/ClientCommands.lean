import VulkanBridge.ClientCalls
import VulkanBridge.CommandMeaning
import VulkanBridge.CommandCodec

/-!
What the commands of the client have in common: their idle parts are zero, only
a blit has a filter, and the values are those the service supports.
-/

namespace VulkanBridge

theorem keep_fill {α : Type} [Inhabited α] (size count : Nat) (element : Nat → α) :
    keep count (fill size count element) = fill size count element := by
  funext index
  by_cases inside : index.val < count
  · simp [keep, inside]
  · simp [keep, fill, inside]

/-- A command as a record carries it, of a kind and with values a stream may hold. -/
structure Command.Recordable (command : Command) : Prop where
  canonical : command.cleared = command
  filtered : command.misfiltered = false
  streamed : command.isStreamed = true
  supported : command.isSupported = true

def Command.isPlain : Command → Bool
  | .bindGraphicsPipeline _ | .setViewport _ | .setScissor _ | .draw _ | .endRendering | .fillBuffer _
  | .clearColorImage _ | .bindIndexBuffer _ _ | .drawIndexed _ | .drawIndirect _ _
  | .drawIndirectCount _ _ => true
  | _ => false

theorem Command.recordable_of_isPlain {command : Command} (plain : command.isPlain = true) :
    command.Recordable := by
  cases command with
  | bindGraphicsPipeline | setViewport | setScissor | draw | endRendering | fillBuffer | clearColorImage
  | bindIndexBuffer | drawIndexed | drawIndirect | drawIndirectCount => exact ⟨rfl, rfl, rfl, rfl⟩
  | _ => exact absurd plain (by simp [isPlain])

theorem checked_recordable {refused : Bool} {plain command : Command} (isPlain : plain.isPlain = true)
    (made : (if refused then none else some plain) = some command) : command.Recordable := by
  simp only [Option.ite_none_left_eq_some, Option.some.injEq] at made
  obtain ⟨_, rfl⟩ := made
  exact Command.recordable_of_isPlain isPlain

theorem queryCommand_recordable {queryPool stageMask : UInt64} {firstQuery queryCount flags index : UInt32}
    {kind : QueryKind} (narrow : kind = .writeTimestamp → stageMask ≤ 0xffffffff) :
    (queryCommand queryPool firstQuery queryCount flags index stageMask kind).Recordable := by
  refine ⟨rfl, rfl, rfl, ?_⟩
  simp only [queryCommand, Command.isSupported, Bool.not_eq_true', Bool.and_eq_false_imp, beq_iff_eq,
    decide_eq_false_iff_not]
  intro timestamp
  have kindIs : kind = .writeTimestamp := by
    cases kind with
    | writeTimestamp => rfl
    | _ => exact absurd timestamp (by decide)
  exact UInt64.not_lt.mpr (narrow kindIs)

theorem toUInt64_le (stage : UInt32) : stage.toUInt64 ≤ 0xffffffff := by
  rw [UInt64.le_iff_toNat_le, UInt32.toNat_toUInt64]
  exact Nat.le_of_lt_succ stage.toNat_lt

theorem vkCmdBeginRendering_recordable {info : Option (Chained RenderingRequest)} {command : Command}
    (made : vkCmdBeginRendering info = some command) : command.Recordable := by
  cases info with
  | none => contradiction
  | some chained =>
      simp only [vkCmdBeginRendering, Option.ite_none_left_eq_some, Option.bind_eq_bind,
        Option.bind_eq_some_iff, Option.pure_def, Option.some.injEq] at made
      obtain ⟨_, colors, _, depth, depthMade, stencil, stencilMade, rfl⟩ := made
      refine ⟨?_, rfl, rfl, rfl⟩
      simp only [Command.cleared, BeginRenderingCommand.cleared, keep_fill, Command.beginRendering.injEq,
        BeginRenderingCommand.mk.injEq, true_and, ite_eq_left_iff]
      constructor
      · intro absent
        cases given : chained.members.depthAttachment with
        | none =>
            rw [given] at depthMade
            exact Option.some.inj depthMade
        | some attachment => simp [given] at absent
      · intro absent
        cases given : chained.members.stencilAttachment with
        | none =>
            rw [given] at stencilMade
            exact Option.some.inj stencilMade
        | some attachment => simp [given] at absent

theorem vkCmdPushConstants_recordable {layout : UInt64} {stageFlags offset size : UInt32}
    {values : Option (Nat → UInt8)} {command : Command}
    (made : vkCmdPushConstants layout stageFlags offset size values = some command) :
    command.Recordable := by
  cases values with
  | none => contradiction
  | some values =>
      simp only [vkCmdPushConstants, Option.ite_none_left_eq_some, Option.some.injEq] at made
      obtain ⟨_, rfl⟩ := made
      refine ⟨?_, rfl, rfl, rfl⟩
      simp only [Command.cleared, PushConstantsCommand.cleared, keep_fill]

theorem vkCmdBindVertexBuffers_recordable {opcode : Opcode} {firstBinding bindingCount : UInt32}
    {buffers offsets sizes strides : Option (Nat → UInt64)} {command : Command}
    (made : vkCmdBindVertexBuffers opcode firstBinding bindingCount buffers offsets sizes strides =
      some command) : command.Recordable := by
  simp only [vkCmdBindVertexBuffers] at made
  split at made
  · simp only [Option.ite_none_left_eq_some, Option.some.injEq] at made
    obtain ⟨_, rfl⟩ := made
    refine ⟨?_, rfl, rfl, rfl⟩
    have zeros : ∀ values : Option (Nat → UInt64), values.isSome = false →
        (fun _ => 0) = fill 16 bindingCount.toNat (values.getD fun _ => 0) := by
      intro values absent
      cases values with
      | none => exact (BindVertexBuffersCommand.fill_zero 16 bindingCount.toNat).symm
      | some => contradiction
    simp only [Command.cleared, BindVertexBuffersCommand.cleared, vertexBuffersCommand, keep_fill,
      Command.bindVertexBuffers.injEq, BindVertexBuffersCommand.mk.injEq, true_and, ite_eq_left_iff]
    constructor
    · intro absent
      exact zeros sizes (by simpa using absent)
    · intro absent
      exact zeros strides (by simpa using absent)
  · contradiction

theorem dynamicStateCommand_recordable {kind : DynamicStateKind} {values : List UInt32} {command : Command}
    (made : dynamicStateCommand kind values = some command) : command.Recordable := by
  simp only [dynamicStateCommand, Option.ite_none_left_eq_some, Option.some.injEq] at made
  obtain ⟨few, rfl⟩ := made
  refine ⟨?_, rfl, rfl, rfl⟩
  have counted : (UInt32.ofNat values.length).toNat = values.length := by
    apply UInt32.toNat_ofNat_of_lt'
    simp only [Bool.or_eq_true, beq_iff_eq, decide_eq_true_eq, not_or] at few
    simp only [UInt32.size]
    omega
  simp only [Command.cleared, DynamicStateCommand.cleared, counted, keep_fill]

theorem commandClearColorRangeSupported_eq :
    commandClearColorRangeSupported = clearColorRangeSupported := rfl

theorem vkCmdClearDepthStencilImage_recordable {image : UInt64} {imageLayout rangeCount : UInt32}
    {value : Option ClearDepthStencilValue} {ranges : Option (Nat → ImageSubresourceRange)}
    {command : Command}
    (made : vkCmdClearDepthStencilImage image imageLayout value rangeCount ranges = some command) :
    command.Recordable := by
  simp only [vkCmdClearDepthStencilImage] at made
  split at made
  · simp only [Option.ite_none_left_eq_some, Option.some.injEq] at made
    obtain ⟨_, _, rfl⟩ := made
    refine ⟨?_, rfl, rfl, rfl⟩
    simp only [Command.cleared, ClearDepthStencilImageCommand.cleared, keep_fill]
  · contradiction

theorem vkCmdClearAttachments_recordable {attachmentCount rectCount : UInt32}
    {attachments : Option (Nat → ClearAttachment)} {rects : Option (Nat → ClearRect)} {command : Command}
    (made : vkCmdClearAttachments attachmentCount attachments rectCount rects = some command) :
    command.Recordable := by
  simp only [vkCmdClearAttachments] at made
  split at made
  · simp only [Option.ite_none_left_eq_some, Option.some.injEq] at made
    obtain ⟨_, _, _, rfl⟩ := made
    refine ⟨?_, rfl, rfl, rfl⟩
    simp only [Command.cleared, ClearAttachmentsCommand.cleared, keep_fill]
  · contradiction

/-- The ranges of a command made with `fill` are those of the caller's array. -/
theorem listed_fill {α : Type} [Inhabited α] {size : Nat} {count : UInt32} {element : Nat → α}
    (small : count.toNat ≤ size) : listed count (fill size count.toNat element) =
      (List.range count.toNat).map element := by
  simp only [listed]
  apply List.map_congr_left
  intro index member
  have inside := List.mem_range.mp member
  exact slot_fill element (by omega) inside

theorem vkCmdClearColorImage_recordable {image : UInt64} {imageLayout rangeCount : UInt32}
    {color : Option (Fin 4 → UInt32)} {ranges : Option (Nat → ImageSubresourceRange)} {command : Command}
    (made : vkCmdClearColorImage image imageLayout color rangeCount ranges = some command) :
    command.Recordable := by
  simp only [vkCmdClearColorImage] at made
  split at made
  next color ranges =>
      simp only [Option.ite_none_left_eq_some] at made
      obtain ⟨shape, supported, made⟩ := made
      split at made
      · cases made
        exact Command.recordable_of_isPlain rfl
      · cases made
        simp only [Bool.or_eq_true, Bool.and_eq_true, bne_iff_ne, beq_iff_eq, decide_eq_true_eq, not_or,
          not_and, Decidable.not_not] at shape
        obtain ⟨⟨layout, _⟩, few⟩ := shape
        refine ⟨?_, rfl, rfl, ?_⟩
        · simp only [Command.cleared, ClearColorImageGeneralCommand.cleared, keep_fill]
        · have small : rangeCount.toNat ≤ 4 := toNat_le_of_not_gt 4 rfl few
          simp only [Command.isSupported, listed_fill small, List.all_map, Bool.and_eq_true, Bool.or_eq_true,
            beq_iff_eq]
          refine ⟨?_, ?_⟩
          · by_cases destination : imageLayout = 7
            · exact .inl destination
            · exact .inr (layout destination)
          · simpa [commandClearColorRangeSupported_eq] using supported
  next => contradiction

theorem transferred_recordable {Region : Type} {expected : StructureType} {supported : Region → Bool}
    {toWire : Region → TransferRegion} {regionCount sourceLayout destinationLayout filter : UInt32}
    {regions : Nat → Chained Region} {refused : Bool} {opcode : UInt16} {source destination : UInt64}
    {command : Command} (filtered : opcode = Opcode.blitImage2.code ∨ filter = 0)
    (made : (if refused then none
      else do
        let wire ← transferRegions expected supported toWire regionCount regions
        return Command.transfer opcode
          ⟨source, destination, sourceLayout, destinationLayout, filter, regionCount, wire⟩) = some command) :
    command.Recordable := by
  simp only [transferRegions, Option.ite_none_left_eq_some, Option.bind_eq_bind, Option.bind_eq_some_iff,
    Option.pure_def, Option.some.injEq] at made
  obtain ⟨_, wire, ⟨_, rfl⟩, rfl⟩ := made
  refine ⟨?_, ?_, rfl, rfl⟩
  · simp only [Command.cleared, TransferCommand.cleared, keep_fill]
  · rcases filtered with rfl | rfl
    · simp [Command.misfiltered]
    · simp [Command.misfiltered]

theorem vkCmdCopyBuffer2_recordable {info : Option (Chained CopyBufferInfo)} {command : Command}
    (made : vkCmdCopyBuffer2 info = some command) : command.Recordable := by
  cases info with
  | none => contradiction
  | some chained =>
      simp only [vkCmdCopyBuffer2] at made
      split at made
      · contradiction
      · exact transferred_recordable (.inr rfl) made

theorem vkCmdCopyBufferToImage2_recordable {info : Option (Chained CopyBufferToImageInfo)} {command : Command}
    (made : vkCmdCopyBufferToImage2 info = some command) : command.Recordable := by
  cases info with
  | none => contradiction
  | some chained =>
      simp only [vkCmdCopyBufferToImage2] at made
      split at made
      · contradiction
      · exact transferred_recordable (.inr rfl) made

theorem vkCmdCopyImageToBuffer2_recordable {info : Option (Chained CopyImageToBufferInfo)} {command : Command}
    (made : vkCmdCopyImageToBuffer2 info = some command) : command.Recordable := by
  cases info with
  | none => contradiction
  | some chained =>
      simp only [vkCmdCopyImageToBuffer2] at made
      split at made
      · contradiction
      · exact transferred_recordable (.inr rfl) made

theorem imageCopyCommand_recordable {infoType regionType : StructureType} {opcode : Opcode}
    {info : Option (Chained CopyImageInfo)} {command : Command}
    (made : imageCopyCommand infoType regionType opcode info = some command) : command.Recordable := by
  cases info with
  | none => contradiction
  | some chained =>
      simp only [imageCopyCommand] at made
      split at made
      · contradiction
      · exact transferred_recordable (.inr rfl) made

theorem vkCmdBlitImage2_recordable {info : Option (Chained BlitImageInfo)} {command : Command}
    (made : vkCmdBlitImage2 info = some command) : command.Recordable := by
  cases info with
  | none => contradiction
  | some chained =>
      simp only [vkCmdBlitImage2] at made
      split at made
      · contradiction
      · exact transferred_recordable (.inl rfl) made

theorem vkCmdUpdateBuffer_recordable {destinationBuffer destinationOffset dataSize : UInt64}
    {data : Option (Nat → UInt8)} {command : Command}
    (made : vkCmdUpdateBuffer destinationBuffer destinationOffset dataSize data = some command) :
    command.Recordable := by
  cases data with
  | none => contradiction
  | some data =>
      simp only [vkCmdUpdateBuffer, Option.ite_none_left_eq_some, Option.some.injEq] at made
      obtain ⟨shape, rfl⟩ := made
      simp only [Bool.or_eq_true, decide_eq_true_eq, not_or, gt_iff_lt, UInt64.not_lt,
        UInt64.le_iff_toNat_le] at shape
      have small : dataSize.toNat ≤ 65536 := shape.1.1.2
      have narrowed : dataSize.toUInt32.toNat = dataSize.toNat := by
        rw [UInt64.toNat_toUInt32]
        exact Nat.mod_eq_of_lt (by omega)
      refine ⟨?_, rfl, rfl, rfl⟩
      simp only [Command.cleared, UpdateBufferCommand.cleared, narrowed, keep_fill]

theorem vkCmdBindDescriptorSets_recordable {pipelineBindPoint : UInt32} {layout : UInt64}
    {firstSet descriptorSetCount dynamicOffsetCount : UInt32} {descriptorSets : Option (Nat → UInt64)}
    {dynamicOffsets : Option (Nat → UInt32)} {command : Command}
    (made : vkCmdBindDescriptorSets pipelineBindPoint layout firstSet descriptorSetCount descriptorSets
      dynamicOffsetCount dynamicOffsets = some command) : command.Recordable := by
  cases descriptorSets with
  | none => contradiction
  | some descriptorSets =>
      simp only [vkCmdBindDescriptorSets, Option.ite_none_left_eq_some, Option.some.injEq] at made
      obtain ⟨_, rfl⟩ := made
      refine ⟨?_, rfl, rfl, rfl⟩
      simp only [Command.cleared, BindDescriptorSetsCommand.cleared, keep_fill]

theorem commandImageLayoutSupported_eq : commandImageLayoutSupported = imageLayoutSupported := rfl

theorem commandImageBarrierRangeSupported_eq :
    commandImageBarrierRangeSupported = imageBarrierRangeSupported := rfl

theorem barrierMembers_supported {Barrier : Type} [Inhabited Barrier] {size : Nat} {count : UInt32}
    {barriers : Option (Nat → Chained Barrier)} {chainedSupported : Chained Barrier → Bool}
    {supported : Barrier → Bool} (small : count.toNat ≤ size)
    (checked : barriersSupported count barriers chainedSupported = true)
    (agree : ∀ barrier, chainedSupported barrier = true → supported barrier.members = true) :
    (listed count (barrierMembers size count barriers)).all supported = true := by
  rw [barrierMembers, listed_fill small, List.all_map, List.all_eq_true]
  intro index member
  cases barriers with
  | none =>
      have empty : count = 0 := by simpa [barriersSupported] using checked
      simp [empty] at member
  | some barriers =>
      rw [barriersSupported, List.all_eq_true] at checked
      exact agree _ (checked index member)

theorem vkCmdPipelineBarrier2_recordable {info : Option (Chained DependencyInfo)} {command : Command}
    (made : vkCmdPipelineBarrier2 info = some command) : command.Recordable := by
  cases info with
  | none => contradiction
  | some chained =>
      simp only [vkCmdPipelineBarrier2, Option.ite_none_left_eq_some, Option.some.injEq] at made
      obtain ⟨shape, checked, rfl⟩ := made
      simp only [Bool.or_eq_true, Bool.not_eq_true', not_or, Bool.not_eq_false, bne_iff_ne, ne_eq,
        Decidable.not_not, decide_eq_true_eq] at shape checked
      obtain ⟨⟨⟨⟨_, flags⟩, _⟩, fewBuffers⟩, fewImages⟩ := shape
      obtain ⟨⟨_, buffers⟩, images⟩ := checked
      refine ⟨?_, rfl, rfl, ?_⟩
      · simp only [Command.cleared, ImageBarrier2Command.cleared, barrierMembers, keep_fill]
      · simp only [Command.isSupported, Bool.and_eq_true, beq_iff_eq]
        refine ⟨⟨flags, ?_⟩, ?_⟩
        · apply barrierMembers_supported (toNat_le_of_not_gt 256 rfl fewBuffers) buffers
          intro barrier supported
          simp only [bufferBarrierSupported, Bool.and_eq_true] at supported
          exact supported.2
        · apply barrierMembers_supported (toNat_le_of_not_gt 2048 rfl fewImages) images
          intro barrier supported
          simp only [imageMemoryBarrierSupported, commandImageLayoutSupported_eq,
            commandImageBarrierRangeSupported_eq, Bool.and_eq_true] at supported
          obtain ⟨⟨⟨⟨⟨_, old⟩, new⟩, defined⟩, initialized⟩, range⟩ := supported
          simp only [imageBarrierSupported, old, new, defined, initialized, range, Bool.and_self]

theorem ClientCall.command_recordable {call : ClientCall} {command : Command}
    (made : call.command = some command) : command.Recordable := by
  cases call with
  | vkCmdResetQueryPool | vkCmdBeginQuery | vkCmdEndQuery | vkCmdWriteTimestamp2
  | vkCmdBeginQueryIndexedEXT | vkCmdEndQueryIndexedEXT =>
      cases made
      exact queryCommand_recordable (by simp)
  | vkCmdWriteTimestamp stage =>
      cases made
      exact queryCommand_recordable fun _ => toUInt64_le stage
  | vkCmdEndRendering | vkCmdDraw | vkCmdBindIndexBuffer | vkCmdBindIndexBuffer2 | vkCmdDrawIndexed
  | vkCmdDrawIndirect | vkCmdDrawIndexedIndirect | vkCmdDrawIndirectCount | vkCmdDrawIndexedIndirectCount =>
      cases made
      exact Command.recordable_of_isPlain rfl
  | vkCmdBeginRendering => exact vkCmdBeginRendering_recordable made
  | vkCmdBindPipeline | vkCmdFillBuffer => exact checked_recordable rfl made
  | vkCmdPushConstants => exact vkCmdPushConstants_recordable made
  | vkCmdSetViewportWithCount viewportCount viewports =>
      cases viewports with
      | none => contradiction
      | some viewports => exact checked_recordable rfl made
  | vkCmdSetScissorWithCount scissorCount scissors =>
      cases scissors with
      | none => contradiction
      | some scissors => exact checked_recordable rfl made
  | vkCmdBindVertexBuffers | vkCmdBindVertexBuffers2 => exact vkCmdBindVertexBuffers_recordable made
  | vkCmdSetBlendConstants constants =>
      cases constants with
      | none => contradiction
      | some constants => exact dynamicStateCommand_recordable made
  | vkCmdClearDepthStencilImage => exact vkCmdClearDepthStencilImage_recordable made
  | vkCmdClearAttachments => exact vkCmdClearAttachments_recordable made
  | vkCmdCopyBuffer2 => exact vkCmdCopyBuffer2_recordable made
  | vkCmdCopyBufferToImage2 => exact vkCmdCopyBufferToImage2_recordable made
  | vkCmdCopyImageToBuffer2 => exact vkCmdCopyImageToBuffer2_recordable made
  | vkCmdCopyImage2 | vkCmdResolveImage2 => exact imageCopyCommand_recordable made
  | vkCmdBlitImage2 => exact vkCmdBlitImage2_recordable made
  | vkCmdUpdateBuffer => exact vkCmdUpdateBuffer_recordable made
  | vkCmdCopyBuffer =>
      obtain ⟨_, _, converted⟩ := Option.bind_eq_some_iff.mp made
      exact vkCmdCopyBuffer2_recordable converted
  | vkCmdCopyBufferToImage =>
      obtain ⟨_, _, converted⟩ := Option.bind_eq_some_iff.mp made
      exact vkCmdCopyBufferToImage2_recordable converted
  | vkCmdCopyImageToBuffer =>
      obtain ⟨_, _, converted⟩ := Option.bind_eq_some_iff.mp made
      exact vkCmdCopyImageToBuffer2_recordable converted
  | vkCmdCopyImage | vkCmdResolveImage =>
      obtain ⟨_, _, converted⟩ := Option.bind_eq_some_iff.mp made
      exact imageCopyCommand_recordable converted
  | vkCmdBlitImage =>
      obtain ⟨_, _, converted⟩ := Option.bind_eq_some_iff.mp made
      exact vkCmdBlitImage2_recordable converted
  | vkCmdBindDescriptorSets => exact vkCmdBindDescriptorSets_recordable made
  | vkCmdPipelineBarrier2 => exact vkCmdPipelineBarrier2_recordable made
  | vkCmdClearColorImage => exact vkCmdClearColorImage_recordable made
  | _ => exact dynamicStateCommand_recordable made

end VulkanBridge
