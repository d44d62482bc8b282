import VulkanBridge.CheckedLoops
import VulkanBridge.CommandDecode

/-!
The cases of `commandDecode`, one for each command: what the opcode of the
record was and which decode function returned the command.
-/

namespace VulkanBridge

open CheckedLoops

inductive Decodes (record : CommandRecord) : Command → Prop where
  | beginRendering {command : BeginRenderingCommand} (known : Opcode.ofCode record.opcode = some .beginRendering)
      (decoded : commandDecodeBeginRendering record = .ok command) : Decodes record (.beginRendering command)
  | bindGraphicsPipeline {command : BindGraphicsPipelineCommand}
      (known : Opcode.ofCode record.opcode = some .bindGraphicsPipeline)
      (decoded : commandDecodeBindGraphicsPipeline record = .ok command) :
        Decodes record (.bindGraphicsPipeline command)
  | pushRotation {command : PushRotationCommand} (known : Opcode.ofCode record.opcode = some .pushRotation)
      (decoded : commandDecodePushRotation record = .ok command) : Decodes record (.pushRotation command)
  | setViewport {command : SetViewportCommand} (known : Opcode.ofCode record.opcode = some .setViewport)
      (decoded : commandDecodeSetViewport record = .ok command) : Decodes record (.setViewport command)
  | setScissor {command : SetScissorCommand} (known : Opcode.ofCode record.opcode = some .setScissor)
      (decoded : commandDecodeSetScissor record = .ok command) : Decodes record (.setScissor command)
  | draw {command : DrawCommand} (known : Opcode.ofCode record.opcode = some .draw)
      (decoded : commandDecodeDraw record = .ok command) : Decodes record (.draw command)
  | fillBuffer {command : FillBufferCommand} (known : Opcode.ofCode record.opcode = some .fillBuffer)
      (decoded : commandDecodeFillBuffer record = .ok command) : Decodes record (.fillBuffer command)
  | bufferHostReadBarrier {command : BufferHostReadBarrierCommand}
      (known : Opcode.ofCode record.opcode = some .bufferHostReadBarrier)
      (decoded : commandDecodeBufferHostReadBarrier record = .ok command) :
        Decodes record (.bufferHostReadBarrier command)
  | vulkanBegin {command : VulkanBeginCommand} (known : Opcode.ofCode record.opcode = some .vulkanBegin)
      (decoded : commandDecodeVulkanBegin record = .ok command) : Decodes record (.vulkanBegin command)
  | clearColorImage {command : ClearColorImageCommand} (known : Opcode.ofCode record.opcode = some .clearColorImage)
      (decoded : commandDecodeClearColorImage record = .ok command) : Decodes record (.clearColorImage command)
  | initImageBarrier {command : InitImageBarrierCommand} (known : Opcode.ofCode record.opcode = some .initImageBarrier)
      (decoded : commandDecodeInitImageBarrier record = .ok command) : Decodes record (.initImageBarrier command)
  | imageBarrier2 {command : ImageBarrier2Command} (known : Opcode.ofCode record.opcode = some .imageBarrier2)
      (decoded : commandDecodeImageBarrier2 record = .ok command) : Decodes record (.imageBarrier2 command)
  | clearColorImageGeneral {command : ClearColorImageGeneralCommand}
      (known : Opcode.ofCode record.opcode = some .clearColorImageGeneral)
      (decoded : commandDecodeClearColorImageGeneral record = .ok command) :
        Decodes record (.clearColorImageGeneral command)
  | bindDescriptorSets {command : BindDescriptorSetsCommand}
      (known : Opcode.ofCode record.opcode = some .bindDescriptorSets)
      (decoded : commandDecodeBindDescriptorSets record = .ok command) : Decodes record (.bindDescriptorSets command)
  | pushConstants {command : PushConstantsCommand} (known : Opcode.ofCode record.opcode = some .pushConstants)
      (decoded : commandDecodePushConstants record = .ok command) : Decodes record (.pushConstants command)
  | drawIndexed {command : DrawIndexedCommand} (known : Opcode.ofCode record.opcode = some .drawIndexed)
      (decoded : commandDecodeDrawIndexed record = .ok command) : Decodes record (.drawIndexed command)
  | dynamicState {command : DynamicStateCommand} (known : Opcode.ofCode record.opcode = some .dynamicState)
      (decoded : commandDecodeDynamicState record = .ok command) : Decodes record (.dynamicState command)
  | clearDepthStencilImage {command : ClearDepthStencilImageCommand}
      (known : Opcode.ofCode record.opcode = some .clearDepthStencilImage)
      (decoded : commandDecodeClearDepthStencilImage record = .ok command) :
        Decodes record (.clearDepthStencilImage command)
  | clearAttachments {command : ClearAttachmentsCommand} (known : Opcode.ofCode record.opcode = some .clearAttachments)
      (decoded : commandDecodeClearAttachments record = .ok command) : Decodes record (.clearAttachments command)
  | updateBuffer {command : UpdateBufferCommand} (known : Opcode.ofCode record.opcode = some .updateBuffer)
      (decoded : commandDecodeUpdateBuffer record = .ok command) : Decodes record (.updateBuffer command)
  | query {command : QueryCommand} (known : Opcode.ofCode record.opcode = some .query)
      (decoded : commandDecodeQuery record = .ok command) : Decodes record (.query command)
  | endRendering (known : Opcode.ofCode record.opcode = some .endRendering) : Decodes record .endRendering
  | vulkanEnd (known : Opcode.ofCode record.opcode = some .vulkanEnd) : Decodes record .vulkanEnd
  | transfer {opcode : Opcode} {command : TransferCommand} (known : Opcode.ofCode record.opcode = some opcode)
      (kind : opcode ∈ [Opcode.copyBuffer2, .copyBufferToImage2, .copyImageToBuffer2, .copyImage2, .blitImage2,
        .resolveImage2])
      (decoded : commandDecodeTransfer record = .ok command) : Decodes record (.transfer record.opcode command)
  | bindVertexBuffers {opcode : Opcode} {command : BindVertexBuffersCommand}
      (known : Opcode.ofCode record.opcode = some opcode)
      (kind : opcode ∈ [Opcode.bindVertexBuffers, .bindVertexBuffers2])
      (decoded : commandDecodeBindVertexBuffers record = .ok command) :
        Decodes record (.bindVertexBuffers record.opcode command)
  | bindIndexBuffer {opcode : Opcode} {command : BindIndexBufferCommand}
      (known : Opcode.ofCode record.opcode = some opcode)
      (kind : opcode ∈ [Opcode.bindIndexBuffer, .bindIndexBuffer2])
      (decoded : commandDecodeBindIndexBuffer record = .ok command) :
        Decodes record (.bindIndexBuffer record.opcode command)
  | drawIndirect {opcode : Opcode} {command : DrawIndirectCommand} (known : Opcode.ofCode record.opcode = some opcode)
      (kind : opcode ∈ [Opcode.drawIndirect, .drawIndexedIndirect])
      (decoded : commandDecodeDrawIndirect record = .ok command) : Decodes record (.drawIndirect record.opcode command)
  | drawIndirectCount {opcode : Opcode} {command : DrawIndirectCountCommand}
      (known : Opcode.ofCode record.opcode = some opcode)
      (kind : opcode ∈ [Opcode.drawIndirectCount, .drawIndexedIndirectCount])
      (decoded : commandDecodeDrawIndirectCount record = .ok command) :
        Decodes record (.drawIndirectCount record.opcode command)

theorem decodes_of_ok {record : CommandRecord} {command : Command}
    (decoded : commandDecode record = .ok command) : Decodes record command := by
  cases known : Opcode.ofCode record.opcode with
  | none => simp [commandDecode, known] at decoded
  | some opcode =>
      cases opcode <;> simp only [commandDecode, known, map_eq_ok, Except.ok.injEq] at decoded
      case endRendering => exact decoded ▸ .endRendering known
      case vulkanEnd => exact decoded ▸ .vulkanEnd known
      all_goals obtain ⟨_, decoded, rfl⟩ := decoded
      case copyBuffer2 | copyBufferToImage2 | copyImageToBuffer2 | copyImage2 | blitImage2 | resolveImage2 =>
        exact .transfer known (by simp) decoded
      case bindVertexBuffers | bindVertexBuffers2 => exact .bindVertexBuffers known (by simp) decoded
      case bindIndexBuffer | bindIndexBuffer2 => exact .bindIndexBuffer known (by simp) decoded
      case drawIndirect | drawIndexedIndirect => exact .drawIndirect known (by simp) decoded
      case drawIndirectCount | drawIndexedIndirectCount => exact .drawIndirectCount known (by simp) decoded
      all_goals constructor <;> assumption

end VulkanBridge
