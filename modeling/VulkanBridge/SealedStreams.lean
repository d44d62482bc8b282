import VulkanBridge.Recordings
import VulkanBridge.ReplayedStream

/-!
What a successful end sealed is a stream the service accepts, where the calls
alternate as Vulkan wants and their objects live on the device.
-/

namespace VulkanBridge

open ByteBuffer CheckedLoops

/-- Rendering begins and ends alternate, the draws between them, closed at the end. -/
def RenderingAlternates : Bool → List Command → Prop
  | rendering, [] => rendering = false
  | rendering, command :: rest =>
      command.placed rendering = true ∧ RenderingAlternates (command.renderingAfter rendering) rest

theorem nullable_ne_zero {type : ObjectType} {id : UInt64} : ∀ handle ∈ nullable type id, handle.2 ≠ 0 :=
  ServiceContext.forall_nullable.mpr fun nonzero => nonzero

theorem views_ne_zero (attachment : RenderingAttachment) : ∀ handle ∈ attachment.views, handle.2 ≠ 0 :=
  ServiceContext.forall_views.mpr ⟨nullable_ne_zero, nullable_ne_zero⟩

theorem listed_ne_zero {α : Type} [Inhabited α] {size : Nat} {count : UInt32} {items : Fin size → α}
    {type : ObjectType} {id : α → UInt64}
    (checked : ∀ index < count.toNat, handleExpect (id (slot items index)) type = true) :
    ∀ handle ∈ (listed count items).map fun item => (type, id item), handle.2 ≠ 0 := by
  rw [List.forall_mem_map, listed, List.forall_mem_map]
  intro index used
  exact handleExpect_ne_zero (checked index (List.mem_range.mp used))

theorem single_ne_zero {type : ObjectType} {id : UInt64} (expects : handleExpect id type = true) :
    ∀ handle ∈ [(type, id)], handle.2 ≠ 0 :=
  List.forall_mem_singleton.mpr (handleExpect_ne_zero expects)

theorem pair_ne_zero {first second : ObjectType} {left right : UInt64}
    (expects : handleExpect left first = true) (others : handleExpect right second = true) :
    ∀ handle ∈ [(first, left), (second, right)], handle.2 ≠ 0 :=
  List.forall_mem_cons.mpr ⟨handleExpect_ne_zero expects, single_ne_zero others⟩

theorem Command.handles_ne_zero {command : Command} (appendable : command.encoding.appendable = true) :
    ∀ handle ∈ command.handles, handle.2 ≠ 0 := by
  cases command with
  | beginRendering command =>
      rw [Command.handles, List.forall_mem_flatMap]
      exact fun attachment _ => views_ne_zero attachment
  | bindVertexBuffers opcode command =>
      rw [Command.handles, List.forall_mem_flatMap]
      exact fun id _ => nullable_ne_zero
  | bindIndexBuffer opcode command => exact nullable_ne_zero
  | initImageBarrier command =>
      simp only [Command.encoding, InitImageBarrierCommand.isAppendable, Bool.and_eq_true, List.all_eq_true,
        List.mem_range] at appendable
      exact listed_ne_zero fun index used => (appendable.2 index used).1
  | imageBarrier2 command =>
      simp only [Command.encoding, ImageBarrier2Command.isAppendable, Bool.and_eq_true, List.all_eq_true,
        List.mem_range, Bool.not_eq_true', Bool.or_eq_false_iff, Bool.not_eq_false'] at appendable
      rw [Command.handles, List.forall_mem_append]
      exact ⟨listed_ne_zero fun index used => (appendable.1.2 index used).1,
        listed_ne_zero fun index used => (appendable.2 index used).1⟩
  | bindDescriptorSets command =>
      simp only [Command.encoding, BindDescriptorSetsCommand.isAppendable, Bool.and_eq_true, List.all_eq_true,
        List.mem_range, Bool.not_eq_true', Bool.or_eq_false_iff, Bool.not_eq_false'] at appendable
      obtain ⟨⟨⟨⟨⟨layout, _⟩, _⟩, _⟩, _⟩, sets⟩ := appendable
      exact List.forall_mem_cons.mpr ⟨handleExpect_ne_zero layout, listed_ne_zero sets⟩
  | transfer opcode command =>
      simp only [Command.encoding, TransferCommand.isAppendable, Bool.and_eq_true, Bool.not_eq_true',
        Bool.or_eq_false_iff, Bool.not_eq_false'] at appendable
      obtain ⟨⟨_, ⟨⟨⟨source, destination⟩, _⟩, _⟩, _⟩, _⟩ := appendable
      exact pair_ne_zero source destination
  | drawIndirectCount opcode command =>
      simp only [Command.encoding, DrawIndirectCountCommand.isAppendable, Bool.not_eq_true',
        Bool.or_eq_false_iff, Bool.not_eq_false'] at appendable
      obtain ⟨⟨⟨⟨_, buffer⟩, counts⟩, _⟩, _⟩ := appendable
      exact pair_ne_zero buffer counts
  | setViewport | setScissor | draw | endRendering | vulkanBegin | vulkanEnd | drawIndexed | dynamicState
  | clearAttachments => exact List.forall_mem_nil _
  | _ =>
      apply single_ne_zero
      simp only [Command.encoding, BindGraphicsPipelineCommand.isAppendable, PushRotationCommand.isAppendable,
        FillBufferCommand.isAppendable, BufferHostReadBarrierCommand.isAppendable,
        ClearColorImageCommand.isAppendable, ClearColorImageGeneralCommand.isAppendable,
        PushConstantsCommand.isAppendable, DrawIndirectCommand.isAppendable,
        ClearDepthStencilImageCommand.isAppendable, UpdateBufferCommand.isAppendable,
        QueryCommand.isAppendable, Bool.and_eq_true, Bool.not_eq_true', Bool.or_eq_false_iff,
        Bool.not_eq_false'] at appendable
      simp only [appendable]

theorem makes_unique {recording : Recording} {commands others : List Command}
    (makes : recording.Makes commands)
    (made : recording.Makes others) : commands = others :=
  List.map_injective_iff.mpr (Option.some_injective Command) (makes.symm.trans made)

theorem CommandBufferProxy.beginCommandBuffer_closed {proxy : CommandBufferProxy} {region : StreamRegion}
    {info : Option (Chained BeginInfo)} (begun : (proxy.beginCommandBuffer region info).1 = vkSuccess) :
    proxy.streamRecording = false := by
  rw [Bool.eq_false_iff]
  intro recording
  simp only [beginCommandBuffer] at begun
  split at begun
  · cases begun
  · simp only [beginSection, recording, ↓reduceIte, failBegin] at begun
    cases begun

namespace ServiceContext

variable {context : ServiceContext} {deviceId : UInt64}

/-- Recordable commands that alternate are admitted where their objects live on
the device and their queries lie inside the pools. -/
theorem admitsAll_of_recordable {commands : List Command} {rendering : Bool}
    (recordable : ∀ command ∈ commands, command.Recordable)
    (alternates : RenderingAlternates rendering commands)
    (queries : ∀ command ∈ commands, context.QueriesInside deviceId command)
    (owned : ∀ command ∈ commands, ∀ handle ∈ command.handles, context.Owns deviceId handle.1 handle.2) :
    context.AdmitsAll deviceId rendering commands := by
  induction commands generalizing rendering with
  | nil => exact alternates
  | cons command rest ih =>
      obtain ⟨placed, later⟩ := alternates
      obtain ⟨first, others⟩ := List.forall_mem_cons.mp recordable
      obtain ⟨inside, insideRest⟩ := List.forall_mem_cons.mp queries
      obtain ⟨owns, ownsRest⟩ := List.forall_mem_cons.mp owned
      exact ⟨⟨first.streamed, owns, placed, first.supported, inside⟩, ih others later insideRest ownsRest⟩

variable {recording : Recording} {diagnostics : Bool} {proxy sealed : CommandBufferProxy}
  {region ending : StreamRegion} {commands : List Command} {owner : ResolvedCommandBuffer}

/-- The service accepts for the device what a successful end sealed, where
rendering alternates, queries lie inside their pools and every handle that is
not null is live on the device. -/
theorem sealed_stream_accepted (context : ServiceContext)
    (begun : (proxy.beginCommandBuffer region recording.info).1 = vkSuccess)
    (ended : recording.shared diagnostics proxy region ending = (vkSuccess, sealed))
    (makes : recording.Makes commands) (alternates : RenderingAlternates false commands)
    (resolved : context.resolveCommandBuffer proxy.wireId = .ok owner)
    (queries : ∀ command ∈ commands, context.QueriesInside owner.deviceId command)
    (owned : ∀ command ∈ commands, ∀ handle ∈ command.handles,
      handle.2 ≠ 0 → context.Owns owner.deviceId handle.1 handle.2) :
    context.validateCommandStream sealed.streamBuilder.bytes sealed.streamLength.toNat owner.deviceId =
      .ok () := by
  have closed := CommandBufferProxy.beginCommandBuffer_closed begun
  obtain ⟨flags, listed, done⟩ := Recording.shared_sealed closed ended
  obtain rfl := makes_unique done.makes makes
  obtain ⟨builder, length, built, finish, same⟩ := done.finished
  have recordable := makes.recordable
  have canonical : listed.map Command.cleared = listed :=
    (List.map_congr_left fun command member => (recordable command member).canonical).trans (List.map_id _)
  have named : ∀ command ∈ listed, ∀ handle ∈ command.handles,
      context.Owns owner.deviceId handle.1 handle.2 := by
    intro command member handle passed
    have appendable := built.checked command (List.mem_append_left _ (List.mem_cons_of_mem _ member))
    exact owned command member handle passed (Command.handles_ne_zero appendable handle passed)
  have admitted := admitsAll_of_recordable recordable alternates queries named
  rw [same]
  obtain ⟨_, _, _, _, stream⟩ := streamOf_finished listed built finish done.nonzero
    (done.wireId ▸ resolved) (fun command member => (recordable command member).filtered)
    (canonical.symm ▸ admitted)
  exact stream.accepted

/-- A scissor between a plain begin and an end. -/
def scissorRecording : Recording :=
  .ofCall (.vkCmdSetScissorWithCount 1 (some fun _ => ⟨0, 0, 1, 1⟩)) ⟨[], []⟩

theorem sealed_stream_accepted_setScissor : ∃ sealed,
    scissorRecording.shared false Recording.sampleProxy Recording.sampleRegion Recording.sampleRegion =
        (vkSuccess, sealed) ∧
      sampleContext.validateCommandStream sealed.streamBuilder.bytes sealed.streamLength.toNat
        sampleOwner.deviceId = .ok () := by
  have makes : scissorRecording.Makes [.setScissor ⟨0, 0, 1, 1⟩] := rfl
  obtain ⟨sealed, ended⟩ : ∃ sealed, scissorRecording.shared false Recording.sampleProxy
      Recording.sampleRegion Recording.sampleRegion = (vkSuccess, sealed) := ⟨_, rfl⟩
  refine ⟨sealed, ended, ?_⟩
  apply sealed_stream_accepted sampleContext rfl ended makes ⟨rfl, rfl⟩ sampleContext_resolves
  · exact List.forall_mem_singleton.mpr trivial
  · exact List.forall_mem_singleton.mpr (List.forall_mem_nil _)

end ServiceContext

end VulkanBridge
