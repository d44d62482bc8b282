import VulkanBridge.StreamReplay

/-!
The native calls of a whole validated stream: begin first, end last, rendering
alternating with the draws inside, and only handles of the device.
-/

namespace VulkanBridge

open ByteBuffer CheckedLoops

namespace ServiceContext

variable {driver : NativeDriver} {context : ServiceContext} {commandBufferId deviceId : UInt64}
  {owner : ResolvedCommandBuffer}

def PassesOnly (context : ServiceContext) (command : Command) (call : NativeCall) : Prop :=
  ∀ handle ∈ call.arguments.handles, ∃ id, (handle.1, id) ∈ command.handles ∧
    context.native handle.1 id = handle.2

theorem nullable_native {type : ObjectType} {id : UInt64} {handle : ObjectType × UInt64}
    (member : handle ∈ nullable type (context.native type id)) :
    (handle.1, id) ∈ nullable type id ∧ context.native handle.1 id = handle.2 := by
  by_cases null : id = 0
  · simp [nullable, null, native_zero] at member
  · simp only [nullable] at member
    split at member
    · simp at member
    · obtain rfl := List.mem_singleton.mp member
      simp [nullable, null]

theorem attachment_views {attachment : RenderingAttachment} {handle : ObjectType × UInt64}
    (member : handle ∈ ((context.target driver owner).attachment attachment).views) :
    ∃ id, (handle.1, id) ∈ attachment.views ∧ context.native handle.1 id = handle.2 := by
  rcases List.mem_append.mp member with first | second
  · obtain ⟨named, same⟩ := nullable_native first
    exact ⟨_, List.mem_append_left _ named, same⟩
  · obtain ⟨named, same⟩ := nullable_native second
    exact ⟨_, List.mem_append_right _ named, same⟩

theorem renderingInfo_attachments (target : NativeTarget) (command : BeginRenderingCommand) :
    (target.renderingInfo command).colorAttachments ++
        (target.renderingInfo command).depthAttachment.toList ++
        (target.renderingInfo command).stencilAttachment.toList =
      command.attachments.map target.attachment := by
  simp only [NativeTarget.renderingInfo, BeginRenderingCommand.attachments, List.map_append]
  congr 1
  · congr 1
    split <;> rfl
  · split <;> rfl

theorem transferCall_handles (opcode : UInt16) (command : TransferCommand) (source destination : UInt64) :
    (transferCall opcode command source destination).2.handles =
      [(transferSourceType opcode, source), (transferDestinationType opcode, destination)] := by
  simp only [transferCall, transferSourceType, transferDestinationType, transferSourceIsBuffer,
    transferDestinationIsBuffer, Bool.or_eq_true, beq_iff_eq]
  by_cases copyBuffer : opcode = Opcode.copyBuffer2.code
  · simp [copyBuffer, NativeArguments.handles]
  by_cases toImage : opcode = Opcode.copyBufferToImage2.code
  · simp [toImage, Opcode.code, NativeArguments.handles]
  by_cases toBuffer : opcode = Opcode.copyImageToBuffer2.code
  · simp [toBuffer, Opcode.code, NativeArguments.handles]
  simp only [copyBuffer, toImage, toBuffer, or_self, ↓reduceIte]
  split
  next => rfl
  next =>
      split <;> rfl

theorem nativeCalls_passesOnly (command : Command) :
    ∀ call ∈ command.nativeCalls (context.target driver owner), context.PassesOnly command call := by
  cases command with
  | beginRendering command =>
      simp only [Command.nativeCalls, List.forall_mem_singleton]
      intro handle member
      simp only [NativeTarget.call, NativeArguments.handles, RenderingInfo.views, renderingInfo_attachments,
        List.mem_flatMap, List.mem_map] at member
      obtain ⟨_, ⟨attachment, named, rfl⟩, member⟩ := member
      obtain ⟨id, view, same⟩ := attachment_views member
      exact ⟨id, List.mem_flatMap.mpr ⟨attachment, named, view⟩, same⟩
  | bindVertexBuffers opcode command =>
      simp only [Command.nativeCalls, List.forall_mem_singleton, NativeTarget.bindVertexBuffers]
      intro handle member
      have passed : handle ∈ ((listed command.bindingCount command.bufferIds).map
          (context.native .buffer)).flatMap (nullable .buffer) := by
        split at member <;> exact member
      simp only [List.mem_flatMap, List.mem_map] at passed
      obtain ⟨_, ⟨id, named, rfl⟩, passed⟩ := passed
      obtain ⟨view, same⟩ := nullable_native passed
      exact ⟨id, List.mem_flatMap.mpr ⟨id, named, view⟩, same⟩
  | bindIndexBuffer opcode command =>
      simp only [Command.nativeCalls, List.forall_mem_singleton, NativeTarget.bindIndexBuffer]
      intro handle member
      have passed : handle ∈ nullable .buffer (context.native .buffer command.bufferId) := by
        split at member <;> exact member
      exact ⟨_, nullable_native passed⟩
  | imageBarrier2 command =>
      simp only [Command.nativeCalls, List.forall_mem_singleton]
      intro handle member
      simp only [NativeTarget.call, NativeArguments.handles, List.map_map, List.mem_append, List.mem_map,
        Function.comp_apply] at member
      rcases member with ⟨barrier, named, rfl⟩ | ⟨barrier, named, rfl⟩
      · exact ⟨barrier.bufferId, List.mem_append_left _ (List.mem_map_of_mem named), rfl⟩
      · exact ⟨barrier.imageId, List.mem_append_right _ (List.mem_map_of_mem named), rfl⟩
  | initImageBarrier command =>
      simp only [Command.nativeCalls, List.forall_mem_singleton]
      intro handle member
      simp only [NativeTarget.call, NativeArguments.handles, List.map_nil, List.nil_append, List.map_map,
        List.mem_map, Function.comp_apply] at member
      obtain ⟨id, named, rfl⟩ := member
      exact ⟨id, List.mem_map_of_mem named, rfl⟩
  | bindDescriptorSets command =>
      simp only [Command.nativeCalls, List.forall_mem_singleton]
      intro handle member
      simp only [NativeTarget.call, NativeArguments.handles, List.mem_cons, List.map_map, List.mem_map,
        Function.comp_apply] at member
      rcases member with rfl | ⟨id, named, rfl⟩
      · exact ⟨_, List.mem_cons_self, rfl⟩
      · exact ⟨id, List.mem_cons_of_mem _ (List.mem_map_of_mem named), rfl⟩
  | transfer opcode command =>
      simp only [Command.nativeCalls, List.forall_mem_singleton]
      intro handle member
      simp only [NativeTarget.transfer, NativeTarget.call, transferCall_handles, List.mem_cons,
        List.not_mem_nil, or_false] at member
      rcases member with rfl | rfl
      · exact ⟨_, List.mem_cons_self, rfl⟩
      · exact ⟨_, List.mem_cons_of_mem _ List.mem_cons_self, rfl⟩
  | drawIndirectCount opcode command =>
      simp only [Command.nativeCalls, List.forall_mem_singleton]
      intro handle member
      simp only [NativeTarget.call, NativeArguments.handles, List.mem_cons, List.not_mem_nil, or_false] at member
      rcases member with rfl | rfl
      · exact ⟨_, List.mem_cons_self, rfl⟩
      · exact ⟨_, List.mem_cons_of_mem _ List.mem_cons_self, rfl⟩
  | query command =>
      simp only [Command.nativeCalls, NativeTarget.query]
      cases QueryKind.ofCode command.kind with
      | none => simp
      | some kind =>
          cases kind <;> simp [PassesOnly, NativeTarget.call, NativeArguments.handles, Command.handles, target]
  | dynamicState command =>
      simp only [Command.nativeCalls]
      split <;> simp [PassesOnly, NativeTarget.call, NativeArguments.handles]
  | _ =>
      simp [PassesOnly, Command.nativeCalls, NativeTarget.call, NativeArguments.handles, Command.handles,
        target, fillCalls, hostReadBarrier]

def renderingAfterCall (rendering : Bool) (call : NativeCall) : Bool :=
  if call.arguments.isBeginRendering then true
  else if call.arguments.isEndRendering then false
  else rendering

/-- Begin and end of rendering alternate, closed at the end, with every draw
between them. -/
def RenderingOrdered : Bool → List NativeCall → Prop
  | rendering, [] => rendering = false
  | rendering, call :: rest =>
      (call.arguments.isBeginRendering = true → rendering = false) ∧
        (call.arguments.isEndRendering = true → rendering = true) ∧
        (call.arguments.isDraw = true → rendering = true) ∧
        RenderingOrdered (renderingAfterCall rendering call) rest

def isBracket : NativeArguments → Bool
  | .beginCommandBuffer _ | .endCommandBuffer => true
  | _ => false

def isQuiet (arguments : NativeArguments) : Bool :=
  !arguments.isBeginRendering && !arguments.isEndRendering && !arguments.isDraw && !isBracket arguments

theorem nativeCalls_quiet {target : NativeTarget} {command : Command}
    (quiet : command ≠ .endRendering ∧ (∀ rendering, command ≠ .beginRendering rendering) ∧
      command.isDraw = false ∧ command.isStreamed = true) :
    ∀ call ∈ command.nativeCalls target, isQuiet call.arguments = true := by
  cases command with
  | beginRendering command => exact absurd rfl (quiet.2.1 command)
  | endRendering => exact absurd rfl quiet.1
  | draw | drawIndexed | drawIndirect | drawIndirectCount =>
      exact absurd quiet.2.2.1 (by simp [Command.isDraw])
  | vulkanBegin | vulkanEnd | pushRotation | bufferHostReadBarrier =>
      exact absurd quiet.2.2.2 (by simp [Command.isStreamed])
  | transfer opcode command =>
      simp only [Command.nativeCalls, List.forall_mem_singleton, NativeTarget.transfer, NativeTarget.call,
        transferCall]
      split_ifs <;> rfl
  | query command =>
      simp only [Command.nativeCalls, NativeTarget.query]
      cases QueryKind.ofCode command.kind with
      | none => simp
      | some kind => cases kind <;> exact List.forall_mem_singleton.mpr rfl
  | dynamicState command =>
      simp only [Command.nativeCalls]
      split
      · simp
      · exact List.forall_mem_singleton.mpr rfl
  | bindVertexBuffers opcode command =>
      simp only [Command.nativeCalls, List.forall_mem_singleton, NativeTarget.bindVertexBuffers]
      split <;> rfl
  | bindIndexBuffer opcode command =>
      simp only [Command.nativeCalls, List.forall_mem_singleton, NativeTarget.bindIndexBuffer]
      split <;> rfl
  | fillBuffer command =>
      exact List.forall_mem_cons.mpr ⟨rfl, List.forall_mem_singleton.mpr rfl⟩
  | _ => exact List.forall_mem_singleton.mpr rfl

theorem quiet_ordered {rendering : Bool} {calls rest : List NativeCall}
    (quiet : ∀ call ∈ calls, isQuiet call.arguments = true) (ordered : RenderingOrdered rendering rest) :
    RenderingOrdered rendering (calls ++ rest) := by
  induction calls with
  | nil => exact ordered
  | cons call calls ih =>
      obtain ⟨first, others⟩ := List.forall_mem_cons.mp quiet
      simp only [isQuiet, Bool.and_eq_true, Bool.not_eq_true'] at first
      obtain ⟨⟨⟨notBegin, notEnd⟩, notDraw⟩, _⟩ := first
      simp only [List.cons_append, RenderingOrdered, renderingAfterCall, notBegin, notEnd, notDraw,
        Bool.false_eq_true, false_implies, ↓reduceIte, true_and]
      exact ih others

theorem nativeCalls_ordered {target : NativeTarget} {command : Command} {rendering : Bool}
    {rest : List NativeCall} (streamed : command.isStreamed = true) (placed : command.placed rendering = true)
    (ordered : RenderingOrdered (command.renderingAfter rendering) rest) :
    RenderingOrdered rendering (command.nativeCalls target ++ rest) := by
  cases command with
  | beginRendering command =>
      have outside : rendering = false := by simpa [Command.placed] using placed
      exact ⟨fun _ => outside, by rintro ⟨⟩, by rintro ⟨⟩, ordered⟩
  | endRendering => exact ⟨by rintro ⟨⟩, fun _ => placed, by rintro ⟨⟩, ordered⟩
  | draw | drawIndexed | drawIndirect | drawIndirectCount =>
      have inside : rendering = true := by simpa [Command.placed, Command.isDraw] using placed
      exact ⟨by rintro ⟨⟩, by rintro ⟨⟩, fun _ => inside, ordered⟩
  | _ => exact quiet_ordered (nativeCalls_quiet ⟨nofun, nofun, rfl, streamed⟩) ordered

theorem quiet_inner {calls : List NativeCall} (quiet : ∀ call ∈ calls, isQuiet call.arguments = true) :
    ∀ call ∈ calls, isBracket call.arguments = false := by
  intro call member
  have inner := quiet call member
  simp only [isQuiet, Bool.and_eq_true, Bool.not_eq_true'] at inner
  exact inner.2

theorem nativeCalls_inner {target : NativeTarget} {command : Command} (streamed : command.isStreamed = true) :
    ∀ call ∈ command.nativeCalls target, isBracket call.arguments = false := by
  cases command with
  | beginRendering | endRendering | draw | drawIndexed | drawIndirect | drawIndirectCount =>
      exact List.forall_mem_singleton.mpr rfl
  | _ => exact quiet_inner (nativeCalls_quiet ⟨nofun, nofun, rfl, streamed⟩)

structure Carries (record : CommandRecord) (command : Command) : Prop where
  sized : payloadLengthIsValid record.opcode record.payload record.payloadLength = true
  decoded : commandDecode record = .ok command
  appendable : command.encoding.appendable = true

theorem carries_of_valid {records : List CommandRecord}
    (ends : ∀ record ∈ records, EndsBy record.payload record.payloadLength)
    (sized : ∀ record ∈ records,
      payloadLengthIsValid record.opcode record.payload record.payloadLength = true)
    (valid : ∀ record ∈ records, validatePayload record.opcode record.payload = true) :
    ∃ commands, List.Forall₂ Carries records commands := by
  induction records with
  | nil => exact ⟨[], .nil⟩
  | cons record rest ih =>
      obtain ⟨ends, endsRest⟩ := List.forall_mem_cons.mp ends
      obtain ⟨sized, sizedRest⟩ := List.forall_mem_cons.mp sized
      obtain ⟨valid, validRest⟩ := List.forall_mem_cons.mp valid
      obtain ⟨commands, carried⟩ := ih endsRest sizedRest validRest
      obtain ⟨command, decoded, encoding⟩ := canonical_of_valid ends sized valid
      exact ⟨command :: commands, .cons ⟨sized, decoded, congrArg (·.appendable) encoding⟩ carried⟩

theorem mapM_carried {records : List CommandRecord} {commands : List Command}
    (carried : List.Forall₂ Carries records commands) : records.mapM commandDecode = .ok commands := by
  induction carried with
  | nil => rfl
  | cons first _ ih =>
      rw [List.mapM_cons, first.decoded, ih]
      rfl

/-! ## The walk of the validator -/

/-- The records behind the first one: those before the last are admitted and
the last one is the end of the command buffer. -/
theorem validateStreamRecords_iff {instanceId deviceBits : UInt64}
    (live : context.objects.lookup deviceId .device = .ok (instanceId, deviceBits)) {last : CommandRecord}
    {records : List CommandRecord} {commands : List Command}
    (carried : List.Forall₂ Carries records commands) {count index : Nat} {rendering : Bool}
    (positive : index ≠ 0) (counted : index + (records.length + 1) = count) :
    context.validateStreamRecords deviceId count index (records ++ [last]) rendering = .ok false ↔
      (last.opcode = Opcode.vulkanEnd.code ∧ last.payloadLength = 0) ∧
        context.AdmitsAll deviceId rendering commands := by
  induction carried generalizing index rendering with
  | nil =>
      have final : index + 1 = count := by simpa using counted
      simp only [List.nil_append, validateStreamRecords, validateStreamRecord, positive, final, ↓reduceIte,
        bind_eq_ok, AdmitsAll, accepted_eq_ok, Except.ok.injEq]
      constructor
      · rintro ⟨_, ⟨ended, rfl⟩, rfl⟩
        exact ⟨ended, rfl⟩
      · rintro ⟨ended, rfl⟩
        exact ⟨false, ⟨ended, rfl⟩, rfl⟩
  | @cons record command records commands first _ ih =>
      simp only [List.length_cons] at counted
      have inner : index + 1 ≠ count := by omega
      simp only [List.cons_append, validateStreamRecords, validateStreamRecord, positive, inner, ↓reduceIte,
        bind_eq_ok, AdmitsAll, validateStreamCommand_iff live first.sized (decodes_of_ok first.decoded)]
      constructor
      · rintro ⟨_, ⟨admits, rfl⟩, later⟩
        obtain ⟨ended, rest⟩ := (ih (by omega) (by omega)).mp later
        exact ⟨ended, admits, rest⟩
      · rintro ⟨ended, admits, rest⟩
        exact ⟨_, ⟨admits, rfl⟩, (ih (by omega) (by omega)).mpr ⟨ended, rest⟩⟩

/-- What an accepted stream is: a batch of the command buffer whose records
carry a begin, admitted commands and an end. -/
structure StreamOf (context : ServiceContext) (bytes : Buffer) (length : Nat) (info : CommandBatchInfo)
    (owner : ResolvedCommandBuffer) (records : List CommandRecord) (begun : VulkanBeginCommand)
    (commands : List Command) : Prop where
  validated : commandBatchValidate bytes length = .ok info
  listed : commandBatchRecords bytes length = .ok records
  counted : records.length = info.commandCount.toNat
  carried : List.Forall₂ Carries records (.vulkanBegin begun :: (commands ++ [.vulkanEnd]))
  resolved : context.resolveCommandBuffer info.commandBufferId = .ok owner
  admitted : context.AdmitsAll owner.deviceId false commands

theorem carries_vulkanBegin {record : CommandRecord} {command : Command} {begun : VulkanBeginCommand}
    (carries : Carries record command) (decoded : commandDecodeVulkanBegin record = .ok begun) :
    command = .vulkanBegin begun := by
  have known : Opcode.ofCode record.opcode = some .vulkanBegin := by
    simp only [commandDecodeVulkanBegin, decodeFixed, refused_eq_ok, Bool.or_eq_true, bne_iff_ne, ne_eq,
      not_or, Decidable.not_not] at decoded
    rw [decoded.1.1, Opcode.ofCode_code]
  have same := carries.decoded
  simp only [commandDecode, known, decoded, Except.map, Except.ok.injEq] at same
  exact same.symm

theorem carries_vulkanEnd {record : CommandRecord} {command : Command} (carries : Carries record command)
    (ended : record.opcode = Opcode.vulkanEnd.code) : command = .vulkanEnd := by
  have same := carries.decoded
  simp only [commandDecode, ended, Opcode.ofCode_code, Except.ok.injEq] at same
  exact same.symm

theorem forall₂_concat {α β : Type} {relation : α → β → Prop} {items : List α} {last : α} {others : List β}
    (related : List.Forall₂ relation (items ++ [last]) others) :
    ∃ middle final, others = middle ++ [final] ∧ List.Forall₂ relation items middle ∧ relation last final := by
  induction items generalizing others with
  | nil =>
      cases related with
      | cons ends rest =>
          cases rest
          exact ⟨[], _, rfl, .nil, ends⟩
  | cons item items ih =>
      cases related with
      | cons first rest =>
          obtain ⟨middle, final, rfl, inner, ends⟩ := ih rest
          exact ⟨_ :: middle, final, rfl, .cons first inner, ends⟩

theorem forall₂_concat_right {α β : Type} {relation : α → β → Prop} {items : List β} {last : β}
    {others : List α} (related : List.Forall₂ relation others (items ++ [last])) :
    ∃ middle final, others = middle ++ [final] ∧ List.Forall₂ relation middle items ∧ relation final last := by
  obtain ⟨middle, final, same, inner, ends⟩ := forall₂_concat related.flip
  exact ⟨middle, final, same, inner.flip, ends⟩

theorem validateCommandStream_sound {bytes : Buffer} {length : Nat}
    (accepted : context.validateCommandStream bytes length deviceId = .ok ()) :
    ∃ info owner records begun commands, owner.deviceId = deviceId ∧
      context.StreamOf bytes length info owner records begun commands := by
  simp only [validateCommandStream, guarded_eq_ok, bind_eq_ok, when_eq_ok, reduceCtorEq, imp_false,
    Decidable.not_not, ne_eq] at accepted
  obtain ⟨_, info, validated, owner, resolved, matched, many, records, listed, rendering, walked, closed⟩ :=
    accepted
  obtain ⟨valid, batch, counted⟩ := commandBatchValidate_sound validated
  obtain rfl : valid = records := by simpa [batch.records_eq] using listed
  obtain ⟨commands, carried⟩ := carries_of_valid batch.holds.payload_endsBy batch.sized batch.valid
  obtain ⟨instanceId, live⟩ := resolveCommandBuffer_live resolved
  have two : 2 ≤ valid.length := by
    rw [counted]
    exact UInt32.le_iff_toNat_le.mp (UInt32.not_lt.mp many)
  cases carried with
  | nil => simp at two
  | @cons first command rest commands begins carried =>
      rcases rest.eq_nil_or_concat with rfl | ⟨middle, last, rfl⟩
      · simp at two
      rw [List.concat_eq_append] at *
      obtain ⟨inner, final, rfl, carriedMiddle, carriedLast⟩ := forall₂_concat carried
      simp only [validateStreamRecords, validateStreamRecord, ↓reduceIte, bind_eq_ok, pure_eq_ok] at walked
      obtain ⟨_, ⟨begun, opened, rfl⟩, walked⟩ := walked
      obtain rfl : rendering = false := by simpa using closed
      obtain ⟨⟨ended, _⟩, admitted⟩ := (validateStreamRecords_iff (matched ▸ live) carriedMiddle (by omega)
        (by rw [← counted]; simp; omega)).mp walked
      obtain rfl := carries_vulkanBegin begins opened
      obtain rfl := carries_vulkanEnd carriedLast ended
      exact ⟨info, owner, _, begun, inner, matched,
        ⟨validated, listed, counted, .cons begins carried, resolved, matched ▸ admitted⟩⟩

theorem StreamOf.accepted {bytes : Buffer} {length : Nat} {info : CommandBatchInfo}
    {records : List CommandRecord} {begun : VulkanBeginCommand} {commands : List Command}
    (stream : context.StreamOf bytes length info owner records begun commands) :
    context.validateCommandStream bytes length owner.deviceId = .ok () := by
  obtain ⟨validated, listed, counted, carried, resolved, admitted⟩ := stream
  obtain ⟨instanceId, live⟩ := resolveCommandBuffer_live resolved
  have expects : handleExpect owner.deviceId .device = true := HandleTable.lookup_expects live
  cases carried with
  | @cons first _ rest _ begins carried =>
      obtain ⟨middle, last, rfl, carriedMiddle, ends⟩ := forall₂_concat_right carried
      have many : ¬info.commandCount < 2 := by
        rw [UInt32.not_lt, UInt32.le_iff_toNat_le, ← counted]
        simp
      have opened : commandDecodeVulkanBegin first = .ok begun := by
        cases decodes_of_ok begins.decoded with
        | vulkanBegin _ decoded => exact decoded
      have ended : last.opcode = Opcode.vulkanEnd.code ∧ last.payloadLength = 0 := by
        cases decodes_of_ok ends.decoded with
        | vulkanEnd known => exact ⟨(Opcode.code_of_ofCode known).symm, payload_empty known (.inr rfl) ends.sized⟩
      have count : 1 + (middle.length + 1) = info.commandCount.toNat := by
        rw [← counted]
        simp
        omega
      have walked := (validateStreamRecords_iff live carriedMiddle (by omega) count).mpr ⟨ended, admitted⟩
      have all : context.validateStreamRecords owner.deviceId info.commandCount.toNat 0
          (first :: (middle ++ [last])) false = .ok false := by
        simp only [validateStreamRecords, validateStreamRecord, ↓reduceIte, opened, ok_bind]
        exact walked
      simp only [validateCommandStream, expects, validated, resolved, many, listed, all, ok_bind,
        Bool.not_true, Bool.false_eq_true, ne_eq, not_true_eq_false, ↓reduceIte]
      rfl

theorem carries_record {command : Command} (appendable : command.encoding.appendable = true)
    (clean : command.misfiltered = false) : Carries command.record command.cleared := by
  have sized := command.encoding_length appendable
  have valid : validatePayload command.record.opcode command.record.payload = true := by
    rw [Command.record, Command.encoding_valid appendable, clean]
    rfl
  obtain ⟨decodedCommand, decoded, encoding⟩ :=
    canonical_of_valid (Command.encoding_endsBy appendable) sized valid
  have same : decodedCommand = command.cleared :=
    Except.ok.inj (decoded.symm.trans (commandDecode_record appendable))
  exact ⟨sized, commandDecode_record appendable, same ▸ congrArg (·.appendable) encoding⟩

theorem streamOf_finished {builder finished : CommandBatchBuilder} {sequence : UInt64}
    {capacity length : Nat} {begun : VulkanBeginCommand} (commands : List Command)
    (built : builder.Built commandBufferId sequence capacity
      (.vulkanBegin begun :: (commands ++ [.vulkanEnd])))
    (done : builder.finish = .ok (finished, length)) (nonzero : sequence ≠ 0)
    (resolved : context.resolveCommandBuffer commandBufferId = .ok owner)
    (clean : ∀ command ∈ commands, command.misfiltered = false)
    (admitted : context.AdmitsAll owner.deviceId false (commands.map Command.cleared)) :
    ∃ info records, info.commandBufferId = commandBufferId ∧ info.sequence = sequence ∧
      context.StreamOf finished.bytes length info owner records begun (commands.map Command.cleared) := by
  have handle : handleExpect commandBufferId .commandBuffer = true := by
    simp only [resolveCommandBuffer, bind_eq_ok] at resolved
    obtain ⟨_, found, _⟩ := resolved
    exact HandleTable.lookup_expects found
  have cleanAll : ∀ command ∈ Command.vulkanBegin begun :: (commands ++ [.vulkanEnd]),
      command.misfiltered = false := by
    rw [List.forall_mem_cons, List.forall_mem_append, List.forall_mem_singleton]
    exact ⟨rfl, clean, rfl⟩
  obtain ⟨info, validated, named, numbered, counted, _⟩ :=
    (built.validatesAs_iff nonzero handle done).mpr cleanAll
  refine ⟨info, _, named, numbered, validated, built.records_eq done validated, ?_, ?_, named ▸ resolved, admitted⟩
  · rw [List.length_map, counted]
  · have carried : List.Forall₂ Carries
        ((Command.vulkanBegin begun :: (commands ++ [.vulkanEnd])).map Command.record)
        ((Command.vulkanBegin begun :: (commands ++ [.vulkanEnd])).map Command.cleared) := by
      rw [List.forall₂_map_left_iff, List.forall₂_map_right_iff, List.forall₂_same]
      exact fun command member => carries_record (built.checked command member) (cleanAll command member)
    simpa [Command.cleared] using carried

/-! ## The walk of the replay -/

/-- The replay records up to these calls, unless the driver lacks an entry point or a
native result fails it. -/
def Replays (driver : NativeDriver) (replayed : Replayed) (native : List NativeCall) : Prop :=
  replayed = (native, .ok ()) ∨
    ((∃ device name, driver.present device name = false) ∨ ∃ trace, driver.result trace ≠ 0) ∧
      ∃ trace code, replayed = (trace, .error code)

namespace Replays

variable {replayed : Replayed} {native made trace : List NativeCall} {device : UInt64}

theorem of_complete (replays : Replays driver replayed native)
    (present : ∀ device name, driver.present device name = true) (succeeds : ∀ trace, driver.result trace = 0) :
    replayed = (native, .ok ()) := by
  rcases replays with done | ⟨⟨device, name, absent⟩ | ⟨trace, fails⟩, -⟩
  · exact done
  · rw [present device name] at absent
    cases absent
  · exact absurd (succeeds trace) fails

theorem of_ok (replays : Replays driver replayed native) (done : replayed = (made, .ok ())) : made = native := by
  rcases replays with same | ⟨-, trace, code, refused⟩
  · exact (Prod.mk.inj (done.symm.trans same)).1
  · rw [done] at refused
    cases refused

theorem issue {calls : List NativeCall} {made : Except Errno (List NativeCall)}
    (issues : Issues driver device made calls) : Replays driver (Replayed.issue trace made) (trace ++ calls) := by
  rcases issues with rfl | ⟨⟨name, absent⟩, code, rfl⟩
  · exact .inl rfl
  · exact .inr ⟨.inl ⟨device, name, absent⟩, trace, code, rfl⟩

theorem issueChecked {call : NativeCall} {made : Except Errno NativeCall} (issues : Issues driver device made call) :
    Replays driver (Replayed.issueChecked driver trace made) (trace ++ [call]) := by
  rcases issues with rfl | ⟨⟨name, absent⟩, code, rfl⟩
  · simp only [Replayed.issueChecked]
    split
    · rename_i fails
      exact .inr ⟨.inr ⟨_, fails⟩, _, _, rfl⟩
    · exact .inl rfl
  · exact .inr ⟨.inl ⟨device, name, absent⟩, trace, code, rfl⟩

end Replays

def RecordReplays (context : ServiceContext) (driver : NativeDriver) (commandBufferId : UInt64)
    (owner : ResolvedCommandBuffer) (record : CommandRecord) (command : Command) : Prop :=
  ∀ trace, Replays driver (context.replayStreamRecord driver commandBufferId trace record)
    (trace ++ command.nativeCalls (context.target driver owner))

section

variable (resolved : context.resolveCommandBuffer commandBufferId = .ok owner)
include resolved

theorem replayStreamRecord_admitted {record : CommandRecord} {command : Command} {rendering : Bool}
    (carries : Carries record command) (admits : context.Admits owner.deviceId rendering command) :
    context.RecordReplays driver commandBufferId owner record command := by
  intro trace
  have notBegin : record.opcode ≠ Opcode.vulkanBegin.code := by
    intro begins
    have decoded := carries.decoded
    simp only [commandDecode, begins, Opcode.ofCode_code, map_eq_ok] at decoded
    obtain ⟨_, _, rfl⟩ := decoded
    exact absurd admits.streamed (by simp [Command.isStreamed])
  have notEnd : record.opcode ≠ Opcode.vulkanEnd.code := by
    intro ends
    obtain rfl := carries_vulkanEnd carries ends
    exact absurd admits.streamed (by simp [Command.isStreamed])
  simp only [replayStreamRecord, notBegin, notEnd, ↓reduceIte]
  exact .issue (replayStreamCommand_admitted resolved (decodes_of_ok carries.decoded) carries.appendable admits)

theorem replayStreamRecord_vulkanBegin {record : CommandRecord} {begun : VulkanBeginCommand}
    (carries : Carries record (.vulkanBegin begun)) :
    context.RecordReplays driver commandBufferId owner record (.vulkanBegin begun) := by
  intro trace
  have appendable := carries.appendable
  cases decodes_of_ok carries.decoded with
  | vulkanBegin known decoded =>
      have supported : (begun.flags &&& ~~~1 != 0) = false := by
        simpa [Command.encoding, VulkanBeginCommand.isAppendable, bne] using appendable
      have called : Issues driver owner.device (context.beginCommandBuffer driver ⟨commandBufferId, begun.flags⟩)
          ((context.target driver owner).call [⟨.vkBeginCommandBuffer, .core⟩] (.beginCommandBuffer begun.flags)) := by
        simp only [beginCommandBuffer, supported, Bool.false_eq_true, ↓reduceIte, resolved, ok_bind]
        exact (resolve_issues owner.device _ _).bind (.inl rfl)
      simp only [replayStreamRecord, ← Opcode.code_of_ofCode known, ↓reduceIte, decoded, ok_bind]
      exact .issueChecked called

theorem replayStreamRecord_vulkanEnd {record : CommandRecord} (carries : Carries record .vulkanEnd) :
    context.RecordReplays driver commandBufferId owner record .vulkanEnd := by
  intro trace
  cases decodes_of_ok carries.decoded with
  | vulkanEnd known =>
      have called : Issues driver owner.device (context.endCommandBuffer driver commandBufferId)
          ((context.target driver owner).call [⟨.vkEndCommandBuffer, .core⟩] .endCommandBuffer) := by
        simp only [endCommandBuffer, resolved, ok_bind]
        exact (resolve_issues owner.device _ _).bind (.inl rfl)
      have other : Opcode.vulkanEnd.code ≠ Opcode.vulkanBegin.code := by decide
      simp only [replayStreamRecord, ← Opcode.code_of_ofCode known, other, ↓reduceIte]
      exact .issueChecked called

theorem recordReplays_admitted {records : List CommandRecord} {commands : List Command}
    (carried : List.Forall₂ Carries records commands) {rendering : Bool}
    (admitted : context.AdmitsAll owner.deviceId rendering commands) :
    List.Forall₂ (context.RecordReplays driver commandBufferId owner) records commands := by
  induction carried generalizing rendering with
  | nil => exact .nil
  | cons first _ ih =>
      obtain ⟨admits, later⟩ := admitted
      exact .cons (replayStreamRecord_admitted resolved first admits) (ih later)

end

theorem replayStreamRecords_replays {records : List CommandRecord} {commands : List Command}
    (each : List.Forall₂ (context.RecordReplays driver commandBufferId owner) records commands)
    (trace : List NativeCall) :
    Replays driver (context.replayStreamRecords driver commandBufferId trace records)
      (trace ++ commands.flatMap (·.nativeCalls (context.target driver owner))) := by
  induction each generalizing trace with
  | nil =>
      rw [List.flatMap_nil, List.append_nil]
      exact .inl rfl
  | cons first _ ih =>
      rw [replayStreamRecords, List.flatMap_cons, ← List.append_assoc]
      rcases first trace with done | ⟨lacks, left, code, refused⟩
      · rw [done]
        exact ih _
      · rw [refused]
        exact .inr ⟨lacks, left, code, rfl⟩

theorem StreamOf.replays {bytes : Buffer} {length : Nat} {info : CommandBatchInfo} {records : List CommandRecord}
    {begun : VulkanBeginCommand} {commands : List Command} (driver : NativeDriver) (earlier : List NativeCall)
    (stream : context.StreamOf bytes length info owner records begun commands) :
    Replays driver (context.replayCommandStream driver earlier bytes length owner.deviceId)
      (earlier ++ (Command.vulkanBegin begun :: (commands ++ [.vulkanEnd])).flatMap
        (·.nativeCalls (context.target driver owner))) := by
  have accepted := stream.accepted
  obtain ⟨validated, listed, _, carried, resolved, admitted⟩ := stream
  simp only [replayCommandStream, accepted, validated, listed, ok_bind, pure, Except.pure]
  cases carried with
  | cons begins carried =>
      obtain ⟨middle, last, rfl, carriedMiddle, ends⟩ := forall₂_concat_right carried
      refine replayStreamRecords_replays (.cons (replayStreamRecord_vulkanBegin resolved begins) ?_) earlier
      exact List.rel_append (recordReplays_admitted resolved carriedMiddle admitted)
        (.cons (replayStreamRecord_vulkanEnd resolved ends) .nil)

/-! ## The calls of a stream -/

theorem bracket_quiet {arguments : NativeArguments} (bracket : isBracket arguments = true) :
    arguments.isBeginRendering = false ∧ arguments.isEndRendering = false ∧ arguments.isDraw = false := by
  cases arguments with
  | beginCommandBuffer | endCommandBuffer => exact ⟨rfl, rfl, rfl⟩
  | _ => exact absurd bracket (by simp [isBracket])

theorem admitsAll_ordered {target : NativeTarget} {commands : List Command} {rendering : Bool}
    (admitted : context.AdmitsAll deviceId rendering commands) {last : NativeCall}
    (bracket : isBracket last.arguments = true) :
    RenderingOrdered rendering (commands.flatMap (·.nativeCalls target) ++ [last]) := by
  induction commands generalizing rendering with
  | nil =>
      obtain ⟨notBegin, notEnd, notDraw⟩ := bracket_quiet bracket
      simp only [List.flatMap_nil, List.nil_append, RenderingOrdered, renderingAfterCall, notBegin, notEnd,
        notDraw, Bool.false_eq_true, false_implies, ↓reduceIte, true_and]
      exact admitted
  | cons command commands ih =>
      obtain ⟨admits, later⟩ := admitted
      rw [List.flatMap_cons, List.append_assoc]
      exact nativeCalls_ordered admits.streamed admits.placed (ih later)

theorem admitsAll_inner {target : NativeTarget} {commands : List Command} {rendering : Bool}
    (admitted : context.AdmitsAll deviceId rendering commands) :
    ∀ call ∈ commands.flatMap (·.nativeCalls target), isBracket call.arguments = false := by
  induction commands generalizing rendering with
  | nil => simp
  | cons command commands ih =>
      obtain ⟨admits, later⟩ := admitted
      rw [List.flatMap_cons, List.forall_mem_append]
      exact ⟨nativeCalls_inner admits.streamed, ih later⟩

theorem admitsAll_owned {commands : List Command} {rendering : Bool}
    (admitted : context.AdmitsAll deviceId rendering commands) :
    ∀ command ∈ commands, ∀ handle ∈ command.handles, context.Owns deviceId handle.1 handle.2 := by
  induction commands generalizing rendering with
  | nil => simp
  | cons command commands ih =>
      obtain ⟨admits, later⟩ := admitted
      exact List.forall_mem_cons.mpr ⟨admits.owned, ih later⟩

theorem nativeCalls_commandBuffer (target : NativeTarget) (command : Command) :
    ∀ call ∈ command.nativeCalls target, call.commandBuffer = target.commandBuffer := by
  cases command with
  | query command =>
      simp only [Command.nativeCalls, NativeTarget.query]
      cases QueryKind.ofCode command.kind with
      | none => simp
      | some kind => cases kind <;> exact List.forall_mem_singleton.mpr rfl
  | dynamicState command =>
      simp only [Command.nativeCalls]
      split
      · simp
      · exact List.forall_mem_singleton.mpr rfl
  | bindVertexBuffers opcode command =>
      simp only [Command.nativeCalls, List.forall_mem_singleton, NativeTarget.bindVertexBuffers]
      split <;> rfl
  | bindIndexBuffer opcode command =>
      simp only [Command.nativeCalls, List.forall_mem_singleton, NativeTarget.bindIndexBuffer]
      split <;> rfl
  | fillBuffer command => exact List.forall_mem_cons.mpr ⟨rfl, List.forall_mem_singleton.mpr rfl⟩
  | pushRotation | bufferHostReadBarrier => simp [Command.nativeCalls]
  | _ => exact List.forall_mem_singleton.mpr rfl

theorem nativeCalls_owned (resolved : context.resolveCommandBuffer commandBufferId = .ok owner)
    {command : Command} (owned : ∀ handle ∈ command.handles, context.Owns owner.deviceId handle.1 handle.2) :
    ∀ call ∈ command.nativeCalls (context.target driver owner), ∀ handle ∈ call.handles,
      context.OwnsNative owner.deviceId handle := by
  intro call member handle passed
  rcases List.mem_cons.mp passed with rfl | passed
  · rw [nativeCalls_commandBuffer _ _ call member]
    exact resolveCommandBuffer_owns resolved
  · obtain ⟨id, named, same⟩ := nativeCalls_passesOnly command call member handle passed
    exact ⟨id, owned _ named, same⟩

/-- The calls from the native begin to the native end. -/
structure WellOrdered (calls : List NativeCall) : Prop where
  bracketed : ∃ first middle last flags, calls = first :: (middle ++ [last]) ∧
    first.arguments = .beginCommandBuffer flags ∧ last.arguments = .endCommandBuffer ∧
    ∀ call ∈ middle, isBracket call.arguments = false
  rendering : RenderingOrdered false calls

theorem validated_stream_replays (driver : NativeDriver) {bytes : Buffer} {length : Nat}
    (earlier : List NativeCall)
    (accepted : context.validateCommandStream bytes length deviceId = .ok ())
    (present : ∀ device name, driver.present device name = true)
    (succeeds : ∀ trace, driver.result trace = 0) :
    ∃ info owner records commands calls,
      commandBatchValidate bytes length = .ok info ∧
      context.resolveCommandBuffer info.commandBufferId = .ok owner ∧ owner.deviceId = deviceId ∧
      commandBatchRecords bytes length = .ok records ∧ records.mapM commandDecode = .ok commands ∧
      context.replayCommandStream driver earlier bytes length deviceId = (earlier ++ calls, .ok ()) ∧
      calls = commands.flatMap (·.nativeCalls (context.target driver owner)) ∧
      WellOrdered calls ∧
      ∀ call ∈ calls, ∀ handle ∈ call.handles, context.OwnsNative deviceId handle := by
  obtain ⟨info, owner, records, begun, commands, rfl, stream⟩ := validateCommandStream_sound accepted
  have replayed := (stream.replays driver earlier).of_complete present succeeds
  obtain ⟨validated, listed, _, carried, resolved, admitted⟩ := stream
  have decoded := mapM_carried carried
  refine ⟨info, owner, records, _, _, validated, resolved, rfl, listed, decoded, replayed, rfl, ?_, ?_⟩
  · rw [List.flatMap_cons, List.flatMap_append]
    constructor
    · exact ⟨_, _, _, begun.flags, rfl, rfl, rfl, admitsAll_inner admitted⟩
    · exact ⟨by rintro ⟨⟩, by rintro ⟨⟩, by rintro ⟨⟩, admitsAll_ordered admitted rfl⟩
  · have owned : ∀ command ∈ Command.vulkanBegin begun :: (commands ++ [.vulkanEnd]),
        ∀ handle ∈ command.handles, context.Owns owner.deviceId handle.1 handle.2 := by
      rw [List.forall_mem_cons, List.forall_mem_append, List.forall_mem_singleton]
      exact ⟨by simp [Command.handles], admitsAll_owned admitted, by simp [Command.handles]⟩
    rw [List.forall_mem_flatMap]
    exact fun command member => nativeCalls_owned resolved (owned command member)

/-- Whatever the driver has, a replay that ends well made the calls of the commands. -/
theorem replayed_stream_calls {driver : NativeDriver} {bytes : Buffer} {length : Nat}
    {earlier native : List NativeCall}
    (replayed : context.replayCommandStream driver earlier bytes length deviceId = (native, .ok ())) :
    ∃ info owner records commands, commandBatchValidate bytes length = .ok info ∧
      context.resolveCommandBuffer info.commandBufferId = .ok owner ∧
      commandBatchRecords bytes length = .ok records ∧ records.mapM commandDecode = .ok commands ∧
      native = earlier ++ commands.flatMap (·.nativeCalls (context.target driver owner)) := by
  cases accepted : context.validateCommandStream bytes length deviceId with
  | error code =>
      rw [replayCommandStream, accepted] at replayed
      cases replayed
  | ok =>
      obtain ⟨info, owner, records, begun, commands, rfl, stream⟩ := validateCommandStream_sound accepted
      exact ⟨info, owner, records, _, stream.validated, stream.resolved, stream.listed, mapM_carried stream.carried,
        (stream.replays driver earlier).of_ok replayed⟩

open CommandBatchBuilder

/-- A service with a device, a command pool, a command buffer and a pipeline. -/
def sampleContext : ServiceContext :=
  { objects :=
      [((0x0300000000000001 : UInt64), (0 : UInt64), (0xd0 : UInt64)),
        (0x0a00000000000001, 0x0300000000000001, 0xa0), (0x0b00000000000001, 0x0a00000000000001, 0xb0),
        (0x1000000000000001, 0x0300000000000001, 0xc0)].foldl
        (fun table (wireId, parentId, nativeBits) => (table.call (.insert wireId parentId nativeBits)).2)
        ⟨fun _ => .zero, 8, 0⟩
    queryPoolMetadata := [] }

def sampleOwner : ResolvedCommandBuffer := ⟨0x0300000000000001, 0xd0, 0xa0, 0xb0⟩

theorem sampleContext_resolves :
    sampleContext.resolveCommandBuffer 0x0b00000000000001 = .ok sampleOwner := rfl

def sampleDriver : NativeDriver := ⟨fun _ _ => true, fun _ => 0⟩

def bindPipelineStream : List Command :=
  [.vulkanBegin ⟨0⟩, .bindGraphicsPipeline ⟨0x1000000000000001⟩, .vulkanEnd]

theorem bindPipelineStream_appended : emptyBatch.appended bindPipelineStream = bindPipelineStream := rfl

theorem bindPipelineStream_admitted :
    sampleContext.AdmitsAll sampleOwner.deviceId false [.bindGraphicsPipeline ⟨0x1000000000000001⟩] := by
  refine ⟨⟨rfl, ?_, rfl, rfl, trivial⟩, rfl⟩
  rw [Command.handles, List.forall_mem_singleton]
  exact ⟨0xc0, rfl⟩

theorem validated_stream_replays_bindPipeline : ∃ finished length,
    (Runs.final step emptyBatch bindPipelineStream).finish = .ok (finished, length) ∧
      sampleContext.validateCommandStream finished.bytes length 0x0300000000000001 = .ok () ∧
      ∃ calls, sampleContext.replayCommandStream sampleDriver [] finished.bytes length 0x0300000000000001 =
          (calls, .ok ()) ∧ WellOrdered calls := by
  obtain ⟨finished, length, done⟩ : ∃ finished length,
      (Runs.final step emptyBatch bindPipelineStream).finish = .ok (finished, length) := ⟨_, _, rfl⟩
  have built := (start_built start_emptyBatch).1.run bindPipelineStream
  rw [bindPipelineStream_appended] at built
  obtain ⟨info, records, _, _, stream⟩ := streamOf_finished [.bindGraphicsPipeline ⟨0x1000000000000001⟩] built
    done (by decide) sampleContext_resolves (by decide) bindPipelineStream_admitted
  obtain ⟨_, _, _, _, calls, _, _, _, _, _, replayed, _, ordered, _⟩ :=
    validated_stream_replays sampleDriver [] stream.accepted (fun _ _ => rfl) fun _ => rfl
  exact ⟨finished, length, done, stream.accepted, calls, replayed, ordered⟩

end ServiceContext

end VulkanBridge
