import VulkanBridge.CommandBatchRecords

/-!
Whole batches: when the validator accepts what the builder finished, what the
iterator and the decoders return of it, and that an accepted batch is rebuilt
byte for byte from its decoded commands.
-/

namespace VulkanBridge

open ByteBuffer

/-- The 32 bytes that `finish` writes in front of the records. -/
structure HasHeader (bytes : Buffer) (commandBufferId sequence : UInt64) (count length : Nat) : Prop where
  magic : getU32 bytes 0 = commandBatchMagic
  version : getU16 bytes 4 = commandBatchVersion
  flags : getU16 bytes 6 = 0
  byteLength : (getU32 bytes 8).toNat = length
  commandCount : (getU32 bytes 12).toNat = count
  commandBuffer : getU64 bytes 16 = commandBufferId
  sequenceWord : getU64 bytes 24 = sequence

theorem HasHeader.bytes_eq {left right : Buffer} {commandBufferId sequence : UInt64} {count length : Nat}
    (first : HasHeader left commandBufferId sequence count length)
    (second : HasHeader right commandBufferId sequence count length) (index : Nat) (inside : index < 32) :
    left index = right index := by
  have lengths := UInt32.toNat_inj.mp (first.byteLength.trans second.byteLength.symm)
  have counts := UInt32.toNat_inj.mp (first.commandCount.trans second.commandCount.symm)
  have field : index < 4 ∨ (4 ≤ index ∧ index < 6) ∨ (6 ≤ index ∧ index < 8) ∨ (8 ≤ index ∧ index < 12) ∨
      (12 ≤ index ∧ index < 16) ∨ (16 ≤ index ∧ index < 24) ∨ 24 ≤ index := by omega
  rcases field with magic | ⟨low, high⟩ | ⟨low, high⟩ | ⟨low, high⟩ | ⟨low, high⟩ | ⟨low, high⟩ | low
  · exact getU32_injective (first.magic.trans second.magic.symm) index (Nat.zero_le _) magic
  · exact getU16_injective (first.version.trans second.version.symm) index low high
  · exact getU16_injective (first.flags.trans second.flags.symm) index low high
  · exact getU32_injective lengths index low high
  · exact getU32_injective counts index low high
  · exact getU64_injective (first.commandBuffer.trans second.commandBuffer.symm) index low high
  · exact getU64_injective (first.sequenceWord.trans second.sequenceWord.symm) index low inside

/-- The validator accepts the bytes and reports these values. -/
def ValidatesAs (bytes : Buffer) (length : Nat) (commandBufferId sequence : UInt64) (count : Nat) : Prop :=
  ∃ info, commandBatchValidate bytes length = .ok info ∧ info.commandBufferId = commandBufferId ∧
    info.sequence = sequence ∧ info.commandCount.toNat = count ∧ info.byteLength.toNat = length

/-- An accepted batch: its header and its records. -/
structure Accepted (bytes : Buffer) (length : Nat) (commandBufferId sequence : UInt64)
    (records : List CommandRecord) : Prop where
  header : HasHeader bytes commandBufferId sequence records.length length
  holds : Holds bytes 32 records length
  bounded : length ≤ commandBatchMaxBytes
  nonempty : records ≠ []
  few : records.length ≤ commandBatchMaxCommands
  handle : handleExpect commandBufferId .commandBuffer = true
  nonzero : sequence ≠ 0
  sized : ∀ record ∈ records,
    payloadLengthIsValid record.opcode record.payload record.payloadLength = true
  valid : ∀ record ∈ records, validatePayload record.opcode record.payload = true

theorem commandBatchValidate_sound {bytes : Buffer} {length : Nat} {info : CommandBatchInfo}
    (accepted : commandBatchValidate bytes length = .ok info) :
    ∃ records, Accepted bytes length info.commandBufferId info.sequence records ∧
      records.length = info.commandCount.toNat := by
  simp only [commandBatchValidate] at accepted
  split at accepted
  · contradiction
  · rename_i size
    split at accepted
    · contradiction
    · rename_i shape
      split at accepted
      · contradiction
      · rename_i walked
        cases accepted
        simp only [not_or, ne_eq, Decidable.not_not, Bool.not_eq_false] at size shape walked
        obtain ⟨magic, version, flags, byteLength, positive, few, handle, nonzero⟩ := shape
        obtain ⟨records, count, holds, valid⟩ := validateRecords_sound walked
        refine ⟨records, ⟨⟨magic, version, flags, byteLength, count.symm, rfl, rfl⟩, holds, ?_, ?_, ?_, handle,
          nonzero, fun record member => (valid record member).1, fun record member => (valid record member).2⟩,
          count⟩
        · omega
        · rintro rfl
          exact positive (UInt32.toNat_inj.mp count.symm)
        · omega

theorem commandBatchValidate_header {bytes : Buffer} {length count : Nat} {commandBufferId sequence : UInt64}
    (header : HasHeader bytes commandBufferId sequence count length) (large : 32 ≤ length)
    (bounded : length ≤ commandBatchMaxBytes) (positive : count ≠ 0) (few : count ≤ commandBatchMaxCommands)
    (handle : handleExpect commandBufferId .commandBuffer = true) (nonzero : sequence ≠ 0) :
    commandBatchValidate bytes length =
      if validateRecords bytes length count 32 ≠ some length then .error .eproto
      else .ok ⟨commandBufferId, sequence, getU32 bytes 12, getU32 bytes 8⟩ := by
  obtain ⟨magic, version, flags, byteLength, commandCount, commandBuffer, sequenceWord⟩ := header
  have occupied : getU32 bytes 12 ≠ 0 := by
    intro zero
    rw [zero] at commandCount
    exact positive commandCount.symm
  simp only [commandBatchValidate]
  rw [if_neg (by omega), if_neg]
  · rw [commandCount, commandBuffer, sequenceWord]
  · simp only [not_or, ne_eq, Decidable.not_not, Bool.not_eq_false, commandBuffer, sequenceWord, commandCount]
    exact ⟨magic, version, flags, byteLength, occupied, by omega, handle, nonzero⟩

theorem Accepted.records_eq {bytes : Buffer} {length : Nat} {commandBufferId sequence : UInt64}
    {records : List CommandRecord} (accepted : Accepted bytes length commandBufferId sequence records) :
    commandBatchRecords bytes length = .ok records := by
  have large : 32 ≤ length := accepted.holds.le
  have positive : records.length ≠ 0 := fun empty => accepted.nonempty (List.length_eq_zero_iff.mp empty)
  have walked := validateRecords_complete (Nat.le_refl length) accepted.holds accepted.sized accepted.valid
  simp only [commandBatchRecords, CommandBatchIterator.init,
    commandBatchValidate_header accepted.header large accepted.bounded positive accepted.few accepted.handle
      accepted.nonzero]
  rw [if_neg (not_not.mpr walked)]
  simp only [accepted.header.commandCount]
  exact CommandBatchIterator.collect_holds (Nat.le_refl length) accepted.holds

namespace CommandBatchBuilder

variable {builder finished : CommandBatchBuilder} {commandBufferId sequence : UInt64} {capacity length : Nat}
  {commands : List Command}

theorem finish_sound (done : builder.finish = .ok (finished, length)) :
    builder.commandCount ≠ 0 ∧ length = builder.length ∧ builder.length ≤ 0xffffffff ∧
      finished.bytes = putU64 (putU64 (putU32 (putU32 (putU16 (putU16 (putU32 builder.bytes 0
        commandBatchMagic) 4 commandBatchVersion) 6 0) 8 (UInt32.ofNat builder.length)) 12
        (UInt32.ofNat builder.commandCount)) 16 builder.commandBufferId) 24 builder.sequence := by
  simp only [finish] at done
  split at done
  · contradiction
  · rename_i allowed
    cases done
    exact ⟨by omega, rfl, by omega, rfl⟩

theorem Built.finished_header (built : builder.Built commandBufferId sequence capacity commands)
    (done : builder.finish = .ok (finished, length)) :
    HasHeader finished.bytes commandBufferId sequence commands.length length := by
  obtain ⟨_, rfl, small, bytes⟩ := finish_sound done
  have count := built.count
  have few := built.few
  simp only [commandBatchMaxCommands] at few
  constructor
  all_goals
    rw [bytes]
    simp (disch := omega) only [getU32_putU64_apart, getU32_putU32_apart, getU32_putU16_apart,
      getU16_putU64_apart, getU16_putU32_apart, getU16_putU16_apart, getU64_putU64_apart, getU32_putU32,
      getU16_putU16, getU64_putU64, built.commandBuffer, built.sequenceKept]
  · rw [UInt32.toNat_ofNat_of_lt' (by simp only [UInt32.size]; omega)]
  · rw [UInt32.toNat_ofNat_of_lt' (by simp only [UInt32.size]; omega), count]

theorem Built.finished_holds (built : builder.Built commandBufferId sequence capacity commands)
    (done : builder.finish = .ok (finished, length)) :
    Holds finished.bytes 32 (commands.map Command.record) length := by
  obtain ⟨_, rfl, _, bytes⟩ := finish_sound done
  apply built.holds.congr
  intro index lower _
  rw [bytes]
  simp (disch := omega) only [putU64_apart, putU32_apart, putU16_apart]

theorem Built.sized (built : builder.Built commandBufferId sequence capacity commands) :
    ∀ record ∈ commands.map Command.record,
      payloadLengthIsValid record.opcode record.payload record.payloadLength = true := by
  intro record member
  obtain ⟨command, inside, rfl⟩ := List.mem_map.mp member
  exact Command.encoding_length (built.checked command inside)

theorem Built.valid_iff (built : builder.Built commandBufferId sequence capacity commands)
    {command : Command} (member : command ∈ commands) :
    validatePayload command.record.opcode command.record.payload = true ↔ command.misfiltered = false := by
  rw [Command.record, Command.encoding_valid (built.checked command member), Bool.not_eq_true']

/-- The validator accepts a finished batch when no appended command is a
misfiltered transfer. -/
theorem Built.validatesAs_iff (built : builder.Built commandBufferId sequence capacity commands)
    (nonzero : sequence ≠ 0) (handle : handleExpect commandBufferId .commandBuffer = true)
    (done : builder.finish = .ok (finished, length)) :
    ValidatesAs finished.bytes length commandBufferId sequence commands.length ↔
      ∀ command ∈ commands, command.misfiltered = false := by
  obtain ⟨occupied, same, _, _⟩ := finish_sound done
  have header := built.finished_header done
  have holds := built.finished_holds done
  have decided := commandBatchValidate_header header holds.le (same ▸ built.bounded) (built.count ▸ occupied)
    (built.count ▸ built.few) handle nonzero
  have count : (commands.map Command.record).length = commands.length := List.length_map _
  constructor
  · rintro ⟨info, accepted, _⟩ command member
    by_contra misfiltered
    have refused := validateRecords_refuses (Nat.le_refl length) holds built.sized
      ⟨command.record, List.mem_map_of_mem member,
        Bool.eq_false_iff.mpr (mt (built.valid_iff member).mp misfiltered)⟩
    rw [count] at refused
    rw [decided, refused, if_pos (by simp)] at accepted
    contradiction
  · intro clean
    have walked := validateRecords_complete (Nat.le_refl length) holds built.sized (by
      intro record member
      obtain ⟨command, inside, rfl⟩ := List.mem_map.mp member
      exact (built.valid_iff inside).mpr (clean command inside))
    rw [count] at walked
    rw [if_neg (not_not.mpr walked)] at decided
    exact ⟨_, decided, rfl, rfl, header.commandCount, header.byteLength⟩

/-- The append call adds a transfer that the validator will not accept. -/
def AppendsMisfiltered (builder : CommandBatchBuilder) (command : Command) : Prop :=
  builder.Accepts command ∧ command.misfiltered = true

theorem appended_clean_iff (builder : CommandBatchBuilder) (calls : List Command) :
    (∀ command ∈ builder.appended calls, command.misfiltered = false) ↔
      Runs.EveryStep step (fun builder command => ¬builder.AppendsMisfiltered command) builder calls := by
  induction calls generalizing builder with
  | nil => exact ⟨fun _ => trivial, fun _ command member => absurd member List.not_mem_nil⟩
  | cons command rest ih =>
      rw [appended_cons, Runs.EveryStep, step_eq]
      by_cases accepts : builder.Accepts command
      · rw [if_pos accepts, if_pos accepts, List.forall_mem_cons, ih]
        simp only [AppendsMisfiltered, accepts, true_and, Bool.not_eq_true]
      · rw [if_neg accepts, if_neg accepts, ih]
        simp only [AppendsMisfiltered, accepts, false_and, not_false_eq_true, true_and]

end CommandBatchBuilder

open CommandBatchBuilder

/-- A finished batch passes the validator exactly when no append of the run was a
transfer other than a blit with a filter. -/
theorem finished_batch_validates_iff {bytes : Buffer} {capacity length : Nat}
    {commandBufferId sequence : UInt64} {builder finished : CommandBatchBuilder} {calls : List Command}
    (begun : start bytes capacity commandBufferId sequence = .ok builder)
    (done : (Runs.final step builder calls).finish = .ok (finished, length)) :
    ValidatesAs finished.bytes length commandBufferId sequence (builder.appended calls).length ↔
      Runs.EveryStep step (fun builder command => ¬builder.AppendsMisfiltered command) builder calls := by
  obtain ⟨built, nonzero, handle⟩ := start_built begun
  rw [← appended_clean_iff]
  exact (built.run calls).validatesAs_iff nonzero handle done

def emptyBatch : CommandBatchBuilder :=
  ⟨copyInto zeroed 0 zeroed 32, 4096, 32, 0x0b00000000000001, 1, 0, false⟩

theorem start_emptyBatch : start zeroed 4096 0x0b00000000000001 1 = .ok emptyBatch := rfl

def linearBlit : Command :=
  .transfer Opcode.blitImage2.code
    { (default : TransferCommand) with
      sourceId := 0x0700000000000001
      destinationId := 0x0700000000000002
      sourceLayout := 6
      destinationLayout := 7
      filter := 1
      regionCount := 1
      regions := fun _ =>
        { (default : TransferRegion) with
          sourceLayers := ⟨1, 0, 0, 1⟩
          destinationLayers := ⟨1, 0, 0, 1⟩
          sourceOffsets := fun corner => if corner.val = 0 then ⟨0, 0, 0⟩ else ⟨4, 4, 1⟩
          destinationOffsets := fun corner => if corner.val = 0 then ⟨0, 0, 0⟩ else ⟨8, 8, 1⟩
          extent := ⟨4, 4, 1⟩ } }

/-- A blit with a filter, a fill, a draw and the end. -/
def blitCalls : List Command :=
  [linearBlit, .fillBuffer ⟨0x1300000000000001, 0, 16, 7⟩, .draw ⟨3, 1, 0, 0⟩, .vulkanEnd]

theorem appended_blitCalls : emptyBatch.appended blitCalls = blitCalls := rfl

theorem blitCalls_finish : ∃ finished,
    (Runs.final step emptyBatch blitCalls).finish = .ok (finished, 272) := ⟨_, rfl⟩

theorem finished_batch_validates_iff_blit : ∃ finished length,
    (Runs.final step emptyBatch blitCalls).finish = .ok (finished, length) ∧
      ValidatesAs finished.bytes length 0x0b00000000000001 1 4 := by
  obtain ⟨finished, done⟩ := blitCalls_finish
  refine ⟨finished, _, done, ?_⟩
  have validates := (finished_batch_validates_iff start_emptyBatch done).mpr
    ⟨fun wrong => Bool.noConfusion wrong.2, fun wrong => Bool.noConfusion wrong.2,
      fun wrong => Bool.noConfusion wrong.2, fun wrong => Bool.noConfusion wrong.2, trivial⟩
  rw [appended_blitCalls] at validates
  exact validates

/-- A copy between two buffers whose filter is set. -/
def filteredCopy : Command :=
  .transfer Opcode.copyBuffer2.code
    { (default : TransferCommand) with
      sourceId := 0x1300000000000001
      destinationId := 0x1300000000000002
      filter := 1
      regionCount := 1
      regions := fun _ => { (default : TransferRegion) with size := 4 } }

theorem accepts_filteredCopy : emptyBatch.Accepts filteredCopy := by decide

/-- The builder appends and finishes the copy, the validator refuses the batch. -/
theorem filteredCopy_batch_refused : ∃ finished length,
    start zeroed 4096 0x0b00000000000001 1 = .ok emptyBatch ∧
      emptyBatch.appended [filteredCopy] = [filteredCopy] ∧
      (Runs.final step emptyBatch [filteredCopy]).finish = .ok (finished, length) ∧
      ¬ValidatesAs finished.bytes length 0x0b00000000000001 1 (emptyBatch.appended [filteredCopy]).length := by
  have appends : emptyBatch.appended [filteredCopy] = [filteredCopy] := by
    rw [appended_cons, if_pos accepts_filteredCopy, appended]
  have last : Runs.final step emptyBatch [filteredCopy] = emptyBatch.withRecord filteredCopy := by
    rw [Runs.final, List.foldl_cons, List.foldl_nil, step_eq, if_pos accepts_filteredCopy]
  have built := (start_built start_emptyBatch).1.withRecord accepts_filteredCopy
  refine ⟨_, _, start_emptyBatch, appends, by rw [last]; rfl, ?_⟩
  rw [appends]
  intro validates
  have clean := (built.validatesAs_iff (by decide) (by decide) rfl).mp validates
  exact absurd (clean filteredCopy (List.mem_singleton_self _)) (by decide)

theorem CommandBatchBuilder.Built.records_eq {builder finished : CommandBatchBuilder}
    {commandBufferId sequence : UInt64} {capacity length : Nat} {commands : List Command}
    (built : builder.Built commandBufferId sequence capacity commands)
    (done : builder.finish = .ok (finished, length)) {info : CommandBatchInfo}
    (validated : commandBatchValidate finished.bytes length = .ok info) :
    commandBatchRecords finished.bytes length = .ok (commands.map Command.record) := by
  obtain ⟨records, accepted, counted⟩ := commandBatchValidate_sound validated
  have count : info.commandCount.toNat = (commands.map Command.record).length := by
    rw [← counted, ← accepted.header.commandCount, (built.finished_header done).commandCount, List.length_map]
  simp only [commandBatchRecords, CommandBatchIterator.init, validated, count]
  exact CommandBatchIterator.collect_holds (Nat.le_refl length) (built.finished_holds done)

/-- The iterator yields the appended commands in order, and each decoder returns
its command, cleared. -/
theorem finished_batch_decodes {bytes : Buffer} {capacity length : Nat}
    {commandBufferId sequence : UInt64} {builder finished : CommandBatchBuilder} {calls : List Command}
    {info : CommandBatchInfo} (begun : start bytes capacity commandBufferId sequence = .ok builder)
    (done : (Runs.final step builder calls).finish = .ok (finished, length))
    (validated : commandBatchValidate finished.bytes length = .ok info) :
    ∃ records, commandBatchRecords finished.bytes length = .ok records ∧
      records.map commandDecode = (builder.appended calls).map fun command => .ok command.cleared := by
  have built := (start_built begun).1.run calls
  refine ⟨_, built.records_eq done validated, ?_⟩
  rw [List.map_map]
  apply List.map_congr_left
  intro command member
  exact commandDecode_record (built.checked command member)

theorem blitCalls_validate {finished : CommandBatchBuilder} {length : Nat}
    (done : (Runs.final step emptyBatch blitCalls).finish = .ok (finished, length)) :
    ∃ info, commandBatchValidate finished.bytes length = .ok info := by
  have built := (start_built start_emptyBatch).1.run blitCalls
  rw [appended_blitCalls] at built
  obtain ⟨info, validated, _⟩ := (built.validatesAs_iff (by decide) (by decide) done).mpr (by decide)
  exact ⟨info, validated⟩

theorem finished_batch_decodes_blit : ∃ finished length info records,
    (Runs.final step emptyBatch blitCalls).finish = .ok (finished, length) ∧
      commandBatchValidate finished.bytes length = .ok info ∧
      commandBatchRecords finished.bytes length = .ok records ∧
      records.map commandDecode = blitCalls.map fun command => .ok command.cleared := by
  obtain ⟨finished, done⟩ := blitCalls_finish
  obtain ⟨info, validated⟩ := blitCalls_validate done
  obtain ⟨records, yielded, decoded⟩ := finished_batch_decodes start_emptyBatch done validated
  rw [appended_blitCalls] at decoded
  exact ⟨finished, _, info, records, done, validated, yielded, decoded⟩

/-- A rendering with a color attachment and no depth attachment, whose unused
depth attachment structure is not zero. -/
def strayDepthRendering : BeginRenderingCommand :=
  { (default : BeginRenderingCommand) with
    width := 1
    height := 1
    layerCount := 1
    colorAttachmentCount := 1
    depthAttachment := { (default : RenderingAttachment) with imageLayout := 2 } }

theorem accepts_strayDepthRendering : emptyBatch.Accepts (.beginRendering strayDepthRendering) := by
  decide

/-- The decoder does not return the unused depth attachment that was appended. -/
theorem strayDepthRendering_not_returned : ∃ finished length info decoded,
    start zeroed 4096 0x0b00000000000001 1 = .ok emptyBatch ∧
      emptyBatch.appended [.beginRendering strayDepthRendering] = [.beginRendering strayDepthRendering] ∧
      (Runs.final step emptyBatch [.beginRendering strayDepthRendering]).finish = .ok (finished, length) ∧
      commandBatchValidate finished.bytes length = .ok info ∧
      commandBatchRecords finished.bytes length = .ok [(Command.beginRendering strayDepthRendering).record] ∧
      commandDecode (Command.beginRendering strayDepthRendering).record = .ok (.beginRendering decoded) ∧
      decoded.depthAttachment ≠ strayDepthRendering.depthAttachment := by
  have accepts := accepts_strayDepthRendering
  have appends : emptyBatch.appended [.beginRendering strayDepthRendering] =
      [.beginRendering strayDepthRendering] := by
    rw [appended_cons, if_pos accepts, appended]
  have last : Runs.final step emptyBatch [.beginRendering strayDepthRendering] =
      emptyBatch.withRecord (.beginRendering strayDepthRendering) := by
    rw [Runs.final, List.foldl_cons, List.foldl_nil, step_eq, if_pos accepts]
  have built := (start_built start_emptyBatch).1.withRecord accepts
  obtain ⟨info, validated, _⟩ := (built.validatesAs_iff (by decide) (by decide) rfl).mpr (by
    intro command member
    rw [List.mem_singleton.mp member]
    rfl)
  refine ⟨_, _, info, _, start_emptyBatch, appends, by rw [last]; rfl, validated,
    built.records_eq rfl validated, commandDecode_record accepts.1, ?_⟩
  intro same
  exact absurd (congrArg RenderingAttachment.imageLayout same) (by decide)

/-- Iterate, decode and append again to a fresh builder over `scratch` that is as
large as the batch. -/
def commandBatchRebuild (scratch bytes : Buffer) (length : Nat) : Except Errno (Buffer × Nat) := do
  let info ← commandBatchValidate bytes length
  let records ← commandBatchRecords bytes length
  let commands ← records.mapM commandDecode
  let builder ← start scratch length info.commandBufferId info.sequence
  let builder ← commands.foldlM append builder
  let (finished, size) ← builder.finish
  return (finished.bytes, size)

theorem decode_records {records : List CommandRecord}
    (ends : ∀ record ∈ records, EndsBy record.payload record.payloadLength)
    (sized : ∀ record ∈ records,
      payloadLengthIsValid record.opcode record.payload record.payloadLength = true)
    (valid : ∀ record ∈ records, validatePayload record.opcode record.payload = true) :
    ∃ commands : List Command, records.mapM commandDecode = .ok commands ∧
      commands.map Command.record = records ∧
      ∀ command ∈ commands, command.encoding.appendable = true := by
  induction records with
  | nil => exact ⟨[], rfl, rfl, fun command member => absurd member List.not_mem_nil⟩
  | cons record rest ih =>
      obtain ⟨ends, endsRest⟩ := List.forall_mem_cons.mp ends
      obtain ⟨sized, sizedRest⟩ := List.forall_mem_cons.mp sized
      obtain ⟨valid, validRest⟩ := List.forall_mem_cons.mp valid
      obtain ⟨commands, decodedRest, same, appendable⟩ := ih endsRest sizedRest validRest
      obtain ⟨command, decoded, encoding⟩ := canonical_of_valid ends sized valid
      have first : command.record = record := by
        rw [Command.record, encoding]
      refine ⟨command :: commands, ?_, ?_, List.forall_mem_cons.mpr ⟨congrArg (·.appendable) encoding, appendable⟩⟩
      · simp only [List.mapM_cons, decoded, decodedRest, bind, Except.bind, pure, Except.pure]
      · rw [List.map_cons, first, same]

theorem CommandBatchBuilder.Built.append_all {commandBufferId sequence : UInt64} {length : Nat}
    {bytes : Buffer} (bounded : length ≤ commandBatchMaxBytes) {commands : List Command}
    (appendable : ∀ command ∈ commands, command.encoding.appendable = true)
    {builder : CommandBatchBuilder} {earlier : List Command}
    (built : builder.Built commandBufferId sequence length earlier)
    (few : earlier.length + commands.length ≤ commandBatchMaxCommands)
    (ahead : Holds bytes builder.length (commands.map Command.record) length) :
    ∃ last, commands.foldlM append builder = .ok last ∧
      last.Built commandBufferId sequence length (earlier ++ commands) ∧ last.length = length := by
  induction commands generalizing builder earlier with
  | nil => exact ⟨builder, rfl, (List.append_nil earlier).symm ▸ built, ahead⟩
  | cons command rest ih =>
      obtain ⟨_, _, later⟩ := ahead
      have inside : builder.length + (8 + command.encoding.payloadSize) ≤ length := later.le
      have accepts : builder.Accepts command := by
        refine ⟨appendable command List.mem_cons_self, ?_, ?_⟩
        · have large := built.holds.le
          have fits := built.fits
          have count := built.count
          simp only [List.length_cons] at few
          simp only [accepting, built.unfinished, Bool.false_or, Bool.not_eq_true', Bool.or_eq_false_iff,
            decide_eq_false_iff_not]
          omega
        · have room := built.room
          simp only [hasRoom, Bool.not_eq_true', Bool.or_eq_false_iff, decide_eq_false_iff_not]
          omega
      obtain ⟨last, appended, whole, ends⟩ := ih
        (fun other member => appendable other (List.mem_cons_of_mem _ member)) (built.withRecord accepts)
        (by simp only [List.length_append, List.length_cons, List.length_nil] at few ⊢; omega) later
      refine ⟨last, ?_, List.append_cons earlier command rest ▸ whole, ends⟩
      rw [List.foldlM_cons, append_accepted accepts]
      exact appended

theorem start_ok (scratch : Buffer) {length : Nat} {commandBufferId sequence : UInt64}
    (large : 32 ≤ length) (bounded : length ≤ commandBatchMaxBytes) (nonzero : sequence ≠ 0)
    (handle : handleExpect commandBufferId .commandBuffer = true) :
    ∃ builder, start scratch length commandBufferId sequence = .ok builder ∧ builder.length = 32 := by
  have allowed : ¬(length < 32 ∨ length > commandBatchMaxBytes ∨ sequence = 0 ∨
      handleExpect commandBufferId .commandBuffer = false) := by
    simp only [not_or, Bool.not_eq_false]
    exact ⟨by omega, by omega, nonzero, handle⟩
  simp only [start, if_neg allowed]
  exact ⟨_, rfl, rfl⟩

theorem finish_ok {builder : CommandBatchBuilder} (unfinished : builder.finished = false)
    (occupied : builder.commandCount ≠ 0) (small : builder.length ≤ commandBatchMaxBytes) :
    ∃ finished, builder.finish = .ok (finished, builder.length) := by
  have allowed : ¬(builder.finished ∨ builder.commandCount = 0 ∨ builder.length > 0xffffffff) := by
    simp only [commandBatchMaxBytes] at small
    simp only [unfinished, Bool.false_eq_true, false_or, not_or]
    omega
  simp only [finish, if_neg allowed]
  exact ⟨_, rfl⟩

/-- The format is canonical: an accepted batch is rebuilt byte for byte. -/
theorem valid_batch_rebuilds (scratch : Buffer) {bytes : Buffer} {length : Nat} {info : CommandBatchInfo}
    (validated : commandBatchValidate bytes length = .ok info) :
    ∃ rebuilt, commandBatchRebuild scratch bytes length = .ok (rebuilt, length) ∧
      ∀ index, index < length → rebuilt index = bytes index := by
  obtain ⟨records, accepted, _⟩ := commandBatchValidate_sound validated
  obtain ⟨commands, decoded, rfl, appendable⟩ :=
    decode_records accepted.holds.payload_endsBy accepted.sized accepted.valid
  obtain ⟨builder, begun, short⟩ :=
    start_ok scratch accepted.holds.le accepted.bounded accepted.nonzero accepted.handle
  have few := accepted.few
  rw [List.length_map] at few
  obtain ⟨last, appended, built, full⟩ := (start_built begun).1.append_all accepted.bounded appendable
    (by simpa using few) (short ▸ accepted.holds)
  rw [List.nil_append] at built
  have occupied : last.commandCount ≠ 0 := by
    rw [built.count]
    exact fun empty => accepted.nonempty (by rw [List.length_eq_zero_iff.mp empty]; rfl)
  obtain ⟨finished, done⟩ := finish_ok built.unfinished occupied (full ▸ accepted.bounded)
  rw [full] at done
  refine ⟨finished.bytes, ?_, ?_⟩
  · simp only [commandBatchRebuild, validated, accepted.records_eq, decoded, begun, appended, done, bind,
      Except.bind, pure, Except.pure]
  · intro index inside
    by_cases inHeader : index < 32
    · have header := accepted.header
      rw [List.length_map] at header
      exact (built.finished_header done).bytes_eq header index inHeader
    · exact (built.finished_holds done).bytes_eq accepted.holds index (by omega) inside

theorem valid_batch_rebuilds_blit : ∃ finished length info rebuilt,
    (Runs.final step emptyBatch blitCalls).finish = .ok (finished, length) ∧
      commandBatchValidate finished.bytes length = .ok info ∧
      commandBatchRebuild zeroed finished.bytes length = .ok (rebuilt, length) ∧
      ∀ index, index < length → rebuilt index = finished.bytes index := by
  obtain ⟨finished, done⟩ := blitCalls_finish
  obtain ⟨info, validated⟩ := blitCalls_validate done
  obtain ⟨rebuilt, succeeds, same⟩ := valid_batch_rebuilds zeroed validated
  exact ⟨finished, _, info, rebuilt, done, validated, succeeds, same⟩

end VulkanBridge
