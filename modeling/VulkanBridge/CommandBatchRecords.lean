import VulkanBridge.CommandCodec

/-!
The records of a batch as a list: what the builder has written so far, what the
validator walks over and what the iterator yields.
-/

namespace VulkanBridge

open ByteBuffer

/-- The bytes from `offset` up to `final` are the records, one behind the other. -/
def Holds (bytes : Buffer) : Nat → List CommandRecord → Nat → Prop
  | offset, [], final => offset = final
  | offset, record :: rest, final =>
      recordAt bytes offset = record ∧ getU16 bytes (offset + 2) = 0 ∧
        Holds bytes (offset + (8 + record.payloadLength)) rest final

namespace Holds

variable {bytes : Buffer} {final : Nat}

theorem le {records : List CommandRecord} {offset : Nat} (holds : Holds bytes offset records final) :
    offset ≤ final := by
  induction records generalizing offset with
  | nil => exact Nat.le_of_eq holds
  | cons record rest ih =>
      have later := ih holds.2.2
      omega

theorem append {records : List CommandRecord} {record : CommandRecord} {offset : Nat}
    (holds : Holds bytes offset records final) (last : recordAt bytes final = record)
    (reserved : getU16 bytes (final + 2) = 0) :
    Holds bytes offset (records ++ [record]) (final + (8 + record.payloadLength)) := by
  induction records generalizing offset with
  | nil =>
      obtain rfl : offset = final := holds
      exact ⟨last, reserved, rfl⟩
  | cons first rest ih => exact ⟨holds.1, holds.2.1, ih holds.2.2⟩

theorem payload_endsBy {records : List CommandRecord} {offset : Nat}
    (holds : Holds bytes offset records final) :
    ∀ record ∈ records, EndsBy record.payload record.payloadLength := by
  induction records generalizing offset with
  | nil => exact fun record member => absurd member List.not_mem_nil
  | cons first rest ih =>
      intro record member
      rcases List.mem_cons.mp member with rfl | later
      · rw [← holds.1]
        exact window_endsBy _ _ _
      · exact ih holds.2.2 record later

end Holds

theorem recordAt_congr {left right : Buffer} {offset : Nat}
    (same : ∀ index, offset ≤ index → index < offset + (8 + (recordAt left offset).payloadLength) →
      left index = right index) : recordAt left offset = recordAt right offset := by
  have opcode : getU16 left offset = getU16 right offset :=
    getU16_reads offset left right fun index lower upper => same index lower (by omega)
  have length : getU32 left (offset + 4) = getU32 right (offset + 4) :=
    getU32_reads (offset + 4) left right fun index lower upper => same index (by omega) (by omega)
  simp only [recordAt, opcode, ← length]
  congr 1
  apply window_congr
  intro index lower upper
  exact same index (by omega) (by simp only [recordAt]; omega)

theorem Holds.congr {left right : Buffer} {records : List CommandRecord} {offset final : Nat}
    (holds : Holds left offset records final)
    (same : ∀ index, offset ≤ index → index < final → left index = right index) :
    Holds right offset records final := by
  induction records generalizing offset with
  | nil => exact holds
  | cons record rest ih =>
      obtain ⟨here, reserved, later⟩ := holds
      have inside := later.le
      have moved : recordAt left offset = recordAt right offset :=
        recordAt_congr fun index lower upper => same index lower (by rw [here] at upper; omega)
      have word : getU16 left (offset + 2) = getU16 right (offset + 2) :=
        getU16_reads _ left right fun index lower upper => same index (by omega) (by omega)
      exact ⟨moved ▸ here, word ▸ reserved, ih later fun index lower upper => same index (by omega) upper⟩

theorem Holds.bytes_eq {left right : Buffer} {records : List CommandRecord} {offset final : Nat}
    (first : Holds left offset records final) (second : Holds right offset records final)
    (index : Nat) (lower : offset ≤ index) (upper : index < final) : left index = right index := by
  induction records generalizing offset with
  | nil =>
      have empty : offset = final := first
      omega
  | cons record rest ih =>
      obtain ⟨here, reserved, later⟩ := first
      obtain ⟨here', reserved', later'⟩ := second
      by_cases behind : offset + (8 + record.payloadLength) ≤ index
      · exact ih later later' behind
      have opcode : getU16 left offset = getU16 right offset :=
        congrArg CommandRecord.opcode (here.trans here'.symm)
      have size : (getU32 left (offset + 4)).toNat = (getU32 right (offset + 4)).toNat :=
        congrArg CommandRecord.payloadLength (here.trans here'.symm)
      by_cases inOpcode : index < offset + 2
      · exact getU16_injective opcode index lower inOpcode
      by_cases inReserved : index < offset + 4
      · exact getU16_injective (reserved.trans reserved'.symm) index (by omega) (by omega)
      by_cases inLength : index < offset + 8
      · exact getU32_injective (UInt32.toNat_inj.mp size) index (by omega) (by omega)
      have length : (getU32 left (offset + 4)).toNat = record.payloadLength :=
        congrArg CommandRecord.payloadLength here
      have payload := congrFun (congrArg CommandRecord.payload (here.trans here'.symm)) (index - (offset + 8))
      simp only [recordAt, window, ← size, length] at payload
      rwa [if_pos (by omega), if_pos (by omega), show offset + 8 + (index - (offset + 8)) = index by omega]
        at payload

namespace CommandBatchBuilder

/-- The call gets past the argument checks and both tests of `append_record`. -/
def Accepts (builder : CommandBatchBuilder) (command : Command) : Prop :=
  command.encoding.appendable = true ∧ builder.accepting = true ∧
    builder.hasRoom (8 + command.encoding.payloadSize) = true

instance (builder : CommandBatchBuilder) (command : Command) : Decidable (builder.Accepts command) :=
  inferInstanceAs (Decidable (_ ∧ _))

def withRecord (builder : CommandBatchBuilder) (command : Command) : CommandBatchBuilder :=
  { builder with
    bytes := copyInto
      (putU32 (putU16 (putU16 builder.bytes builder.length command.encoding.opcode) (builder.length + 2) 0)
        (builder.length + 4) (UInt32.ofNat command.encoding.payloadSize))
      (builder.length + 8) command.encoding.payload command.encoding.payloadSize
    length := builder.length + (8 + command.encoding.payloadSize)
    commandCount := builder.commandCount + 1 }

theorem append_accepted {builder : CommandBatchBuilder} {command : Command}
    (accepts : builder.Accepts command) : builder.append command = .ok (builder.withRecord command) := by
  obtain ⟨appendable, accepting, room⟩ := accepts
  simp [append, appendRecord, appendable, accepting, room, withRecord]

theorem append_refused {builder : CommandBatchBuilder} {command : Command}
    (refuses : ¬builder.Accepts command) : ∃ code, builder.append command = .error code := by
  by_cases appendable : command.encoding.appendable = true
  · by_cases accepting : builder.accepting = true
    · by_cases room : builder.hasRoom (8 + command.encoding.payloadSize) = true
      · exact absurd ⟨appendable, accepting, room⟩ refuses
      · exact ⟨.enospc, by simp [append, appendRecord, appendable, accepting, room]⟩
    · exact ⟨.einval, by simp [append, appendRecord, appendable, accepting]⟩
  · exact ⟨.einval, by simp [append, appendable]⟩

theorem step_eq (builder : CommandBatchBuilder) (command : Command) :
    builder.step command = if builder.Accepts command then builder.withRecord command else builder := by
  by_cases accepts : builder.Accepts command
  · simp only [step, append_accepted accepts, if_pos accepts]
  · obtain ⟨code, refused⟩ := append_refused accepts
    simp only [step, refused, if_neg accepts]

theorem appended_cons (builder : CommandBatchBuilder) (command : Command) (calls : List Command) :
    builder.appended (command :: calls) =
      if builder.Accepts command then command :: (builder.withRecord command).appended calls
      else builder.appended calls := by
  by_cases accepts : builder.Accepts command
  · simp only [appended, append_accepted accepts, if_pos accepts]
  · obtain ⟨code, refused⟩ := append_refused accepts
    simp only [appended, refused, if_neg accepts]

/-- What a builder is after the commands have been appended. -/
structure Built (builder : CommandBatchBuilder) (commandBufferId sequence : UInt64) (capacity : Nat)
    (commands : List Command) : Prop where
  commandBuffer : builder.commandBufferId = commandBufferId
  sequenceKept : builder.sequence = sequence
  room : builder.capacity = capacity
  unfinished : builder.finished = false
  fits : builder.length ≤ builder.capacity
  bounded : builder.length ≤ commandBatchMaxBytes
  count : builder.commandCount = commands.length
  few : builder.commandCount ≤ commandBatchMaxCommands
  holds : Holds builder.bytes 32 (commands.map Command.record) builder.length
  checked : ∀ command ∈ commands, command.encoding.appendable = true

theorem start_built {bytes : Buffer} {capacity : Nat} {commandBufferId sequence : UInt64}
    {builder : CommandBatchBuilder} (begun : start bytes capacity commandBufferId sequence = .ok builder) :
    builder.Built commandBufferId sequence capacity [] ∧ sequence ≠ 0 ∧
      handleExpect commandBufferId .commandBuffer = true := by
  simp only [start] at begun
  split at begun
  · contradiction
  · rename_i accepted
    simp only [not_or, Bool.not_eq_false] at accepted
    obtain ⟨large, small, nonzero, handle⟩ := accepted
    cases begun
    refine ⟨?_, nonzero, handle⟩
    exact ⟨rfl, rfl, rfl, rfl, by simp only; omega, by simp only [commandBatchMaxBytes]; omega, rfl,
      Nat.zero_le _, rfl, fun command member => absurd member List.not_mem_nil⟩

theorem recordAt_withRecord (builder : CommandBatchBuilder) {command : Command}
    (appendable : command.encoding.appendable = true) :
    recordAt (builder.withRecord command).bytes builder.length = command.record ∧
      getU16 (builder.withRecord command).bytes (builder.length + 2) = 0 := by
  have small := Command.encoding_size appendable
  have size : (UInt32.ofNat command.encoding.payloadSize).toNat = command.encoding.payloadSize := by
    rw [UInt32.toNat_ofNat_of_lt']
    simp only [UInt32.size]
    omega
  have length : getU32 (builder.withRecord command).bytes (builder.length + 4) =
      UInt32.ofNat command.encoding.payloadSize := by
    simp (disch := omega) only [withRecord, getU32_copyInto_apart, getU32_putU32]
  have opcode : getU16 (builder.withRecord command).bytes builder.length = command.encoding.opcode := by
    simp (disch := omega) only [withRecord, getU16_copyInto_apart, getU16_putU32_apart, getU16_putU16_apart,
      getU16_putU16]
  constructor
  · simp only [recordAt, length, opcode, size, Command.record]
    congr 1
    exact window_copyInto _ _ _ _ (Command.encoding_endsBy appendable)
  · simp (disch := omega) only [withRecord, getU16_copyInto_apart, getU16_putU32_apart, getU16_putU16]

theorem withRecord_apart (builder : CommandBatchBuilder) (command : Command) {index : Nat}
    (before : index < builder.length) : (builder.withRecord command).bytes index = builder.bytes index := by
  simp (disch := omega) only [withRecord, copyInto_apart, putU32_apart, putU16_apart]

theorem Built.withRecord {builder : CommandBatchBuilder} {commandBufferId sequence : UInt64} {capacity : Nat}
    {commands : List Command} (built : builder.Built commandBufferId sequence capacity commands)
    {command : Command} (accepts : builder.Accepts command) :
    (builder.withRecord command).Built commandBufferId sequence capacity (commands ++ [command]) := by
  obtain ⟨appendable, accepting, room⟩ := accepts
  simp only [CommandBatchBuilder.accepting, Bool.not_eq_true', Bool.or_eq_false_iff, decide_eq_false_iff_not,
    hasRoom] at accepting room
  obtain ⟨⟨⟨large, _⟩, _⟩, _⟩ := room
  obtain ⟨last, reserved⟩ := builder.recordAt_withRecord appendable
  have earlier := built.holds.congr fun index _ before => (builder.withRecord_apart command before).symm
  constructor
  · exact built.commandBuffer
  · exact built.sequenceKept
  · exact built.room
  · exact built.unfinished
  · simp only [CommandBatchBuilder.withRecord]
    omega
  · simp only [CommandBatchBuilder.withRecord]
    omega
  · simp only [CommandBatchBuilder.withRecord, built.count, List.length_append, List.length_singleton]
  · simp only [CommandBatchBuilder.withRecord]
    omega
  · rw [List.map_append]
    exact earlier.append last reserved
  · intro other member
    rcases List.mem_append.mp member with earlier | last
    · exact built.checked other earlier
    · rw [List.mem_singleton.mp last]
      exact appendable

theorem Built.run {builder : CommandBatchBuilder} {commandBufferId sequence : UInt64} {capacity : Nat}
    {commands : List Command} (built : builder.Built commandBufferId sequence capacity commands)
    (calls : List Command) :
    (Runs.final step builder calls).Built commandBufferId sequence capacity
      (commands ++ builder.appended calls) := by
  induction calls generalizing builder commands with
  | nil =>
      rw [appended, List.append_nil]
      exact built
  | cons command rest ih =>
      rw [appended_cons, Runs.final, List.foldl_cons, step_eq]
      by_cases accepts : builder.Accepts command
      · rw [if_pos accepts, if_pos accepts, List.append_cons commands command]
        exact ih (built.withRecord accepts)
      · rw [if_neg accepts, if_neg accepts]
        exact ih built

end CommandBatchBuilder

theorem ofCode_of_length {opcode : UInt16} {payload : Buffer} {size : Nat}
    (length : payloadLengthIsValid opcode payload size = true) : (Opcode.ofCode opcode).isNone = false := by
  cases known : Opcode.ofCode opcode with
  | none => simp [payloadLengthIsValid, known] at length
  | some kind => rfl

/-- One turn of the validator's loop over a record that is there and whose length fits its opcode. -/
theorem validateRecords_cons {bytes : Buffer} {length offset remaining : Nat} {record : CommandRecord}
    (here : recordAt bytes offset = record) (reserved : getU16 bytes (offset + 2) = 0)
    (inside : offset + (8 + record.payloadLength) ≤ length)
    (sized : payloadLengthIsValid record.opcode record.payload record.payloadLength = true) :
    validateRecords bytes length (remaining + 1) offset =
      if validatePayload record.opcode record.payload then
        validateRecords bytes length remaining (offset + (8 + record.payloadLength))
      else none := by
  have room : ¬(offset > length || length - offset < 8) = true := by
    simp only [Bool.or_eq_true, decide_eq_true_eq]
    omega
  have shape : ¬(getU16 bytes (offset + 2) != 0 || (Opcode.ofCode record.opcode).isNone ||
      record.payloadLength > length - offset - 8) = true := by
    simp only [reserved, ofCode_of_length sized, bne_self_eq_false, Bool.or_false, Bool.false_or,
      decide_eq_true_eq]
    omega
  rw [validateRecords]
  simp only [here]
  rw [if_neg room, if_neg shape, sized]
  cases validatePayload record.opcode record.payload <;> rfl

theorem validateRecords_complete {bytes : Buffer} {length final : Nat} (inside : final ≤ length)
    {records : List CommandRecord} {offset : Nat} (holds : Holds bytes offset records final)
    (sized : ∀ record ∈ records,
      payloadLengthIsValid record.opcode record.payload record.payloadLength = true)
    (valid : ∀ record ∈ records, validatePayload record.opcode record.payload = true) :
    validateRecords bytes length records.length offset = some final := by
  induction records generalizing offset with
  | nil => exact congrArg some holds
  | cons record rest ih =>
      obtain ⟨here, reserved, later⟩ := holds
      have behind := later.le
      rw [List.length_cons, validateRecords_cons here reserved (by omega) (sized record List.mem_cons_self),
        valid record List.mem_cons_self, if_pos rfl]
      exact ih later (fun other member => sized other (List.mem_cons_of_mem _ member))
        (fun other member => valid other (List.mem_cons_of_mem _ member))

theorem validateRecords_refuses {bytes : Buffer} {length final : Nat} (inside : final ≤ length)
    {records : List CommandRecord} {offset : Nat} (holds : Holds bytes offset records final)
    (sized : ∀ record ∈ records,
      payloadLengthIsValid record.opcode record.payload record.payloadLength = true)
    (invalid : ∃ record ∈ records, validatePayload record.opcode record.payload = false) :
    validateRecords bytes length records.length offset = none := by
  induction records generalizing offset with
  | nil =>
      obtain ⟨record, member, _⟩ := invalid
      exact absurd member List.not_mem_nil
  | cons record rest ih =>
      obtain ⟨here, reserved, later⟩ := holds
      have behind := later.le
      rw [List.length_cons, validateRecords_cons here reserved (by omega) (sized record List.mem_cons_self)]
      cases passes : validatePayload record.opcode record.payload with
      | false => rfl
      | true =>
          rw [if_pos rfl]
          apply ih later fun other member => sized other (List.mem_cons_of_mem _ member)
          obtain ⟨other, member, bad⟩ := invalid
          rcases List.mem_cons.mp member with rfl | later
          · exact absurd passes (by rw [bad]; decide)
          · exact ⟨other, later, bad⟩

theorem validateRecords_sound {bytes : Buffer} {length : Nat} {remaining offset final : Nat}
    (accepted : validateRecords bytes length remaining offset = some final) :
    ∃ records : List CommandRecord, records.length = remaining ∧ Holds bytes offset records final ∧
      ∀ record ∈ records, payloadLengthIsValid record.opcode record.payload record.payloadLength = true ∧
        validatePayload record.opcode record.payload = true := by
  induction remaining generalizing offset with
  | zero => exact ⟨[], rfl, Option.some.inj accepted, fun record member => absurd member List.not_mem_nil⟩
  | succ remaining ih =>
      simp only [validateRecords] at accepted
      split at accepted
      · contradiction
      · split at accepted
        · contradiction
        · rename_i shape
          split at accepted
          · contradiction
          · rename_i checks
            simp only [Bool.or_eq_true, not_or, bne_iff_ne, ne_eq, Decidable.not_not] at shape
            simp only [Bool.or_eq_true, Bool.not_eq_true', not_or, Bool.not_eq_false] at checks
            obtain ⟨records, count, later, valid⟩ := ih accepted
            refine ⟨recordAt bytes offset :: records, by simp [count], ⟨rfl, shape.1.1, later⟩, ?_⟩
            intro record member
            rcases List.mem_cons.mp member with rfl | behind
            · exact checks
            · exact valid record behind

theorem CommandBatchIterator.collect_holds {bytes : Buffer} {length final : Nat} (inside : final ≤ length)
    {records : List CommandRecord} {offset : Nat} (holds : Holds bytes offset records final) :
    collect (records.length + 1) ⟨bytes, length, offset, records.length⟩ = .ok records := by
  induction records generalizing offset with
  | nil =>
      have here : offset = final := holds
      simp only [List.length_nil, collect, next, if_neg (show ¬offset > length by omega), if_true]
  | cons record rest ih =>
      obtain ⟨here, _, later⟩ := holds
      have behind := later.le
      have first : next ⟨bytes, length, offset, rest.length + 1⟩ = .ok (some (record,
          ⟨bytes, length, offset + (8 + record.payloadLength), rest.length⟩)) := by
        simp only [next, if_neg (show ¬offset > length by omega), if_neg (Nat.succ_ne_zero _), here,
          Nat.add_sub_cancel]
      rw [List.length_cons, collect, first]
      simp only [ih later, Except.map]

end VulkanBridge
