import VulkanBridge.CommandDecode
import VulkanBridge.Runs

/-!
A command batch: the builder that appends records behind a 32-byte header, the
validator of the finished bytes and the iterator over its records.
-/

namespace VulkanBridge

open ByteBuffer

def commandBatchMagic : UInt32 := 0x43425642
def commandBatchVersion : UInt16 := 1
def commandBatchMaxBytes : Nat := 16 * 1024 * 1024
def commandStreamSlotBytes : Nat := 2 * 1024 * 1024
def commandBatchMaxCommands : Nat := 1024 * 1024

/-- What an append function does with its command: the check of the arguments
and the record it would append. -/
structure CommandEncoding where
  appendable : Bool
  opcode : UInt16
  payload : Buffer
  payloadSize : Nat

def DynamicStateCommand.isAppendable (command : DynamicStateCommand) : Bool :=
  !(command.valueCount > 8) && validatePayload Opcode.dynamicState.code command.payload

def Command.encoding : Command → CommandEncoding
  | .beginRendering command =>
      ⟨command.isAppendable, Opcode.beginRendering.code, command.payload, 600⟩
  | .bindGraphicsPipeline command =>
      ⟨command.isAppendable, Opcode.bindGraphicsPipeline.code, command.payload, 16⟩
  | .pushRotation command => ⟨command.isAppendable, Opcode.pushRotation.code, command.payload, 16⟩
  | .setViewport command => ⟨command.isAppendable, Opcode.setViewport.code, command.payload, 24⟩
  | .setScissor command => ⟨command.isAppendable, Opcode.setScissor.code, command.payload, 16⟩
  | .draw command => ⟨command.isAppendable, Opcode.draw.code, command.payload, 16⟩
  | .endRendering => ⟨true, Opcode.endRendering.code, zeroed, 0⟩
  | .fillBuffer command => ⟨command.isAppendable, Opcode.fillBuffer.code, command.payload, 32⟩
  | .bufferHostReadBarrier command =>
      ⟨command.isAppendable, Opcode.bufferHostReadBarrier.code, command.payload, 24⟩
  | .vulkanBegin command => ⟨command.isAppendable, Opcode.vulkanBegin.code, command.payload, 8⟩
  | .clearColorImage command => ⟨command.isAppendable, Opcode.clearColorImage.code, command.payload, 16⟩
  | .initImageBarrier command =>
      ⟨command.isAppendable, Opcode.initImageBarrier.code, command.payload, 40⟩
  | .vulkanEnd => ⟨true, Opcode.vulkanEnd.code, zeroed, 0⟩
  | .imageBarrier2 command =>
      ⟨command.isAppendable, Opcode.imageBarrier2.code, command.payload, command.payloadSize⟩
  | .clearColorImageGeneral command =>
      ⟨command.isAppendable, Opcode.clearColorImageGeneral.code, command.payload, 128⟩
  | .bindDescriptorSets command =>
      ⟨command.isAppendable, Opcode.bindDescriptorSets.code, command.payload, 216⟩
  | .pushConstants command => ⟨command.isAppendable, Opcode.pushConstants.code, command.payload, 280⟩
  | .transfer opcode command =>
      ⟨command.isAppendable opcode, opcode, command.payload, transferPayloadSize command.regionCount.toNat⟩
  | .bindVertexBuffers opcode command => ⟨command.isAppendable opcode, opcode, command.payload, 528⟩
  | .bindIndexBuffer opcode command => ⟨command.isAppendable opcode, opcode, command.payload, 32⟩
  | .drawIndexed command => ⟨true, Opcode.drawIndexed.code, command.payload, 24⟩
  | .drawIndirect opcode command => ⟨command.isAppendable opcode, opcode, command.payload, 32⟩
  | .drawIndirectCount opcode command => ⟨command.isAppendable opcode, opcode, command.payload, 48⟩
  | .dynamicState command => ⟨command.isAppendable, Opcode.dynamicState.code, command.payload, 40⟩
  | .clearDepthStencilImage command =>
      ⟨command.isAppendable, Opcode.clearDepthStencilImage.code, command.payload, 120⟩
  | .clearAttachments command =>
      ⟨command.isAppendable, Opcode.clearAttachments.code, command.payload, 392⟩
  | .updateBuffer command =>
      ⟨command.isAppendable, Opcode.updateBuffer.code, command.payload, 24 + command.dataSize.toNat⟩
  | .query command => ⟨command.isAppendable, Opcode.query.code, command.payload, 40⟩

structure CommandBatchBuilder where
  bytes : Buffer
  capacity : Nat
  length : Nat
  commandBufferId : UInt64
  sequence : UInt64
  commandCount : Nat
  finished : Bool

namespace CommandBatchBuilder

def start (bytes : Buffer) (capacity : Nat) (commandBufferId sequence : UInt64) :
    Except Errno CommandBatchBuilder :=
  if capacity < 32 ∨ capacity > commandBatchMaxBytes ∨ sequence = 0 ∨
      handleExpect commandBufferId .commandBuffer = false then .error .einval
  else
    .ok
      { bytes := copyInto bytes 0 zeroed 32
        capacity := capacity
        length := 32
        commandBufferId := commandBufferId
        sequence := sequence
        commandCount := 0
        finished := false }

/-- The builder takes records, the first test of `append_record`. -/
def accepting (builder : CommandBatchBuilder) : Bool :=
  !(builder.finished || builder.length < 32 || builder.length > builder.capacity ||
    builder.commandCount ≥ commandBatchMaxCommands)

/-- The record fits, the second test of `append_record`. -/
def hasRoom (builder : CommandBatchBuilder) (recordLength : Nat) : Bool :=
  !(recordLength > commandBatchMaxBytes || recordLength > builder.capacity ||
    builder.length > builder.capacity - recordLength ||
    builder.length > commandBatchMaxBytes - recordLength)

def appendRecord (builder : CommandBatchBuilder) (opcode : UInt16) (payload : Buffer)
    (payloadLength : Nat) : Except Errno CommandBatchBuilder :=
  if !builder.accepting then .error .einval
  else if !builder.hasRoom (8 + payloadLength) then .error .enospc
  else
    let record := builder.length
    let bytes := putU16 builder.bytes record opcode
    let bytes := putU16 bytes (record + 2) 0
    let bytes := putU32 bytes (record + 4) (UInt32.ofNat payloadLength)
    .ok { builder with
      bytes := copyInto bytes (record + 8) payload payloadLength
      length := builder.length + (8 + payloadLength)
      commandCount := builder.commandCount + 1 }

def append (builder : CommandBatchBuilder) (command : Command) : Except Errno CommandBatchBuilder :=
  if !command.encoding.appendable then .error .einval
  else builder.appendRecord command.encoding.opcode command.encoding.payload command.encoding.payloadSize

/-- The builder after one append call: a failed call leaves it alone. -/
def step (builder : CommandBatchBuilder) (command : Command) : CommandBatchBuilder :=
  match builder.append command with
  | .ok next => next
  | .error _ => builder

/-- The commands of a sequence of append calls that returned 0. -/
def appended : CommandBatchBuilder → List Command → List Command
  | _, [] => []
  | builder, command :: rest =>
      match builder.append command with
      | .ok next => command :: next.appended rest
      | .error _ => builder.appended rest

def finish (builder : CommandBatchBuilder) : Except Errno (CommandBatchBuilder × Nat) :=
  if builder.finished ∨ builder.commandCount = 0 ∨ builder.length > 0xffffffff then .error .einval
  else
    let header := putU32 builder.bytes 0 commandBatchMagic
    let header := putU16 header 4 commandBatchVersion
    let header := putU16 header 6 0
    let header := putU32 header 8 (UInt32.ofNat builder.length)
    let header := putU32 header 12 (UInt32.ofNat builder.commandCount)
    let header := putU64 header 16 builder.commandBufferId
    let header := putU64 header 24 builder.sequence
    .ok ({ builder with bytes := header, finished := true }, builder.length)

end CommandBatchBuilder

structure CommandBatchInfo where
  commandBufferId : UInt64
  sequence : UInt64
  commandCount : UInt32
  byteLength : UInt32
  deriving DecidableEq, Repr

def recordAt (bytes : Buffer) (offset : Nat) : CommandRecord :=
  let payloadLength := (getU32 bytes (offset + 4)).toNat
  { opcode := getU16 bytes offset
    payload := window bytes (offset + 8) payloadLength
    payloadLength := payloadLength }

def validateRecords (bytes : Buffer) (length : Nat) : Nat → Nat → Option Nat
  | 0, offset => some offset
  | remaining + 1, offset =>
      let record := recordAt bytes offset
      if offset > length || length - offset < 8 then none
      else if getU16 bytes (offset + 2) != 0 || (Opcode.ofCode record.opcode).isNone ||
          record.payloadLength > length - offset - 8 then none
      else if !payloadLengthIsValid record.opcode record.payload record.payloadLength ||
          !validatePayload record.opcode record.payload then none
      else validateRecords bytes length remaining (offset + (8 + record.payloadLength))

def commandBatchValidate (bytes : Buffer) (length : Nat) : Except Errno CommandBatchInfo :=
  if length < 32 ∨ length > commandBatchMaxBytes then .error .einval
  else
    let byteLength := getU32 bytes 8
    let commandCount := getU32 bytes 12
    let commandBufferId := getU64 bytes 16
    let sequence := getU64 bytes 24
    if getU32 bytes 0 ≠ commandBatchMagic ∨ getU16 bytes 4 ≠ commandBatchVersion ∨ getU16 bytes 6 ≠ 0 ∨
        byteLength.toNat ≠ length ∨ commandCount = 0 ∨ commandCount.toNat > commandBatchMaxCommands ∨
        handleExpect commandBufferId .commandBuffer = false ∨ sequence = 0 then .error .eproto
    else if validateRecords bytes length commandCount.toNat 32 ≠ some length then .error .eproto
    else .ok ⟨commandBufferId, sequence, commandCount, byteLength⟩

structure CommandBatchIterator where
  bytes : Buffer
  length : Nat
  offset : Nat
  remaining : Nat

namespace CommandBatchIterator

def init (bytes : Buffer) (length : Nat) : Except Errno CommandBatchIterator :=
  match commandBatchValidate bytes length with
  | .error code => .error code
  | .ok info => .ok ⟨bytes, length, 32, info.commandCount.toNat⟩

/-- `none` is the result 1 of the C function: the batch is exhausted. -/
def next (iterator : CommandBatchIterator) : Except Errno (Option (CommandRecord × CommandBatchIterator)) :=
  if iterator.offset > iterator.length then .error .einval
  else if iterator.remaining = 0 then .ok none
  else
    let record := recordAt iterator.bytes iterator.offset
    .ok (some (record,
      { iterator with
        offset := iterator.offset + (8 + record.payloadLength)
        remaining := iterator.remaining - 1 }))

/-- Calls `next` until the batch is exhausted, at most `calls` times. -/
def collect : Nat → CommandBatchIterator → Except Errno (List CommandRecord)
  | 0, _ => .error .einval
  | calls + 1, iterator =>
      match iterator.next with
      | .error code => .error code
      | .ok none => .ok []
      | .ok (some (record, rest)) => (collect calls rest).map (record :: ·)

end CommandBatchIterator

/-- The records of a batch, one call of `next` more than it has records. -/
def commandBatchRecords (bytes : Buffer) (length : Nat) : Except Errno (List CommandRecord) :=
  match CommandBatchIterator.init bytes length with
  | .error code => .error code
  | .ok iterator => iterator.collect (iterator.remaining + 1)

end VulkanBridge
