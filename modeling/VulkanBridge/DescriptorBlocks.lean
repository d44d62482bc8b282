import VulkanBridge.CommandBlocks
import VulkanBridge.DescriptorWire

/-!
The elements of the descriptor requests, each as a block of fixed size that is read back
as it was written.
-/

namespace VulkanBridge

open ByteBuffer

theorem encodeLayoutBinding_writes (cursor : Nat) (binding : DescriptorLayoutBinding) :
    WritesWithin (encodeLayoutBinding · cursor binding) cursor (cursor + 20) := by
  intro buffer index outside
  simp (disch := omega) only [encodeLayoutBinding, putU32_apart]

theorem decodeLayoutBinding_reads (cursor : Nat) :
    ReadsWithin (decodeLayoutBinding · cursor) cursor (cursor + 20) := by
  intro left right same
  simp (disch := omega) only [decodeLayoutBinding, getU32_same same]

theorem decodeLayoutBinding_encode (buffer : Buffer) (cursor : Nat) (binding : DescriptorLayoutBinding) :
    decodeLayoutBinding (encodeLayoutBinding buffer cursor binding) cursor = binding := by
  simp (disch := omega) only [decodeLayoutBinding, encodeLayoutBinding, getU32_putU32, getU32_putU32_apart]

def layoutBindingBlock : Block DescriptorLayoutBinding :=
  ⟨20, encodeLayoutBinding, decodeLayoutBinding, encodeLayoutBinding_writes, decodeLayoutBinding_reads,
    decodeLayoutBinding_encode⟩

theorem encodeLayoutBinding_decode (target source : Buffer) (cursor : Nat) :
    encodeLayoutBinding target cursor (decodeLayoutBinding source cursor) = graft target source cursor 20 := by
  simp only [encodeLayoutBinding, decodeLayoutBinding, putU32_getU32]
  simp (disch := omega) only [graft_fuse]

theorem encodePoolSize_writes (cursor : Nat) (poolSize : DescriptorPoolSize) :
    WritesWithin (encodePoolSize · cursor poolSize) cursor (cursor + 8) := by
  intro buffer index outside
  simp (disch := omega) only [encodePoolSize, putU32_apart]

theorem decodePoolSize_reads (cursor : Nat) : ReadsWithin (decodePoolSize · cursor) cursor (cursor + 8) := by
  intro left right same
  simp (disch := omega) only [decodePoolSize, getU32_same same]

theorem decodePoolSize_encode (buffer : Buffer) (cursor : Nat) (poolSize : DescriptorPoolSize) :
    decodePoolSize (encodePoolSize buffer cursor poolSize) cursor = poolSize := by
  simp (disch := omega) only [decodePoolSize, encodePoolSize, getU32_putU32, getU32_putU32_apart]

def poolSizeBlock : Block DescriptorPoolSize :=
  ⟨8, encodePoolSize, decodePoolSize, encodePoolSize_writes, decodePoolSize_reads, decodePoolSize_encode⟩

theorem encodePoolSize_decode (target source : Buffer) (cursor : Nat) :
    encodePoolSize target cursor (decodePoolSize source cursor) = graft target source cursor 8 := by
  simp only [encodePoolSize, decodePoolSize, putU32_getU32]
  simp (disch := omega) only [graft_fuse]

theorem encodeDescriptorWrite_writes (cursor : Nat) (write : DescriptorWrite) :
    WritesWithin (encodeDescriptorWrite · cursor write) cursor (cursor + 32) := by
  intro buffer index outside
  simp (disch := omega) only [encodeDescriptorWrite, putU32_apart, putU64_apart]

theorem decodeDescriptorWrite_reads (cursor : Nat) :
    ReadsWithin (decodeDescriptorWrite · cursor) cursor (cursor + 32) := by
  intro left right same
  simp (disch := omega) only [decodeDescriptorWrite, getU32_same same, getU64_same same]

theorem decodeDescriptorWrite_encode (buffer : Buffer) (cursor : Nat) (write : DescriptorWrite) :
    decodeDescriptorWrite (encodeDescriptorWrite buffer cursor write) cursor = write := by
  simp (disch := omega) only [decodeDescriptorWrite, encodeDescriptorWrite, getU32_putU32, getU64_putU64,
    getU32_putU32_apart, getU64_putU32_apart]

def descriptorWriteBlock : Block DescriptorWrite :=
  ⟨32, encodeDescriptorWrite, decodeDescriptorWrite, encodeDescriptorWrite_writes,
    decodeDescriptorWrite_reads, decodeDescriptorWrite_encode⟩

theorem encodeDescriptorWrite_decode (target source : Buffer) (cursor : Nat) :
    encodeDescriptorWrite target cursor (decodeDescriptorWrite source cursor) =
      graft target source cursor 28 := by
  simp only [encodeDescriptorWrite, decodeDescriptorWrite, putU32_getU32, putU64_getU64]
  simp (disch := omega) only [graft_fuse]

theorem encodeTemplateEntry_writes (cursor : Nat) (entry : DescriptorUpdateTemplateEntry) :
    WritesWithin (encodeTemplateEntry · cursor entry) cursor (cursor + 32) := by
  intro buffer index outside
  simp (disch := omega) only [encodeTemplateEntry, putU32_apart, putU64_apart]

theorem decodeTemplateEntry_reads (cursor : Nat) :
    ReadsWithin (decodeTemplateEntry · cursor) cursor (cursor + 32) := by
  intro left right same
  simp (disch := omega) only [decodeTemplateEntry, getU32_same same, getU64_same same]

theorem decodeTemplateEntry_encode (buffer : Buffer) (cursor : Nat) (entry : DescriptorUpdateTemplateEntry) :
    decodeTemplateEntry (encodeTemplateEntry buffer cursor entry) cursor = entry := by
  simp (disch := omega) only [decodeTemplateEntry, encodeTemplateEntry, getU32_putU32, getU64_putU64,
    getU32_putU32_apart, getU32_putU64_apart, getU64_putU64_apart]

def templateEntryBlock : Block DescriptorUpdateTemplateEntry :=
  ⟨32, encodeTemplateEntry, decodeTemplateEntry, encodeTemplateEntry_writes, decodeTemplateEntry_reads,
    decodeTemplateEntry_encode⟩

theorem encodeTemplateEntry_decode (target source : Buffer) (cursor : Nat) :
    encodeTemplateEntry target cursor (decodeTemplateEntry source cursor) = graft target source cursor 32 := by
  simp only [encodeTemplateEntry, decodeTemplateEntry, putU32_getU32, putU64_getU64]
  simp (disch := omega) only [graft_fuse]

theorem encodeTemplateValue_writes (cursor : Nat) (value : DescriptorTemplateValue) :
    WritesWithin (encodeTemplateValue · cursor value) cursor (cursor + 40) := by
  intro buffer index outside
  simp (disch := omega) only [encodeTemplateValue, putU32_apart, putU64_apart]

theorem decodeTemplateValue_reads (cursor : Nat) :
    ReadsWithin (decodeTemplateValue · cursor) cursor (cursor + 40) := by
  intro left right same
  simp (disch := omega) only [decodeTemplateValue, getU32_same same, getU64_same same]

theorem decodeTemplateValue_encode (buffer : Buffer) (cursor : Nat) (value : DescriptorTemplateValue) :
    decodeTemplateValue (encodeTemplateValue buffer cursor value) cursor = value := by
  simp (disch := omega) only [decodeTemplateValue, encodeTemplateValue, getU32_putU32, getU64_putU64,
    getU32_putU32_apart, getU32_putU64_apart, getU64_putU64_apart]

def templateValueBlock : Block DescriptorTemplateValue :=
  ⟨40, encodeTemplateValue, decodeTemplateValue, encodeTemplateValue_writes, decodeTemplateValue_reads,
    decodeTemplateValue_encode⟩

theorem encodeTemplateValue_decode (target source : Buffer) (cursor : Nat) :
    encodeTemplateValue target cursor (decodeTemplateValue source cursor) = graft target source cursor 40 := by
  simp only [encodeTemplateValue, decodeTemplateValue, putU32_getU32, putU64_getU64]
  simp (disch := omega) only [graft_fuse]

end VulkanBridge
