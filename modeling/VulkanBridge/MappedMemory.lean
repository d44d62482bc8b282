import VulkanBridge.MemoryMirror
import VulkanBridge.Runs

/-!
One host-coherent allocation as the application maps it: through a private
shadow that is read and written in chunks, or through a shared mirror that the
service reconciles with a baseline.
-/

namespace VulkanBridge

open ByteBuffer

def memoryIoMaxBytes : Nat := 4096 - 24
def wholeSize : Nat := 2 ^ 64 - 1

/-- How `vkMapMemory` maps the allocation. -/
inductive MappingMode where
  | privateShadow
  | sharedMirror
  deriving DecidableEq, Repr

/-- The window the client maps. The application's bytes are indexed from the
start of the window. -/
inductive Mapping where
  | privateShadow (offset size : Nat) (shadow : Buffer)
  | sharedMirror (offset size : Nat) (mirror baseline : Buffer)

structure MappedMemory where
  allocationSize : Nat
  allocationSize_le : allocationSize ≤ maxMemoryAllocationSize
  native : Buffer
  mapping : Option Mapping

/-- One chunk of `vkMapMemory`'s or `vkFlushMappedMemoryRanges`' traffic, as the
service checks it. -/
def resolveHostVisibleMemory (allocationSize offset length : Nat) : Except Errno Unit :=
  if length = 0 ∨ memoryIoMaxBytes < length then .error .einval
  else if allocationSize < offset ∨ allocationSize - offset < length then .error .erange
  else .ok ()

def writeMemory (allocationSize : Nat) (native : Buffer) (offset length : Nat) (data : Buffer) :
    Except Errno Buffer := do
  resolveHostVisibleMemory allocationSize offset length
  return copyInto native offset data length

def readMemory (allocationSize : Nat) (native : Buffer) (offset length : Nat) : Except Errno Buffer := do
  resolveHostVisibleMemory allocationSize offset length
  return window native offset length

def memoryChunk (completed length : Nat) : Nat :=
  if memoryIoMaxBytes < length - completed then memoryIoMaxBytes else length - completed

theorem memoryChunk_pos {completed length : Nat} (more : completed < length) :
    0 < memoryChunk completed length := by
  unfold memoryChunk memoryIoMaxBytes
  split <;> omega

/-- The loop of `memory_write_locked`, with every exchange answered. -/
def writeChunks (allocationSize : Nat) (native : Buffer) (offset : Nat) (bytes : Buffer)
    (completed length : Nat) : Except Errno Buffer :=
  if more : completed < length then do
    let chunk := memoryChunk completed length
    have : 0 < chunk := memoryChunk_pos more
    let written ← writeMemory allocationSize native (offset + completed) chunk
      (fun index => bytes (completed + index))
    writeChunks allocationSize written offset bytes (completed + chunk) length
  else .ok native
termination_by length - completed

/-- The loop of `memory_read_locked`. -/
def readChunks (allocationSize : Nat) (native : Buffer) (offset : Nat) (bytes : Buffer)
    (completed length : Nat) : Except Errno Buffer :=
  if more : completed < length then do
    let chunk := memoryChunk completed length
    have : 0 < chunk := memoryChunk_pos more
    let data ← readMemory allocationSize native (offset + completed) chunk
    readChunks allocationSize native offset (copyInto bytes completed data chunk) (completed + chunk) length
  else .ok bytes
termination_by length - completed

/-- `none` is `VK_ERROR_MEMORY_MAP_FAILED`. -/
def memoryWriteLocked (allocationSize : Nat) (native : Buffer) (offset : Nat) (bytes : Buffer)
    (length : Nat) : Option Buffer :=
  if length = 0 ∨ allocationSize < offset ∨ allocationSize - offset < length then none
  else (writeChunks allocationSize native offset bytes 0 length).toOption

def memoryReadLocked (allocationSize : Nat) (native : Buffer) (offset : Nat) (bytes : Buffer)
    (length : Nat) : Option Buffer :=
  if length = 0 ∨ allocationSize < offset ∨ allocationSize - offset < length then none
  else (readChunks allocationSize native offset bytes 0 length).toOption

/-! The chunks of a transfer make up the whole range. -/

namespace Mapping

def offset : Mapping → Nat
  | privateShadow offset _ _ | sharedMirror offset _ _ _ => offset

def size : Mapping → Nat
  | privateShadow _ size _ | sharedMirror _ size _ _ => size

/-- The application's bytes. -/
def bytes : Mapping → Buffer
  | privateShadow _ _ shadow => shadow
  | sharedMirror _ _ mirror _ => mirror

def withBytes : Mapping → Buffer → Mapping
  | privateShadow offset size _, bytes => .privateShadow offset size bytes
  | sharedMirror offset size _ baseline, bytes => .sharedMirror offset size bytes baseline

def Covers (mapping : Mapping) (address : Nat) : Prop :=
  mapping.offset ≤ address ∧ address < mapping.offset + mapping.size

/-- The bytes a submit or an unmap copies: all of a private shadow, and those
of a shared mirror that differ from the baseline. -/
def Uploads : Mapping → Nat → Prop
  | privateShadow offset size _, address => offset ≤ address ∧ address < offset + size
  | sharedMirror offset size mirror baseline, address =>
      offset ≤ address ∧ address < offset + size ∧
        mirror (address - offset) ≠ baseline (address - offset)

end Mapping

namespace MappedMemory

variable (sizes : CompareSizes) (memory : MappedMemory)

def mapMemory (mode : MappingMode) (offset size : Nat) : MappedMemory :=
  let effectiveSize :=
    if size = wholeSize ∧ offset ≤ memory.allocationSize then memory.allocationSize - offset else size
  if memory.mapping.isSome ∨ effectiveSize = 0 ∨ memory.allocationSize < offset ∨
      memory.allocationSize - offset < effectiveSize then memory
  else
    match mode with
    | .privateShadow =>
        match memoryReadLocked memory.allocationSize memory.native offset zeroed effectiveSize with
        | some shadow => { memory with mapping := some (.privateShadow offset effectiveSize shadow) }
        | none => memory
    | .sharedMirror =>
        match MemoryMirror.setupMemoryMirror memory.allocationSize memory.native offset effectiveSize with
        | .ok slot =>
            { memory with mapping := some (.sharedMirror offset effectiveSize slot.mirror slot.baseline) }
        | .error _ => memory

/-- The size of the range that `mapped_range_locked` goes on with. -/
def mappedRangeSize (mapping : Mapping) (offset size : Nat) : Option Nat :=
  if offset < mapping.offset ∨ memory.allocationSize < offset then none
  else
    let effectiveSize := if size = wholeSize then memory.allocationSize - offset else size
    if effectiveSize = 0 ∨ memory.allocationSize - offset < effectiveSize ∨
        mapping.size < offset - mapping.offset ∨
        mapping.size - (offset - mapping.offset) < effectiveSize then none
    else some effectiveSize

/-- `mapped_range_locked` towards native memory. -/
def flushMappedRange (offset size : Nat) : MappedMemory :=
  match memory.mapping with
  | none => memory
  | some mapping =>
      match memory.mappedRangeSize mapping offset size with
      | none => memory
      | some effectiveSize =>
          match mapping with
          | .privateShadow mappedOffset _ shadow =>
              match memoryWriteLocked memory.allocationSize memory.native offset
                  (fun index => shadow (offset - mappedOffset + index)) effectiveSize with
              | some native => { memory with native }
              | none => memory
          | .sharedMirror mappedOffset mappedSize mirror baseline =>
              match (MemoryMirror.mk mappedOffset mappedSize memory.native mirror baseline).flushMemoryMirror
                  offset effectiveSize with
              | .ok slot =>
                  { memory with
                    native := slot.native
                    mapping := some (.sharedMirror mappedOffset mappedSize slot.mirror slot.baseline) }
              | .error _ => memory

/-- `mapped_range_locked` from native memory. -/
def invalidateMappedRange (offset size : Nat) : MappedMemory :=
  match memory.mapping with
  | none => memory
  | some mapping =>
      match memory.mappedRangeSize mapping offset size with
      | none => memory
      | some effectiveSize =>
          match mapping with
          | .privateShadow mappedOffset mappedSize shadow =>
              match memoryReadLocked memory.allocationSize memory.native offset
                  (fun index => shadow (offset - mappedOffset + index)) effectiveSize with
              | some read =>
                  let after := copyInto shadow (offset - mappedOffset) read effectiveSize
                  { memory with mapping := some (.privateShadow mappedOffset mappedSize after) }
              | none => memory
          | .sharedMirror mappedOffset mappedSize mirror baseline =>
              match (MemoryMirror.mk mappedOffset mappedSize memory.native mirror
                  baseline).invalidateMemoryMirror offset effectiveSize with
              | .ok slot =>
                  { memory with
                    native := slot.native
                    mapping := some (.sharedMirror mappedOffset mappedSize slot.mirror slot.baseline) }
              | .error _ => memory

/-- The host-to-native transfer of a submit: `flush_mapped_resources_locked` in
the client, `sync_coherent_memory_mirrors` in the service. -/
def submit : MappedMemory :=
  match memory.mapping with
  | none => memory
  | some (.privateShadow offset size _) => memory.flushMappedRange offset size
  | some (.sharedMirror offset size mirror baseline) =>
      let slot := (MemoryMirror.mk offset size memory.native mirror baseline).syncCoherentMemory sizes
      { memory with
        native := slot.native
        mapping := some (.sharedMirror offset size slot.mirror slot.baseline) }

def unmapMemory : MappedMemory :=
  match memory.mapping with
  | none => memory
  | some (.privateShadow offset size _) => { memory.flushMappedRange offset size with mapping := none }
  | some (.sharedMirror offset size mirror baseline) =>
      { memory with
        native := (MemoryMirror.mk offset size memory.native mirror baseline).unmapMemoryMirror sizes
        mapping := none }

def store (index : Nat) (value : UInt8) : MappedMemory :=
  match memory.mapping with
  | none => memory
  | some mapping =>
      if index < mapping.size then
        { memory with mapping := some (mapping.withBytes (putU8 mapping.bytes index value)) }
      else memory

def deviceWrite (address : Nat) (value : UInt8) : MappedMemory :=
  if address < memory.allocationSize then { memory with native := putU8 memory.native address value }
  else memory

end MappedMemory

end VulkanBridge
