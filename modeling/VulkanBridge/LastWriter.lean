import VulkanBridge.MappedMemory

/-!
Who wrote a byte of mapped memory last, and when native memory shows it. The
bridge sees no host store: a private shadow is sent whole, a shared mirror is
compared with its baseline. What the last writer wrote is in native memory
after a transfer wherever the transfer takes the host's bytes only from the
host's own writes.
-/

namespace VulkanBridge

open ByteBuffer

/-- A flush or an invalidate of several ranges is one event for each range. -/
inductive MemoryEvent where
  | map (mode : MappingMode) (offset size : Nat)
  | store (index : Nat) (value : UInt8)
  | submit
  | device (address : Nat) (value : UInt8)
  | flush (offset size : Nat)
  | invalidate (offset size : Nat)
  | unmap
  deriving DecidableEq, Repr

/-- The allocation with the value that the last writer of each byte, host or
device, gave it. -/
structure MemoryHistory where
  memory : MappedMemory
  lastWritten : Buffer

namespace MappedMemory

def step (sizes : CompareSizes) (memory : MappedMemory) : MemoryEvent → MappedMemory
  | .map mode offset size => memory.mapMemory mode offset size
  | .store index value => memory.store index value
  | .submit => memory.submit sizes
  | .device address value => memory.deviceWrite address value
  | .flush offset size => memory.flushMappedRange offset size
  | .invalidate offset size => memory.invalidateMappedRange offset size
  | .unmap => memory.unmapMemory sizes

/-- The write an event makes: the host's into the window it mapped, the
device's into the allocation. -/
def written (memory : MappedMemory) : MemoryEvent → Option (Nat × UInt8)
  | .store index value =>
      match memory.mapping with
      | none => none
      | some mapping => if index < mapping.size then some (mapping.offset + index, value) else none
  | .device address value => if address < memory.allocationSize then some (address, value) else none
  | _ => none

/-- The mapped window lies in the allocation. -/
def Inside (memory : MappedMemory) : Prop :=
  ∀ mapping, memory.mapping = some mapping →
    0 < mapping.size ∧ mapping.offset + mapping.size ≤ memory.allocationSize

section

variable {memory : MappedMemory} {offset size : Nat}

end

/-- The last writer's value is in native memory or, the host being the last
writer, still to be copied from the window. -/
def Kept (memory : MappedMemory) (lastWritten : Buffer) (address : Nat) : Prop :=
  memory.native address = lastWritten address ∨
    ∃ mapping, memory.mapping = some mapping ∧ mapping.Uploads address ∧
      mapping.bytes (address - mapping.offset) = lastWritten address

section

variable {sizes : CompareSizes} {memory after : MappedMemory} {lastWritten : Buffer} {offset size : Nat}

theorem Kept.unmapped {address : Nat} (kept : memory.Kept lastWritten address)
    (unmapped : memory.mapping = none) : memory.native address = lastWritten address := by
  rcases kept with native | ⟨mapping, mapped, _⟩
  · exact native
  · rw [unmapped] at mapped
    contradiction

end

end MappedMemory

namespace MemoryHistory

def step (sizes : CompareSizes) (history : MemoryHistory) (event : MemoryEvent) : MemoryHistory where
  memory := history.memory.step sizes event
  lastWritten :=
    match history.memory.written event with
    | some (address, value) => putU8 history.lastWritten address value
    | none => history.lastWritten

/-- An allocation that is not mapped yet. -/
def start (allocationSize : Nat) (bounded : allocationSize ≤ maxMemoryAllocationSize) (native : Buffer) :
    MemoryHistory where
  memory := { allocationSize, allocationSize_le := bounded, native, mapping := none }
  lastWritten := native

/-- What the application keeps to. The bytes that a transfer copies were last
written, or read back, by the host; an invalidate reads over no store that
waits for its transfer; and, in a shared mirror, a store of the value that the
baseline has finds no device write that was not read back. -/
def Orderly (history : MemoryHistory) : MemoryEvent → Prop
  | .map _ _ _ | .device _ _ => True
  | .store index value =>
      ∀ offset size mirror baseline,
        history.memory.mapping = some (.sharedMirror offset size mirror baseline) → index < size →
        value = baseline index → history.memory.native (offset + index) = value
  | .submit | .unmap =>
      ∀ mapping address, history.memory.mapping = some mapping → mapping.Uploads address →
        mapping.bytes (address - mapping.offset) = history.lastWritten address
  | .flush offset size =>
      ∀ mapping effectiveSize address, history.memory.mapping = some mapping →
        history.memory.mappedRangeSize mapping offset size = some effectiveSize →
        offset ≤ address → address < offset + effectiveSize →
        mapping.bytes (address - mapping.offset) = history.lastWritten address
  | .invalidate offset size =>
      ∀ mapping effectiveSize address, history.memory.mapping = some mapping →
        history.memory.mappedRangeSize mapping offset size = some effectiveSize →
        offset ≤ address → address < offset + effectiveSize →
        history.memory.native address = history.lastWritten address

variable {sizes : CompareSizes} {history : MemoryHistory}

end MemoryHistory

end VulkanBridge
