import VulkanBridge.Handle
import VulkanBridge.LinearProbing

/-!
The handle table of `handle.c`: a power-of-two array of entries searched by
linear probing, with removed entries kept as tombstones.
-/

namespace VulkanBridge

inductive HandleState where
  | empty
  | occupied
  | tombstone
  deriving DecidableEq, Repr

structure HandleEntry where
  wireId : UInt64
  parentId : UInt64
  nativeBits : UInt64
  state : HandleState
  deriving DecidableEq, Repr

structure HandleTable where
  entries : Nat → HandleEntry
  capacity : Nat
  count : Nat

def HandleEntry.zero : HandleEntry := ⟨0, 0, 0, .empty⟩

def hashWireId (wireId : UInt64) (capacity : Nat) : Nat :=
  let value := wireId ^^^ (wireId >>> 30)
  let value := value * 0xbf58476d1ce4e5b9
  let value := value ^^^ (value >>> 27)
  let value := value * 0x94d049bb133111eb
  let value := value ^^^ (value >>> 31)
  value.toNat &&& (capacity - 1)

namespace HandleTable

def isValid (table : HandleTable) : Bool :=
  decide (8 ≤ table.capacity) && table.capacity &&& (table.capacity - 1) == 0 &&
    decide (table.count ≤ table.capacity)

def init (capacity : Nat) : Except Errno HandleTable :=
  if capacity < 8 ∨ capacity &&& (capacity - 1) ≠ 0 then .error .einval
  else .ok ⟨fun _ => .zero, capacity, 0⟩

def setEntry (table : HandleTable) (index : Nat) (entry : HandleEntry) (count : Nat) : HandleTable :=
  { table with
    entries := fun other => if other = index then entry else table.entries other
    count := count }

/-- The probe loop of an insertion: where the new entry goes. `tombstone` is
the capacity until a tombstone was met. -/
def insertIndex (table : HandleTable) (wireId : UInt64) : Nat → Nat → Nat → Except Errno Nat
  | 0, _, tombstone => if tombstone ≠ table.capacity then .ok tombstone else .error .enospc
  | probes + 1, index, tombstone =>
      let entry := table.entries index
      if entry.state = .occupied ∧ entry.wireId = wireId then .error .eexist
      else
        let tombstone :=
          if entry.state = .tombstone ∧ tombstone = table.capacity then index else tombstone
        if entry.state = .empty then .ok (if tombstone ≠ table.capacity then tombstone else index)
        else insertIndex table wireId probes ((index + 1) &&& (table.capacity - 1)) tombstone

def insert (table : HandleTable) (wireId parentId nativeBits : UInt64) : Except Errno HandleTable :=
  if !table.isValid || handleType wireId == .invalid || handleSerial wireId == 0 || nativeBits == 0 then
    .error .einval
  else if parentId != 0 && (handleType parentId == .invalid || handleSerial parentId == 0) then
    .error .einval
  else if table.count = table.capacity then .error .enospc
  else
    match table.insertIndex wireId table.capacity (hashWireId wireId table.capacity) table.capacity with
    | .error code => .error code
    | .ok index => .ok (table.setEntry index ⟨wireId, parentId, nativeBits, .occupied⟩ (table.count + 1))

def findIndex (table : HandleTable) (wireId : UInt64) : Nat → Nat → Option Nat
  | 0, _ => none
  | probes + 1, index =>
      let entry := table.entries index
      if entry.state = .empty then none
      else if entry.state = .occupied ∧ entry.wireId = wireId then some index
      else findIndex table wireId probes ((index + 1) &&& (table.capacity - 1))

def findEntry (table : HandleTable) (wireId : UInt64) : Option HandleEntry :=
  (table.findIndex wireId table.capacity (hashWireId wireId table.capacity)).map table.entries

def lookup (table : HandleTable) (wireId : UInt64) (expected : ObjectType) :
    Except Errno (UInt64 × UInt64) :=
  if !table.isValid || !handleExpect wireId expected then .error .einval
  else
    match table.findEntry wireId with
    | none => .error .enoent
    | some entry => .ok (entry.parentId, entry.nativeBits)

/-- The loop of the C function is that of `findEntry` with the entry changed in
place, so it is written over the index `findIndex` returns. -/
def remove (table : HandleTable) (wireId : UInt64) (expected : ObjectType) :
    Except Errno (UInt64 × HandleTable) :=
  if !table.isValid || !handleExpect wireId expected then .error .einval
  else
    match table.findIndex wireId table.capacity (hashWireId wireId table.capacity) with
    | none => .error .enoent
    | some index =>
        .ok ((table.entries index).nativeBits,
          table.setEntry index ⟨0, 0, 0, .tombstone⟩ (table.count - 1))

theorem lookup_expects {table : HandleTable} {wireId : UInt64} {expected : ObjectType}
    {entry : UInt64 × UInt64} (found : table.lookup wireId expected = .ok entry) :
    handleExpect wireId expected = true := by
  unfold lookup at found
  split at found
  · cases found
  · rename_i passes
    simp only [Bool.or_eq_true, Bool.not_eq_true', not_or, Bool.not_eq_false] at passes
    exact passes.2

end HandleTable

inductive TableCall where
  | insert (wireId parentId nativeBits : UInt64)
  | lookup (wireId : UInt64) (expected : ObjectType)
  | remove (wireId : UInt64) (expected : ObjectType)

inductive TableReply where
  | inserted
  | binding (parentId nativeBits : UInt64)
  | removed (nativeBits : UInt64)
  deriving DecidableEq, Repr

namespace HandleTable

def call (table : HandleTable) : TableCall → Except Errno TableReply × HandleTable
  | .insert wireId parentId nativeBits =>
      match table.insert wireId parentId nativeBits with
      | .error code => (.error code, table)
      | .ok next => (.ok .inserted, next)
  | .lookup wireId expected =>
      match table.lookup wireId expected with
      | .error code => (.error code, table)
      | .ok (parentId, nativeBits) => (.ok (.binding parentId nativeBits), table)
  | .remove wireId expected =>
      match table.remove wireId expected with
      | .error code => (.error code, table)
      | .ok (nativeBits, next) => (.ok (.removed nativeBits), next)

def run (table : HandleTable) : List TableCall → List (Except Errno TableReply) × HandleTable
  | [] => ([], table)
  | first :: rest =>
      let (reply, next) := table.call first
      let (replies, last) := next.run rest
      (reply :: replies, last)

end HandleTable

end VulkanBridge
