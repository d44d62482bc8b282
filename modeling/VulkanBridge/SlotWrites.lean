import VulkanBridge.OwnershipCache
import VulkanBridge.SlotLeases
import VulkanBridge.StreamSlots

/-!
What the sections of a command buffer do to the slots of the region: a release and
a lease keep the bits the slots of the holders, and a builder writes inside the
slot it was started in.
-/

namespace VulkanBridge

open ByteBuffer CheckedLoops WordBits

def CommandBufferProxy.slotNumber (proxy : CommandBufferProxy) : Option Nat :=
  if proxy.streamSlot.toNat < commandStreamSlotCount then some proxy.streamSlot.toNat else none

theorem slotBit_eq (slot : UInt32) : slotBit slot = bit slot.toNat := by
  have same : slot.toUInt64 = UInt64.ofNat slot.toNat := by
    apply UInt64.toNat_inj.mp
    rw [UInt32.toNat_toUInt64, UInt64.toNat_ofNat_of_lt']
    have bound := slot.toNat_lt
    simp only [UInt64.size]
    omega
  rw [slotBit, bit, same]

/-- The bits of the region are the slots of the holders. -/
def StreamRegion.Leases (region : StreamRegion) (slotOf : Nat → Option Nat) : Prop :=
  SlotLeases.Leased (fun slot => has region.slots slot = true) slotOf

theorem freeSlot_sound {region : StreamRegion} {slot : UInt32} (free : region.freeSlot = some slot) :
    slot.toNat < commandStreamSlotCount ∧ has region.slots slot.toNat = false := by
  have member := List.mem_of_find?_eq_some free
  have clear := List.find?_some free
  obtain ⟨number, inside, rfl⟩ := List.mem_map.mp member
  rw [List.mem_range] at inside
  have small : (UInt32.ofNat number).toNat = number := by
    apply UInt32.toNat_ofNat_of_lt'
    simp only [commandStreamSlotCount] at inside
    simp only [UInt32.size]
    omega
  rw [beq_iff_eq, slotBit_eq] at clear
  rw [small] at clear ⊢
  exact ⟨inside, (and_bit_eq_zero_iff inside).mp clear⟩

namespace CommandBufferProxy

variable {proxy : CommandBufferProxy} {region : StreamRegion} {slotOf : Nat → Option Nat} {buffer : Nat}

theorem slotNumber_inside (inside : proxy.streamSlot.toNat < commandStreamSlotCount) :
    proxy.slotNumber = some proxy.streamSlot.toNat := if_pos inside

theorem slotNumber_none (outside : ¬proxy.streamSlot.toNat < commandStreamSlotCount) :
    proxy.slotNumber = none := if_neg outside

theorem releaseCommandStreamSlot_leases
    (leases : region.Leases (Function.update slotOf buffer proxy.slotNumber)) :
    (proxy.releaseCommandStreamSlot region).1.Leases (Function.update slotOf buffer none) := by
  simp only [releaseCommandStreamSlot]
  split
  · rename_i outside
    rw [slotNumber_none (Nat.not_lt.mpr outside)] at leases
    exact leases
  · rename_i inside
    have small : proxy.streamSlot.toNat < commandStreamSlotCount := Nat.not_le.mp inside
    rw [slotNumber_inside small] at leases
    have collapsed : Function.update slotOf buffer none =
        Function.update (Function.update slotOf buffer (some proxy.streamSlot.toNat)) buffer none :=
      (Function.update_idem ..).symm
    rw [collapsed]
    refine leases.release (Function.update_self ..) fun other => ?_
    rw [slotBit_eq, has_clear small, Bool.and_eq_true, decide_eq_true_eq, ne_comm]

theorem leaseCommandStreamSlot_leases {leased : StreamRegion} {after : CommandBufferProxy}
    (leases : region.Leases (Function.update slotOf buffer none))
    (done : proxy.leaseCommandStreamSlot region = .ok (leased, after)) :
    leased.Leases (Function.update slotOf buffer after.slotNumber) ∧
      after.streamSlot.toNat < commandStreamSlotCount ∧
      ∀ other slot, other ≠ buffer → slotOf other = some slot → slot ≠ after.streamSlot.toNat := by
  obtain ⟨slot, free, _, rfl, rfl⟩ := leaseCommandStreamSlot_eq_ok done
  obtain ⟨inside, clear⟩ := freeSlot_sound free
  refine ⟨?_, inside, ?_⟩
  · have collapsed : Function.update slotOf buffer (some slot.toNat) =
        Function.update (Function.update slotOf buffer none) buffer (some slot.toNat) :=
      (Function.update_idem ..).symm
    rw [slotNumber_inside inside, collapsed]
    refine leases.lease (Function.update_self ..) (by rw [clear]; exact Bool.false_ne_true) fun other => ?_
    rw [slotBit_eq, has_set inside, Bool.or_eq_true, decide_eq_true_eq, @eq_comm _ slot.toNat]
  · rintro other number different held rfl
    have used := (leases.used_iff _).mpr ⟨other, by rw [Function.update_of_ne different, held]⟩
    rw [clear] at used
    contradiction

end CommandBufferProxy

/-- The bytes of the slot are as they were. -/
def Untouched (before after : Buffer) (slot : UInt32) : Prop :=
  ∀ index < commandStreamSlotBytes, slotView after slot index = slotView before slot index

theorem storeView_slotView (mapping : Buffer) (slot : UInt32) :
    storeView mapping slot (slotView mapping slot) = mapping := by
  funext index
  simp only [storeView, slotView]
  split
  · rfl
  · congr 1
    omega

theorem slotView_storeView (mapping view : Buffer) (slot : UInt32) :
    slotView (storeView mapping slot view) slot = view := by
  funext index
  simp only [storeView, slotView]
  rw [if_neg (by omega), Nat.add_sub_cancel_left]

theorem storeView_untouched {mapping view : Buffer} {slot other : UInt32}
    (confined : ∀ index, commandStreamSlotBytes ≤ index → view index = slotView mapping slot index)
    (different : other.toNat ≠ slot.toNat) : Untouched mapping (storeView mapping slot view) other := by
  intro index inside
  simp only [slotView, storeView] at confined ⊢
  generalize commandStreamSlotBytes = bytes at *
  split
  · rfl
  rename_i behind
  have apart : (slot.toNat + 1) * bytes ≤ other.toNat * bytes := by
    apply Nat.mul_le_mul_right
    by_contra before
    have below : other.toNat + 1 ≤ slot.toNat := by omega
    have lower := Nat.mul_le_mul_right bytes below
    rw [Nat.add_mul, Nat.one_mul] at lower
    omega
  rw [Nat.add_mul, Nat.one_mul] at apart
  rw [confined _ (by omega)]
  congr 1
  omega

namespace CommandBatchBuilder

/-- A builder that has written behind its length and before its capacity. -/
structure Grows (before after : CommandBatchBuilder) : Prop where
  capacity : after.capacity = before.capacity
  confined : ∀ index, before.capacity ≤ index → after.bytes index = before.bytes index

variable {builder next between : CommandBatchBuilder}

theorem Grows.refl (builder : CommandBatchBuilder) : Grows builder builder := ⟨rfl, fun _ _ => rfl⟩

theorem Grows.trans (first : Grows builder between) (second : Grows between next) : Grows builder next :=
  ⟨second.capacity.trans first.capacity, fun index behind =>
    (second.confined index (first.capacity ▸ behind)).trans (first.confined index behind)⟩

theorem appendRecord_grows {opcode : UInt16} {payload : Buffer} {payloadLength : Nat}
    (appended : builder.appendRecord opcode payload payloadLength = .ok next) : Grows builder next := by
  simp only [appendRecord, refused_eq_ok, Except.ok.injEq] at appended
  obtain ⟨_, room, rfl⟩ := appended
  simp only [hasRoom, Bool.not_not, Bool.or_eq_true, decide_eq_true_eq, not_or] at room
  refine ⟨rfl, fun index behind => ?_⟩
  simp (disch := omega) only [copyInto_apart, putU32_apart, putU16_apart]

theorem append_grows {command : Command} (appended : builder.append command = .ok next) : Grows builder next := by
  simp only [append, refused_eq_ok] at appended
  exact appendRecord_grows appended.2

theorem step_grows (command : Command) : Grows builder (builder.step command) := by
  rw [step]
  split
  · rename_i appended
    exact append_grows appended
  · exact .refl builder

theorem appendBatch_grows (batch : Buffer) (length : Nat) : Grows builder (builder.appendBatch batch length).1 := by
  simp only [appendBatch]
  split
  · exact .refl builder
  split
  · exact .refl builder
  · exact .refl builder
  split
  · exact .refl builder
  rename_i appended
  simp only [appendValidRecord, refused_eq_ok] at appended
  have grows := appendRecord_grows appended.2
  split
  · exact grows
  · exact grows

theorem finish_grows {finished : CommandBatchBuilder} {length : Nat} (large : 32 ≤ builder.capacity)
    (done : builder.finish = .ok (finished, length)) : Grows builder finished := by
  have bytes := (finish_sound done).2.2.2
  have capacity : finished.capacity = builder.capacity := by
    simp only [finish] at done
    split at done
    · contradiction
    · cases done
      rfl
  refine ⟨capacity, fun index behind => ?_⟩
  rw [bytes]
  simp (disch := omega) only [putU64_apart, putU32_apart, putU16_apart]

theorem start_grows {bytes : Buffer} {capacity : Nat} {commandBufferId sequence : UInt64}
    (begun : start bytes capacity commandBufferId sequence = .ok builder) :
    builder.capacity = capacity ∧ ∀ index, capacity ≤ index → builder.bytes index = bytes index := by
  simp only [start] at begun
  split at begun
  · contradiction
  · cases begun
    refine ⟨rfl, fun index behind => ?_⟩
    exact copyInto_apart _ _ _ _ (by omega)

end CommandBatchBuilder

end VulkanBridge
