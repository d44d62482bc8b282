import VulkanBridge.ContextChanges
import VulkanBridge.Runs
import Mathlib.Data.UInt

/-!
Descriptor sets of a service context: an allocation adds all its sets or none, and
an id is given out once, for as long as the 56 bits of a serial last.
-/

namespace VulkanBridge

theorem handleId_eq_zero_iff {type : ObjectType} {serial : UInt64} :
    handleId type serial = 0 ↔ type = .invalid ∨ serial = 0 ∨ handleSerialMask < serial := by
  by_cases refused : type = .invalid ∨ serial = 0 ∨ handleSerialMask < serial
  · simp [handleId, refused]
  · simp only [handleId, refused, if_false, iff_false]
    intro zero
    have low := (UInt64.or_eq_zero_iff.mp zero).2
    exact refused (Or.inr (Or.inl low))

theorem handleSerial_handleId {type : ObjectType} {serial : UInt64} (some : handleId type serial ≠ 0) :
    handleSerial (handleId type serial) = serial := by
  have accepted : ¬ (type = .invalid ∨ serial = 0 ∨ handleSerialMask < serial) :=
    fun refused => some (handleId_eq_zero_iff.mpr refused)
  have small : serial.toNat < 2 ^ 56 := by
    have bound : ¬ handleSerialMask.toNat < serial.toNat := fun large => accepted (Or.inr (Or.inr large))
    have mask : handleSerialMask.toNat = 2 ^ 56 - 1 := by decide
    omega
  have high : type.code <<< 56 &&& handleSerialMask = 0 := by
    cases type <;> decide
  have low : serial &&& handleSerialMask = serial := by
    apply UInt64.toNat.inj
    rw [UInt64.toNat_and]
    have mask : handleSerialMask.toNat = 2 ^ 56 - 1 := by decide
    rw [mask, Nat.and_two_pow_sub_one_eq_mod, Nat.mod_eq_of_lt small]
  have split : (type.code <<< 56 ||| serial) &&& handleSerialMask =
      type.code <<< 56 &&& handleSerialMask ||| serial &&& handleSerialMask := by
    apply UInt64.toNat.inj
    simp only [UInt64.toNat_and, UInt64.toNat_or]
    exact Nat.and_or_distrib_right _ _ _
  rw [handleId, if_neg accepted, handleSerial, split, high, low, UInt64.zero_or]

theorem handleId_formed {type : ObjectType} {serial : UInt64} (some : handleId type serial ≠ 0) :
    handleIsWellFormed (handleId type serial) = true := by
  have accepted : ¬ (type = .invalid ∨ serial = 0 ∨ handleSerialMask < serial) :=
    fun refused => some (handleId_eq_zero_iff.mpr refused)
  have typed : type ≠ .invalid := fun invalid => accepted (Or.inl invalid)
  have nonzero : serial ≠ 0 := fun zero => accepted (Or.inr (Or.inl zero))
  simp [handleIsWellFormed, handleType_handleId some, handleSerial_handleId some, typed, nonzero]

namespace HandleTable

variable {table after : HandleTable} {wireId parentId nativeBits : UInt64}

theorem Sound.insert_fits (sound : table.Sound) (formed : handleIsWellFormed wireId = true) (native : nativeBits ≠ 0)
    (parent : handleIsWellFormed parentId = true) (room : table.count < table.capacity)
    (absent : ∀ parent bits, ¬ table.Live wireId parent bits) :
    ∃ after, table.insert wireId parentId nativeBits = .ok after ∧ after.count = table.count + 1 := by
  obtain ⟨map, holds⟩ := sound.holds
  have accepted : ¬ (handleIsWellFormed wireId = false ∨ nativeBits = 0 ∨
      (parentId ≠ 0 ∧ handleIsWellFormed parentId = false)) := by
    simp [formed, native, parent]
  have notFull : ¬ table.count = table.capacity := Nat.ne_of_lt room
  rw [insert_eq holds.isValid, if_neg accepted, if_neg notFull]
  rcases holds.insertIndex_cases wireId notFull with ⟨_, present⟩ | ⟨index, result, _, _⟩
  · obtain ⟨⟨parent, bits⟩, held⟩ := Option.isSome_iff_exists.mp present
    exact absurd (holds.live_iff.mpr held) (absent parent bits)
  · rw [result]
    exact ⟨_, rfl, rfl⟩

end HandleTable

namespace ObjectContext

variable {driver : ObjectDriver} {context next : ObjectContext} {poolId : UInt64}

structure SetsNumbered (context : ObjectContext) : Prop where
  started : 0 < (context.nextSerial .descriptorSet).toNat
  below : ∀ wireId parentId nativeBits, context.Live wireId parentId nativeBits →
    handleType wireId = .descriptorSet → (handleSerial wireId).toNat < (context.nextSerial .descriptorSet).toNat

def nextSetIds (context : ObjectContext) (count : Nat) : List UInt64 :=
  (List.range count).map fun offset =>
    handleId .descriptorSet (context.nextSerial .descriptorSet + UInt64.ofNat offset)

structure SetsAdded (context : ObjectContext) (poolId : UInt64) (sets : List UInt64) (next : ObjectContext) : Prop where
  sound : next.objects.Sound
  numbered : next.SetsNumbered
  serial : (next.nextSerial .descriptorSet).toNat = (context.nextSerial .descriptorSet).toNat + sets.length
  live : ∀ id parent bits, next.Live id parent bits ↔ context.Live id parent bits ∨
    parent = poolId ∧ ∃ index : Nat, (context.nextSetIds sets.length)[index]? = some id ∧ sets[index]? = some bits

theorem exists_index_cons {α β : Type} {first : α} {rest : List α} {other : β} {others : List β} {left : α}
    {right : β} :
    (∃ index : Nat, (first :: rest)[index]? = some left ∧ (other :: others)[index]? = some right) ↔
      (left = first ∧ right = other) ∨ ∃ index : Nat, rest[index]? = some left ∧ others[index]? = some right := by
  constructor
  · rintro ⟨index, atFirst, atOther⟩
    cases index with
    | zero =>
        simp only [List.getElem?_cons_zero, Option.some.injEq] at atFirst atOther
        exact Or.inl ⟨atFirst.symm, atOther.symm⟩
    | succ index =>
        simp only [List.getElem?_cons_succ] at atFirst atOther
        exact Or.inr ⟨index, atFirst, atOther⟩
  · rintro (⟨rfl, rfl⟩ | ⟨index, atFirst, atOther⟩)
    · exact ⟨0, rfl, rfl⟩
    · exact ⟨index + 1, atFirst, atOther⟩

theorem nextSetIds_succ {numbered : ObjectContext} (count : Nat)
    (serial : numbered.nextSerial .descriptorSet = context.nextSerial .descriptorSet + 1) :
    context.nextSetIds (count + 1) =
      handleId .descriptorSet (context.nextSerial .descriptorSet) :: numbered.nextSetIds count := by
  simp only [nextSetIds, List.range_succ_eq_map, List.map_cons, List.map_map, serial]
  have start : context.nextSerial .descriptorSet + UInt64.ofNat 0 = context.nextSerial .descriptorSet :=
    UInt64.add_zero _
  rw [start]
  refine congrArg _ (List.map_congr_left fun offset _ => ?_)
  have further : UInt64.ofNat (offset + 1) = 1 + UInt64.ofNat offset := by
    rw [UInt64.add_comm]
    exact UInt64.ofNat_add offset 1
  simp only [Function.comp, further, UInt64.add_assoc]

theorem serial_succ {serial : UInt64} (fits : serial.toNat + 1 ≤ 2 ^ 56) : (serial + 1).toNat = serial.toNat + 1 := by
  rw [UInt64.toNat_add, UInt64.toNat_one, Nat.mod_eq_of_lt (by omega)]

theorem setId_ne_zero {serial : UInt64} (positive : 0 < serial.toNat) (fits : serial.toNat + 1 ≤ 2 ^ 56) :
    handleId .descriptorSet serial ≠ 0 := by
  intro zero
  have mask : handleSerialMask.toNat = 2 ^ 56 - 1 := by decide
  rcases handleId_eq_zero_iff.mp zero with invalid | rfl | large
  · contradiction
  · simp at positive
  · rw [UInt64.lt_iff_toNat_lt] at large
    omega

theorem SetsNumbered.insert {objects : HandleTable} {nativeBits : UInt64} (numbered : context.SetsNumbered)
    (sound : context.objects.Sound) (fits : (context.nextSerial .descriptorSet).toNat + 1 ≤ 2 ^ 56)
    (inserted : context.objects.insert (handleId .descriptorSet (context.nextSerial .descriptorSet)) poolId nativeBits =
      .ok objects) :
    SetsNumbered { (context.takeSerial .descriptorSet).2 with objects := objects } := by
  have nonzero := setId_ne_zero numbered.started fits
  have next : ((context.takeSerial .descriptorSet).2.nextSerial .descriptorSet).toNat =
      (context.nextSerial .descriptorSet).toNat + 1 := by
    simp only [takeSerial, Function.update_self]
    exact serial_succ fits
  obtain ⟨_, _, _, _, _, live⟩ := sound.insert_ok inserted
  constructor
  · dsimp only
    rw [next]
    omega
  · intro wireId parentId bits held typed
    dsimp only
    rw [next]
    rcases (live _ _ _).mp held with old | ⟨rfl, _, _⟩
    · have before := numbered.below wireId parentId bits old typed
      omega
    · rw [handleSerial_handleId nonzero]
      omega

/-- The loop gives every set its id when the sets are not null, the serials last and
the table has room. -/
theorem insertDescriptorSets_fits (formed : handleIsWellFormed poolId = true) (sets : List UInt64) :
    ∀ (ids : List UInt64) (context : ObjectContext), context.objects.Sound → context.SetsNumbered →
      context.objects.count + sets.length ≤ context.objects.capacity → (∀ set ∈ sets, set ≠ 0) →
      (context.nextSerial .descriptorSet).toNat + sets.length ≤ 2 ^ 56 →
      ∃ next, insertDescriptorSets poolId sets ids context =
          (.ok ⟨vkSuccess, ids ++ context.nextSetIds sets.length⟩, next) ∧ SetsAdded context poolId sets next := by
  induction sets with
  | nil =>
      intro ids context sound numbered _ _ _
      refine ⟨context, ?_, sound, numbered, rfl, ?_⟩
      · simp [insertDescriptorSets, nextSetIds]
      · intro id parent bits
        simp
  | cons set rest ih =>
      intro ids context sound numbered room nonzero fits
      rw [List.length_cons] at room fits
      obtain ⟨isSet, others⟩ := List.forall_mem_cons.mp nonzero
      have one : (context.nextSerial .descriptorSet).toNat + 1 ≤ 2 ^ 56 := by omega
      have known := setId_ne_zero numbered.started one
      have absent : ∀ parent bits,
          ¬ context.objects.Live (handleId .descriptorSet (context.nextSerial .descriptorSet)) parent bits := by
        intro parent bits live
        have below := numbered.below _ _ _ live (handleType_handleId known)
        rw [handleSerial_handleId known] at below
        omega
      obtain ⟨objects, inserted, count⟩ :=
        sound.insert_fits (handleId_formed known) isSet formed (by omega) absent
      obtain ⟨kept, capacity, _, _, _, live⟩ := sound.insert_ok inserted
      have serial : ((context.takeSerial .descriptorSet).2.nextSerial .descriptorSet).toNat =
          (context.nextSerial .descriptorSet).toNat + 1 := by
        simp only [takeSerial, Function.update_self]
        exact serial_succ one
      have plus : (context.takeSerial .descriptorSet).2.nextSerial .descriptorSet =
          context.nextSerial .descriptorSet + 1 := by
        simp only [takeSerial, Function.update_self]
      obtain ⟨next, outcome, added⟩ := ih (ids ++ [handleId .descriptorSet (context.nextSerial .descriptorSet)])
        { (context.takeSerial .descriptorSet).2 with objects := objects } kept
        (numbered.insert sound one inserted) (by dsimp only; omega) others (by dsimp only; omega)
      have grown : context.nextSetIds (rest.length + 1) =
          handleId .descriptorSet (context.nextSerial .descriptorSet) ::
            nextSetIds { (context.takeSerial .descriptorSet).2 with objects := objects } rest.length :=
        nextSetIds_succ rest.length plus
      refine ⟨next, ?_, added.sound, added.numbered, ?_, ?_⟩
      · simp only [insertDescriptorSets]
        have taken : (context.takeSerial .descriptorSet).2.objects.insert (context.takeSerial .descriptorSet).1 poolId
            set = .ok objects := inserted
        rw [taken]
        simp only [List.length_cons, grown]
        refine outcome.trans ?_
        simp only [List.append_assoc, List.singleton_append]
      · rw [added.serial, List.length_cons]
        dsimp only
        omega
      · intro id parent bits
        rw [added.live, List.length_cons, grown, exists_index_cons]
        rw [show Live { (context.takeSerial .descriptorSet).2 with objects := objects } id parent bits ↔
          _ from live _ _ _]
        constructor
        · rintro ((old | ⟨same, isPool, isBits⟩) | ⟨isPool, index, later⟩)
          · exact Or.inl old
          · exact Or.inr ⟨isPool, Or.inl ⟨same, isBits⟩⟩
          · exact Or.inr ⟨isPool, Or.inr ⟨index, later⟩⟩
        · rintro (old | ⟨isPool, ⟨same, isBits⟩ | ⟨index, later⟩⟩)
          · exact Or.inl (Or.inl old)
          · exact Or.inl (Or.inr ⟨same, isPool, isBits⟩)
          · exact Or.inr ⟨isPool, index, later⟩

/-- A null set or a serial too many, and the loop gives up with what it has added left
in the table. -/
theorem insertDescriptorSets_gives_up (sets : List UInt64) : ∀ (ids : List UInt64) (context : ObjectContext),
    context.objects.Sound →
      ¬ ((∀ set ∈ sets, set ≠ 0) ∧ (context.nextSerial .descriptorSet).toNat + sets.length ≤ 2 ^ 56) →
      sets ≠ [] →
      (insertDescriptorSets poolId sets ids context).1 = .ok ⟨vkErrorTooManyObjects, []⟩ := by
  induction sets with
  | nil => intro ids context _ _ some; exact absurd rfl some
  | cons set rest ih =>
      intro ids context sound short _
      simp only [insertDescriptorSets]
      split
      · rfl
      · rename_i objects inserted
        obtain ⟨kept, _, formed, isSet, _, _⟩ := sound.insert_ok inserted
        have known : handleId .descriptorSet (context.nextSerial .descriptorSet) ≠ 0 :=
          handleIsWellFormed_ne_zero formed
        have small : (context.nextSerial .descriptorSet).toNat + 1 ≤ 2 ^ 56 := by
          by_contra large
          refine known (handleId_eq_zero_iff.mpr (Or.inr (Or.inr ?_)))
          have mask : handleSerialMask.toNat = 2 ^ 56 - 1 := by decide
          rw [UInt64.lt_iff_toNat_lt]
          omega
        have serial : ((context.takeSerial .descriptorSet).2.nextSerial .descriptorSet).toNat =
            (context.nextSerial .descriptorSet).toNat + 1 := by
          simp only [takeSerial, Function.update_self]
          exact serial_succ small
        cases rest with
        | nil =>
            refine absurd ⟨?_, ?_⟩ short
            · intro other member
              rw [List.mem_singleton.mp member]
              exact isSet
            · exact small
        | cons second others =>
            refine ih _ _ kept ?_ (List.cons_ne_nil _ _)
            rintro ⟨nonzero, fits⟩
            refine short ⟨List.forall_mem_cons.mpr ⟨isSet, nonzero⟩, ?_⟩
            dsimp only at fits
            rw [serial] at fits
            rw [List.length_cons]
            omega

def allocationEnters (driver : ObjectDriver) (context : ObjectContext) (poolId : UInt64) (layoutIds : List UInt64)
    (result : VulkanResult) : Bool :=
  !(layoutIds.length == 0 || decide (maxDescriptorSetsPerAllocate < layoutIds.length) ||
      decide (context.objects.capacity - context.objects.count < layoutIds.length)) &&
    match context.resolveDeviceChild poolId .descriptorPool with
    | .error _ => false
    | .ok (deviceId, device, _) =>
        (layoutIds.findSome? fun layoutId => context.lineage layoutId .descriptorSetLayout deviceId).isNone &&
          driver.creates device .descriptorSet && result == vkSuccess

/-- The sets are not null and the serials that are left suffice. -/
def SetsFit (driver : ObjectDriver) (context : ObjectContext) (poolId : UInt64) (layoutIds : List UInt64)
    (result : VulkanResult) (sets : Nat → UInt64) : Prop :=
  allocationEnters driver context poolId layoutIds result = true →
    (∀ index < layoutIds.length, sets index ≠ 0) ∧
      (context.nextSerial .descriptorSet).toNat + layoutIds.length ≤ 2 ^ 56

/-- The new ids, in the order of the native sets. -/
structure SetsIssued (context : ObjectContext) (poolId : UInt64) (count : Nat) (sets : Nat → UInt64)
    (ids : List UInt64) (outcome : Answered) : Prop where
  reply : outcome.1 = .ok ⟨vkSuccess, ids⟩
  length : ids.length = count
  distinct : ids.Nodup
  fresh : ∀ id ∈ ids, handleType id = .descriptorSet ∧ ∀ parent bits, ¬ context.Live id parent bits
  live : ∀ id parent bits, outcome.2.Live id parent bits ↔
    context.Live id parent bits ∨ parent = poolId ∧ ∃ index : Nat, ids[index]? = some id ∧ bits = sets index

/-- The failure branch inside the loop. -/
def InsertionFails (driver : ObjectDriver) (context : ObjectContext) (poolId : UInt64) (layoutIds : List UInt64)
    (result : VulkanResult) (sets : Nat → UInt64) : Prop :=
  allocationEnters driver context poolId layoutIds result = true ∧
    (context.allocateDescriptorSets driver poolId layoutIds result sets).1 = .ok ⟨vkErrorTooManyObjects, []⟩

structure AllOrNothing (driver : ObjectDriver) (context : ObjectContext) (poolId : UInt64) (layoutIds : List UInt64)
    (result : VulkanResult) (sets : Nat → UInt64) : Prop where
  whole : (∃ ids, SetsIssued context poolId layoutIds.length sets ids
      (context.allocateDescriptorSets driver poolId layoutIds result sets)) ∨
    (context.allocateDescriptorSets driver poolId layoutIds result sets).2.objects = context.objects
  unreachable : ¬ InsertionFails driver context poolId layoutIds result sets

variable {layoutIds : List UInt64} {result : VulkanResult} {sets : Nat → UInt64}

theorem allocateDescriptorSets_enters (sets : Nat → UInt64)
    (enters : allocationEnters driver context poolId layoutIds result = true) :
    context.allocateDescriptorSets driver poolId layoutIds result sets =
        insertDescriptorSets poolId ((List.range layoutIds.length).map sets) [] context ∧
      layoutIds.length ≠ 0 ∧ context.objects.count + layoutIds.length ≤ context.objects.capacity ∧
      handleIsWellFormed poolId = true := by
  simp only [allocationEnters, Bool.and_eq_true, Bool.not_eq_true', Bool.or_eq_false_iff, beq_eq_false_iff_ne,
    decide_eq_false_iff_not] at enters
  obtain ⟨⟨⟨some, few⟩, room⟩, resolved⟩ := enters
  have checked : ¬ (layoutIds.length = 0 ∨ maxDescriptorSetsPerAllocate < layoutIds.length ∨
      context.objects.capacity - context.objects.count < layoutIds.length) := by
    rintro (none | many | full)
    · exact some none
    · exact few many
    · exact room full
  split at resolved
  · contradiction
  · rename_i deviceId device bits found
    simp only [Bool.and_eq_true, Option.isNone_iff_eq_none, beq_iff_eq] at resolved
    obtain ⟨⟨sameDevice, present⟩, success⟩ := resolved
    refine ⟨?_, some, by omega, ?_⟩
    · simp only [allocateDescriptorSets, if_neg checked, found, sameDevice, present, success, Bool.not_true,
        Bool.false_eq_true, if_false, ne_eq, not_true_eq_false]
    · unfold resolveDeviceChild at found
      split at found
      · contradiction
      · rename_i parentId nativeBits looked
        simp only [HandleTable.lookup] at looked
        split at looked
        · contradiction
        · rename_i accepted
          simp only [Bool.or_eq_true, Bool.not_eq_true', not_or, Bool.not_eq_false] at accepted
          exact ((handleExpect_iff _ _).mp accepted.2).1

theorem allocateDescriptorSets_outside (outside : allocationEnters driver context poolId layoutIds result = false) :
    (context.allocateDescriptorSets driver poolId layoutIds result sets).2 = context ∧
      ∀ reply, (context.allocateDescriptorSets driver poolId layoutIds result sets).1 = .ok reply → reply.ids = [] := by
  unfold allocateDescriptorSets
  split
  · exact ⟨rfl, fun reply same => by cases same; rfl⟩
  rename_i checked
  split
  · exact ⟨rfl, fun reply same => by contradiction⟩
  rename_i deviceId device bits found
  split
  · rename_i verdict _
    refine ⟨rfl, fun reply same => ?_⟩
    cases verdict with
    | error code => contradiction
    | ok value => cases same; rfl
  rename_i sameDevice
  split
  · exact ⟨rfl, fun reply same => by contradiction⟩
  rename_i present
  split
  · exact ⟨rfl, fun reply same => by cases same; rfl⟩
  · rename_i success
    have inside : allocationEnters driver context poolId layoutIds result = true := by
      simp only [not_or] at checked
      simp only [ne_eq, not_not] at success
      simp only [Bool.not_eq_true', Bool.not_eq_false] at present
      simp [allocationEnters, checked, found, sameDevice, present, success]
    rw [inside] at outside
    contradiction

theorem serial_add {serial : UInt64} {count offset : Nat} (bound : offset < count)
    (fits : serial.toNat + count ≤ 2 ^ 56) : (serial + UInt64.ofNat offset).toNat = serial.toNat + offset := by
  have small : (UInt64.ofNat offset).toNat = offset := UInt64.toNat_ofNat_of_lt' (by simp only [UInt64.size]; omega)
  rw [UInt64.toNat_add, small, Nat.mod_eq_of_lt (by omega)]

theorem nextSetId_serial {count offset : Nat} (numbered : context.SetsNumbered) (bound : offset < count)
    (fits : (context.nextSerial .descriptorSet).toNat + count ≤ 2 ^ 56) :
    handleType (handleId .descriptorSet (context.nextSerial .descriptorSet + UInt64.ofNat offset)) = .descriptorSet ∧
      (handleSerial (handleId .descriptorSet (context.nextSerial .descriptorSet + UInt64.ofNat offset))).toNat =
        (context.nextSerial .descriptorSet).toNat + offset := by
  have started := numbered.started
  have serial := serial_add bound fits
  have known : handleId .descriptorSet (context.nextSerial .descriptorSet + UInt64.ofNat offset) ≠ 0 :=
    setId_ne_zero (by omega) (by omega)
  rw [handleType_handleId known, handleSerial_handleId known]
  exact ⟨rfl, serial⟩

theorem mem_nextSetIds {count : Nat} {id : UInt64} (numbered : context.SetsNumbered)
    (fits : (context.nextSerial .descriptorSet).toNat + count ≤ 2 ^ 56) (member : id ∈ context.nextSetIds count) :
    handleType id = .descriptorSet ∧ (context.nextSerial .descriptorSet).toNat ≤ (handleSerial id).toNat ∧
      (handleSerial id).toNat < (context.nextSerial .descriptorSet).toNat + count := by
  simp only [nextSetIds, List.mem_map, List.mem_range] at member
  obtain ⟨offset, bound, rfl⟩ := member
  obtain ⟨typed, serial⟩ := nextSetId_serial numbered bound fits
  rw [typed, serial]
  exact ⟨rfl, by omega, by omega⟩

theorem nextSetIds_nodup {count : Nat} (numbered : context.SetsNumbered)
    (fits : (context.nextSerial .descriptorSet).toNat + count ≤ 2 ^ 56) : (context.nextSetIds count).Nodup := by
  refine List.Nodup.map_on ?_ List.nodup_range
  intro first firstBound second secondBound same
  have firstSerial := (nextSetId_serial numbered (List.mem_range.mp firstBound) fits).2
  have secondSerial := (nextSetId_serial numbered (List.mem_range.mp secondBound) fits).2
  rw [same, secondSerial] at firstSerial
  omega

theorem allocateDescriptorSets_fits (sound : context.objects.Sound) (numbered : context.SetsNumbered)
    (enters : allocationEnters driver context poolId layoutIds result = true)
    (fits : SetsFit driver context poolId layoutIds result sets) :
    ∃ next, context.allocateDescriptorSets driver poolId layoutIds result sets =
        (.ok ⟨vkSuccess, context.nextSetIds layoutIds.length⟩, next) ∧
      SetsAdded context poolId ((List.range layoutIds.length).map sets) next := by
  obtain ⟨same, _, room, formed⟩ := allocateDescriptorSets_enters sets enters
  obtain ⟨nonzero, serials⟩ := fits enters
  have length : ((List.range layoutIds.length).map sets).length = layoutIds.length := by simp
  obtain ⟨next, outcome, added⟩ := insertDescriptorSets_fits formed ((List.range layoutIds.length).map sets) [] context
    sound numbered (by rw [length]; exact room) (by simpa using nonzero) (by rw [length]; exact serials)
  rw [length, List.nil_append] at outcome
  exact ⟨next, same.trans outcome, added⟩

theorem allocateDescriptorSets_issues (sound : context.objects.Sound) (numbered : context.SetsNumbered)
    (enters : allocationEnters driver context poolId layoutIds result = true)
    (fits : SetsFit driver context poolId layoutIds result sets) :
    SetsIssued context poolId layoutIds.length sets (context.nextSetIds layoutIds.length)
      (context.allocateDescriptorSets driver poolId layoutIds result sets) := by
  obtain ⟨next, outcome, added⟩ := allocateDescriptorSets_fits sound numbered enters fits
  have serials := (fits enters).2
  have length : ((List.range layoutIds.length).map sets).length = layoutIds.length := by simp
  have counted : (context.nextSetIds layoutIds.length).length = layoutIds.length := by simp [nextSetIds]
  rw [outcome]
  refine ⟨rfl, counted, nextSetIds_nodup numbered serials, ?_, ?_⟩
  · intro id member
    obtain ⟨typed, reached, _⟩ := mem_nextSetIds numbered serials member
    refine ⟨typed, fun parent bits live => ?_⟩
    have below := numbered.below id parent bits live typed
    omega
  · intro id parent bits
    rw [added.live, length]
    refine or_congr_right (and_congr_right fun _ => exists_congr fun index => and_congr_right fun found => ?_)
    have bound : index < layoutIds.length := by
      have inside := (List.getElem?_eq_some_iff.mp found).1
      omega
    rw [List.getElem?_map, List.getElem?_range bound, Option.map_some, Option.some.injEq, eq_comm]

theorem allOrNothing_iff (sound : context.objects.Sound) (numbered : context.SetsNumbered) :
    AllOrNothing driver context poolId layoutIds result sets ↔ SetsFit driver context poolId layoutIds result sets := by
  constructor
  · intro whole enters
    by_contra short
    obtain ⟨same, some, _, _⟩ := allocateDescriptorSets_enters sets enters
    refine whole.unreachable ⟨enters, ?_⟩
    rw [same]
    refine insertDescriptorSets_gives_up _ [] context sound ?_ ?_
    · simpa using short
    · intro empty
      have none := congrArg List.length empty
      simp only [List.length_map, List.length_range, List.length_nil] at none
      exact some none
  · intro fits
    cases enters : allocationEnters driver context poolId layoutIds result with
    | false =>
        refine ⟨Or.inr ?_, ?_⟩
        · rw [(allocateDescriptorSets_outside enters).1]
        · rintro ⟨inside, _⟩
          rw [enters] at inside
          contradiction
    | true =>
        have issued := allocateDescriptorSets_issues sound numbered enters fits
        refine ⟨Or.inl ⟨_, issued⟩, ?_⟩
        rintro ⟨_, failed⟩
        rw [issued.reply] at failed
        cases failed

/-- The condition on a call: an allocation's sets fit. -/
def CallFits (context : ObjectContext) (input : ObjectDriver × ObjectRequest) : Prop :=
  match input.2 with
  | .allocateDescriptorSets poolId layoutIds result sets => SetsFit input.1 context poolId layoutIds result sets
  | _ => True

def issuedSets (context : ObjectContext) (input : ObjectDriver × ObjectRequest) : List UInt64 :=
  match input.2, (context.call input.1 input.2).1 with
  | .allocateDescriptorSets .., .ok reply => reply.ids
  | _, _ => []

/-- Those of a whole run. -/
def issuedOver : ObjectContext → List (ObjectDriver × ObjectRequest) → List UInt64
  | _, [] => []
  | context, input :: rest => context.issuedSets input ++ issuedOver (context.step input) rest

structure Numbered (context : ObjectContext) : Prop where
  sound : context.objects.Sound
  sets : context.SetsNumbered

theorem Numbered.of_changes {makes : ObjectType → Prop} (numbered : context.Numbered)
    (changes : Changes makes context next) (other : ¬ makes .descriptorSet) : next.Numbered := by
  have serial := changes.other other
  refine ⟨changes.sound numbered.sound, ?_, ?_⟩
  · rw [serial]
    exact numbered.sets.started
  · intro wireId parentId nativeBits live typed
    rw [serial]
    exact numbered.sets.below wireId parentId nativeBits
      (changes.live_other numbered.sound other typed live) typed

theorem Numbered.step (numbered : context.Numbered) (input : ObjectDriver × ObjectRequest)
    (fits : context.CallFits input) :
    (context.step input).Numbered ∧ (context.issuedSets input).Nodup ∧
      (context.nextSerial .descriptorSet).toNat ≤ ((context.step input).nextSerial .descriptorSet).toNat ∧
      ∀ id ∈ context.issuedSets input,
        (context.nextSerial .descriptorSet).toNat ≤ (handleSerial id).toNat ∧
          (handleSerial id).toNat < ((context.step input).nextSerial .descriptorSet).toNat := by
  obtain ⟨driver, request⟩ := input
  by_cases isAllocation : .descriptorSet ∈ request.makes
  · obtain ⟨poolId, layoutIds, result, sets, rfl⟩ : ∃ poolId layoutIds result sets,
        request = .allocateDescriptorSets poolId layoutIds result sets := by
      cases request with
      | allocateDescriptorSets poolId layoutIds result sets => exact ⟨poolId, layoutIds, result, sets, rfl⟩
      | _ => simp [ObjectRequest.makes] at isAllocation
    simp only [ObjectContext.step, issuedSets, call]
    cases enters : allocationEnters driver context poolId layoutIds result with
    | false =>
        obtain ⟨same, none⟩ : (context.allocateDescriptorSets driver poolId layoutIds result sets).2 = context ∧
            ∀ reply, (context.allocateDescriptorSets driver poolId layoutIds result sets).1 = .ok reply →
              reply.ids = [] := allocateDescriptorSets_outside enters
        rw [same]
        cases replied : (context.allocateDescriptorSets driver poolId layoutIds result sets).1 with
        | error code => exact ⟨numbered, List.nodup_nil, Nat.le_refl _, fun id member => by cases member⟩
        | ok reply =>
            dsimp only
            rw [none reply replied]
            exact ⟨numbered, List.nodup_nil, Nat.le_refl _, fun id member => by cases member⟩
    | true =>
        obtain ⟨next, outcome, added⟩ := allocateDescriptorSets_fits numbered.sound numbered.sets enters fits
        have serials := (fits enters).2
        have length : ((List.range layoutIds.length).map sets).length = layoutIds.length := by simp
        have grown := added.serial
        rw [length] at grown
        rw [outcome]
        refine ⟨⟨added.sound, added.numbered⟩, nextSetIds_nodup numbered.sets serials, by dsimp only; omega, ?_⟩
        intro id member
        obtain ⟨_, reached, below⟩ := mem_nextSetIds numbered.sets serials member
        dsimp only
        omega
  · have changes := call_changes driver context request
    have same := changes.other isAllocation
    have nothing : context.issuedSets (driver, request) = [] := by
      cases request with
      | allocateDescriptorSets => simp [ObjectRequest.makes] at isAllocation
      | _ => rfl
    rw [nothing]
    exact ⟨numbered.of_changes changes isAllocation, List.nodup_nil, Nat.le_of_eq (congrArg UInt64.toNat same.symm),
      fun id member => by cases member⟩

theorem run_numbered (inputs : List (ObjectDriver × ObjectRequest)) (start : ObjectContext) (numbered : start.Numbered)
    (fits : Runs.EveryStep step CallFits start inputs) : Runs.EveryState step Numbered start inputs :=
  Runs.everyState_of_everyStep (fun _ input kept meets => (kept.step input meets).1) inputs start numbered fits

theorem issuedOver_nodup (inputs : List (ObjectDriver × ObjectRequest)) : ∀ start : ObjectContext, start.Numbered →
    Runs.EveryStep step CallFits start inputs →
    (issuedOver start inputs).Nodup ∧ ∀ id ∈ issuedOver start inputs,
      (start.nextSerial .descriptorSet).toNat ≤ (handleSerial id).toNat := by
  induction inputs with
  | nil => intro start _ _; exact ⟨List.nodup_nil, fun id member => by cases member⟩
  | cons input rest ih =>
      intro start numbered fits
      obtain ⟨kept, distinct, grows, issued⟩ := numbered.step input fits.1
      obtain ⟨later, above⟩ := ih (start.step input) kept fits.2
      simp only [issuedOver]
      constructor
      · refine List.nodup_append.mpr ⟨distinct, later, ?_⟩
        rintro id first _ second rfl
        have below := (issued id first).2
        have reached := above id second
        omega
      · intro id member
        rcases List.mem_append.mp member with first | second
        · exact (issued id first).1
        · have reached := above id second
          omega

theorem empty_numbered {capacity : Nat} (power : ∃ exponent, capacity = 2 ^ exponent) (large : 8 ≤ capacity)
    (found : Bool) : (empty capacity found).Numbered := by
  refine ⟨HandleTable.Sound.init power large, by simp [empty], ?_⟩
  rintro wireId parentId nativeBits ⟨index, _, entry⟩ _
  cases entry

/-- In a run whose allocations all fit, every allocation is all or nothing, exactly as
far as its sets fit, and no id of a descriptor set is answered twice. -/
theorem descriptorSets_allOrNothing {capacity : Nat} (power : ∃ exponent, capacity = 2 ^ exponent)
    (large : 8 ≤ capacity) (found : Bool) (inputs : List (ObjectDriver × ObjectRequest))
    (fits : Runs.EveryStep step CallFits (empty capacity found) inputs) :
    Runs.EveryState step
        (fun context => ∀ driver poolId layoutIds result sets,
          AllOrNothing driver context poolId layoutIds result sets ↔
            SetsFit driver context poolId layoutIds result sets)
        (empty capacity found) inputs ∧
      (issuedOver (empty capacity found) inputs).Nodup := by
  have start := empty_numbered power large found
  refine ⟨?_, (issuedOver_nodup inputs _ start fits).1⟩
  refine (run_numbered inputs _ start fits).imp ?_
  intro context numbered driver poolId layoutIds result sets
  exact allOrNothing_iff numbered.sound numbered.sets

/-- A driver with every function. -/
def obligingDriver : ObjectDriver := ⟨fun _ _ => true, fun _ _ => true, fun _ => none, fun _ => none⟩

def setPool : UInt64 := handleId .descriptorPool 1
def setLayout : UInt64 := handleId .descriptorSetLayout 1

def poolRun : List (ObjectDriver × ObjectRequest) :=
  [(obligingDriver, .createInstance none ⟨vkSuccess, 10⟩ true true),
    (obligingDriver, .enumeratePhysicalDevices (handleId .inst 1) none vkSuccess [20]),
    (obligingDriver, .createDevice (handleId .physicalDevice 1) none none [⟨0, 1⟩] ⟨vkSuccess, 30⟩),
    (obligingDriver, .createDescriptorSetLayout (handleId .device 1) none ⟨vkSuccess, 40⟩),
    (obligingDriver, .createDescriptorPool (handleId .device 1) none ⟨vkSuccess, 50⟩)]

/-- Two sets, a reset of the pool, and two more. -/
def setsRun : List (ObjectDriver × ObjectRequest) :=
  poolRun ++
    [(obligingDriver, .allocateDescriptorSets setPool [setLayout, setLayout] vkSuccess
        fun index => 60 + UInt64.ofNat index),
      (obligingDriver, .resetDescriptorPool setPool none true vkSuccess),
      (obligingDriver, .allocateDescriptorSets setPool [setLayout, setLayout] vkSuccess
        fun index => 70 + UInt64.ofNat index)]

instance (input : ObjectDriver × ObjectRequest) : Decidable (context.CallFits input) := by
  unfold CallFits
  split
  · unfold SetsFit
    infer_instance
  · infer_instance

theorem descriptorSets_allOrNothing_setsRun :
    (issuedOver (empty 8 false) setsRun).Nodup :=
  (descriptorSets_allOrNothing ⟨3, rfl⟩ (Nat.le_refl 8) false setsRun (by decide +kernel)).2

/-- One serial is left, and two sets are asked for. -/
def lastSerial : ObjectContext :=
  let context := Runs.final step (empty 8 false) poolRun
  { context with nextSerial := Function.update context.nextSerial .descriptorSet (2 ^ 56 - 1) }

theorem last_serial_strands_a_set :
    ¬ AllOrNothing obligingDriver lastSerial setPool [setLayout, setLayout] vkSuccess
      (fun index => 60 + UInt64.ofNat index) ∧
      lastSerial.objects.lookup (handleId .descriptorSet (2 ^ 56 - 1)) .descriptorSet = .error .enoent ∧
      (lastSerial.allocateDescriptorSets obligingDriver setPool [setLayout, setLayout] vkSuccess
        fun index => 60 + UInt64.ofNat index).1 = .ok ⟨vkErrorTooManyObjects, []⟩ ∧
      (lastSerial.allocateDescriptorSets obligingDriver setPool [setLayout, setLayout] vkSuccess
        fun index => 60 + UInt64.ofNat index).2.objects.lookup (handleId .descriptorSet (2 ^ 56 - 1)) .descriptorSet =
          .ok (setPool, 60) := by
  have entered : allocationEnters obligingDriver lastSerial setPool [setLayout, setLayout] vkSuccess = true := by
    decide +kernel
  have failed : (lastSerial.allocateDescriptorSets obligingDriver setPool [setLayout, setLayout] vkSuccess
      fun index => 60 + UInt64.ofNat index).1 = .ok ⟨vkErrorTooManyObjects, []⟩ := by
    decide +kernel
  refine ⟨fun whole => whole.unreachable ⟨entered, failed⟩, by decide +kernel, failed, by decide +kernel⟩

end ObjectContext

end VulkanBridge
