import VulkanBridge.HandleTable

/-!
The handle table refines a finite map from wire ids to a parent id and native
bits: every reply of every sequence of calls is the reply of the map.
-/

namespace VulkanBridge

open LinearProbing

abbrev HandleMap := UInt64 → Option (UInt64 × UInt64)

/-- One call on the map the table stands for. -/
noncomputable def HandleMap.call (capacity : Nat) (map : HandleMap) :
    TableCall → Except Errno TableReply × HandleMap
  | .insert wireId parentId nativeBits =>
      if handleIsWellFormed wireId = false ∨ nativeBits = 0 ∨
          (parentId ≠ 0 ∧ handleIsWellFormed parentId = false) then (.error .einval, map)
      else if (support map).ncard = capacity then (.error .enospc, map)
      else if (map wireId).isSome then (.error .eexist, map)
      else (.ok .inserted, insertMap map wireId (parentId, nativeBits))
  | .lookup wireId expected =>
      if handleExpect wireId expected = false then (.error .einval, map)
      else
        match map wireId with
        | none => (.error .enoent, map)
        | some (parentId, nativeBits) => (.ok (.binding parentId nativeBits), map)
  | .remove wireId expected =>
      if handleExpect wireId expected = false then (.error .einval, map)
      else
        match map wireId with
        | none => (.error .enoent, map)
        | some (_, nativeBits) => (.ok (.removed nativeBits), eraseMap map wireId)

noncomputable def HandleMap.run (capacity : Nat) (map : HandleMap) :
    List TableCall → List (Except Errno TableReply) × HandleMap
  | [] => ([], map)
  | first :: rest =>
      let (reply, next) := HandleMap.call capacity map first
      let (replies, last) := HandleMap.run capacity next rest
      (reply :: replies, last)

def HandleEntry.slot (entry : HandleEntry) : Slot UInt64 (UInt64 × UInt64) :=
  match entry.state with
  | .empty => .empty
  | .occupied => .occupied entry.wireId (entry.parentId, entry.nativeBits)
  | .tombstone => .tombstone

namespace HandleTable

def slots (table : HandleTable) (index : Nat) : Slot UInt64 (UInt64 × UInt64) :=
  (table.entries index).slot

theorem setEntry_slots (table : HandleTable) (index : Nat) (entry : HandleEntry) (count : Nat) :
    (table.setEntry index entry count).slots = store table.slots index entry.slot := by
  funext other
  by_cases here : other = index
  · simp [slots, setEntry, store, here]
  · simp [slots, setEntry, store, here]

/-- The state of a table that holds the bindings of `map`. -/
structure Holds (table : HandleTable) (map : HandleMap) : Prop where
  power : ∃ exponent, table.capacity = 2 ^ exponent
  large : 8 ≤ table.capacity
  chained : Chained table.slots table.capacity (hashWireId · table.capacity)
  represents : Represents table.slots table.capacity map
  counted : table.count = (occupiedPositions table.slots table.capacity).card

theorem and_pred_eq_mod {capacity : Nat} (power : ∃ exponent, capacity = 2 ^ exponent) (value : Nat) :
    value &&& (capacity - 1) = value % capacity := by
  obtain ⟨exponent, rfl⟩ := power
  exact Nat.and_two_pow_sub_one_eq_mod value exponent

variable {table : HandleTable} {map : HandleMap}

theorem Holds.positive (holds : Holds table map) : 0 < table.capacity := by
  have large := holds.large
  omega

theorem Holds.count_le (holds : Holds table map) : table.count ≤ table.capacity := by
  rw [holds.counted]
  exact occupiedPositions_le _ _

theorem Holds.count_eq (holds : Holds table map) : table.count = (support map).ncard := by
  rw [holds.counted, holds.represents.card holds.chained]

theorem Holds.isValid (holds : Holds table map) : table.isValid = true := by
  simp only [HandleTable.isValid, Bool.and_eq_true, decide_eq_true_eq, beq_iff_eq]
  refine ⟨⟨holds.large, ?_⟩, holds.count_le⟩
  rw [and_pred_eq_mod holds.power, Nat.mod_self]

theorem Holds.home_lt (holds : Holds table map) (wireId : UInt64) :
    hashWireId wireId table.capacity < table.capacity := by
  simp only [hashWireId]
  rw [and_pred_eq_mod holds.power]
  exact Nat.mod_lt _ holds.positive

theorem findIndex_eq (power : ∃ exponent, table.capacity = 2 ^ exponent) (wireId : UInt64) :
    ∀ probes index, table.findIndex wireId probes index =
      find table.slots table.capacity wireId probes index := by
  intro probes
  induction probes with
  | zero => intro index; rfl
  | succ probes ih =>
      intro index
      rw [findIndex, find, ih, and_pred_eq_mod power]
      cases state : (table.entries index).state with
      | empty => simp [slots, HandleEntry.slot, state]
      | occupied => simp [slots, HandleEntry.slot, state]
      | tombstone => simp [slots, HandleEntry.slot, state]

def spareOf (table : HandleTable) (tombstone : Nat) : Option Nat :=
  if tombstone = table.capacity then none else some tombstone

def claimResult : Claim → Except Errno Nat
  | .present => .error .eexist
  | .position index => .ok index
  | .full => .error .enospc

theorem insertIndex_eq (power : ∃ exponent, table.capacity = 2 ^ exponent)
    (positive : 0 < table.capacity) (wireId : UInt64) :
    ∀ probes index tombstone, index < table.capacity →
      table.insertIndex wireId probes index tombstone =
        claimResult (claim table.slots table.capacity wireId probes index (table.spareOf tombstone)) := by
  intro probes
  induction probes with
  | zero =>
      intro index tombstone _
      by_cases sentinel : tombstone = table.capacity
      · simp [insertIndex, spareOf, sentinel, claim, claimResult]
      · simp [insertIndex, spareOf, sentinel, claim, claimResult]
  | succ probes ih =>
      intro index tombstone bound
      have next : (index + 1) % table.capacity < table.capacity := Nat.mod_lt _ positive
      rw [insertIndex, claim, and_pred_eq_mod power]
      cases state : (table.entries index).state with
      | empty =>
          by_cases sentinel : tombstone = table.capacity
          · simp [slots, HandleEntry.slot, state, spareOf, sentinel, claimResult]
          · simp [slots, HandleEntry.slot, state, spareOf, sentinel, claimResult]
      | occupied =>
          by_cases same : (table.entries index).wireId = wireId
          · simp [slots, HandleEntry.slot, state, same, claimResult]
          · simp [slots, HandleEntry.slot, state, same, ih _ tombstone next]
      | tombstone =>
          have inside : index ≠ table.capacity := by omega
          by_cases sentinel : tombstone = table.capacity
          · simp [slots, HandleEntry.slot, state, sentinel, ih _ index next, spareOf, inside]
          · simp [slots, HandleEntry.slot, state, sentinel, ih _ tombstone next, spareOf]

theorem Holds.find_some (holds : Holds table map) {wireId : UInt64} {index : Nat}
    (found : table.findIndex wireId table.capacity (hashWireId wireId table.capacity) = some index) :
    index < table.capacity ∧ table.slots index =
        .occupied wireId ((table.entries index).parentId, (table.entries index).nativeBits) ∧
      map wireId = some ((table.entries index).parentId, (table.entries index).nativeBits) := by
  rw [findIndex_eq holds.power] at found
  obtain ⟨bound, value, stored⟩ := find_sound wireId holds.positive _ _ _ (holds.home_lt wireId) found
  have binding : value = ((table.entries index).parentId, (table.entries index).nativeBits) := by
    simp only [slots, HandleEntry.slot] at stored
    split at stored
    · cases stored
    · cases stored
      rfl
    · cases stored
  subst binding
  exact ⟨bound, stored, (holds.represents _ _).mpr ⟨index, bound, stored⟩⟩

theorem Holds.find_none (holds : Holds table map) {wireId : UInt64}
    (missing : table.findIndex wireId table.capacity (hashWireId wireId table.capacity) = none) :
    map wireId = none := by
  rw [findIndex_eq holds.power] at missing
  by_contra present
  obtain ⟨value, isValue⟩ := Option.ne_none_iff_exists'.mp present
  obtain ⟨position, bound, stored⟩ := (holds.represents _ _).mp isValue
  exact LinearProbing.find_none holds.chained wireId (holds.home_lt wireId) missing position value bound
    stored

theorem Holds.lookup (holds : Holds table map) {wireId : UInt64} {expected : ObjectType}
    (expects : handleExpect wireId expected = true) :
    table.lookup wireId expected = (map wireId).elim (.error .enoent) .ok := by
  simp only [HandleTable.lookup, holds.isValid, expects, findEntry, Bool.not_true, Bool.or_self,
    Bool.false_eq_true, if_false]
  cases result : table.findIndex wireId table.capacity (hashWireId wireId table.capacity) with
  | none => simp [holds.find_none result]
  | some index => simp [(holds.find_some result).2.2]

theorem Holds.insert_absent (holds : Holds table map) {wireId : UInt64} (parentId nativeBits : UInt64)
    {index : Nat} (fits : Fits table.slots table.capacity (hashWireId wireId table.capacity) wireId index) :
    Holds (table.setEntry index ⟨wireId, parentId, nativeBits, .occupied⟩ (table.count + 1))
      (insertMap map wireId (parentId, nativeBits)) := by
  have bound : index < table.capacity := by
    obtain ⟨step, _, rfl, _⟩ := fits.chain
    exact place_lt _ _ holds.positive
  constructor
  · exact holds.power
  · exact holds.large
  · rw [setEntry_slots]
    exact holds.chained.insert _ fits
  · rw [setEntry_slots]
    exact holds.represents.insert _ bound fits.free (fits.absent holds.chained rfl)
  · rw [setEntry_slots]
    show table.count + 1 = _
    rw [holds.counted]
    exact (occupiedPositions_insert bound fits.free).symm

theorem Holds.remove_present (holds : Holds table map) {wireId : UInt64} {index : Nat}
    (found : table.findIndex wireId table.capacity (hashWireId wireId table.capacity) = some index) :
    Holds (table.setEntry index ⟨0, 0, 0, .tombstone⟩ (table.count - 1)) (eraseMap map wireId) := by
  obtain ⟨bound, stored, _⟩ := holds.find_some found
  constructor
  · exact holds.power
  · exact holds.large
  · rw [setEntry_slots]
    exact holds.chained.bury index
  · rw [setEntry_slots]
    exact holds.represents.bury holds.chained bound stored
  · rw [setEntry_slots]
    have fewer := occupiedPositions_bury bound stored
    rw [← holds.counted] at fewer
    show table.count - 1 = (occupiedPositions (store table.slots index .tombstone) table.capacity).card
    omega

theorem Holds.insertIndex_cases (holds : Holds table map) (wireId : UInt64)
    (room : table.count ≠ table.capacity) :
    (table.insertIndex wireId table.capacity (hashWireId wireId table.capacity) table.capacity =
        .error .eexist ∧ (map wireId).isSome) ∨
    ∃ index, table.insertIndex wireId table.capacity (hashWireId wireId table.capacity) table.capacity =
        .ok index ∧ Fits table.slots table.capacity (hashWireId wireId table.capacity) wireId index ∧
      map wireId = none := by
  have start := Probed.start table.slots table.capacity (hashWireId wireId table.capacity) wireId
  have means := claim_means wireId (hashWireId wireId table.capacity) holds.positive table.capacity 0
    none (by omega) start
  rw [place_zero (holds.home_lt wireId)] at means
  rw [insertIndex_eq holds.power holds.positive wireId _ _ _ (holds.home_lt wireId)]
  simp only [spareOf, if_true]
  cases outcome : claim table.slots table.capacity wireId table.capacity
      (hashWireId wireId table.capacity) none with
  | present =>
      rw [outcome] at means
      obtain ⟨position, value, bound, stored⟩ := means
      have present := (holds.represents wireId value).mpr ⟨position, bound, stored⟩
      exact Or.inl ⟨rfl, by simp [present]⟩
  | position index =>
      rw [outcome] at means
      refine Or.inr ⟨index, rfl, means, ?_⟩
      by_contra present
      obtain ⟨value, isValue⟩ := Option.ne_none_iff_exists'.mp present
      obtain ⟨other, bound, stored⟩ := (holds.represents _ _).mp isValue
      exact Fits.absent holds.chained rfl means other value bound stored
  | full =>
      rw [outcome] at means
      have full := occupiedPositions_full (holds.home_lt wireId) means
      exact absurd (holds.counted.trans full) room

/-- The two argument checks of an insertion as one condition. -/
theorem insert_eq (valid : table.isValid = true) (wireId parentId nativeBits : UInt64) :
    table.insert wireId parentId nativeBits =
      if handleIsWellFormed wireId = false ∨ nativeBits = 0 ∨
          (parentId ≠ 0 ∧ handleIsWellFormed parentId = false) then .error .einval
      else if table.count = table.capacity then .error .enospc
      else
        match table.insertIndex wireId table.capacity (hashWireId wireId table.capacity) table.capacity with
        | .error code => .error code
        | .ok index =>
            .ok (table.setEntry index ⟨wireId, parentId, nativeBits, .occupied⟩ (table.count + 1)) := by
  have ill : ∀ id, (handleType id == .invalid || handleSerial id == 0) = !handleIsWellFormed id := by
    intro id
    simp [handleIsWellFormed, bne]
  rw [HandleTable.insert, valid, Bool.or_assoc, Bool.or_assoc, ← Bool.or_assoc (handleType wireId == _), ill,
    ill]
  rw [← ite_or]
  refine if_congr ?_ rfl rfl
  simp [or_assoc]

theorem Holds.call_insert (holds : Holds table map) (wireId parentId nativeBits : UInt64) :
    (table.call (.insert wireId parentId nativeBits)).1 =
        (HandleMap.call table.capacity map (.insert wireId parentId nativeBits)).1 ∧
      Holds (table.call (.insert wireId parentId nativeBits)).2
        (HandleMap.call table.capacity map (.insert wireId parentId nativeBits)).2 := by
  simp only [HandleTable.call, insert_eq holds.isValid, HandleMap.call, ← holds.count_eq]
  by_cases refused : handleIsWellFormed wireId = false ∨ nativeBits = 0 ∨
      (parentId ≠ 0 ∧ handleIsWellFormed parentId = false)
  · simp only [if_pos refused]
    exact ⟨trivial, holds⟩
  · simp only [if_neg refused]
    by_cases room : table.count = table.capacity
    · simp only [if_pos room]
      exact ⟨trivial, holds⟩
    · simp only [if_neg room]
      rcases holds.insertIndex_cases wireId room with ⟨result, present⟩ | ⟨index, result, fits, absent⟩
      · simp only [result, present, if_true]
        exact ⟨trivial, holds⟩
      · simp only [result, absent, Option.isSome_none, Bool.false_eq_true, if_false]
        exact ⟨trivial, holds.insert_absent parentId nativeBits fits⟩

theorem Holds.call_lookup (holds : Holds table map) (wireId : UInt64) (expected : ObjectType) :
    (table.call (.lookup wireId expected)).1 =
        (HandleMap.call table.capacity map (.lookup wireId expected)).1 ∧
      Holds (table.call (.lookup wireId expected)).2
        (HandleMap.call table.capacity map (.lookup wireId expected)).2 := by
  cases expects : handleExpect wireId expected with
  | false =>
      simp only [HandleTable.call, HandleTable.lookup, HandleMap.call, expects, Bool.not_false,
        Bool.or_true, if_true]
      exact ⟨trivial, holds⟩
  | true =>
      simp only [HandleTable.call, HandleMap.call, holds.lookup expects, expects]
      cases map wireId with
      | none => exact ⟨rfl, holds⟩
      | some binding => exact ⟨rfl, holds⟩

theorem Holds.call_remove (holds : Holds table map) (wireId : UInt64) (expected : ObjectType) :
    (table.call (.remove wireId expected)).1 =
        (HandleMap.call table.capacity map (.remove wireId expected)).1 ∧
      Holds (table.call (.remove wireId expected)).2
        (HandleMap.call table.capacity map (.remove wireId expected)).2 := by
  cases expects : handleExpect wireId expected with
  | false =>
      simp only [HandleTable.call, HandleTable.remove, HandleMap.call, expects, Bool.not_false,
        Bool.or_true, if_true]
      exact ⟨trivial, holds⟩
  | true =>
      simp only [HandleTable.call, HandleTable.remove, HandleMap.call, expects, holds.isValid]
      cases result : table.findIndex wireId table.capacity (hashWireId wireId table.capacity) with
      | none =>
          rw [holds.find_none result]
          exact ⟨rfl, holds⟩
      | some index =>
          rw [(holds.find_some result).2.2]
          exact ⟨rfl, holds.remove_present result⟩

theorem Holds.call (holds : Holds table map) (request : TableCall) :
    (table.call request).1 = (HandleMap.call table.capacity map request).1 ∧
      Holds (table.call request).2 (HandleMap.call table.capacity map request).2 := by
  cases request with
  | insert wireId parentId nativeBits => exact holds.call_insert wireId parentId nativeBits
  | lookup wireId expected => exact holds.call_lookup wireId expected
  | remove wireId expected => exact holds.call_remove wireId expected

theorem call_capacity (table : HandleTable) (request : TableCall) :
    (table.call request).2.capacity = table.capacity := by
  cases request with
  | insert wireId parentId nativeBits =>
      simp only [HandleTable.call]
      split
      · rfl
      · rename_i next result
        simp only [HandleTable.insert] at result
        repeat' split at result
        all_goals cases result
        all_goals rfl
  | lookup wireId expected =>
      simp only [HandleTable.call]
      split <;> rfl
  | remove wireId expected =>
      simp only [HandleTable.call]
      split
      · rfl
      · rename_i nativeBits next result
        simp only [HandleTable.remove] at result
        repeat' split at result
        all_goals cases result
        all_goals rfl

theorem run_capacity (requests : List TableCall) : ∀ table : HandleTable,
    (table.run requests).2.capacity = table.capacity := by
  induction requests with
  | nil => intro table; rfl
  | cons first rest ih =>
      intro table
      exact (ih _).trans (call_capacity table first)

theorem Holds.run (requests : List TableCall) : ∀ {table : HandleTable} {map : HandleMap},
    Holds table map →
      (table.run requests).1 = (HandleMap.run table.capacity map requests).1 ∧
        Holds (table.run requests).2 (HandleMap.run table.capacity map requests).2 := by
  induction requests with
  | nil => intro table map holds; exact ⟨rfl, holds⟩
  | cons first rest ih =>
      intro table map holds
      obtain ⟨reply, kept⟩ := holds.call first
      obtain ⟨replies, last⟩ := ih kept
      rw [call_capacity] at replies last
      exact ⟨congrArg₂ List.cons reply replies, last⟩

theorem Holds.init {capacity : Nat} (power : ∃ exponent, capacity = 2 ^ exponent)
    (large : 8 ≤ capacity) : Holds ⟨fun _ => .zero, capacity, 0⟩ fun _ => none := by
  refine ⟨power, large, Chained.blank capacity _, ?_, ?_⟩
  · intro key value
    simp [slots, HandleEntry.zero, HandleEntry.slot]
  · simp [occupiedPositions, slots, HandleEntry.zero, HandleEntry.slot, Slot.key]

theorem init_ok {capacity : Nat} (power : ∃ exponent, capacity = 2 ^ exponent) (large : 8 ≤ capacity) :
    HandleTable.init capacity = .ok ⟨fun _ => .zero, capacity, 0⟩ := by
  have aligned : capacity &&& (capacity - 1) = 0 := by
    rw [and_pred_eq_mod power, Nat.mod_self]
  rw [HandleTable.init, if_neg]
  rintro (small | misaligned)
  · omega
  · exact misaligned aligned

/-- Every reply of every sequence of calls is the one the map gives, and the
count is the size of the map, which never passes the capacity. -/
theorem handleTable_refines_map (exponent capacity : Nat) (power : capacity = 2 ^ exponent)
    (large : 8 ≤ capacity) (calls : List TableCall) :
    ∃ table, HandleTable.init capacity = .ok table ∧
      (table.run calls).1 = (HandleMap.run capacity (fun _ => none) calls).1 ∧
      Represents (table.run calls).2.slots capacity (HandleMap.run capacity (fun _ => none) calls).2 ∧
      (table.run calls).2.count = (support (HandleMap.run capacity (fun _ => none) calls).2).ncard ∧
      (support (HandleMap.run capacity (fun _ => none) calls).2).ncard ≤ capacity := by
  have start := Holds.init ⟨exponent, power⟩ large
  obtain ⟨replies, holds⟩ := Holds.run calls start
  have kept : ((⟨fun _ => .zero, capacity, 0⟩ : HandleTable).run calls).2.capacity = capacity :=
    run_capacity calls _
  refine ⟨_, init_ok ⟨exponent, power⟩ large, replies, ?_, holds.count_eq, ?_⟩
  · have represents := holds.represents
    rwa [kept] at represents
  · have bound := holds.count_le
    rw [holds.count_eq, kept] at bound
    exact bound

theorem handleTable_refines_map_eight : (8 : Nat) = 2 ^ 3 ∧ (8 : Nat) ≤ 8 ∧
    ∃ table, HandleTable.init 8 = .ok table ∧
      (table.run [.insert 0x1300000000000001 0 5, .lookup 0x1300000000000001 .buffer]).1 =
        (HandleMap.run 8 (fun _ => none)
          [.insert 0x1300000000000001 0 5, .lookup 0x1300000000000001 .buffer]).1 := by
  refine ⟨rfl, Nat.le_refl 8, ?_⟩
  obtain ⟨table, started, replies, _⟩ := handleTable_refines_map 3 8 rfl (Nat.le_refl 8)
    [.insert 0x1300000000000001 0 5, .lookup 0x1300000000000001 .buffer]
  exact ⟨table, started, replies⟩

/-- A well-formed id that is absent from a table with room is still refused
when its native bits are zero. -/
theorem insert_zero_native_refused :
    handleIsWellFormed 0x1300000000000001 = true ∧
      ∃ table, HandleTable.init 8 = .ok table ∧ table.count = 0 ∧
        (table.call (.lookup 0x1300000000000001 .buffer)).1 = .error .enoent ∧
        (table.call (.insert 0x1300000000000001 0 0)).1 = .error .einval := by
  refine ⟨by decide, _, init_ok ⟨3, rfl⟩ (Nat.le_refl 8), rfl, by decide, by decide⟩

end HandleTable

end VulkanBridge
