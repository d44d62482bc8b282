import VulkanBridge.MemoryMirror
import VulkanBridge.TrackedArithmetic

/-!
The ranges of mapped device memory the service works on: the window a mapping
shows of its allocation, the ranges it flushes, invalidates and verifies, and the
atom-aligned range it hands to the driver.
-/

namespace VulkanBridge

open ByteBuffer

def vkErrorMemoryMapFailed : VulkanResult := -5
def vkWholeSize : UInt64 := 0xffffffffffffffff

structure MemoryMetadata where
  memoryId : UInt64
  allocationSize : UInt64
  hostVisible : Bool
  hostCoherent : Bool

/-- One of the mirror slots. A free slot has the memory id zero. -/
structure MemoryMapping where
  deviceId : UInt64
  memoryId : UInt64
  generation : UInt64
  offset : UInt64
  length : UInt64
  allocationSize : UInt64
  nonCoherentAtomSize : UInt64
  hostCoherent : Bool
  hasNative : Bool
  direct : Bool
  within : offset.toNat + length.toNat ≤ allocationSize.toNat

/-- What the driver answers. A missing entry point is `none`. -/
structure MappingDriver where
  mapMemory : Option VulkanResult
  mappedIsNull : Bool
  hasUnmapMemory : Bool
  flushMappedMemoryRanges : Option (UInt64 → UInt64 → VulkanResult)
  invalidateMappedMemoryRanges : Option (UInt64 → UInt64 → VulkanResult)

structure MappedContext where
  memoryMetadata : List MemoryMetadata
  memoryMirrors : List MemoryMapping
  resolveDeviceChild : UInt64 → Except Errno Unit

structure MemoryMirrorRequest where
  deviceId : UInt64
  memoryId : UInt64
  generation : UInt64
  offset : UInt64
  size : UInt64

structure MemoryVerifyFillRequest where
  memoryId : UInt64
  offset : UInt64
  size : UInt64
  expectedWord : UInt32

/-- `offset` and `size` of a `VkMappedMemoryRange`. -/
structure NativeRange where
  offset : UInt64
  size : UInt64
  deriving DecidableEq

/-- The copies of a range: `native` in the allocation, `mirror` in the mirror and
in the baseline. -/
structure RangeCopies where
  native : UInt64
  mirror : UInt64
  size : UInt64
  deriving DecidableEq

structure RangeReply where
  vulkanResult : VulkanResult
  copies : Option RangeCopies
  maintained : Option NativeRange
  deriving DecidableEq

structure VerifyReply where
  vulkanResult : VulkanResult
  mismatchedWords : UInt32
  read : Option NativeRange
  deriving DecidableEq

def memoryMetadataSlot (slots : List MemoryMetadata) (memoryId : UInt64) : Option MemoryMetadata :=
  (slots.find? fun metadata => metadata.memoryId == memoryId).or
    (slots.find? fun metadata => metadata.memoryId == 0)

def memoryMirrorSlot (slots : List MemoryMapping) (memoryId : UInt64) : Option MemoryMapping :=
  (slots.find? fun mapping => mapping.memoryId == memoryId && memoryId != 0).or
    (slots.find? fun mapping => mapping.memoryId == 0)

def resolveMemoryMirror (slots : List MemoryMapping) (deviceId memoryId generation : UInt64) :
    Option MemoryMapping :=
  (memoryMirrorSlot slots memoryId).filter fun mapping =>
    mapping.memoryId == memoryId && mapping.deviceId == deviceId && mapping.generation == generation

def mirrorRequestIsEncodable (request : MemoryMirrorRequest) : Bool :=
  handleExpect request.deviceId .device && handleExpect request.memoryId .deviceMemory &&
    request.generation != 0 && request.size != 0 &&
    decide (request.size.toNat ≤ maxMemoryAllocationSize) &&
    decide (request.offset.toNat ≤ 2 ^ 64 - 1 - request.size.toNat)

def setupMapping (request : MemoryMirrorRequest) (metadata : MemoryMetadata) (atomSize : UInt64)
    (direct : Bool) : Except Errno MemoryMapping :=
  if mirrorRequestIsEncodable request = false then .error .einval
  else if inside : metadata.allocationSize < request.offset ∨
      metadata.allocationSize - request.offset < request.size then .error .erange
  else .ok {
    deviceId := request.deviceId
    memoryId := request.memoryId
    generation := request.generation
    offset := request.offset
    length := request.size
    allocationSize := metadata.allocationSize
    nonCoherentAtomSize := atomSize
    hostCoherent := metadata.hostCoherent
    hasNative := true
    direct := direct
    within := by
      have ordered : request.offset.toNat ≤ metadata.allocationSize.toNat := by
        have first : ¬ metadata.allocationSize < request.offset := fun less => inside (Or.inl less)
        rw [UInt64.lt_iff_toNat_lt] at first
        omega
      have second : ¬ metadata.allocationSize - request.offset < request.size :=
        fun less => inside (Or.inr less)
      rw [UInt64.lt_iff_toNat_lt,
        UInt64.toNat_sub_of_le _ _ (UInt64.le_iff_toNat_le.mpr ordered)] at second
      omega }

/-- `aligned_end`, from the end of the requested bytes. -/
def alignedEnd (atom requestedEnd allocationSize : UInt64) : Tracked UInt64 :=
  if requestedEnd % atom ≠ 0 ∧ requestedEnd ≠ allocationSize then do
    let padding ← Tracked.sub atom (requestedEnd % atom)
    let left ← Tracked.sub allocationSize requestedEnd
    if left < padding then pure allocationSize else Tracked.add requestedEnd padding
  else pure requestedEnd

/-- The range for the driver, `none` where the code answers
`VK_ERROR_MEMORY_MAP_FAILED`. -/
def nativeMemoryRange (mapping : MemoryMapping) (offset size : UInt64) : Tracked (Option NativeRange) := do
  let atom := mapping.nonCoherentAtomSize
  if atom = 0 ∨ size = 0 ∨ mapping.allocationSize < offset then return none
  let room ← Tracked.sub mapping.allocationSize offset
  if room < size then return none
  let alignedOffset ← Tracked.sub offset (offset % atom)
  let requestedEnd ← Tracked.add offset size
  let last ← alignedEnd atom requestedEnd mapping.allocationSize
  let length ← Tracked.sub last alignedOffset
  return some { offset := alignedOffset, size := length }

def maintainNativeMemoryRange (driver : MappingDriver) (mapping : MemoryMapping) (offset size : UInt64)
    (invalidate : Bool) : Tracked (VulkanResult × Option NativeRange) := do
  match ← nativeMemoryRange mapping offset size with
  | none => return (vkErrorMemoryMapFailed, none)
  | some range =>
      match (if invalidate then driver.invalidateMappedMemoryRanges else driver.flushMappedMemoryRanges) with
      | none => return (vkErrorFeatureNotPresent, none)
      | some maintain => return (maintain range.offset range.size, some range)

def memoryMirrorRangeOperation (driver : MappingDriver) (context : MappedContext)
    (request : MemoryMirrorRequest) (invalidate : Bool) : Tracked (Except Errno RangeReply) := do
  if mirrorRequestIsEncodable request = false then return .error .einval
  match resolveMemoryMirror context.memoryMirrors request.deviceId request.memoryId request.generation with
  | none => return .error .estale
  | some mapping =>
      if mapping.direct then return .error .eproto
      if request.offset < mapping.offset then return .error .erange
      let windowEnd ← Tracked.add mapping.offset mapping.length
      if windowEnd < request.offset then return .error .erange
      let room ← Tracked.sub windowEnd request.offset
      if room < request.size then return .error .erange
      let mirrorOffset ← Tracked.sub request.offset mapping.offset
      let copies : RangeCopies := { native := request.offset, mirror := mirrorOffset, size := request.size }
      if mapping.hostCoherent then
        return .ok { vulkanResult := vkSuccess, copies := some copies, maintained := none }
      let (result, range) ← maintainNativeMemoryRange driver mapping request.offset request.size invalidate
      -- An invalidation comes before the copies and may stop them, a flush comes after them.
      if invalidate ∧ result ≠ vkSuccess then
        return .ok { vulkanResult := result, copies := none, maintained := range }
      return .ok { vulkanResult := result, copies := some copies, maintained := range }

def countMismatches (native : Buffer) (offset : Nat) (expectedWord : UInt32) : Nat → UInt32
  | 0 => 0
  | word + 1 =>
      let before := countMismatches native offset expectedWord word
      if getU32 native (offset + 4 * word) ≠ expectedWord then before + 1 else before

/-- The direct mapping of an allocation that `verify_memory_fill` comes to first. -/
def directMapping (context : MappedContext) (memoryId : UInt64) : Option MemoryMapping :=
  context.memoryMirrors.find? fun mapping =>
    mapping.memoryId == memoryId && mapping.direct && mapping.hasNative

def verifyMapped (native : Buffer) (request : MemoryVerifyFillRequest) : VerifyReply where
  vulkanResult := vkSuccess
  mismatchedWords :=
    countMismatches native request.offset.toNat request.expectedWord (request.size.toNat / 4)
  read := some { offset := request.offset, size := request.size }

/-- The branch of `verify_memory_fill` for memory that is mapped already. -/
def verifyDirect (mapping : MemoryMapping) (native : Buffer) (request : MemoryVerifyFillRequest) :
    Tracked (Except Errno VerifyReply) := do
  if request.offset < mapping.offset then return .error .erange
  let into ← Tracked.sub request.offset mapping.offset
  let room ← Tracked.sub mapping.length into
  if room < request.size then return .error .erange
  return .ok (verifyMapped native request)

def invalidateWholeMemory (driver : MappingDriver) (metadata : MemoryMetadata) : VulkanResult :=
  if metadata.hostCoherent then vkSuccess
  else match driver.invalidateMappedMemoryRanges with
    | none => vkErrorFeatureNotPresent
    | some invalidate => invalidate 0 vkWholeSize

def verifyThroughMap (driver : MappingDriver) (metadata : MemoryMetadata) (native : Buffer)
    (request : MemoryVerifyFillRequest) : Except Errno VerifyReply :=
  match driver.mapMemory with
  | none => .error .enosys
  | some mapped =>
      if driver.hasUnmapMemory = false then .error .enosys
      else if mapped ≠ vkSuccess ∨ driver.mappedIsNull = true then
        .ok { vulkanResult := mapped, mismatchedWords := 0, read := none }
      else if invalidateWholeMemory driver metadata ≠ vkSuccess then
        .ok { vulkanResult := invalidateWholeMemory driver metadata, mismatchedWords := 0, read := none }
      else .ok (verifyMapped native request)

def verifyMemoryFill (driver : MappingDriver) (context : MappedContext) (native : Buffer)
    (request : MemoryVerifyFillRequest) : Tracked (Except Errno VerifyReply) := do
  if request.size = 0 ∨ request.size &&& 3 ≠ 0 then return .error .einval
  match memoryMetadataSlot context.memoryMetadata request.memoryId with
  | none => return .error .erange
  | some metadata =>
      if metadata.memoryId ≠ request.memoryId ∨ metadata.allocationSize < request.offset then
        return .error .erange
      let left ← Tracked.sub metadata.allocationSize request.offset
      if left < request.size ∨ metadata.hostVisible = false then return .error .erange
      match context.resolveDeviceChild request.memoryId with
      | .error errno => return .error errno
      | .ok _ =>
          match directMapping context request.memoryId with
          | some mapping => verifyDirect mapping native request
          | none => return verifyThroughMap driver metadata native request

/-- `count` bytes from `first` on lie among the `length` bytes from `offset` on. -/
def Inside (first count offset length : UInt64) : Prop :=
  offset.toNat ≤ first.toNat ∧ first.toNat + count.toNat ≤ offset.toNat + length.toNat

/-- A range for the driver fits the bytes it was asked for. -/
structure NativeRange.Fits (range : NativeRange) (mapping : MemoryMapping) (offset size : UInt64) : Prop where
  covers : Inside offset size range.offset range.size
  inside : range.offset.toNat + range.size.toNat ≤ mapping.allocationSize.toNat
  starts : range.offset.toNat % mapping.nonCoherentAtomSize.toNat = 0
  ends : (range.offset.toNat + range.size.toNat) % mapping.nonCoherentAtomSize.toNat = 0 ∨
    range.offset.toNat + range.size.toNat = mapping.allocationSize.toNat

theorem toNat_pos_of_ne_zero {value : UInt64} (nonzero : value ≠ 0) : 0 < value.toNat := by
  by_contra zero
  exact nonzero (UInt64.toNat_inj.mp (by simp; omega))

/-- The end of the driver's range: the next multiple of the atom, or the end of
the allocation where that comes first. -/
theorem alignedEnd_spec {atom : UInt64} (requestedEnd allocation : UInt64) (positive : 0 < atom.toNat)
    (reached : requestedEnd.toNat ≤ allocation.toNat) :
    let last := alignedEnd atom requestedEnd allocation
    last.exact = true ∧ requestedEnd.toNat ≤ last.value.toNat ∧
      last.value.toNat ≤ allocation.toNat ∧
      (last.value.toNat % atom.toNat = 0 ∨ last.value.toNat = allocation.toNat) := by
  intro last
  have remainder : (requestedEnd % atom).toNat = requestedEnd.toNat % atom.toNat := UInt64.toNat_mod _ _
  have small : (requestedEnd % atom).toNat < atom.toNat := by
    rw [remainder]
    exact Nat.mod_lt _ positive
  have bound := allocation.toNat_lt
  by_cases padded : requestedEnd % atom ≠ 0 ∧ requestedEnd ≠ allocation
  · have padding := Tracked.sub_toNat (Nat.le_of_lt small)
    have left := Tracked.sub_toNat reached
    have exactPadding : requestedEnd % atom ≤ atom := UInt64.le_iff_toNat_le.mpr (Nat.le_of_lt small)
    have exactLeft : requestedEnd ≤ allocation := UInt64.le_iff_toNat_le.mpr reached
    by_cases short : (Tracked.sub allocation requestedEnd).value <
        (Tracked.sub atom (requestedEnd % atom)).value
    · simp only [last, alignedEnd, if_pos padded, Tracked.bind_value, Tracked.bind_exact, Tracked.sub_exact, short,
        if_true, Tracked.pure_value, Tracked.pure_exact, exactPadding, exactLeft, decide_true,
        Bool.and_self, true_and]
      exact ⟨reached, Nat.le_refl _, Or.inr trivial⟩
    · have enough : (Tracked.sub atom (requestedEnd % atom)).value.toNat ≤
          (Tracked.sub allocation requestedEnd).value.toNat := by
        rw [UInt64.lt_iff_toNat_lt] at short
        omega
      have fits : requestedEnd.toNat + (Tracked.sub atom (requestedEnd % atom)).value.toNat < 2 ^ 64 := by
        omega
      have sum := Tracked.add_toNat fits
      simp only [last, alignedEnd, if_pos padded, Tracked.bind_value, Tracked.bind_exact, Tracked.sub_exact, short,
        if_false, Tracked.add_exact, exactPadding, exactLeft, fits, decide_true, Bool.and_self, true_and]
      refine ⟨by omega, by omega, Or.inl ?_⟩
      have whole : requestedEnd.toNat + (atom.toNat - requestedEnd.toNat % atom.toNat) =
          atom.toNat * (requestedEnd.toNat / atom.toNat + 1) := by
        have division := Nat.div_add_mod requestedEnd.toNat atom.toNat
        rw [Nat.mul_add]
        omega
      rw [sum, padding, remainder, whole]
      exact Nat.mul_mod_right _ _
  · simp only [last, alignedEnd, if_neg padded, Tracked.pure_value, Tracked.pure_exact, true_and]
    refine ⟨Nat.le_refl _, reached, ?_⟩
    by_cases ended : requestedEnd = allocation
    · exact Or.inr (congrArg UInt64.toNat ended)
    · have aligned : requestedEnd % atom = 0 := by
        by_contra rest
        exact padded ⟨rest, ended⟩
      left
      rw [← remainder, aligned]
      rfl

theorem nativeMemoryRange_fits {mapping : MemoryMapping} {offset size : UInt64} {range : NativeRange}
    (found : (nativeMemoryRange mapping offset size).value = some range) :
    range.Fits mapping offset size ∧ (nativeMemoryRange mapping offset size).exact = true := by
  unfold nativeMemoryRange at found ⊢
  by_cases refused : mapping.nonCoherentAtomSize = 0 ∨ size = 0 ∨ mapping.allocationSize < offset
  · simp only [if_pos refused, Tracked.pure_value] at found
    contradiction
  · obtain ⟨atomNonzero, sizeNonzero, ordered⟩ :
        mapping.nonCoherentAtomSize ≠ 0 ∧ size ≠ 0 ∧ ¬ mapping.allocationSize < offset := by
      simpa only [not_or] using refused
    have positive := toNat_pos_of_ne_zero atomNonzero
    have below : offset.toNat ≤ mapping.allocationSize.toNat := by
      rw [UInt64.lt_iff_toNat_lt] at ordered
      omega
    have room := Tracked.sub_toNat below
    by_cases large : (Tracked.sub mapping.allocationSize offset).value < size
    · simp only [if_neg refused, Tracked.bind_value, if_pos large, Tracked.pure_value] at found
      contradiction
    · have enough : size.toNat ≤ mapping.allocationSize.toNat - offset.toNat := by
        rw [UInt64.lt_iff_toNat_lt] at large
        omega
      have bound := mapping.allocationSize.toNat_lt
      have fits : offset.toNat + size.toNat < 2 ^ 64 := by omega
      have requestedEnd := Tracked.add_toNat fits
      have remainder : (offset % mapping.nonCoherentAtomSize).toNat =
          offset.toNat % mapping.nonCoherentAtomSize.toNat := UInt64.toNat_mod _ _
      have under : (offset % mapping.nonCoherentAtomSize).toNat ≤ offset.toNat := by
        rw [remainder]
        exact Nat.mod_le _ _
      have alignedOffset := Tracked.sub_toNat under
      obtain ⟨exactEnd, requestedLe, alignedLe, aligned⟩ :=
        alignedEnd_spec (Tracked.add offset size).value mapping.allocationSize positive (by omega)
      have starts : (offset.toNat - offset.toNat % mapping.nonCoherentAtomSize.toNat) %
          mapping.nonCoherentAtomSize.toNat = 0 := by
        rw [← Nat.div_mul_self_eq_mod_sub_self]
        exact Nat.mul_mod_left _ _
      have spanned : (Tracked.sub offset (offset % mapping.nonCoherentAtomSize)).value.toNat ≤
          (alignedEnd mapping.nonCoherentAtomSize (Tracked.add offset size).value
            mapping.allocationSize).value.toNat := by omega
      have length := Tracked.sub_toNat spanned
      simp only [if_neg refused, Tracked.bind_value, if_neg large, Tracked.pure_value,
        Option.some.injEq] at found
      rw [← found]
      constructor
      · refine ⟨⟨?_, ?_⟩, ?_, ?_, ?_⟩
        · show (Tracked.sub offset (offset % mapping.nonCoherentAtomSize)).value.toNat ≤ offset.toNat
          omega
        · show offset.toNat + size.toNat ≤
            (Tracked.sub offset (offset % mapping.nonCoherentAtomSize)).value.toNat + _
          rw [length]
          omega
        · show (Tracked.sub offset (offset % mapping.nonCoherentAtomSize)).value.toNat + _ ≤ _
          rw [length]
          omega
        · show (Tracked.sub offset (offset % mapping.nonCoherentAtomSize)).value.toNat % _ = 0
          rw [alignedOffset, remainder]
          exact starts
        · have ended : (Tracked.sub offset (offset % mapping.nonCoherentAtomSize)).value.toNat +
              (Tracked.sub (alignedEnd mapping.nonCoherentAtomSize (Tracked.add offset size).value
                mapping.allocationSize).value
                (Tracked.sub offset (offset % mapping.nonCoherentAtomSize)).value).value.toNat =
              (alignedEnd mapping.nonCoherentAtomSize (Tracked.add offset size).value
                mapping.allocationSize).value.toNat := by
            rw [length]
            omega
          simp only [ended]
          exact aligned
      · have orderedRoom : offset ≤ mapping.allocationSize := UInt64.le_iff_toNat_le.mpr below
        have orderedStart : offset % mapping.nonCoherentAtomSize ≤ offset := UInt64.le_iff_toNat_le.mpr under
        have orderedSpan := UInt64.le_iff_toNat_le.mpr spanned
        simp only [if_neg refused, Tracked.bind_exact, Tracked.sub_exact, if_neg large, Tracked.add_exact,
          exactEnd, Tracked.pure_exact, orderedRoom, orderedStart, orderedSpan, fits, decide_true,
          Bool.and_self]

/-- What a flush or an invalidation of `request` touches lies in the window. -/
structure RangeReply.Within (reply : RangeReply) (mapping : MemoryMapping) (request : MemoryMirrorRequest) :
    Prop where
  native : ∀ copies, reply.copies = some copies →
    Inside copies.native copies.size mapping.offset mapping.length
  mirror : ∀ copies, reply.copies = some copies →
    copies.mirror.toNat + copies.size.toNat ≤ mapping.length.toNat
  maintained : ∀ range, reply.maintained = some range → range.Fits mapping request.offset request.size

theorem nativeMemoryRange_exact (mapping : MemoryMapping) (offset size : UInt64) :
    (nativeMemoryRange mapping offset size).exact = true := by
  cases computed : (nativeMemoryRange mapping offset size).value with
  | some range => exact (nativeMemoryRange_fits computed).2
  | none =>
      unfold nativeMemoryRange at computed ⊢
      by_cases refused : mapping.nonCoherentAtomSize = 0 ∨ size = 0 ∨ mapping.allocationSize < offset
      · simp only [if_pos refused, Tracked.pure_exact]
      · have below : offset ≤ mapping.allocationSize := by
          rw [UInt64.le_iff_toNat_le]
          by_contra above
          exact refused (Or.inr (Or.inr (UInt64.lt_iff_toNat_lt.mpr (by omega))))
        by_cases large : (Tracked.sub mapping.allocationSize offset).value < size
        · simp only [if_neg refused, Tracked.bind_exact, Tracked.sub_exact, if_pos large,
            Tracked.pure_exact, below, decide_true, Bool.and_self]
        · simp only [if_neg refused, Tracked.bind_value, if_neg large, Tracked.pure_value] at computed
          contradiction

theorem maintainNativeMemoryRange_fits {driver : MappingDriver} {mapping : MemoryMapping}
    {offset size : UInt64} {invalidate : Bool} {range : NativeRange}
    (handed : (maintainNativeMemoryRange driver mapping offset size invalidate).value.2 = some range) :
    range.Fits mapping offset size := by
  simp only [maintainNativeMemoryRange, Tracked.bind_value] at handed
  cases computed : (nativeMemoryRange mapping offset size).value with
  | none =>
      rw [computed] at handed
      contradiction
  | some found =>
      rw [computed] at handed
      dsimp only at handed
      split at handed
      · contradiction
      · simp only [Tracked.pure_value, Option.some.injEq] at handed
        rw [← handed]
        exact (nativeMemoryRange_fits computed).1

theorem maintainNativeMemoryRange_exact (driver : MappingDriver) (mapping : MemoryMapping)
    (offset size : UInt64) (invalidate : Bool) :
    (maintainNativeMemoryRange driver mapping offset size invalidate).exact = true := by
  simp only [maintainNativeMemoryRange, Tracked.bind_exact, nativeMemoryRange_exact, Bool.true_and]
  split
  · rfl
  · split
    · rfl
    · rfl

theorem resolveMemoryMirror_mem {slots : List MemoryMapping} {deviceId memoryId generation : UInt64}
    {mapping : MemoryMapping}
    (found : resolveMemoryMirror slots deviceId memoryId generation = some mapping) : mapping ∈ slots := by
  obtain ⟨slot, _⟩ := Option.filter_eq_some_iff.mp found
  rcases Option.or_eq_some_iff.mp slot with first | ⟨_, second⟩
  · exact List.mem_of_find?_eq_some first
  · exact List.mem_of_find?_eq_some second

theorem memoryMirrorRangeOperation_within {driver : MappingDriver} {context : MappedContext}
    {request : MemoryMirrorRequest} {invalidate : Bool} {reply : RangeReply}
    (accepted : (memoryMirrorRangeOperation driver context request invalidate).value = .ok reply) :
    (memoryMirrorRangeOperation driver context request invalidate).exact = true ∧
      ∃ mapping ∈ context.memoryMirrors,
        resolveMemoryMirror context.memoryMirrors request.deviceId request.memoryId request.generation =
          some mapping ∧ reply.Within mapping request := by
  unfold memoryMirrorRangeOperation at accepted ⊢
  by_cases encodable : mirrorRequestIsEncodable request = false
  · rw [if_pos encodable] at accepted
    contradiction
  · rw [if_neg encodable] at accepted ⊢
    cases resolved : resolveMemoryMirror context.memoryMirrors request.deviceId request.memoryId
        request.generation with
    | none =>
        rw [resolved] at accepted
        contradiction
    | some mapping =>
        rw [resolved] at accepted
        dsimp only at accepted ⊢
        have bound := mapping.allocationSize.toNat_lt
        have within := mapping.within
        have fits : mapping.offset.toNat + mapping.length.toNat < 2 ^ 64 := by omega
        have windowEnd := Tracked.add_toNat fits
        by_cases isDirect : mapping.direct = true
        · rw [if_pos isDirect] at accepted
          contradiction
        · by_cases early : request.offset < mapping.offset
          · rw [if_neg isDirect, if_pos early] at accepted
            contradiction
          · by_cases late : (Tracked.add mapping.offset mapping.length).value < request.offset
            · rw [if_neg isDirect, if_neg early, Tracked.bind_value, if_pos late] at accepted
              contradiction
            · rw [if_neg isDirect, if_neg early] at accepted ⊢
              simp only [Tracked.bind_value, Tracked.bind_exact, if_neg late] at accepted ⊢
              have reached : mapping.offset.toNat ≤ request.offset.toNat := by
                rw [UInt64.lt_iff_toNat_lt] at early
                omega
              have before : request.offset.toNat ≤
                  (Tracked.add mapping.offset mapping.length).value.toNat := by
                rw [UInt64.lt_iff_toNat_lt] at late
                omega
              have room := Tracked.sub_toNat before
              have mirrorOffset := Tracked.sub_toNat reached
              have orderedRoom := UInt64.le_iff_toNat_le.mpr before
              have orderedMirror := UInt64.le_iff_toNat_le.mpr reached
              by_cases large : (Tracked.sub (Tracked.add mapping.offset mapping.length).value
                  request.offset).value < request.size
              · simp only [if_pos large, Tracked.pure_value] at accepted
                contradiction
              · have enough : request.offset.toNat + request.size.toNat ≤
                    mapping.offset.toNat + mapping.length.toNat := by
                  rw [UInt64.lt_iff_toNat_lt] at large
                  omega
                have native : Inside request.offset request.size mapping.offset mapping.length :=
                  ⟨reached, enough⟩
                have mirror : (Tracked.sub request.offset mapping.offset).value.toNat +
                    request.size.toNat ≤ mapping.length.toNat := by omega
                simp only [if_neg large, Tracked.bind_value, Tracked.bind_exact] at accepted ⊢
                refine ⟨?_, mapping, resolveMemoryMirror_mem resolved, rfl, ?_⟩
                · simp only [Tracked.add_exact, Tracked.sub_exact, fits, orderedRoom, orderedMirror,
                    decide_true, Bool.true_and]
                  split
                  · rfl
                  · rw [Tracked.bind_exact, maintainNativeMemoryRange_exact, Bool.true_and]
                    split
                    · rfl
                    · rfl
                · split at accepted
                  · cases accepted
                    refine ⟨?_, ?_, fun range missing => by contradiction⟩
                    · intro copies same
                      cases same
                      exact native
                    · intro copies same
                      cases same
                      exact mirror
                  · simp only [Tracked.bind_value] at accepted
                    split at accepted
                    · cases accepted
                      refine ⟨fun copies missing => by contradiction, fun copies missing => by contradiction,
                        fun range handed => maintainNativeMemoryRange_fits handed⟩
                    · cases accepted
                      refine ⟨?_, ?_, fun range handed => maintainNativeMemoryRange_fits handed⟩
                      · intro copies same
                        cases same
                        exact native
                      · intro copies same
                        cases same
                        exact mirror

/-- The checks of `verify_memory_fill` that come before the mappings are looked at. -/
structure VerifyAdmitted (context : MappedContext) (request : MemoryVerifyFillRequest)
    (metadata : MemoryMetadata) : Prop where
  words : request.size ≠ 0 ∧ request.size &&& 3 = 0
  found : memoryMetadataSlot context.memoryMetadata request.memoryId = some metadata
  named : metadata.memoryId = request.memoryId
  allocated : request.offset.toNat + request.size.toNat ≤ metadata.allocationSize.toNat
  visible : metadata.hostVisible = true
  live : ∃ done, context.resolveDeviceChild request.memoryId = .ok done

/-- The window a verification reads through: the one of a direct mapping, else the
whole allocation. -/
def VerifyReply.Within (reply : VerifyReply) (context : MappedContext) (request : MemoryVerifyFillRequest) :
    Prop :=
  ∀ span, reply.read = some span →
    match directMapping context request.memoryId with
    | some mapping => Inside span.offset span.size mapping.offset mapping.length
    | none => ∃ metadata, memoryMetadataSlot context.memoryMetadata request.memoryId = some metadata ∧
        span.offset.toNat + span.size.toNat ≤ metadata.allocationSize.toNat

/-- A verification that starts behind the end of a direct mapping's window. -/
def StartsPastWindow (context : MappedContext) (request : MemoryVerifyFillRequest) : Prop :=
  (∃ metadata, VerifyAdmitted context request metadata) ∧
    ∃ mapping, directMapping context request.memoryId = some mapping ∧
      mapping.offset.toNat + mapping.length.toNat < request.offset.toNat

theorem verifyMemoryFill_eq (driver : MappingDriver) (native : Buffer) {context : MappedContext}
    {request : MemoryVerifyFillRequest} {metadata : MemoryMetadata}
    (admitted : VerifyAdmitted context request metadata) :
    (verifyMemoryFill driver context native request).value =
        (match directMapping context request.memoryId with
          | some mapping => (verifyDirect mapping native request).value
          | none => verifyThroughMap driver metadata native request) ∧
      (verifyMemoryFill driver context native request).exact =
        (match directMapping context request.memoryId with
          | some mapping => (verifyDirect mapping native request).exact
          | none => true) := by
  obtain ⟨⟨nonzero, words⟩, found, named, allocated, visible, done, live⟩ := admitted
  have below : request.offset.toNat ≤ metadata.allocationSize.toNat := by omega
  have ordered : ¬ metadata.allocationSize < request.offset := by
    rw [UInt64.lt_iff_toNat_lt]
    omega
  have left := Tracked.sub_toNat below
  have enough : ¬ (Tracked.sub metadata.allocationSize request.offset).value < request.size := by
    rw [UInt64.lt_iff_toNat_lt]
    omega
  have exactLeft := UInt64.le_iff_toNat_le.mpr below
  have wordsKept : ¬ (request.size = 0 ∨ request.size &&& 3 ≠ 0) := by simp [nonzero, words]
  have namedKept : ¬ (metadata.memoryId ≠ request.memoryId ∨ metadata.allocationSize < request.offset) := by
    simp [named, ordered]
  have leftKept : ¬ ((Tracked.sub metadata.allocationSize request.offset).value < request.size ∨
      metadata.hostVisible = false) := by simp [enough, visible]
  unfold verifyMemoryFill
  rw [if_neg wordsKept, found]
  dsimp only
  rw [if_neg namedKept]
  simp only [Tracked.bind_value, Tracked.bind_exact, Tracked.sub_exact, exactLeft, if_neg leftKept, live,
    decide_true, Bool.true_and]
  cases directMapping context request.memoryId with
  | none => exact ⟨rfl, rfl⟩
  | some mapping => exact ⟨rfl, rfl⟩

theorem verifyMemoryFill_admitted {driver : MappingDriver} {context : MappedContext} {native : Buffer}
    {request : MemoryVerifyFillRequest} {reply : VerifyReply}
    (accepted : (verifyMemoryFill driver context native request).value = .ok reply) :
    ∃ metadata, VerifyAdmitted context request metadata := by
  unfold verifyMemoryFill at accepted
  by_cases wordsRefused : request.size = 0 ∨ request.size &&& 3 ≠ 0
  · rw [if_pos wordsRefused] at accepted
    contradiction
  · rw [if_neg wordsRefused] at accepted
    cases found : memoryMetadataSlot context.memoryMetadata request.memoryId with
    | none =>
        rw [found] at accepted
        contradiction
    | some metadata =>
        rw [found] at accepted
        dsimp only at accepted
        by_cases named : metadata.memoryId ≠ request.memoryId ∨ metadata.allocationSize < request.offset
        · rw [if_pos named] at accepted
          contradiction
        · rw [if_neg named, Tracked.bind_value] at accepted
          by_cases short : (Tracked.sub metadata.allocationSize request.offset).value < request.size ∨
              metadata.hostVisible = false
          · rw [if_pos short] at accepted
            contradiction
          · rw [if_neg short] at accepted
            rw [not_or] at wordsRefused named short
            have ordered : request.offset.toNat ≤ metadata.allocationSize.toNat := by
              have kept := named.2
              rw [UInt64.lt_iff_toNat_lt] at kept
              omega
            have left := Tracked.sub_toNat ordered
            have enough := short.1
            rw [UInt64.lt_iff_toNat_lt] at enough
            cases live : context.resolveDeviceChild request.memoryId with
            | error errno =>
                rw [live] at accepted
                contradiction
            | ok done =>
                exact ⟨metadata, ⟨wordsRefused.1, not_not.mp wordsRefused.2⟩, found,
                  not_not.mp named.1, by omega, by simpa using short.2, done, live⟩

theorem verifyDirect_within {mapping : MemoryMapping} {native : Buffer} {request : MemoryVerifyFillRequest}
    {reply : VerifyReply} (reached : request.offset.toNat ≤ mapping.offset.toNat + mapping.length.toNat)
    (accepted : (verifyDirect mapping native request).value = .ok reply) :
    (verifyDirect mapping native request).exact = true ∧ reply = verifyMapped native request ∧
      Inside request.offset request.size mapping.offset mapping.length := by
  unfold verifyDirect at accepted ⊢
  by_cases early : request.offset < mapping.offset
  · rw [if_pos early] at accepted
    contradiction
  · have ordered : mapping.offset.toNat ≤ request.offset.toNat := by
      rw [UInt64.lt_iff_toNat_lt] at early
      omega
    have into := Tracked.sub_toNat ordered
    have inWindow : (Tracked.sub request.offset mapping.offset).value.toNat ≤ mapping.length.toNat := by omega
    have room := Tracked.sub_toNat inWindow
    have exactInto := UInt64.le_iff_toNat_le.mpr ordered
    have exactRoom := UInt64.le_iff_toNat_le.mpr inWindow
    rw [if_neg early] at accepted ⊢
    simp only [Tracked.bind_value, Tracked.bind_exact, Tracked.sub_exact, exactInto, exactRoom,
      decide_true, Bool.true_and] at accepted ⊢
    by_cases large : (Tracked.sub mapping.length (Tracked.sub request.offset mapping.offset).value).value <
        request.size
    · rw [if_pos large] at accepted
      contradiction
    · rw [if_neg large] at accepted ⊢
      have enough := large
      rw [UInt64.lt_iff_toNat_lt] at enough
      cases accepted
      exact ⟨rfl, rfl, ordered, by omega⟩

/-- Behind the window's end the room that is left wraps, and no size is too large
for it. -/
theorem verifyDirect_past {mapping : MemoryMapping} {native : Buffer} {request : MemoryVerifyFillRequest}
    (past : mapping.offset.toNat + mapping.length.toNat < request.offset.toNat)
    (bounded : request.offset.toNat + request.size.toNat < 2 ^ 64) :
    (verifyDirect mapping native request).value = .ok (verifyMapped native request) := by
  have ordered : mapping.offset.toNat ≤ request.offset.toNat := by omega
  have into := Tracked.sub_toNat ordered
  have outside : mapping.length.toNat < (Tracked.sub request.offset mapping.offset).value.toNat := by omega
  have wrapped := Tracked.sub_toNat_of_lt outside
  have early : ¬ request.offset < mapping.offset := by
    rw [UInt64.lt_iff_toNat_lt]
    omega
  have large : ¬ (Tracked.sub mapping.length (Tracked.sub request.offset mapping.offset).value).value <
      request.size := by
    rw [UInt64.lt_iff_toNat_lt]
    omega
  unfold verifyDirect
  rw [if_neg early]
  simp only [Tracked.bind_value, if_neg large, Tracked.pure_value]

theorem verifyThroughMap_read {driver : MappingDriver} {metadata : MemoryMetadata} {native : Buffer}
    {request : MemoryVerifyFillRequest} {reply : VerifyReply} {span : NativeRange}
    (accepted : verifyThroughMap driver metadata native request = .ok reply)
    (read : reply.read = some span) : span.offset = request.offset ∧ span.size = request.size := by
  unfold verifyThroughMap at accepted
  split at accepted
  · contradiction
  · split at accepted
    · contradiction
    · split at accepted
      · cases accepted
        contradiction
      · split at accepted
        · cases accepted
          contradiction
        · cases accepted
          cases read
          exact ⟨rfl, rfl⟩

theorem verifyMemoryFill_within_iff (driver : MappingDriver) (context : MappedContext) (native : Buffer)
    (request : MemoryVerifyFillRequest) :
    (∀ reply, (verifyMemoryFill driver context native request).value = .ok reply →
        (verifyMemoryFill driver context native request).exact = true ∧ reply.Within context request) ↔
      ¬ StartsPastWindow context request := by
  constructor
  · rintro inside ⟨⟨metadata, admitted⟩, mapping, found, past⟩
    obtain ⟨value, _⟩ := verifyMemoryFill_eq driver native admitted
    have bound := metadata.allocationSize.toNat_lt
    have allocated := admitted.allocated
    simp only [found, verifyDirect_past past (by omega)] at value
    obtain ⟨_, within⟩ := inside _ value
    have window := within _ rfl
    simp only [found] at window
    have last := window.2
    have positive := toNat_pos_of_ne_zero admitted.words.1
    omega
  · intro kept reply accepted
    obtain ⟨metadata, admitted⟩ := verifyMemoryFill_admitted accepted
    obtain ⟨value, exact⟩ := verifyMemoryFill_eq driver native admitted
    rw [accepted] at value
    rw [exact]
    cases found : directMapping context request.memoryId with
    | none =>
        simp only [found] at value
        refine ⟨rfl, fun span read => ?_⟩
        obtain ⟨first, size⟩ := verifyThroughMap_read value.symm read
        simp only [found]
        refine ⟨metadata, admitted.found, ?_⟩
        rw [first, size]
        exact admitted.allocated
    | some mapping =>
        simp only [found] at value ⊢
        have reached : request.offset.toNat ≤ mapping.offset.toNat + mapping.length.toNat := by
          by_contra past
          exact kept ⟨⟨metadata, admitted⟩, mapping, found, by omega⟩
        obtain ⟨exactly, same, inside⟩ := verifyDirect_within reached value.symm
        refine ⟨exactly, fun span read => ?_⟩
        rw [same] at read
        cases read
        simp only [found]
        exact inside

/-- Every range that flush, invalidate and the driver's range work on is inside,
and one that is verified is unless it starts behind a direct mapping's window. -/
theorem memoryRanges_inside_iff (driver : MappingDriver) (context : MappedContext) (native : Buffer)
    (ranged : MemoryMirrorRequest) (mapping : MemoryMapping) (offset size : UInt64)
    (verified : MemoryVerifyFillRequest) :
    ((∀ range, (nativeMemoryRange mapping offset size).value = some range →
        (nativeMemoryRange mapping offset size).exact = true ∧ range.Fits mapping offset size) ∧
      (∀ invalidate reply,
        (memoryMirrorRangeOperation driver context ranged invalidate).value = .ok reply →
          (memoryMirrorRangeOperation driver context ranged invalidate).exact = true ∧
            ∃ window ∈ context.memoryMirrors, window.memoryId = ranged.memoryId ∧
              reply.Within window ranged) ∧
      (∀ reply, (verifyMemoryFill driver context native verified).value = .ok reply →
        (verifyMemoryFill driver context native verified).exact = true ∧
          reply.Within context verified)) ↔
    ¬ StartsPastWindow context verified := by
  rw [← verifyMemoryFill_within_iff driver context native verified]
  constructor
  · rintro ⟨_, _, inside⟩
    exact inside
  · intro inside
    refine ⟨?_, ?_, inside⟩
    · intro range found
      obtain ⟨fits, exact⟩ := nativeMemoryRange_fits found
      exact ⟨exact, fits⟩
    · intro invalidate reply accepted
      obtain ⟨exact, window, member, resolved, within⟩ := memoryMirrorRangeOperation_within accepted
      obtain ⟨_, named⟩ := Option.filter_eq_some_iff.mp resolved
      simp only [Bool.and_eq_true, beq_iff_eq] at named
      exact ⟨exact, window, member, named.1.1, within⟩

/-- Four bytes at 32 of an allocation of which a direct mapping shows the first
sixteen: the verification answers, and has read behind the window. -/
theorem verifyMemoryFill_reads_past_window :
    ∃ (driver : MappingDriver) (context : MappedContext) (mapping : MemoryMapping)
      (request : MemoryVerifyFillRequest) (reply : VerifyReply),
      directMapping context request.memoryId = some mapping ∧
        (verifyMemoryFill driver context zeroed request).value = .ok reply ∧
        reply.read = some { offset := 32, size := 4 } ∧ ¬ Inside 32 4 mapping.offset mapping.length ∧
        (verifyMemoryFill driver context zeroed request).exact = false := by
  refine ⟨{ mapMemory := some vkSuccess, mappedIsNull := false, hasUnmapMemory := true,
            flushMappedMemoryRanges := none, invalidateMappedMemoryRanges := none },
    { memoryMetadata := [{ memoryId := handleId .deviceMemory 1, allocationSize := 1024,
                           hostVisible := true, hostCoherent := true }],
      memoryMirrors := [{ deviceId := handleId .device 1, memoryId := handleId .deviceMemory 1,
                          generation := 1, offset := 0, length := 16, allocationSize := 1024,
                          nonCoherentAtomSize := 64, hostCoherent := true, hasNative := true,
                          direct := true, within := by decide }],
      resolveDeviceChild := fun _ => .ok () }, _,
    { memoryId := handleId .deviceMemory 1, offset := 32, size := 4, expectedWord := 0 }, _,
    rfl, rfl, rfl, ?_, by decide⟩
  rintro ⟨_, last⟩
  exact absurd last (by decide)

end VulkanBridge
