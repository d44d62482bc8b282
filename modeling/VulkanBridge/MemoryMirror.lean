import VulkanBridge.Bytes
import VulkanBridge.Handle

/-!
The service's side of a shared memory mirror: the window of an allocation that
the client writes, the native bytes behind it, and the private baseline that
tells which bytes the host has changed since the last transfer.
-/

namespace VulkanBridge

open ByteBuffer

def maxMemoryAllocationSize : Nat := 256 * 1024 * 1024
def compareBlockBytes : Nat := 4096
def compareSuperblockBytes : Nat := 65536

/-- The two granularities of the comparison, small enough that a cursor passes
a block without wrapping twice. -/
structure CompareSizes where
  superblock : Nat
  block : Nat
  superblock_pos : 0 < superblock
  block_pos : 0 < block
  superblock_lt : superblock < 2 ^ 64
  block_lt : block < 2 ^ 64

def CompareSizes.source : CompareSizes where
  superblock := compareSuperblockBytes
  block := compareBlockBytes
  superblock_pos := by decide
  block_pos := by decide
  superblock_lt := by decide
  block_lt := by decide

/-- A live mirror slot of a host-coherent allocation. `native` is the whole
allocation; `mirror` and `baseline` are indexed from the start of the window. -/
@[ext]
structure MemoryMirror where
  offset : Nat
  length : Nat
  native : Buffer
  mirror : Buffer
  baseline : Buffer

/-- The end of the block that starts at `cursor`, in 64-bit arithmetic. -/
def compareEnd (size cursor last : Nat) : Nat :=
  let blockEnd := (cursor + size) % 2 ^ 64
  if blockEnd < cursor ∨ last < blockEnd then last else blockEnd

theorem compareEnd_le (size cursor last : Nat) : compareEnd size cursor last ≤ last := by
  unfold compareEnd
  dsimp only
  split
  · exact Nat.le_refl _
  · omega

theorem lt_compareEnd {size cursor last : Nat} (positive : 0 < size) (small : size < 2 ^ 64)
    (below : cursor < last) : cursor < compareEnd size cursor last := by
  unfold compareEnd
  dsimp only
  split
  · exact below
  · rename_i inside
    have reduced : (cursor + size) % 2 ^ 64 ≠ cursor := by
      intro same
      have wraps := Nat.div_add_mod (cursor + size) (2 ^ 64)
      omega
    omega

namespace MemoryMirror

/-- `memcmp` of the mirror and the baseline answering zero. -/
def matchesBaseline (state : MemoryMirror) (first last : Nat) : Bool :=
  (List.range (last - first)).all fun index => state.mirror (first + index) == state.baseline (first + index)

def skipEqual (state : MemoryMirror) (cursor blockEnd : Nat) : Nat :=
  if cursor < blockEnd ∧ state.mirror cursor = state.baseline cursor then
    skipEqual state (cursor + 1) blockEnd
  else cursor
termination_by blockEnd - cursor

def skipDirty (state : MemoryMirror) (cursor blockEnd : Nat) : Nat :=
  if cursor < blockEnd ∧ state.mirror cursor ≠ state.baseline cursor then
    skipDirty state (cursor + 1) blockEnd
  else cursor
termination_by blockEnd - cursor

def copyRun (state : MemoryMirror) (dirtyFirst cursor : Nat) : MemoryMirror :=
  if cursor ≠ dirtyFirst then
    { state with
      native := copyInto state.native (state.offset + dirtyFirst)
        (fun index => state.mirror (dirtyFirst + index)) (cursor - dirtyFirst)
      baseline := copyInto state.baseline dirtyFirst
        (fun index => state.mirror (dirtyFirst + index)) (cursor - dirtyFirst) }
  else state

theorem le_skipEqual (state : MemoryMirror) (cursor blockEnd : Nat) :
    cursor ≤ state.skipEqual cursor blockEnd := by
  fun_induction skipEqual state cursor blockEnd with
  | case1 cursor _ ih => omega
  | case2 => exact Nat.le_refl _

theorem le_skipDirty (state : MemoryMirror) (cursor blockEnd : Nat) :
    cursor ≤ state.skipDirty cursor blockEnd := by
  fun_induction skipDirty state cursor blockEnd with
  | case1 cursor _ ih => omega
  | case2 => exact Nat.le_refl _

theorem skipEqual_le {state : MemoryMirror} {cursor blockEnd : Nat} (below : cursor ≤ blockEnd) :
    state.skipEqual cursor blockEnd ≤ blockEnd := by
  fun_induction skipEqual state cursor blockEnd with
  | case1 cursor more ih => exact ih more.1
  | case2 => exact below

theorem skipDirty_le {state : MemoryMirror} {cursor blockEnd : Nat} (below : cursor ≤ blockEnd) :
    state.skipDirty cursor blockEnd ≤ blockEnd := by
  fun_induction skipDirty state cursor blockEnd with
  | case1 cursor more ih => exact ih more.1
  | case2 => exact below

theorem skipEqual_skipped (state : MemoryMirror) (cursor blockEnd : Nat) :
    ∀ index, cursor ≤ index → index < state.skipEqual cursor blockEnd →
      state.mirror index = state.baseline index := by
  fun_induction skipEqual state cursor blockEnd with
  | case1 cursor more ih =>
      intro index reached before
      by_cases here : index = cursor
      · rw [here]
        exact more.2
      · exact ih index (by omega) before
  | case2 => omega

theorem skipDirty_skipped (state : MemoryMirror) (cursor blockEnd : Nat) :
    ∀ index, cursor ≤ index → index < state.skipDirty cursor blockEnd →
      state.mirror index ≠ state.baseline index := by
  fun_induction skipDirty state cursor blockEnd with
  | case1 cursor more ih =>
      intro index reached before
      by_cases here : index = cursor
      · rw [here]
        exact more.2
      · exact ih index (by omega) before
  | case2 => omega

/-- A pass over equal and dirty bytes moves: the byte at which the equal bytes
end is dirty. -/
theorem lt_skipDirty_skipEqual {state : MemoryMirror} {cursor blockEnd : Nat} (below : cursor < blockEnd) :
    cursor < state.skipDirty (state.skipEqual cursor blockEnd) blockEnd := by
  by_cases same : state.mirror cursor = state.baseline cursor
  · have moved : state.skipEqual cursor blockEnd = state.skipEqual (cursor + 1) blockEnd := by
      rw [skipEqual, if_pos ⟨below, same⟩]
    have first := state.le_skipEqual (cursor + 1) blockEnd
    have second := state.le_skipDirty (state.skipEqual cursor blockEnd) blockEnd
    omega
  · have stays : state.skipEqual cursor blockEnd = cursor := by
      rw [skipEqual, if_neg fun both => same both.2]
    rw [stays, skipDirty, if_pos ⟨below, same⟩]
    have second := state.le_skipDirty (cursor + 1) blockEnd
    omega

def uploadRuns (state : MemoryMirror) (cursor blockEnd : Nat) : MemoryMirror :=
  if _below : cursor < blockEnd then
    let dirtyFirst := state.skipEqual cursor blockEnd
    let reached := state.skipDirty dirtyFirst blockEnd
    uploadRuns (state.copyRun dirtyFirst reached) reached blockEnd
  else state
termination_by blockEnd - cursor
decreasing_by
  have moved : cursor < state.skipDirty (state.skipEqual cursor blockEnd) blockEnd :=
    lt_skipDirty_skipEqual _below
  omega

def uploadBlocks (sizes : CompareSizes) (state : MemoryMirror) (cursor superblockEnd : Nat) : MemoryMirror :=
  if below : cursor < superblockEnd then
    let blockEnd := compareEnd sizes.block cursor superblockEnd
    have : cursor < blockEnd := lt_compareEnd sizes.block_pos sizes.block_lt below
    if state.matchesBaseline cursor blockEnd then uploadBlocks sizes state blockEnd superblockEnd
    else uploadBlocks sizes (state.uploadRuns cursor blockEnd) blockEnd superblockEnd
  else state
termination_by superblockEnd - cursor

def uploadSuperblocks (sizes : CompareSizes) (state : MemoryMirror) (cursor last : Nat) : MemoryMirror :=
  if below : cursor < last then
    let superblockEnd := compareEnd sizes.superblock cursor last
    have : cursor < superblockEnd := lt_compareEnd sizes.superblock_pos sizes.superblock_lt below
    if state.matchesBaseline cursor superblockEnd then uploadSuperblocks sizes state superblockEnd last
    else uploadSuperblocks sizes (state.uploadBlocks sizes cursor superblockEnd) superblockEnd last
  else state
termination_by last - cursor

def uploadHostDivergedRange (sizes : CompareSizes) (state : MemoryMirror) (first length : Nat) :
    MemoryMirror :=
  state.uploadSuperblocks sizes first (first + length)

/-- The bounds the range requests are checked against, on the wire and in the
service. A range is given by its offset in the allocation. -/
def checkRange (state : MemoryMirror) (offset size : Nat) : Except Errno Unit :=
  if size = 0 ∨ maxMemoryAllocationSize < size ∨ 2 ^ 64 - 1 - size < offset then .error .einval
  else if offset < state.offset ∨ state.offset + state.length < offset ∨
      state.offset + state.length - offset < size then .error .erange
  else .ok ()

/-- `memory_mirror_range_operation` without `invalidate`. -/
def flushMemoryMirror (state : MemoryMirror) (offset size : Nat) : Except Errno MemoryMirror := do
  state.checkRange offset size
  let mirrorOffset := offset - state.offset
  return { state with
    native := copyInto state.native offset (fun index => state.mirror (mirrorOffset + index)) size
    baseline := copyInto state.baseline mirrorOffset
      (fun index => state.mirror (mirrorOffset + index)) size }

/-- `memory_mirror_range_operation` with `invalidate`. -/
def invalidateMemoryMirror (state : MemoryMirror) (offset size : Nat) : Except Errno MemoryMirror := do
  state.checkRange offset size
  let mirrorOffset := offset - state.offset
  return { state with
    mirror := copyInto state.mirror mirrorOffset (fun index => state.native (offset + index)) size
    baseline := copyInto state.baseline mirrorOffset (fun index => state.native (offset + index)) size }

/-- The mirror of a window of a host-coherent allocation; the client's memfd
arrives with zero bytes. -/
def setupMemoryMirror (allocationSize : Nat) (native : Buffer) (offset length : Nat) :
    Except Errno MemoryMirror :=
  if length = 0 ∨ maxMemoryAllocationSize < length ∨ 2 ^ 64 - 1 - length < offset then .error .einval
  else if allocationSize < offset ∨ allocationSize - offset < length then .error .erange
  else
    let shared := copyInto zeroed 0 (fun index => native (offset + index)) length
    .ok {
      offset, length, native
      mirror := shared
      baseline := copyInto zeroed 0 shared length }

def syncCoherentMemory (sizes : CompareSizes) (state : MemoryMirror) : MemoryMirror :=
  state.uploadHostDivergedRange sizes 0 state.length

/-- The native bytes that remain after the mirror is released. -/
def unmapMemoryMirror (sizes : CompareSizes) (state : MemoryMirror) : Buffer :=
  (state.uploadHostDivergedRange sizes 0 state.length).native

/-- What an upload of `[first, last)` leaves, byte by byte. -/
def uploaded (state : MemoryMirror) (first last : Nat) : MemoryMirror :=
  { state with
    native := fun address =>
      if state.offset + first ≤ address ∧ address < state.offset + last ∧
          state.mirror (address - state.offset) ≠ state.baseline (address - state.offset)
      then state.mirror (address - state.offset) else state.native address
    baseline := fun index =>
      if first ≤ index ∧ index < last then state.mirror index else state.baseline index }

theorem matchesBaseline_iff {state : MemoryMirror} {first last : Nat} :
    state.matchesBaseline first last = true ↔
      ∀ index, first ≤ index → index < last → state.mirror index = state.baseline index := by
  simp only [matchesBaseline, List.all_eq_true, List.mem_range, beq_iff_eq]
  constructor
  · intro every index reached before
    have here := every (index - first) (by omega)
    rwa [Nat.add_sub_cancel' reached] at here
  · intro every index before
    exact every (first + index) (by omega) (by omega)

theorem uploaded_of_equal {state : MemoryMirror} {first last : Nat}
    (equal : ∀ index, first ≤ index → index < last → state.mirror index = state.baseline index) :
    state.uploaded first last = state := by
  refine MemoryMirror.ext rfl rfl (funext fun address => ?_) rfl (funext fun index => ?_)
  · refine if_neg fun dirty => dirty.2.2 (equal _ ?_ ?_)
    · omega
    · omega
  · show (if first ≤ index ∧ index < last then _ else _) = _
    split
    · rename_i inside
      exact equal index inside.1 inside.2
    · rfl

theorem copyRun_eq_uploaded {state : MemoryMirror} {first last : Nat} (ordered : first ≤ last)
    (dirty : ∀ index, first ≤ index → index < last → state.mirror index ≠ state.baseline index) :
    state.copyRun first last = state.uploaded first last := by
  unfold copyRun
  split
  · refine MemoryMirror.ext rfl rfl (funext fun address => ?_) rfl (funext fun index => ?_)
    · simp only [uploaded, copyInto]
      by_cases inside : state.offset + first ≤ address ∧ address < state.offset + last
      · have differs := dirty (address - state.offset) (by omega) (by omega)
        rw [if_pos (by omega), if_pos ⟨inside.1, inside.2, differs⟩]
        congr 1
        omega
      · rw [if_neg (by omega), if_neg fun both => inside ⟨both.1, both.2.1⟩]
    · simp only [uploaded, copyInto]
      by_cases inside : first ≤ index ∧ index < last
      · rw [if_pos (by omega), if_pos inside]
        congr 1
        omega
      · rw [if_neg (by omega), if_neg inside]
  · exact (uploaded_of_equal (by omega)).symm

theorem uploaded_uploaded {state : MemoryMirror} {first middle last : Nat}
    (ordered : first ≤ middle) (within : middle ≤ last) :
    (state.uploaded first middle).uploaded middle last = state.uploaded first last := by
  refine MemoryMirror.ext rfl rfl (funext fun address => ?_) rfl (funext fun index => ?_)
  · simp only [uploaded]
    grind
  · simp only [uploaded]
    grind

theorem uploadRuns_eq (state : MemoryMirror) (cursor blockEnd : Nat) (ordered : cursor ≤ blockEnd) :
    state.uploadRuns cursor blockEnd = state.uploaded cursor blockEnd := by
  fun_induction uploadRuns state cursor blockEnd with
  | case1 state cursor below dirtyFirst reached ih =>
      have early : cursor ≤ dirtyFirst := state.le_skipEqual cursor blockEnd
      have late : dirtyFirst ≤ reached := state.le_skipDirty dirtyFirst blockEnd
      have within : reached ≤ blockEnd := skipDirty_le (skipEqual_le ordered)
      have equal : state.uploaded cursor dirtyFirst = state :=
        uploaded_of_equal (state.skipEqual_skipped cursor blockEnd)
      rw [copyRun_eq_uploaded late (state.skipDirty_skipped dirtyFirst blockEnd)] at ih ⊢
      rw [ih within, uploaded_uploaded late within]
      conv => lhs; rw [← equal]
      exact uploaded_uploaded early (by omega)
  | case2 state cursor stop => exact (uploaded_of_equal (by omega)).symm

theorem uploadBlocks_eq (sizes : CompareSizes) (state : MemoryMirror) (cursor superblockEnd : Nat)
    (ordered : cursor ≤ superblockEnd) :
    state.uploadBlocks sizes cursor superblockEnd = state.uploaded cursor superblockEnd := by
  fun_induction uploadBlocks sizes state cursor superblockEnd with
  | case1 state cursor below blockEnd moved same ih =>
      have within : blockEnd ≤ superblockEnd := compareEnd_le _ _ _
      rw [ih within]
      conv => lhs; rw [← uploaded_of_equal (matchesBaseline_iff.mp same)]
      exact uploaded_uploaded (by omega) within
  | case2 state cursor below blockEnd moved differs ih =>
      have within : blockEnd ≤ superblockEnd := compareEnd_le _ _ _
      rw [ih within, uploadRuns_eq _ _ _ (by omega)]
      exact uploaded_uploaded (by omega) within
  | case3 state cursor stop => exact (uploaded_of_equal (by omega)).symm

theorem uploadSuperblocks_eq (sizes : CompareSizes) (state : MemoryMirror) (cursor last : Nat)
    (ordered : cursor ≤ last) :
    state.uploadSuperblocks sizes cursor last = state.uploaded cursor last := by
  fun_induction uploadSuperblocks sizes state cursor last with
  | case1 state cursor below superblockEnd moved same ih =>
      have within : superblockEnd ≤ last := compareEnd_le _ _ _
      rw [ih within]
      conv => lhs; rw [← uploaded_of_equal (matchesBaseline_iff.mp same)]
      exact uploaded_uploaded (by omega) within
  | case2 state cursor below superblockEnd moved differs ih =>
      have within : superblockEnd ≤ last := compareEnd_le _ _ _
      rw [ih within, uploadBlocks_eq _ _ _ _ (by omega)]
      exact uploaded_uploaded (by omega) within
  | case3 state cursor stop => exact (uploaded_of_equal (by omega)).symm

theorem uploadHostDivergedRange_eq (sizes : CompareSizes) (state : MemoryMirror) (first length : Nat) :
    state.uploadHostDivergedRange sizes first length = state.uploaded first (first + length) :=
  uploadSuperblocks_eq sizes state first (first + length) (Nat.le_add_right _ _)

theorem setupMemoryMirror_eq_ok {allocationSize offset length : Nat} {native : Buffer}
    {state : MemoryMirror} (accepted : setupMemoryMirror allocationSize native offset length = .ok state) :
    state.offset = offset ∧ state.length = length ∧ state.native = native ∧
      offset + length ≤ allocationSize ∧
      ∀ index, index < length →
        state.mirror index = native (offset + index) ∧ state.baseline index = native (offset + index) := by
  unfold setupMemoryMirror at accepted
  split at accepted
  · contradiction
  · split at accepted
    · contradiction
    · rename_i inside
      cases accepted
      refine ⟨rfl, rfl, rfl, by omega, fun index below => ?_⟩
      simp [copyInto, below]

def uploadByte (state : MemoryMirror) (index : Nat) : MemoryMirror :=
  if state.mirror index ≠ state.baseline index then
    { state with
      native := fun address =>
        if address = state.offset + index then state.mirror index else state.native address
      baseline := fun other => if other = index then state.mirror index else state.baseline other }
  else state

def uploadBytes (state : MemoryMirror) (first last : Nat) : MemoryMirror :=
  if first < last then uploadBytes (state.uploadByte first) (first + 1) last else state
termination_by last - first

theorem uploadByte_eq_uploaded (state : MemoryMirror) (index : Nat) :
    state.uploadByte index = state.uploaded index (index + 1) := by
  by_cases dirty : state.mirror index = state.baseline index
  · have equal : state.uploaded index (index + 1) = state := by
      apply uploaded_of_equal
      intro other reached before
      have here : other = index := by omega
      rw [here]
      exact dirty
    rw [equal, uploadByte, if_neg fun differs => differs dirty]
  · rw [uploadByte, if_pos dirty]
    refine MemoryMirror.ext rfl rfl (funext fun address => ?_) rfl (funext fun other => ?_)
    · simp only [uploaded]
      by_cases here : address = state.offset + index
      · have inner : address - state.offset = index := by omega
        rw [if_pos here, inner, if_pos ⟨by omega, by omega, dirty⟩]
      · rw [if_neg here, if_neg fun both => here (by omega)]
    · simp only [uploaded]
      by_cases here : other = index
      · rw [if_pos here, if_pos (by omega), here]
      · rw [if_neg here, if_neg (by omega)]

theorem uploadBytes_eq (state : MemoryMirror) (first last : Nat) (ordered : first ≤ last) :
    state.uploadBytes first last = state.uploaded first last := by
  fun_induction uploadBytes state first last with
  | case1 state first below ih =>
      rw [ih (by omega), uploadByte_eq_uploaded]
      exact uploaded_uploaded (by omega) (by omega)
  | case2 state first stop => exact (uploaded_of_equal (by omega)).symm

theorem uploaded_native_dirty {state : MemoryMirror} {first last index : Nat} (reached : first ≤ index)
    (before : index < last) (dirty : state.mirror index ≠ state.baseline index) :
    (state.uploaded first last).native (state.offset + index) = state.mirror index := by
  have inner : state.offset + index - state.offset = index := by omega
  simp only [uploaded, inner]
  exact if_pos ⟨by omega, by omega, dirty⟩

theorem uploaded_native_kept {state : MemoryMirror} {first last address : Nat}
    (kept : ¬ ∃ index, first ≤ index ∧ index < last ∧ state.mirror index ≠ state.baseline index ∧
      address = state.offset + index) :
    (state.uploaded first last).native address = state.native address := by
  simp only [uploaded]
  apply if_neg
  rintro ⟨lower, upper, dirty⟩
  exact kept ⟨address - state.offset, by omega, by omega, dirty, by omega⟩

/-- The upload is a byte-exact diff, whatever the two block sizes are. -/
theorem uploadHostDivergedRange_exact (sizes : CompareSizes) (state : MemoryMirror) (first length : Nat) :
    let after := state.uploadHostDivergedRange sizes first length
    (∀ index, first ≤ index → index < first + length → state.mirror index ≠ state.baseline index →
      after.native (state.offset + index) = state.mirror index) ∧
    (∀ address, (¬ ∃ index, first ≤ index ∧ index < first + length ∧
        state.mirror index ≠ state.baseline index ∧ address = state.offset + index) →
      after.native address = state.native address) ∧
    (∀ index, first ≤ index → index < first + length → after.baseline index = state.mirror index) ∧
    (∀ index, ¬ (first ≤ index ∧ index < first + length) →
      after.baseline index = state.baseline index) ∧
    after.mirror = state.mirror ∧ after.offset = state.offset ∧ after.length = state.length ∧
    after = state.uploadBytes first (first + length) := by
  intro after
  have same : after = state.uploaded first (first + length) :=
    uploadHostDivergedRange_eq sizes state first length
  rw [same]
  refine ⟨?_, ?_, ?_, ?_, rfl, rfl, rfl, ?_⟩
  · intro index reached before dirty
    exact uploaded_native_dirty reached before dirty
  · intro address kept
    exact uploaded_native_kept kept
  · intro index reached before
    exact if_pos ⟨reached, before⟩
  · intro index outside
    exact if_neg outside
  · exact (uploadBytes_eq state first (first + length) (Nat.le_add_right _ _)).symm

end MemoryMirror

end VulkanBridge
