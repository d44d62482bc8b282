import VulkanBridge.MemoryMirror
import VulkanBridge.Runs

/-!
Client stores into a shared mirror while the service compares and copies it.
The service's loops are cut at every byte they read or write, so that a store
may fall between any two of them. A byte is copied to native memory and to the
baseline from two reads of the mirror; the window between the two reads is what
the results here are about.
-/

namespace VulkanBridge

open ByteBuffer

/-- Where the service stands in `upload_host_diverged_range`. `index` is the
byte that `memcmp` or `memcpy` takes next. -/
inductive UploadPoint where
  | superblocks (cursor : Nat)
  | compareSuperblock (cursor superblockEnd index : Nat)
  | blocks (cursor superblockEnd : Nat)
  | compareBlock (cursor superblockEnd blockEnd index : Nat)
  | runs (cursor superblockEnd blockEnd : Nat)
  | equalBytes (cursor superblockEnd blockEnd : Nat)
  | dirtyBytes (dirtyFirst cursor superblockEnd blockEnd : Nat)
  | copyNative (dirtyFirst cursor index superblockEnd blockEnd : Nat)
  | copyBaseline (dirtyFirst cursor index superblockEnd blockEnd : Nat)
  deriving DecidableEq, Repr

/-- Where the service stands. The ranges of flush and invalidate are indices of
the window. -/
inductive MirrorService where
  | idle
  | upload (last : Nat) (point : UploadPoint)
  | flushNative (first last index : Nat)
  | flushBaseline (last index : Nat)
  | invalidateMirror (first last index : Nat)
  | invalidateBaseline (last index : Nat)
  deriving DecidableEq, Repr

structure MirrorSystem where
  memory : MemoryMirror
  service : MirrorService

inductive MirrorEvent where
  | store (index : Nat) (value : UInt8)
  | device (address : Nat) (value : UInt8)
  | synchronize
  | flush (offset size : Nat)
  | invalidate (offset size : Nat)
  | advance
  deriving DecidableEq, Repr

namespace MemoryMirror

def putNative (memory : MemoryMirror) (index : Nat) : MemoryMirror :=
  { memory with native := putU8 memory.native (memory.offset + index) (memory.mirror index) }

def putBaseline (memory : MemoryMirror) (index : Nat) : MemoryMirror :=
  { memory with baseline := putU8 memory.baseline index (memory.mirror index) }

def refreshMirror (memory : MemoryMirror) (index : Nat) : MemoryMirror :=
  { memory with mirror := putU8 memory.mirror index (memory.native (memory.offset + index)) }

def refreshBaseline (memory : MemoryMirror) (index : Nat) : MemoryMirror :=
  { memory with baseline := putU8 memory.baseline index (memory.native (memory.offset + index)) }

end MemoryMirror

namespace UploadPoint

/-- One step of the upload that ends at `last`. -/
def step (sizes : CompareSizes) (last : Nat) (memory : MemoryMirror) :
    UploadPoint → MemoryMirror × MirrorService
  | superblocks cursor =>
      if cursor < last then
        (memory, .upload last (.compareSuperblock cursor (compareEnd sizes.superblock cursor last) cursor))
      else (memory, .idle)
  | compareSuperblock cursor superblockEnd index =>
      if superblockEnd ≤ index then (memory, .upload last (.superblocks superblockEnd))
      else if memory.mirror index = memory.baseline index then
        (memory, .upload last (.compareSuperblock cursor superblockEnd (index + 1)))
      else (memory, .upload last (.blocks cursor superblockEnd))
  | blocks cursor superblockEnd =>
      if cursor < superblockEnd then
        (memory, .upload last (.compareBlock cursor superblockEnd
          (compareEnd sizes.block cursor superblockEnd) cursor))
      else (memory, .upload last (.superblocks cursor))
  | compareBlock cursor superblockEnd blockEnd index =>
      if blockEnd ≤ index then (memory, .upload last (.blocks blockEnd superblockEnd))
      else if memory.mirror index = memory.baseline index then
        (memory, .upload last (.compareBlock cursor superblockEnd blockEnd (index + 1)))
      else (memory, .upload last (.runs cursor superblockEnd blockEnd))
  | runs cursor superblockEnd blockEnd =>
      if cursor < blockEnd then (memory, .upload last (.equalBytes cursor superblockEnd blockEnd))
      else (memory, .upload last (.blocks cursor superblockEnd))
  | equalBytes cursor superblockEnd blockEnd =>
      if cursor < blockEnd ∧ memory.mirror cursor = memory.baseline cursor then
        (memory, .upload last (.equalBytes (cursor + 1) superblockEnd blockEnd))
      else (memory, .upload last (.dirtyBytes cursor cursor superblockEnd blockEnd))
  | dirtyBytes dirtyFirst cursor superblockEnd blockEnd =>
      if cursor < blockEnd ∧ memory.mirror cursor ≠ memory.baseline cursor then
        (memory, .upload last (.dirtyBytes dirtyFirst (cursor + 1) superblockEnd blockEnd))
      else if cursor ≠ dirtyFirst then
        (memory, .upload last (.copyNative dirtyFirst cursor dirtyFirst superblockEnd blockEnd))
      else (memory, .upload last (.runs cursor superblockEnd blockEnd))
  | copyNative dirtyFirst cursor index superblockEnd blockEnd =>
      if index < cursor then
        (memory.putNative index, .upload last (.copyNative dirtyFirst cursor (index + 1) superblockEnd blockEnd))
      else (memory, .upload last (.copyBaseline dirtyFirst cursor dirtyFirst superblockEnd blockEnd))
  | copyBaseline dirtyFirst cursor index superblockEnd blockEnd =>
      if index < cursor then
        (memory.putBaseline index,
          .upload last (.copyBaseline dirtyFirst cursor (index + 1) superblockEnd blockEnd))
      else (memory, .upload last (.runs cursor superblockEnd blockEnd))

end UploadPoint

namespace MirrorService

/-- One step of the service. -/
def step (sizes : CompareSizes) (memory : MemoryMirror) : MirrorService → MemoryMirror × MirrorService
  | idle => (memory, .idle)
  | upload last point => point.step sizes last memory
  | flushNative first last index =>
      if index < last then (memory.putNative index, .flushNative first last (index + 1))
      else (memory, .flushBaseline last first)
  | flushBaseline last index =>
      if index < last then (memory.putBaseline index, .flushBaseline last (index + 1))
      else (memory, .idle)
  | invalidateMirror first last index =>
      if index < last then (memory.refreshMirror index, .invalidateMirror first last (index + 1))
      else (memory, .invalidateBaseline last first)
  | invalidateBaseline last index =>
      if index < last then (memory.refreshBaseline index, .invalidateBaseline last (index + 1))
      else (memory, .idle)

/-- The bytes `[first, last)` that have gone to native memory and not yet to
the baseline. -/
def between : MirrorService → Nat × Nat
  | upload _ (.copyNative dirtyFirst _ index _ _) => (dirtyFirst, index)
  | upload _ (.copyBaseline _ cursor index _ _) => (index, cursor)
  | flushNative first _ index => (first, index)
  | flushBaseline last index => (index, last)
  | _ => (0, 0)

def Between (service : MirrorService) (index : Nat) : Prop :=
  service.between.1 ≤ index ∧ index < service.between.2

instance (service : MirrorService) (index : Nat) : Decidable (service.Between index) :=
  inferInstanceAs (Decidable (_ ∧ _))

end MirrorService

namespace MirrorSystem

def step (sizes : CompareSizes) (system : MirrorSystem) : MirrorEvent → MirrorSystem
  | .store index value =>
      if index < system.memory.length then
        { system with memory := { system.memory with mirror := putU8 system.memory.mirror index value } }
      else system
  | .device address value =>
      { system with memory := { system.memory with native := putU8 system.memory.native address value } }
  | .synchronize =>
      if system.service = .idle then
        { system with service := .upload system.memory.length (.superblocks 0) }
      else system
  | .flush offset size =>
      if system.service = .idle ∧ system.memory.checkRange offset size = .ok () then
        let first := offset - system.memory.offset
        { system with service := .flushNative first (first + size) first }
      else system
  | .invalidate offset size =>
      if system.service = .idle ∧ system.memory.checkRange offset size = .ok () then
        let first := offset - system.memory.offset
        { system with service := .invalidateMirror first (first + size) first }
      else system
  | .advance =>
      let (memory, service) := system.service.step sizes system.memory
      { memory, service }

/-- A store into a byte that lies between its two copies repeats the value the
mirror has there. -/
def Undisturbed (system : MirrorSystem) : MirrorEvent → Prop
  | .store index value => system.service.Between index → value = system.memory.mirror index
  | _ => True

end MirrorSystem

namespace MirrorService

/-- A comparison starts at its cursor, a run ends behind its start, and the
copies to native memory stay inside the range they copy. -/
def Ordered : MirrorService → Prop
  | upload _ (.compareSuperblock cursor _ index) => cursor ≤ index
  | upload _ (.compareBlock cursor _ _ index) => cursor ≤ index
  | upload _ (.dirtyBytes dirtyFirst cursor _ _) => dirtyFirst ≤ cursor
  | upload _ (.copyNative dirtyFirst cursor index _ _) => dirtyFirst ≤ index ∧ index ≤ cursor
  | flushNative first last index => first ≤ index ∧ index ≤ last
  | _ => True

/-- The bytes before this index have been found or made equal to the baseline
by the upload under way. -/
def swept : MirrorService → Nat
  | upload _ (.superblocks cursor) | upload _ (.blocks cursor _) | upload _ (.runs cursor _ _)
  | upload _ (.equalBytes cursor _ _) | upload _ (.dirtyBytes cursor _ _ _)
  | upload _ (.copyNative cursor _ _ _ _) => cursor
  | upload _ (.compareSuperblock _ _ index) | upload _ (.compareBlock _ _ _ index)
  | upload _ (.copyBaseline _ _ index _ _) => index
  | _ => 0

theorem ordered_step {sizes : CompareSizes} {memory : MemoryMirror} {service : MirrorService}
    (ordered : service.Ordered) : (service.step sizes memory).2.Ordered := by
  cases service with
  | idle => trivial
  | flushBaseline | invalidateMirror | invalidateBaseline =>
      simp only [step]
      split <;> trivial
  | flushNative first last next =>
      simp only [step]
      simp only [Ordered] at ordered
      split
      · simp only [Ordered]
        omega
      · trivial
  | upload last point =>
      cases point with
      | superblocks | blocks =>
          simp only [step, UploadPoint.step]
          split
          · exact Nat.le_refl _
          · trivial
      | runs | copyBaseline =>
          simp only [step, UploadPoint.step]
          split <;> trivial
      | equalBytes =>
          simp only [step, UploadPoint.step]
          split
          · trivial
          · exact Nat.le_refl _
      | compareSuperblock | compareBlock =>
          simp only [step, UploadPoint.step]
          split
          · trivial
          · split
            · exact Nat.le_succ_of_le ordered
            · trivial
      | dirtyBytes =>
          simp only [step, UploadPoint.step]
          split
          · exact Nat.le_succ_of_le ordered
          · split
            · exact ⟨Nat.le_refl _, ordered⟩
            · trivial
      | copyNative dirtyFirst cursor next superblockEnd blockEnd =>
          simp only [step, UploadPoint.step]
          simp only [Ordered] at ordered
          split
          · simp only [Ordered]
            omega
          · trivial

end MirrorService

namespace MirrorSystem

variable {sizes : CompareSizes} {index : Nat} {system : MirrorSystem}

theorem step_window (event : MirrorEvent) :
    (system.step sizes event).memory.offset = system.memory.offset ∧
      (system.step sizes event).memory.length = system.memory.length := by
  cases event with
  | store | synchronize | flush | invalidate => simp only [step]; split <;> exact ⟨rfl, rfl⟩
  | device => exact ⟨rfl, rfl⟩
  | advance =>
      simp only [step]
      obtain ⟨memory, service⟩ := system
      cases service with
      | idle => exact ⟨rfl, rfl⟩
      | flushNative | flushBaseline | invalidateMirror | invalidateBaseline =>
          simp only [MirrorService.step]
          split <;> exact ⟨rfl, rfl⟩
      | upload last point =>
          cases point with
          | superblocks | blocks | runs | equalBytes | copyNative | copyBaseline =>
              simp only [MirrorService.step, UploadPoint.step]
              split <;> exact ⟨rfl, rfl⟩
          | compareSuperblock | compareBlock | dirtyBytes =>
              simp only [MirrorService.step, UploadPoint.step]
              split
              · exact ⟨rfl, rfl⟩
              · split <;> exact ⟨rfl, rfl⟩

theorem ordered_step (event : MirrorEvent) (ordered : system.service.Ordered) :
    (system.step sizes event).service.Ordered := by
  cases event with
  | advance => exact MirrorService.ordered_step ordered
  | device => exact ordered
  | store => simp only [step]; split <;> exact ordered
  | synchronize | invalidate =>
      simp only [step]
      split
      · trivial
      · exact ordered
  | flush =>
      simp only [step]
      split
      · exact ⟨Nat.le_refl _, Nat.le_add_right _ _⟩
      · exact ordered

/-- The native byte is the one the baseline records, or, between the two copies
of the byte, the one in the mirror. -/
def Reconciled (index : Nat) (system : MirrorSystem) : Prop :=
  system.memory.native (system.memory.offset + index) =
    if system.service.Between index then system.memory.mirror index else system.memory.baseline index

theorem reconciled_advance (ordered : system.service.Ordered) (reconciled : system.Reconciled index) :
    (system.step sizes .advance).Reconciled index := by
  obtain ⟨memory, service⟩ := system
  cases service with
  | idle => exact reconciled
  | flushNative first last next =>
      simp only [step, MirrorService.step]
      simp only [MirrorService.Ordered] at ordered
      simp only [Reconciled, MirrorService.Between, MirrorService.between] at reconciled
      split
      · simp only [Reconciled, MirrorService.Between, MirrorService.between, MemoryMirror.putNative, putU8]
        grind
      · simp only [Reconciled, MirrorService.Between, MirrorService.between]
        grind
  | flushBaseline last next =>
      simp only [step, MirrorService.step]
      simp only [Reconciled, MirrorService.Between, MirrorService.between] at reconciled
      split
      · simp only [Reconciled, MirrorService.Between, MirrorService.between, MemoryMirror.putBaseline, putU8]
        grind
      · simp only [Reconciled, MirrorService.Between, MirrorService.between]
        grind
  | invalidateMirror first last next =>
      simp only [step, MirrorService.step]
      split
      · simp only [Reconciled, MirrorService.Between, MirrorService.between, MemoryMirror.refreshMirror,
          putU8] at reconciled ⊢
        grind
      · exact reconciled
  | invalidateBaseline last next =>
      simp only [step, MirrorService.step]
      split
      · simp only [Reconciled, MirrorService.Between, MirrorService.between, MemoryMirror.refreshBaseline,
          putU8] at reconciled ⊢
        grind
      · exact reconciled
  | upload last point =>
      cases point with
      | superblocks | blocks | runs | equalBytes =>
          simp only [step, MirrorService.step, UploadPoint.step]
          split <;> exact reconciled
      | compareSuperblock | compareBlock =>
          simp only [step, MirrorService.step, UploadPoint.step]
          split
          · exact reconciled
          · split <;> exact reconciled
      | dirtyBytes dirtyFirst cursor superblockEnd blockEnd =>
          simp only [step, MirrorService.step, UploadPoint.step]
          split
          · exact reconciled
          · split
            · simp only [Reconciled, MirrorService.Between, MirrorService.between] at reconciled ⊢
              grind
            · exact reconciled
      | copyNative dirtyFirst cursor next superblockEnd blockEnd =>
          simp only [step, MirrorService.step, UploadPoint.step]
          simp only [MirrorService.Ordered] at ordered
          simp only [Reconciled, MirrorService.Between, MirrorService.between] at reconciled
          split
          · simp only [Reconciled, MirrorService.Between, MirrorService.between, MemoryMirror.putNative,
              putU8]
            grind
          · simp only [Reconciled, MirrorService.Between, MirrorService.between]
            grind
      | copyBaseline dirtyFirst cursor next superblockEnd blockEnd =>
          simp only [step, MirrorService.step, UploadPoint.step]
          simp only [Reconciled, MirrorService.Between, MirrorService.between] at reconciled
          split
          · simp only [Reconciled, MirrorService.Between, MirrorService.between, MemoryMirror.putBaseline,
              putU8]
            grind
          · simp only [Reconciled, MirrorService.Between, MirrorService.between]
            grind

theorem reconciled_step {event : MirrorEvent} (ordered : system.service.Ordered)
    (reconciled : system.Reconciled index) (undisturbed : system.Undisturbed event)
    (untouched : ∀ value, event ≠ .device (system.memory.offset + index) value) :
    (system.step sizes event).Reconciled index := by
  cases event with
  | advance => exact reconciled_advance ordered reconciled
  | store stored value =>
      simp only [step]
      split
      · simp only [Reconciled, putU8] at reconciled ⊢
        rw [reconciled]
        by_cases between : system.service.Between index
        · simp only [between, if_true]
          split
          · rename_i same
            subst same
            exact (undisturbed between).symm
          · rfl
        · simp only [between, if_false]
      · exact reconciled
  | device address value =>
      have apart : system.memory.offset + index ≠ address := by
        intro same
        exact untouched value (by rw [same])
      simp only [Reconciled, step, putU8, apart, if_false]
      exact reconciled
  | synchronize =>
      simp only [step]
      split
      · rename_i idle
        rw [Reconciled, idle] at reconciled
        exact reconciled
      · exact reconciled
  | flush offset size =>
      simp only [step]
      split
      · rename_i idle
        rw [Reconciled, idle.1] at reconciled
        simp only [Reconciled, MirrorService.Between, MirrorService.between] at reconciled ⊢
        grind
      · exact reconciled
  | invalidate offset size =>
      simp only [step]
      split
      · rename_i idle
        rw [Reconciled, idle.1] at reconciled
        exact reconciled
      · exact reconciled

/-- Every state of an undisturbed run has its bytes reconciled, apart from the
bytes the device writes. -/
theorem reconciled_run : ∀ {events : List MirrorEvent} {system : MirrorSystem},
    system.service.Ordered → system.Reconciled index →
    Runs.EveryStep (step sizes) Undisturbed system events →
    (∀ value, .device (system.memory.offset + index) value ∉ events) →
    (Runs.final (step sizes) system events).Reconciled index := by
  intro events
  induction events with
  | nil => intro system _ reconciled _ _; exact reconciled
  | cons event rest ih =>
      intro system ordered reconciled every untouched
      refine ih (ordered_step event ordered) (reconciled_step ordered reconciled every.1 ?_) every.2 ?_
      · intro value same
        exact untouched value (by rw [same]; exact List.mem_cons_self)
      · intro value member
        rw [(step_window event).1] at member
        exact untouched value (List.mem_cons_of_mem _ member)

/-- The upload under way ends at the end of the window and has found or made
every byte before its cursor equal to the baseline; a finished one every byte. -/
def Swept (system : MirrorSystem) : Prop :=
  match system.service with
  | .idle => ∀ index, index < system.memory.length →
      system.memory.mirror index = system.memory.baseline index
  | .upload last point => last = system.memory.length ∧
      ∀ index, index < (MirrorService.upload last point).swept →
        system.memory.mirror index = system.memory.baseline index
  | _ => False

/-- The service and the device go on; no store and no request comes. -/
def Settling : MirrorEvent → Prop
  | .device _ _ | .advance => True
  | _ => False

section

variable {memory : MemoryMirror} {next reached : Nat}

theorem swept_le (equal : ∀ index, index < next → memory.mirror index = memory.baseline index)
    (behind : reached ≤ next) :
    ∀ index, index < reached → memory.mirror index = memory.baseline index := by
  intro index below
  exact equal index (Nat.lt_of_lt_of_le below behind)

theorem swept_succ (equal : ∀ index, index < next → memory.mirror index = memory.baseline index)
    (here : memory.mirror next = memory.baseline next) :
    ∀ index, index < next + 1 → memory.mirror index = memory.baseline index := by
  intro index below
  rcases Nat.lt_succ_iff_lt_or_eq.mp below with before | same
  · exact equal index before
  · rw [same]
    exact here

end

theorem swept_advance (ordered : system.service.Ordered) (swept : system.Swept) :
    (system.step sizes .advance).Swept := by
  obtain ⟨memory, service⟩ := system
  cases service with
  | idle => exact swept
  | flushNative | flushBaseline | invalidateMirror | invalidateBaseline => exact swept.elim
  | upload last point =>
      obtain ⟨ends, equal⟩ := swept
      simp only at ends equal
      simp only [step, MirrorService.step]
      cases point with
      | superblocks cursor =>
          simp only [UploadPoint.step]
          split
          · exact ⟨ends, equal⟩
          · intro index below
            simp only at below
            exact equal index (by simp only [MirrorService.swept]; omega)
      | compareSuperblock cursor superblockEnd next | compareBlock cursor superblockEnd blockEnd next =>
          simp only [MirrorService.Ordered] at ordered
          simp only [UploadPoint.step]
          split
          · exact ⟨ends, swept_le equal ‹_›⟩
          · split
            · exact ⟨ends, swept_succ equal ‹_›⟩
            · exact ⟨ends, swept_le equal ordered⟩
      | blocks | runs =>
          simp only [UploadPoint.step]
          split <;> exact ⟨ends, equal⟩
      | equalBytes cursor superblockEnd blockEnd =>
          simp only [UploadPoint.step]
          split
          · rename_i same
            exact ⟨ends, swept_succ equal same.2⟩
          · exact ⟨ends, equal⟩
      | dirtyBytes dirtyFirst cursor superblockEnd blockEnd =>
          simp only [UploadPoint.step]
          split
          · exact ⟨ends, equal⟩
          · split
            · exact ⟨ends, equal⟩
            · rename_i same
              rw [not_not] at same
              rw [same]
              exact ⟨ends, equal⟩
      | copyNative dirtyFirst cursor next superblockEnd blockEnd =>
          simp only [UploadPoint.step]
          split <;> exact ⟨ends, equal⟩
      | copyBaseline dirtyFirst cursor next superblockEnd blockEnd =>
          simp only [UploadPoint.step]
          split
          · refine ⟨ends, swept_succ (fun index below => ?_) (if_pos rfl).symm⟩
            exact (equal index below).trans (if_neg (Nat.ne_of_lt below)).symm
          · rename_i copied
            exact ⟨ends, swept_le equal (Nat.le_of_not_lt copied)⟩

theorem run_window : ∀ (events : List MirrorEvent) (system : MirrorSystem),
    (Runs.final (step sizes) system events).memory.offset = system.memory.offset ∧
      (Runs.final (step sizes) system events).memory.length = system.memory.length := by
  intro events
  induction events with
  | nil => intro system; exact ⟨rfl, rfl⟩
  | cons event rest ih =>
      intro system
      have next := ih (system.step sizes event)
      exact ⟨next.1.trans (step_window event).1, next.2.trans (step_window event).2⟩

theorem ordered_run : ∀ (events : List MirrorEvent) {system : MirrorSystem},
    system.service.Ordered → (Runs.final (step sizes) system events).service.Ordered := by
  intro events
  induction events with
  | nil => intro system ordered; exact ordered
  | cons event rest ih => intro system ordered; exact ih (ordered_step event ordered)

theorem swept_run : ∀ {settled : List MirrorEvent} {system : MirrorSystem},
    system.service.Ordered → system.Swept → (∀ event ∈ settled, Settling event) →
    (Runs.final (step sizes) system settled).Swept := by
  intro settled
  induction settled with
  | nil => intro system _ swept _; exact swept
  | cons event rest ih =>
      intro system ordered swept settling
      have next : (system.step sizes event).Swept := by
        have settles := settling event List.mem_cons_self
        cases event with
        | advance => exact swept_advance ordered swept
        | device => exact swept
        | store | synchronize | flush | invalidate => exact settles.elim
      exact ih (ordered_step event ordered) next fun later member =>
        settling later (List.mem_cons_of_mem _ member)

theorem undisturbed_of_settling : ∀ {settled : List MirrorEvent} {system : MirrorSystem},
    (∀ event ∈ settled, Settling event) → Runs.EveryStep (step sizes) Undisturbed system settled := by
  intro settled
  induction settled with
  | nil => intro _ _; trivial
  | cons event rest ih =>
      intro system settling
      refine ⟨?_, ih fun later member => settling later (List.mem_cons_of_mem _ member)⟩
      have settles := settling event List.mem_cons_self
      cases event with
      | store => exact settles.elim
      | device | synchronize | flush | invalidate | advance => trivial

def stopped (sizes : CompareSizes) (memory : MemoryMirror) (events : List MirrorEvent) : MirrorSystem :=
  Runs.final (step sizes) ⟨memory, .idle⟩ events

/-- The state after one further synchronise. -/
def synchronized (sizes : CompareSizes) (memory : MemoryMirror) (events settled : List MirrorEvent) :
    MirrorSystem :=
  Runs.final (step sizes) ((stopped sizes memory events).step sizes .synchronize) settled

/-- Once the client stops storing and one further full synchronise completes,
native memory has the mirror's value at every byte the device did not write. -/
def HostWritesReachNative (sizes : CompareSizes) (memory : MemoryMirror)
    (events settled : List MirrorEvent) : Prop :=
  (stopped sizes memory events).service = .idle → (∀ event ∈ settled, Settling event) →
    (synchronized sizes memory events settled).service = .idle →
    ∀ index, index < memory.length →
      (∀ value, .device (memory.offset + index) value ∉ events ++ settled) →
      (synchronized sizes memory events settled).memory.native (memory.offset + index) =
        (synchronized sizes memory events settled).memory.mirror index

/-- Where no store changes a byte between its copy to native memory and its
copy to the baseline, no host write is lost. -/
theorem undisturbed_host_writes_reach_native (sizes : CompareSizes)
    (allocationSize offset length : Nat) (native : Buffer) (memory : MemoryMirror)
    (accepted : MemoryMirror.setupMemoryMirror allocationSize native offset length = .ok memory)
    (events settled : List MirrorEvent)
    (undisturbed : Runs.EveryStep (step sizes) Undisturbed ⟨memory, .idle⟩ events) :
    HostWritesReachNative sizes memory events settled := by
  intro idle settling completes index inside untouched
  obtain ⟨rfl, rfl, rfl, _, equal⟩ := MemoryMirror.setupMemoryMirror_eq_ok accepted
  have window : (stopped sizes memory events).memory.offset = memory.offset ∧
      (stopped sizes memory events).memory.length = memory.length := run_window events ⟨memory, .idle⟩
  have ordered : (stopped sizes memory events).service.Ordered := ordered_run events trivial
  have begins : (MirrorSystem.mk memory .idle).Reconciled index := by
    rw [Reconciled, if_neg (by simp [MirrorService.Between, MirrorService.between])]
    exact (equal index inside).2.symm
  have reconciled : (stopped sizes memory events).Reconciled index :=
    reconciled_run trivial begins undisturbed fun value member =>
      untouched value (List.mem_append_left _ member)
  -- the last synchronise starts with nothing swept and ends with everything swept
  have starts : ((stopped sizes memory events).step sizes .synchronize).Swept := by
    simp only [step, idle, if_true]
    exact ⟨rfl, fun index below => absurd below (Nat.not_lt_zero index)⟩
  have swept : (synchronized sizes memory events settled).Swept :=
    swept_run (ordered_step _ ordered) starts settling
  have whole : (synchronized sizes memory events settled).memory.offset = memory.offset ∧
      (synchronized sizes memory events settled).memory.length = memory.length := by
    have later : (synchronized sizes memory events settled).memory.offset = _ ∧
        (synchronized sizes memory events settled).memory.length = _ := run_window settled _
    rw [(step_window _).1, (step_window _).2, window.1, window.2] at later
    exact later
  have final : (synchronized sizes memory events settled).Reconciled index := by
    refine reconciled_run (ordered_step _ ordered) (reconciled_step ordered reconciled trivial ?_)
      (undisturbed_of_settling settling) ?_
    · intro value same
      contradiction
    · intro value member
      rw [(step_window _).1, window.1] at member
      exact untouched value (List.mem_append_right _ member)
  simp only [Swept, completes] at swept
  rw [Reconciled, completes, if_neg (by simp [MirrorService.Between, MirrorService.between]), whole.1] at final
  rw [final, swept index (by rw [whole.2]; exact inside)]

/-- A window of one zero byte. -/
def sampleMirror : MemoryMirror where
  offset := 0
  length := 1
  native := zeroed
  mirror := copyInto zeroed 0 (fun index => zeroed (0 + index)) 1
  baseline := copyInto zeroed 0 (copyInto zeroed 0 (fun index => zeroed (0 + index)) 1) 1

theorem sampleMirror_accepted : MemoryMirror.setupMemoryMirror 1 zeroed 0 1 = .ok sampleMirror := rfl

/-- A store after the first synchronise reaches native memory with the second. -/
theorem undisturbed_host_writes_reach_native_sample :
    (synchronized .source sampleMirror
      (.store 0 1 :: .synchronize :: List.replicate 15 .advance ++ [.store 0 2])
      (List.replicate 15 .advance)).memory.native 0 = 2 := by
  have reach := undisturbed_host_writes_reach_native .source 1 0 1 zeroed sampleMirror
    sampleMirror_accepted (.store 0 1 :: .synchronize :: List.replicate 15 .advance ++ [.store 0 2])
    (List.replicate 15 .advance)
    (by simp [Runs.EveryStep, List.replicate, Undisturbed]; decide)
  have native := reach (by decide +kernel)
    (by intro event member; rw [List.eq_of_mem_replicate member]; trivial)
    (by decide +kernel) 0 (by decide) (by intro value; simp [List.replicate])
  exact native.trans (by decide +kernel)

/-- The second of two stores falls between the copies of its byte: the baseline
takes its value, native memory keeps the first one's, and the next synchronise
finds nothing to do. -/
theorem store_between_copies_lost :
    ¬ ∀ (allocationSize offset length : Nat) (native : Buffer) (memory : MemoryMirror),
      MemoryMirror.setupMemoryMirror allocationSize native offset length = .ok memory →
      ∀ (events settled : List MirrorEvent), HostWritesReachNative .source memory events settled := by
  intro reach
  have lost := reach 1 0 1 zeroed sampleMirror sampleMirror_accepted
    (.store 0 1 :: .synchronize :: List.replicate 9 .advance ++ .store 0 2 :: List.replicate 6 .advance)
    (List.replicate 4 .advance) (by decide +kernel)
    (by intro event member; rw [List.eq_of_mem_replicate member]; trivial)
    (by decide +kernel) 0 (by decide) (by intro value; simp [List.replicate])
  exact absurd lost (by decide +kernel)

end MirrorSystem

end VulkanBridge
