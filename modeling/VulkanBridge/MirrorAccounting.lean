import VulkanBridge.ContextChanges
import VulkanBridge.MappedRanges
import VulkanBridge.SlotAccounting
import VulkanBridge.SparedHandles

/-!
The slots of the memory mirrors beside the objects of a service context: the calls that
set a mirror up and release it, those that look for one, and the bytes they count.
-/

namespace VulkanBridge

def memoryMirrorTotalBytes : UInt64 := 0x10000000

/-- The contents of a slot of `memory_metadata`, without its id. -/
structure MemoryInfo where
  allocationSize : UInt64
  hostVisible : Bool
  hostCoherent : Bool
  opaqueFdExportable : Bool

def MemoryInfo.zero : MemoryInfo := ⟨0, false, false, false⟩

def MemoryInfo.metadata (info : MemoryInfo) (memoryId : UInt64) : MemoryMetadata :=
  ⟨memoryId, info.allocationSize, info.hostVisible, info.hostCoherent⟩

/-- What the slots of `buffer_metadata` and of `image_metadata` say about memory. -/
structure BindingInfo where
  deviceId : UInt64
  boundMemoryId : UInt64

def BindingInfo.zero : BindingInfo := ⟨0, 0⟩

def MemoryMapping.zero : MemoryMapping := ⟨0, 0, 0, 0, 0, 0, 0, false, false, false, by decide⟩

def MemoryMapping.owner (mapping : MemoryMapping) : MemoryMirrorOwner :=
  ⟨mapping.deviceId, mapping.memoryId, mapping.generation⟩

/-- A service context with the contents of its slots. `memories`, `buffers`, `images` and
`atoms` are the slots of the memories, the buffers, the images and the devices. -/
structure MirrorContext where
  context : ObjectContext
  memories : Nat → MemoryInfo
  buffers : Nat → BindingInfo
  images : Nat → BindingInfo
  atoms : Nat → UInt64
  mirrors : List MemoryMapping
  mirrorBytes : UInt64

structure SetupAnswers where
  file : Bool
  shared : Option Errno
  baseline : Bool
  entryPoints : Bool
  mapped : VulkanResult
  mappedIsNull : Bool
  exported : VulkanResult
  descriptor : Option Nat
  closeOnExec : Option Errno

structure NewObject where
  memory : MemoryInfo
  atom : UInt64

def ObjectRequest.changesMirrors : ObjectRequest → Bool
  | .setupMemoryMirror .. | .unmapMemoryMirror .. => true
  | _ => false

def ObjectRequest.onDevice : ObjectRequest → UInt64
  | .createBuffer deviceId .. | .createImage deviceId .. | .prepareSwapchain deviceId .. => deviceId
  | _ => 0

def carried {α : Type} (before after : Nat → UInt64) (fresh blank : α) (contents : Nat → α) : Nat → α :=
  fun slot => if after slot = before slot then contents slot else if after slot = 0 then blank else fresh

namespace MirrorContext

variable (driver : ObjectDriver) (system : MirrorContext)

/-- A new context. -/
def start (found : Bool) : MirrorContext where
  context := .empty globalObjectCapacity found
  memories := fun _ => .zero
  buffers := fun _ => .zero
  images := fun _ => .zero
  atoms := fun _ => 0
  mirrors := List.replicate memoryMirrorCapacity .zero
  mirrorBytes := 0

def occupied : List MemoryMapping := system.mirrors.filter fun mapping => mapping.memoryId != 0

/-- The objects, with the owners of the mirrors as `destroy_device` and `free_memory` see them. -/
def objects : ObjectContext := { system.context with mirrors := system.occupied.map MemoryMapping.owner }

def callObjects (request : ObjectRequest) (made : NewObject) : Except Errno ObjectReply × MirrorContext :=
  let (reply, next) := system.objects.call driver request
  let before := system.context.metadata
  (reply,
    { system with
      context := next
      memories := carried (before .deviceMemory) (next.metadata .deviceMemory) made.memory .zero system.memories
      buffers := carried (before .buffer) (next.metadata .buffer) ⟨request.onDevice, 0⟩ .zero system.buffers
      images := carried (before .image) (next.metadata .image) ⟨request.onDevice, 0⟩ .zero system.images
      atoms := carried (before .device) (next.metadata .device) made.atom 0 system.atoms })

/-- `memory_mirror_slot` -/
def mirrorIndex (memoryId : UInt64) : Option Nat :=
  (system.mirrors.findIdx? fun mapping => mapping.memoryId == memoryId && memoryId != 0).or
    (system.mirrors.findIdx? fun mapping => mapping.memoryId == 0)

def mirrorAt (index : Nat) : MemoryMapping := system.mirrors.getD index .zero

def mirrorOf (memoryId : UInt64) : Option Nat :=
  (system.mirrorIndex memoryId).filter fun index => (system.mirrorAt index).memoryId == memoryId

/-- `resolve_memory_mirror` -/
def resolveMirror (deviceId memoryId generation : UInt64) : Option Nat :=
  (system.mirrorOf memoryId).filter fun index =>
    (system.mirrorAt index).deviceId == deviceId && (system.mirrorAt index).generation == generation

/-- `release_memory_mirror` -/
def releaseMirror (index : Nat) : MirrorContext :=
  let length := (system.mirrorAt index).length
  { system with
    mirrorBytes := if length ≤ system.mirrorBytes then system.mirrorBytes - length else 0
    mirrors := system.mirrors.set index .zero }

def installMirror (index : Nat) (mapping : MemoryMapping) : MirrorContext :=
  { system with
    mirrorBytes := system.mirrorBytes + mapping.length
    mirrors := system.mirrors.set index mapping }

def resolveBinding (objectId : UInt64) (type : ObjectType) (memoryId : UInt64) : Except Errno UInt64 :=
  match system.context.resolveDeviceChild objectId type with
  | .error code => .error code
  | .ok (deviceId, device, _) =>
      match system.context.resolveDeviceChild memoryId .deviceMemory with
      | .error code => .error code
      | .ok (memoryDeviceId, memoryDevice, _) =>
          if deviceId ≠ memoryDeviceId ∨ device ≠ memoryDevice then .error .eproto else .ok deviceId

/-- `bvb_vulkan_global_context_bind_buffer_memory`. `bind` is the driver's answer, none
without the function. -/
def bindBufferMemory (bufferId memoryId : UInt64) (bind : Option VulkanResult) :
    Except Errno VulkanResult × MirrorContext :=
  match system.resolveBinding bufferId .buffer memoryId with
  | .error code => (.error code, system)
  | .ok deviceId =>
      match system.context.slotOf .buffer bufferId with
      | none => (.error .eproto, system)
      | some slot =>
          if (system.buffers slot).deviceId ≠ deviceId then (.error .eproto, system)
          else
            match bind with
            | none => (.error .enosys, system)
            | some result =>
                if result ≠ vkSuccess then (.ok result, system)
                else
                  (.ok result, { system with
                    buffers := Function.update system.buffers slot ⟨(system.buffers slot).deviceId, memoryId⟩ })

/-- `bvb_vulkan_global_context_bind_image_memory` -/
def bindImageMemory (imageId memoryId : UInt64) (bind : Option VulkanResult) :
    Except Errno VulkanResult × MirrorContext :=
  match system.resolveBinding imageId .image memoryId with
  | .error code => (.error code, system)
  | .ok deviceId =>
      match system.context.slotOf .image imageId with
      | none => (.error .eproto, system)
      | some slot =>
          if (system.images slot).deviceId ≠ deviceId then (.error .eproto, system)
          else if (system.mirrorOf memoryId).isSome then (.ok vkErrorMemoryMapFailed, system)
          else
            match bind with
            | none => (.error .enosys, system)
            | some result =>
                if result ≠ vkSuccess then (.ok result, system)
                else
                  (.ok result, { system with
                    images := Function.update system.images slot ⟨(system.images slot).deviceId, memoryId⟩ })

/-- `memory_is_buffer_only` -/
def memoryIsBufferOnly (memoryId : UInt64) : Bool :=
  (List.range globalObjectCapacity).any (fun index => (system.buffers index).boundMemoryId == memoryId) &&
    !(List.range globalObjectCapacity).any (fun index => (system.images index).boundMemoryId == memoryId)

def resolveMapping (request : MemoryMirrorRequest) : Except Errno (MemoryInfo × UInt64) :=
  match system.context.resolveDeviceChild request.memoryId .deviceMemory with
  | .error code => .error code
  | .ok (memoryDeviceId, device, _) =>
      match system.context.objects.lookup request.deviceId .device with
      | .error code => .error code
      | .ok (_, deviceBits) =>
          match system.context.slotOf .deviceMemory request.memoryId,
            system.context.slotOf .device request.deviceId with
          | some memorySlot, some deviceSlot =>
              if memoryDeviceId ≠ request.deviceId ∨ deviceBits ≠ device ∨
                  system.context.metadata .deviceMemory memorySlot ≠ request.memoryId ∨
                  system.context.metadata .device deviceSlot ≠ request.deviceId ∨ system.atoms deviceSlot = 0 then
                .error .eproto
              else .ok (system.memories memorySlot, system.atoms deviceSlot)
          | _, _ => .error .eproto

def freeMirror (request : MemoryMirrorRequest) : Except Errno Nat :=
  match system.mirrorIndex request.memoryId with
  | none => .error .enospc
  | some index =>
      if (system.mirrorAt index).memoryId ≠ 0 then .error .ebusy
      else if memoryMirrorTotalBytes - request.size < system.mirrorBytes then .error .enospc
      else .ok index

/-- What the setups have in common: the slot and the mapping, or the answer. `refuses` is
what the setup asks of the memory besides. -/
def prepareMapping (request : MemoryMirrorRequest) (direct : Bool)
    (refuses : MemoryInfo → Option (Except Errno VulkanResult)) :
    Except (Except Errno VulkanResult) (Nat × MemoryMapping) :=
  match system.resolveMapping request with
  | .error code => .error (.error code)
  | .ok (info, atom) =>
      if !system.memoryIsBufferOnly request.memoryId then .error (.ok vkErrorFeatureNotPresent)
      else
        match refuses info with
        | some answer => .error answer
        | none =>
            match setupMapping request (info.metadata request.memoryId) atom direct with
            | .error code => .error (.error code)
            | .ok mapping =>
                match system.freeMirror request with
                | .error code => .error (.error code)
                | .ok index => .ok (index, mapping)

/-- `bvb_vulkan_global_context_setup_memory_mirror` -/
def setupMemoryMirror (request : MemoryMirrorRequest) (answers : SetupAnswers) :
    Except Errno VulkanResult × MirrorContext :=
  if !mirrorRequestIsEncodable request || !answers.file then (.error .einval, system)
  else
    match system.prepareMapping request false fun info => if info.hostVisible then none else some (.error .erange) with
    | .error answer => (answer, system)
    | .ok (index, mapping) =>
        match answers.shared with
        | some code => (.error code, system)
        | none =>
            if !answers.baseline then (.error .enomem, system)
            else if !answers.entryPoints then (.error .enosys, system)
            else if answers.mapped ≠ vkSuccess ∨ answers.mappedIsNull then (.ok answers.mapped, system)
            else (.ok answers.mapped, system.installMirror index mapping)

/-- `bvb_vulkan_global_context_setup_direct_memory` -/
def setupDirectMemory (request : MemoryMirrorRequest) (answers : SetupAnswers) :
    Except Errno VulkanResult × MirrorContext :=
  if !mirrorRequestIsEncodable request then (.error .einval, system)
  else
    match system.prepareMapping request true fun info =>
        if info.opaqueFdExportable && info.hostVisible && info.hostCoherent then none
        else some (.ok vkErrorFeatureNotPresent) with
    | .error answer => (answer, system)
    | .ok (index, mapping) =>
        if !answers.entryPoints then (.ok vkErrorFeatureNotPresent, system)
        else if answers.mapped ≠ vkSuccess ∨ answers.mappedIsNull then (.ok answers.mapped, system)
        else if answers.exported ≠ vkSuccess then (.ok answers.exported, system)
        else if answers.descriptor.isNone then (.ok vkErrorMemoryMapFailed, system)
        else
          match answers.closeOnExec with
          | some code => (.error code, system)
          | none => (.ok vkSuccess, system.installMirror index mapping)

/-- `bvb_vulkan_global_context_unmap_memory_mirror` -/
def unmapMemoryMirror (deviceId memoryId generation : UInt64) : Except Errno VulkanResult × MirrorContext :=
  if !handleExpect deviceId .device || !handleExpect memoryId .deviceMemory || generation == 0 then
    (.error .einval, system)
  else
    match system.resolveMirror deviceId memoryId generation with
    | none => (.error .estale, system)
    | some index => (.ok vkSuccess, system.releaseMirror index)

def mapped : MappedContext where
  memoryMetadata := (List.range globalObjectCapacity).map fun slot =>
    (system.memories slot).metadata (system.context.metadata .deviceMemory slot)
  memoryMirrors := system.mirrors
  resolveDeviceChild := fun memoryId => (system.context.resolveDeviceChild memoryId .deviceMemory).map fun _ => ()

/-- `memory_mirror_range_operation`. It changes bytes of the memory, and none of the slots. -/
def maintainMirror (driver : MappingDriver) (request : MemoryMirrorRequest) (invalidate : Bool) :
    Except Errno VulkanResult × MirrorContext :=
  ((memoryMirrorRangeOperation driver system.mapped request invalidate).value.map RangeReply.vulkanResult, system)

end MirrorContext

/-- A call of a client with the answers of the driver and the kernel to it. -/
inductive MirrorCall where
  | object (driver : ObjectDriver) (request : ObjectRequest) (plain : request.changesMirrors = false) (made : NewObject)
  | bindBufferMemory (bufferId memoryId : UInt64) (bind : Option VulkanResult)
  | bindImageMemory (imageId memoryId : UInt64) (bind : Option VulkanResult)
  | setupMemoryMirror (request : MemoryMirrorRequest) (answers : SetupAnswers)
  | setupDirectMemory (request : MemoryMirrorRequest) (answers : SetupAnswers)
  | maintain (driver : MappingDriver) (request : MemoryMirrorRequest) (invalidate : Bool)
  | unmapMemoryMirror (deviceId memoryId generation : UInt64)

namespace MirrorContext

def step (system : MirrorContext) : MirrorCall → MirrorContext
  | .object driver request _ made => (system.callObjects driver request made).2
  | .bindBufferMemory bufferId memoryId bind => (system.bindBufferMemory bufferId memoryId bind).2
  | .bindImageMemory imageId memoryId bind => (system.bindImageMemory imageId memoryId bind).2
  | .setupMemoryMirror request answers => (system.setupMemoryMirror request answers).2
  | .setupDirectMemory request answers => (system.setupDirectMemory request answers).2
  | .maintain driver request invalidate => (system.maintainMirror driver request invalidate).2
  | .unmapMemoryMirror deviceId memoryId generation => (system.unmapMemoryMirror deviceId memoryId generation).2

end MirrorContext

namespace ObjectContext

variable {driver : ObjectDriver} {context : ObjectContext} {type : ObjectType}

theorem destroyDeviceChecks_unmirrored (sound : context.objects.Sound) {deviceId device : UInt64}
    (admitted : context.destroyDeviceChecks driver deviceId = .ok device) :
    handleType deviceId = .device ∧ ∀ mirror ∈ context.mirrors, mirror.deviceId ≠ deviceId := by
  unfold destroyDeviceChecks at admitted
  split at admitted
  · cases admitted
  split at admitted
  · cases admitted
  rename_i physicalId bits found
  split at admitted
  · cases admitted
  split at admitted
  · cases admitted
  rename_i unmirrored
  refine ⟨((handleExpect_iff _ _).mp (sound.lookup_eq_ok.mp found).1).2, ?_⟩
  intro mirror member named
  exact unmirrored (List.any_eq_true.mpr ⟨mirror, member, by simp [named]⟩)

theorem registerChild_keepsSlots (context : ObjectContext) (order : SlotOrder) (parentId : UInt64)
    (native : NativeAnswer)
    (asksFree : type ≠ .queryPool) {other : ObjectType} {slot : Nat} (inUse : context.metadata other slot ≠ 0) :
    (context.registerChild type order parentId native).2.metadata other slot = context.metadata other slot := by
  simp only [registerChild, takeSerial, if_neg asksFree]
  split
  · rfl
  · rename_i objects inserted
    split
    · rfl
    · split
      · rename_i free found
        have blank : context.metadata type free = 0 := by
          rcases (slotOf_some found).2 with zero | zero
          · exact zero
          · exact zero
        rw [setMetadata_apply, if_neg]
        rintro ⟨rfl, rfl⟩
        exact inUse blank
      · simp [giveUp, nativeDestroy]

theorem createDeviceChild_keepsSlots (context : ObjectContext) (order : SlotOrder) (deviceId : UInt64)
    (fields : Verdict) (references : UInt64 → Verdict) (native : NativeAnswer) (asksFree : type ≠ .queryPool)
    {other : ObjectType} {slot : Nat}
    (inUse : context.metadata other slot ≠ 0) :
    (context.createDeviceChild driver type order deviceId fields references native).2.metadata other slot =
      context.metadata other slot := by
  unfold createDeviceChild
  split
  · rfl
  split
  · rfl
  split
  · rfl
  split
  · rfl
  split
  · rfl
  split
  · rfl
  split
  · simp [giveUp, nativeDestroy]
  · have same : (context.nativeCreate type native).metadata = context.metadata := nativeCreate_metadata context native
    rw [← same] at inUse ⊢
    exact registerChild_keepsSlots _ order deviceId native asksFree inUse

theorem call_memorySlot (paired : context.Paired) (request : ObjectRequest) {slot : Nat} {memoryId : UInt64}
    (bound : slot < globalObjectCapacity) (listed : context.metadata .deviceMemory slot = memoryId)
    (isMemory : handleType memoryId = .deviceMemory) (alive : (context.call driver request).2.Alive memoryId) :
    (context.call driver request).2.metadata .deviceMemory slot = memoryId := by
  have after : (context.call driver request).2.Paired := call_paired paired request
  have nonzero : memoryId ≠ 0 := after.alive_ne_zero alive
  by_cases makes : .deviceMemory ∈ request.makes
  · cases request with
    | allocateMemory deviceId dedicatedImageId fields properties native =>
        refine (createDeviceChild_keepsSlots context _ deviceId fields _ native (by decide) ?_).trans listed
        rw [listed]
        exact nonzero
    | _ => simp [ObjectRequest.makes] at makes
  · obtain ⟨other, inside, stored⟩ := after.listed memoryId alive (by rw [isMemory]; decide)
    rw [isMemory] at inside stored
    have before : context.metadata .deviceMemory other = memoryId := by
      rcases (call_changes driver context request).unlists .deviceMemory makes other with same | cleared
      · exact same.symm.trans stored
      · exact absurd (stored.symm.trans cleared) nonzero
    have here : other = slot := by
      refine paired.once .deviceMemory other slot inside bound ?_ (before.trans listed.symm)
      rw [before]
      exact nonzero
    rw [← here]
    exact stored

end ObjectContext

theorem carried_stays {α : Type} {before after : Nat → UInt64} {fresh blank : α} {contents : Nat → α} {slot : Nat}
    (same : after slot = before slot) : carried before after fresh blank contents slot = contents slot :=
  if_pos same

theorem carried_holds {α : Type} {before after : Nat → UInt64} {fresh blank : α} {contents : Nat → α} {slot : Nat}
    (property : α → Prop) (old : property (contents slot)) (isFresh : property fresh) (isBlank : property blank) :
    property (carried before after fresh blank contents slot) := by
  unfold carried
  split
  · exact old
  · split
    · exact isBlank
    · exact isFresh

namespace MirrorContext

/-! ## The accounting -/

def Counted (mirrors : List MemoryMapping) (bytes : Nat) : Prop :=
  SlotAccounting.Counts (fun mapping => mapping.memoryId != 0) MemoryMapping.memoryId
    (fun mapping => mapping.length.toNat) mirrors bytes

/-- What a mirror relies on: live objects, no image on the memory, and a window of it. -/
structure Holds (system : MirrorContext) (mapping : MemoryMapping) : Prop where
  isMemory : handleType mapping.memoryId = .deviceMemory
  memory : ∃ bits, system.context.Live mapping.memoryId mapping.deviceId bits
  isDevice : handleType mapping.deviceId = .device
  device : system.context.Alive mapping.deviceId
  imageless : ∀ slot < globalObjectCapacity, (system.images slot).boundMemoryId ≠ mapping.memoryId
  window : ∃ slot < globalObjectCapacity, system.context.metadata .deviceMemory slot = mapping.memoryId ∧
    mapping.offset.toNat + mapping.length.toNat ≤ (system.memories slot).allocationSize.toNat

/-- The state of the mirrors that the calls keep. -/
structure Accounted (system : MirrorContext) : Prop where
  paired : system.context.Paired
  counted : Counted system.mirrors system.mirrorBytes.toNat
  limit : system.mirrorBytes ≤ memoryMirrorTotalBytes
  holds : ∀ mapping ∈ system.occupied, system.Holds mapping

variable {driver : ObjectDriver} {system : MirrorContext} {mapping : MemoryMapping} {index : Nat}

theorem mem_occupied : mapping ∈ system.occupied ↔ mapping ∈ system.mirrors ∧ mapping.memoryId ≠ 0 := by
  simp [occupied]

theorem mirrorAt_eq (found : system.mirrors[index]? = some mapping) : system.mirrorAt index = mapping := by
  rw [mirrorAt, List.getD_eq_getElem?_getD, found, Option.getD_some]

theorem mirrorAt_some (bound : index < system.mirrors.length) :
    system.mirrors[index]? = some (system.mirrorAt index) := by
  rw [mirrorAt, List.getD_eq_getElem?_getD, List.getElem?_eq_getElem bound, Option.getD_some]

theorem mirrorIndex_bound {memoryId : UInt64} (found : system.mirrorIndex memoryId = some index) :
    index < system.mirrors.length := by
  rw [mirrorIndex, Option.or_eq_some_iff] at found
  rcases found with named | ⟨-, free⟩
  · exact (List.findIdx?_eq_some_iff_getElem.mp named).1
  · exact (List.findIdx?_eq_some_iff_getElem.mp free).1

theorem mirrorIndex_of_mem {memoryId : UInt64} (nonzero : memoryId ≠ 0) (member : mapping ∈ system.mirrors)
    (named : mapping.memoryId = memoryId) :
    ∃ index, system.mirrorIndex memoryId = some index ∧ (system.mirrorAt index).memoryId = memoryId := by
  cases search : system.mirrors.findIdx? fun mapping => mapping.memoryId == memoryId && memoryId != 0 with
  | none =>
      have missing := List.findIdx?_eq_none_iff.mp search mapping member
      simp [named, nonzero] at missing
  | some index =>
      obtain ⟨bound, hit, -⟩ := List.findIdx?_eq_some_iff_getElem.mp search
      refine ⟨index, ?_, ?_⟩
      · rw [mirrorIndex, search]
        rfl
      · rw [mirrorAt_eq (List.getElem?_eq_getElem bound)]
        simp only [Bool.and_eq_true, beq_iff_eq] at hit
        exact hit.1

theorem mirrorOf_some {memoryId : UInt64} (found : system.mirrorOf memoryId = some index) :
    system.mirrors[index]? = some (system.mirrorAt index) ∧ (system.mirrorAt index).memoryId = memoryId := by
  rw [mirrorOf, Option.filter_eq_some_iff] at found
  obtain ⟨search, named⟩ := found
  exact ⟨mirrorAt_some (mirrorIndex_bound search), by simpa using named⟩

theorem mirrorOf_none {memoryId : UInt64} (nonzero : memoryId ≠ 0) (missing : system.mirrorOf memoryId = none)
    (member : mapping ∈ system.mirrors) : mapping.memoryId ≠ memoryId := by
  intro named
  obtain ⟨index, search, here⟩ := mirrorIndex_of_mem nonzero member named
  rw [mirrorOf, Option.filter_eq_none_iff] at missing
  have refused := missing index search
  simp [here] at refused

theorem freeMirror_ok {request : MemoryMirrorRequest} (nonzero : request.memoryId ≠ 0)
    (found : system.freeMirror request = .ok index) :
    system.mirrors[index]? = some (system.mirrorAt index) ∧ (system.mirrorAt index).memoryId = 0 ∧
      (∀ entry ∈ system.mirrors, entry.memoryId ≠ request.memoryId) ∧
      ¬ memoryMirrorTotalBytes - request.size < system.mirrorBytes := by
  unfold freeMirror at found
  split at found
  · cases found
  · rename_i slot search
    by_cases busy : (system.mirrorAt slot).memoryId ≠ 0
    · rw [if_pos busy] at found
      cases found
    rw [if_neg busy] at found
    by_cases full : memoryMirrorTotalBytes - request.size < system.mirrorBytes
    · rw [if_pos full] at found
      cases found
    rw [if_neg full] at found
    cases found
    refine ⟨mirrorAt_some (mirrorIndex_bound search), not_not.mp busy, ?_, full⟩
    intro entry member named
    obtain ⟨other, again, here⟩ := mirrorIndex_of_mem nonzero member named
    rw [search] at again
    cases again
    exact nonzero (here.symm.trans (not_not.mp busy))

theorem mem_occupied_set {fresh : MemoryMapping} {other : MirrorContext}
    (mirrors : other.mirrors = system.mirrors.set index fresh)
    (member : mapping ∈ other.occupied) : mapping ∈ system.occupied ∨ mapping = fresh ∧ fresh.memoryId ≠ 0 := by
  obtain ⟨listed, inUse⟩ := mem_occupied.mp member
  rw [mirrors] at listed
  rcases List.mem_or_eq_of_mem_set listed with old | new
  · exact .inl (mem_occupied.mpr ⟨old, inUse⟩)
  · exact .inr ⟨new, by rw [← new]; exact inUse⟩

/-- The handles that the mirrors keep: their memories, by their devices, and the devices. -/
def Mirrored (system : MirrorContext) (wireId parentId : UInt64) : Prop :=
  ∃ mapping ∈ system.occupied, wireId = mapping.memoryId ∧ parentId = mapping.deviceId ∨ wireId = mapping.deviceId

theorem Accounted.mirrored_type (accounted : system.Accounted) {wireId parentId : UInt64}
    (mirrored : system.Mirrored wireId parentId) :
    handleType wireId = .deviceMemory ∨ handleType wireId = .device := by
  obtain ⟨mapping, member, ⟨rfl, -⟩ | rfl⟩ := mirrored
  · exact .inl (accounted.holds mapping member).isMemory
  · exact .inr (accounted.holds mapping member).isDevice

theorem Accounted.durable (accounted : system.Accounted) : ObjectContext.Durable system.Mirrored := by
  intro wireId parentId mirrored
  rcases accounted.mirrored_type mirrored with isMemory | isDevice
  · rw [isMemory]
    rfl
  · rw [isDevice]
    rfl

theorem mirror_of_occupied (member : mapping ∈ system.occupied) : mapping.owner ∈ system.objects.mirrors :=
  List.mem_map.mpr ⟨mapping, member, rfl⟩

theorem Accounted.apart (accounted : system.Accounted) {deviceId device : UInt64}
    (admitted : system.objects.destroyDeviceChecks driver deviceId = .ok device) :
    ObjectContext.Apart system.Mirrored deviceId system.objects := by
  have sound : system.objects.objects.Sound := accounted.paired.sound
  obtain ⟨isDevice, unmirrored⟩ := ObjectContext.destroyDeviceChecks_unmirrored sound admitted
  intro wireId parentId nativeBits mirrored live
  have typed := accounted.mirrored_type mirrored
  obtain ⟨mapping, member, ⟨rfl, rfl⟩ | rfl⟩ := mirrored
  · have elsewhere : mapping.deviceId ≠ deviceId := unmirrored _ (mirror_of_occupied member)
    have isMemory := (accounted.holds mapping member).isMemory
    refine ⟨?_, fun _ => elsewhere, ?_⟩
    · rintro rfl
      rw [isMemory] at isDevice
      cases isDevice
    · intro isSet
      rw [isMemory] at isSet
      cases isSet
  · have elsewhere : mapping.deviceId ≠ deviceId := unmirrored _ (mirror_of_occupied member)
    have isOwner := (accounted.holds mapping member).isDevice
    refine ⟨elsewhere, ?_, ?_⟩
    · rw [isOwner]
      rintro (impossible | impossible) <;> cases impossible
    · intro isSet
      rw [isOwner] at isSet
      cases isSet

theorem Accounted.sparing (accounted : system.Accounted) (request : ObjectRequest) :
    ObjectContext.Sparing system.Mirrored system.objects driver request := by
  cases request with
  | destroyInstance instanceId =>
      intro deviceId physicalId device deviceBits physicalBits _ _ _ admitted
      exact accounted.apart admitted
  | destroyDevice deviceId => exact fun device admitted => accounted.apart admitted
  | destroyDescriptorPool poolId =>
      intro isPool wireId parentId nativeBits mirrored _
      have typed := accounted.mirrored_type mirrored
      refine ⟨?_, ?_⟩
      · rintro rfl
        rw [isPool] at typed
        rcases typed with impossible | impossible <;> cases impossible
      · intro isSet
        rw [isSet] at typed
        rcases typed with impossible | impossible <;> cases impossible
  | resetDescriptorPool poolId fields present result =>
      intro wireId nativeBits isSet _ mirrored
      have typed := accounted.mirrored_type mirrored
      rw [isSet] at typed
      rcases typed with impossible | impossible <;> cases impossible
  | freeMemory memoryId =>
      intro isMemory unmirrored parentId nativeBits _ mirrored
      obtain ⟨mapping, member, ⟨same, -⟩ | same⟩ := mirrored
      · have named := List.any_eq_false.mp unmirrored _ (mirror_of_occupied member)
        simp [MemoryMapping.owner, same] at named
      · have isDevice := (accounted.holds mapping member).isDevice
        rw [← same, isMemory] at isDevice
        cases isDevice
  | _ => exact trivial

theorem Accounted.callObjects (accounted : system.Accounted) (request : ObjectRequest) (made : NewObject) :
    (system.callObjects driver request made).2.Accounted := by
  have before : system.objects.Paired := accounted.paired.of_eq rfl rfl
  have spares : ObjectContext.Spares system.Mirrored system.objects (system.objects.call driver request).2 :=
    ObjectContext.call_spares accounted.durable before.sound request (accounted.sparing request)
  refine ⟨ObjectContext.call_paired before request, accounted.counted, accounted.limit, ?_⟩
  intro mapping member
  have held := accounted.holds mapping member
  have nonzero : mapping.memoryId ≠ 0 := (mem_occupied.mp member).2
  obtain ⟨bits, live⟩ := held.memory
  have memory : (system.objects.call driver request).2.Live mapping.memoryId mapping.deviceId bits :=
    spares.kept _ _ bits ⟨mapping, member, .inl ⟨rfl, rfl⟩⟩ live
  obtain ⟨physicalId, deviceBits, device⟩ := held.device
  have owner : (system.objects.call driver request).2.Live mapping.deviceId physicalId deviceBits :=
    spares.kept _ _ deviceBits ⟨mapping, member, .inr rfl⟩ device
  refine ⟨held.isMemory, ⟨bits, memory⟩, held.isDevice, ⟨physicalId, deviceBits, owner⟩, ?_, ?_⟩
  · intro slot bound
    exact carried_holds (fun image : BindingInfo => image.boundMemoryId ≠ mapping.memoryId) (held.imageless slot bound)
      nonzero.symm nonzero.symm
  · obtain ⟨slot, bound, listed, inside⟩ := held.window
    have stays := ObjectContext.call_memorySlot before request bound listed held.isMemory ⟨_, bits, memory⟩
    refine ⟨slot, bound, stays, ?_⟩
    dsimp only [MirrorContext.callObjects]
    rw [carried_stays (stays.trans listed.symm)]
    exact inside

theorem Holds.of_eq {other : MirrorContext} (held : system.Holds mapping) (context : other.context = system.context)
    (memories : other.memories = system.memories) (images : other.images = system.images) : other.Holds mapping := by
  obtain ⟨isMemory, memory, isDevice, device, imageless, window⟩ := held
  refine ⟨isMemory, ?_, isDevice, ?_, ?_, ?_⟩
  · rw [context]
    exact memory
  · rw [context]
    exact device
  · rw [images]
    exact imageless
  · rw [context, memories]
    exact window

theorem Accounted.install (accounted : system.Accounted)
    (found : system.mirrors[index]? = some (system.mirrorAt index)) (free : (system.mirrorAt index).memoryId = 0)
    (unknown : ∀ entry ∈ system.mirrors, entry.memoryId ≠ mapping.memoryId) (nonzero : mapping.memoryId ≠ 0)
    (small : mapping.length ≤ memoryMirrorTotalBytes)
    (room : ¬ memoryMirrorTotalBytes - mapping.length < system.mirrorBytes)
    (held : system.Holds mapping) : (system.installMirror index mapping).Accounted := by
  have total : memoryMirrorTotalBytes.toNat = 2 ^ 28 := by decide
  have fits : system.mirrorBytes.toNat + mapping.length.toNat ≤ memoryMirrorTotalBytes.toNat := by
    rw [UInt64.lt_iff_toNat_lt, UInt64.toNat_sub_of_le _ _ small] at room
    rw [UInt64.le_iff_toNat_le] at small
    omega
  have sum : (system.mirrorBytes + mapping.length).toNat = system.mirrorBytes.toNat + mapping.length.toNat := by
    rw [UInt64.toNat_add]
    exact Nat.mod_eq_of_lt (by omega)
  refine ⟨accounted.paired, ?_, ?_, ?_⟩
  · have filled : Counted (system.mirrors.set index mapping) (system.mirrorBytes.toNat + mapping.length.toNat) :=
      SlotAccounting.Counts.fill accounted.counted found (by simp [free]) (by simp [nonzero])
        (fun entry member _ => unknown entry member)
    rw [← sum] at filled
    exact filled
  · rw [UInt64.le_iff_toNat_le]
    exact sum.le.trans fits
  · intro other member
    have mirrors : (system.installMirror index mapping).mirrors = system.mirrors.set index mapping := rfl
    rcases mem_occupied_set mirrors member with old | ⟨rfl, -⟩
    · exact (accounted.holds other old).of_eq rfl rfl rfl
    · exact held.of_eq rfl rfl rfl

theorem Accounted.cleared (accounted : system.Accounted) (found : system.mirrors[index]? = some mapping)
    (inUse : mapping.memoryId ≠ 0) : mapping.length.toNat ≤ system.mirrorBytes.toNat ∧
      Counted (system.mirrors.set index .zero) (system.mirrorBytes.toNat - mapping.length.toNat) :=
  SlotAccounting.Counts.clear accounted.counted found (by simp [inUse]) rfl

/-- The sum is never less than a length it counts, so the release does not clamp. -/
theorem Accounted.length_le (accounted : system.Accounted) (member : mapping ∈ system.occupied) :
    mapping.length ≤ system.mirrorBytes := by
  obtain ⟨listed, inUse⟩ := mem_occupied.mp member
  obtain ⟨index, found⟩ := List.mem_iff_getElem?.mp listed
  rw [UInt64.le_iff_toNat_le]
  exact (accounted.cleared found inUse).1

theorem Accounted.release (accounted : system.Accounted)
    (found : system.mirrors[index]? = some (system.mirrorAt index)) (inUse : (system.mirrorAt index).memoryId ≠ 0) :
    (system.releaseMirror index).Accounted := by
  obtain ⟨covered, cleared⟩ := accounted.cleared found inUse
  have enough : (system.mirrorAt index).length ≤ system.mirrorBytes := UInt64.le_iff_toNat_le.mpr covered
  have difference := UInt64.toNat_sub_of_le _ _ enough
  rw [← difference] at cleared
  have bytes : (system.releaseMirror index).mirrorBytes = system.mirrorBytes - (system.mirrorAt index).length :=
    if_pos enough
  refine ⟨accounted.paired, ?_, ?_, ?_⟩
  · rw [bytes]
    exact cleared
  · have limit := accounted.limit
    rw [bytes, UInt64.le_iff_toNat_le, difference]
    rw [UInt64.le_iff_toNat_le] at limit
    omega
  · intro other member
    have mirrors : (system.releaseMirror index).mirrors = system.mirrors.set index .zero := rfl
    rcases mem_occupied_set mirrors member with old | ⟨rfl, impossible⟩
    · exact (accounted.holds other old).of_eq rfl rfl rfl
    · exact absurd rfl impossible

/-! ## Calls on the mirrors -/

theorem mirrorRequestIsEncodable_iff {request : MemoryMirrorRequest}
    (encodable : mirrorRequestIsEncodable request = true) :
    handleExpect request.deviceId .device = true ∧ handleExpect request.memoryId .deviceMemory = true ∧
      request.size.toNat ≤ maxMemoryAllocationSize := by
  simp only [mirrorRequestIsEncodable, Bool.and_eq_true, decide_eq_true_eq] at encodable
  exact ⟨encodable.1.1.1.1.1, encodable.1.1.1.1.2, encodable.1.2⟩

theorem resolveMapping_ok (paired : system.context.Paired) {request : MemoryMirrorRequest} {info : MemoryInfo}
    {atom : UInt64}
    (found : system.resolveMapping request = .ok (info, atom)) :
    (∃ bits, system.context.Live request.memoryId request.deviceId bits) ∧ system.context.Alive request.deviceId ∧
      ∃ slot < globalObjectCapacity, system.context.metadata .deviceMemory slot = request.memoryId ∧
        info = system.memories slot := by
  unfold resolveMapping at found
  split at found
  · cases found
  rename_i memoryDeviceId device bits memory
  split at found
  · cases found
  rename_i physicalId deviceBits owner
  split at found
  swap
  · cases found
  rename_i memorySlot deviceSlot isSlot _
  split at found
  · cases found
  rename_i same
  simp only [not_or, not_not] at same
  cases found
  have live : system.context.Live request.memoryId memoryDeviceId bits := by
    unfold ObjectContext.resolveDeviceChild at memory
    split at memory
    · cases memory
    rename_i child
    split at memory
    · cases memory
    cases memory
    exact (paired.sound.lookup_eq_ok.mp child).2
  refine ⟨⟨bits, ?_⟩, ⟨physicalId, deviceBits, (paired.sound.lookup_eq_ok.mp owner).2⟩, ?_⟩
  · rw [← same.1]
    exact live
  · exact ⟨memorySlot, (ObjectContext.slotOf_some isSlot).1, same.2.2.1, rfl⟩

theorem memoryIsBufferOnly_imageless {memoryId : UInt64} (bufferOnly : system.memoryIsBufferOnly memoryId = true) :
    ∀ slot < globalObjectCapacity, (system.images slot).boundMemoryId ≠ memoryId := by
  intro slot bound named
  simp only [memoryIsBufferOnly, Bool.and_eq_true, Bool.not_eq_true', List.any_eq_false] at bufferOnly
  have unbound := bufferOnly.2 slot (List.mem_range.mpr bound)
  simp [named] at unbound

theorem prepareMapping_ok (accounted : system.Accounted) {request : MemoryMirrorRequest} {direct : Bool}
    {refuses : MemoryInfo → Option (Except Errno VulkanResult)}
    (prepared : system.prepareMapping request direct refuses = .ok (index, mapping)) :
    (system.installMirror index mapping).Accounted := by
  unfold prepareMapping at prepared
  split at prepared
  · cases prepared
  rename_i info atom resolved
  split at prepared
  · cases prepared
  rename_i bufferOnly
  simp only [Bool.not_eq_true', Bool.not_eq_false] at bufferOnly
  split at prepared
  · cases prepared
  split at prepared
  · cases prepared
  rename_i window placed
  split at prepared
  · cases prepared
  rename_i slot isFree
  cases prepared
  obtain ⟨memory, device, memorySlot, bound, listed, rfl⟩ := resolveMapping_ok accounted.paired resolved
  unfold setupMapping at placed
  split at placed
  · cases placed
  rename_i encodable
  split at placed
  · cases placed
  rename_i inside
  obtain ⟨isDevice, isMemory, small⟩ := mirrorRequestIsEncodable_iff (Bool.of_not_eq_false encodable)
  obtain ⟨formed, memoryType⟩ := (handleExpect_iff _ _).mp isMemory
  have nonzero : request.memoryId ≠ 0 := handleIsWellFormed_ne_zero formed
  obtain ⟨found, free, unknown, room⟩ := freeMirror_ok nonzero isFree
  cases placed
  refine accounted.install found free unknown nonzero (UInt64.le_iff_toNat_le.mpr small) room ?_
  refine ⟨memoryType, memory, ((handleExpect_iff _ _).mp isDevice).2, device, ?_, memorySlot, bound, listed, ?_⟩
  · exact memoryIsBufferOnly_imageless bufferOnly
  · exact MemoryMapping.within _

theorem Accounted.setupMemoryMirror (accounted : system.Accounted) (request : MemoryMirrorRequest)
    (answers : SetupAnswers) :
    (system.setupMemoryMirror request answers).2.Accounted := by
  unfold MirrorContext.setupMemoryMirror
  split
  · exact accounted
  split
  · exact accounted
  rename_i index mapping prepared
  have installed := prepareMapping_ok accounted prepared
  split
  · exact accounted
  split
  · exact accounted
  split
  · exact accounted
  split
  · exact accounted
  · exact installed

theorem Accounted.setupDirectMemory (accounted : system.Accounted) (request : MemoryMirrorRequest)
    (answers : SetupAnswers) :
    (system.setupDirectMemory request answers).2.Accounted := by
  unfold MirrorContext.setupDirectMemory
  split
  · exact accounted
  split
  · exact accounted
  rename_i index mapping prepared
  have installed := prepareMapping_ok accounted prepared
  split
  · exact accounted
  split
  · exact accounted
  split
  · exact accounted
  split
  · exact accounted
  split
  · exact accounted
  · exact installed

theorem Accounted.unmapMemoryMirror (accounted : system.Accounted) (deviceId memoryId generation : UInt64) :
    (system.unmapMemoryMirror deviceId memoryId generation).2.Accounted := by
  unfold MirrorContext.unmapMemoryMirror
  split
  · exact accounted
  rename_i formed
  simp only [Bool.or_eq_true, Bool.not_eq_true', not_or, Bool.not_eq_false] at formed
  have nonzero : memoryId ≠ 0 := handleIsWellFormed_ne_zero ((handleExpect_iff _ _).mp formed.1.2).1
  split
  · exact accounted
  rename_i index resolved
  rw [resolveMirror, Option.filter_eq_some_iff] at resolved
  obtain ⟨found, named⟩ := mirrorOf_some resolved.1
  refine accounted.release found ?_
  rw [named]
  exact nonzero

theorem Accounted.bindBufferMemory (accounted : system.Accounted) (bufferId memoryId : UInt64)
    (bind : Option VulkanResult) :
    (system.bindBufferMemory bufferId memoryId bind).2.Accounted := by
  unfold MirrorContext.bindBufferMemory
  repeat' split
  all_goals exact ⟨accounted.paired, accounted.counted, accounted.limit,
    fun mapping member => (accounted.holds mapping member).of_eq rfl rfl rfl⟩

theorem Accounted.bindImageMemory (accounted : system.Accounted) (imageId memoryId : UInt64)
    (bind : Option VulkanResult) :
    (system.bindImageMemory imageId memoryId bind).2.Accounted := by
  unfold MirrorContext.bindImageMemory
  split
  · exact accounted
  rename_i deviceId resolved
  split
  · exact accounted
  rename_i slot isSlot
  split
  · exact accounted
  split
  · exact accounted
  rename_i unmirrored
  split
  · exact accounted
  split
  · exact accounted
  have nonzero : memoryId ≠ 0 := by
    unfold resolveBinding at resolved
    split at resolved
    · cases resolved
    split at resolved
    · cases resolved
    rename_i memory
    unfold ObjectContext.resolveDeviceChild at memory
    split at memory
    · cases memory
    rename_i child
    exact handleIsWellFormed_ne_zero ((handleExpect_iff _ _).mp (accounted.paired.sound.lookup_eq_ok.mp child).1).1
  have missing : system.mirrorOf memoryId = none := by
    rw [Option.not_isSome_iff_eq_none] at unmirrored
    exact unmirrored
  refine ⟨accounted.paired, accounted.counted, accounted.limit, ?_⟩
  intro mapping member
  obtain ⟨isMemory, memory, isDevice, device, imageless, window⟩ := accounted.holds mapping member
  refine ⟨isMemory, memory, isDevice, device, ?_, window⟩
  intro other bound
  dsimp only
  by_cases here : other = slot
  · rw [here, Function.update_self]
    exact (mirrorOf_none nonzero missing (mem_occupied.mp member).1).symm
  · rw [Function.update_of_ne here]
    exact imageless other bound

theorem Accounted.step (accounted : system.Accounted) (call : MirrorCall) : (system.step call).Accounted := by
  cases call with
  | object driver request plain made => exact accounted.callObjects request made
  | bindBufferMemory bufferId memoryId bind => exact accounted.bindBufferMemory bufferId memoryId bind
  | bindImageMemory imageId memoryId bind => exact accounted.bindImageMemory imageId memoryId bind
  | setupMemoryMirror request answers => exact accounted.setupMemoryMirror request answers
  | setupDirectMemory request answers => exact accounted.setupDirectMemory request answers
  | maintain driver request invalidate => exact accounted
  | unmapMemoryMirror deviceId memoryId generation => exact accounted.unmapMemoryMirror deviceId memoryId generation

theorem start_accounted (found : Bool) : (start found).Accounted := by
  have free : ∀ entry ∈ (start found).mirrors, (entry.memoryId != 0) = false := by
    intro entry member
    rw [List.eq_of_mem_replicate member]
    rfl
  refine ⟨ObjectContext.empty_paired ⟨12, rfl⟩ (by decide) found, SlotAccounting.Counts.empty free, ?_, ?_⟩
  · exact UInt64.le_iff_toNat_le.mpr (Nat.zero_le _)
  · intro mapping member
    obtain ⟨listed, inUse⟩ := mem_occupied.mp member
    have unused := free mapping listed
    simp [inUse] at unused

/-- The mirrors of a context are accounted for: one slot for a memory, a count of their
bytes that a release only has to subtract from, and memory that stays as it was set up. -/
structure MirrorsAccounted (system : MirrorContext) : Prop where
  once : (system.occupied.map MemoryMapping.memoryId).Nodup
  sum : system.mirrorBytes.toNat = (system.occupied.map fun mapping => mapping.length.toNat).sum
  limit : system.mirrorBytes ≤ memoryMirrorTotalBytes
  releases : ∀ mapping ∈ system.occupied, mapping.length ≤ system.mirrorBytes
  holds : ∀ mapping ∈ system.occupied, system.Holds mapping

/-- Whatever the calls, the driver's answers and the failures, the mirrors stay accounted for. -/
theorem mirrors_stay_accounted (found : Bool) (calls : List MirrorCall) :
    Runs.EveryState step MirrorsAccounted (start found) calls := by
  have states : Runs.EveryState step Accounted (start found) calls :=
    Runs.everyState_of_step (fun _ call accounted => accounted.step call) calls _ (start_accounted found)
  refine states.imp ?_
  intro system accounted
  exact ⟨accounted.counted.once, accounted.counted.sum, accounted.limit, fun _ member => accounted.length_le member,
    accounted.holds⟩

end MirrorContext

end VulkanBridge
