import VulkanBridge.PreparationTrace
import VulkanBridge.MetadataPairing
import VulkanBridge.PreparationSerials

/-!
A preparation that fails: what it has added to the context until then, and that its teardown
takes all of it away again.
-/

namespace VulkanBridge

open HandleTable

namespace ObjectContext

variable {driver : ObjectDriver} {base context next : ObjectContext} {ids : List UInt64} {wireId : UInt64}

/-- The context differs from `base` in images with these ids, that `base` does not know. -/
structure Adds (base context : ObjectContext) (ids : List UInt64) : Prop where
  paired : context.Paired
  unknown : ∀ id ∈ ids, ¬ base.Alive id
  typed : ∀ id ∈ ids, id ≠ 0 → handleType id = .image
  live : ∀ id, id ∉ ids → ∀ parentId nativeBits, context.Live id parentId nativeBits ↔ base.Live id parentId nativeBits
  slots : ∀ type slot, context.metadata type slot = base.metadata type slot ∨
    type = .image ∧ slot < metadataCapacity .image ∧ base.metadata type slot = 0 ∧ context.metadata type slot ∈ ids
  queueInfos : context.queueInfos = base.queueInfos
  mirrors : context.mirrors = base.mirrors
  swapchains : context.swapchains = base.swapchains
  loaded : context.hasGetDeviceProcAddr = base.hasGetDeviceProcAddr

theorem Paired.not_alive_zero (paired : context.Paired) : ¬ context.Alive 0 :=
  fun alive => paired.alive_ne_zero alive rfl

namespace Adds

theorem refl (paired : base.Paired) : Adds base base [] := by
  refine ⟨paired, ?_, ?_, fun _ _ _ _ => Iff.rfl, fun _ _ => .inl rfl, rfl, rfl, rfl, rfl⟩
  · intro id member
    cases member
  · intro id member
    cases member

theorem of_eq (adds : Adds base context ids) (objects : next.objects = context.objects)
    (metadata : next.metadata = context.metadata) (queueInfos : next.queueInfos = context.queueInfos)
    (mirrors : next.mirrors = context.mirrors) (swapchains : next.swapchains = context.swapchains)
    (loaded : next.hasGetDeviceProcAddr = context.hasGetDeviceProcAddr) : Adds base next ids := by
  refine ⟨adds.paired.of_eq objects metadata, adds.unknown, adds.typed, ?_, ?_, queueInfos.trans adds.queueInfos,
    mirrors.trans adds.mirrors, swapchains.trans adds.swapchains, loaded.trans adds.loaded⟩
  · intro id other parentId nativeBits
    rw [Live, objects]
    exact adds.live id other parentId nativeBits
  · rw [metadata]
    exact adds.slots

theorem nativeCreate (adds : Adds base context ids) (type : ObjectType) (native : NativeAnswer) :
    Adds base (context.nativeCreate type native) ids := by
  unfold ObjectContext.nativeCreate
  split
  · exact adds.of_eq rfl rfl rfl rfl rfl rfl
  · exact adds

theorem append (adds : Adds base context ids) (unknown : ¬ base.Alive wireId)
    (typed : wireId ≠ 0 → handleType wireId = .image) : Adds base context (ids ++ [wireId]) := by
  refine ⟨adds.paired, ?_, ?_, ?_, ?_, adds.queueInfos, adds.mirrors, adds.swapchains, adds.loaded⟩
  · intro id member
    rcases List.mem_append.mp member with earlier | last
    · exact adds.unknown id earlier
    · rw [List.mem_singleton.mp last]
      exact unknown
  · intro id member nonzero
    rcases List.mem_append.mp member with earlier | last
    · exact adds.typed id earlier nonzero
    · obtain rfl := List.mem_singleton.mp last
      exact typed nonzero
  · intro id other
    exact adds.live id fun member => other (List.mem_append_left _ member)
  · intro type slot
    rcases adds.slots type slot with same | ⟨isImage, bound, free, member⟩
    · exact .inl same
    · exact .inr ⟨isImage, bound, free, List.mem_append_left _ member⟩

theorem enter (adds : Adds base context ids) {parentId nativeBits : UInt64} {objects : HandleTable} {slot : Nat}
    (serials : ObjectType → UInt64) (unknown : ¬ base.Alive wireId) (typed : wireId ≠ 0 → handleType wireId = .image)
    (inserted : context.objects.insert wireId parentId nativeBits = .ok objects)
    (found : context.slotOf .image 0 = some slot) :
    Adds base (({ context with nextSerial := serials, objects := objects } :
      ObjectContext).setMetadata .image slot wireId)
      (ids ++ [wireId]) := by
  obtain ⟨-, -, -, -, -, live⟩ := adds.paired.sound.insert_ok inserted
  obtain ⟨bound, free⟩ := slotOf_some found
  have grown := adds.append unknown typed
  refine ⟨?_, grown.unknown, grown.typed, ?_, ?_, adds.queueInfos, adds.mirrors, adds.swapchains, adds.loaded⟩
  · exact adds.paired.insertListed _ typed inserted rfl rfl (.inr rfl) found
  · intro id other parent bits
    have different : id ≠ wireId := by
      rintro rfl
      exact other (List.mem_append_right _ (List.mem_singleton_self _))
    have entry : (({ context with nextSerial := serials, objects := objects } : ObjectContext).setMetadata .image slot
        wireId).Live id parent bits ↔ context.Live id parent bits := by
      refine (live id parent bits).trans ⟨?_, .inl⟩
      rintro (old | ⟨same, -⟩)
      · exact old
      · exact absurd same different
    exact entry.trans (grown.live id other parent bits)
  · intro type index
    rw [setMetadata_apply]
    by_cases here : type = .image ∧ index = slot
    · rw [if_pos here]
      obtain ⟨rfl, rfl⟩ := here
      refine .inr ⟨rfl, bound, ?_, List.mem_append_right _ (List.mem_singleton_self _)⟩
      rcases adds.slots .image index with same | ⟨-, -, blank, -⟩
      · rw [← same]
        rcases free with zero | zero
        · exact zero
        · exact zero
      · exact blank
    · rw [if_neg here]
      exact grown.slots type index

theorem takeBack (adds : Adds base context ids) {parentId nativeBits : UInt64} {objects : HandleTable}
    (serials : ObjectType → UInt64) (typed : wireId ≠ 0 → handleType wireId = .image)
    (inserted : context.objects.insert wireId parentId nativeBits = .ok objects) :
    Adds base (({ context with nextSerial := serials, objects := objects } :
      ObjectContext).removeHandle wireId .image).2
      ids := by
  obtain ⟨-, nonzero, -, -⟩ := insert_alive { context with objects := objects } adds.paired.sound inserted rfl
  obtain ⟨left, removed, kept, live⟩ := adds.paired.sound.insert_remove (typed nonzero) inserted
  simp only [removeHandle, removed]
  refine ⟨?_, adds.unknown, adds.typed, ?_, adds.slots, adds.queueInfos, adds.mirrors, adds.swapchains, adds.loaded⟩
  · refine adds.paired.of_alive kept (fun id => ?_) rfl
    simp only [Alive, Live, live]
  · intro id other parent bits
    exact (live id parent bits).trans (adds.live id other parent bits)

end Adds

theorem prepareSwapchainImages_adds (paired : base.Paired) (answers : Nat → SwapchainImageAnswers) (deviceId : UInt64) :
    ∀ remaining index images context, Adds base context (images.map SwapchainImage.imageId) →
      (∀ offset < remaining, ¬ base.Alive (handleId .image (context.nextSerial .image + UInt64.ofNat offset))) →
      Adds base (prepareSwapchainImages answers deviceId remaining index images context).2
        ((prepareSwapchainImages answers deviceId remaining index images context).1.images.map
          SwapchainImage.imageId) := by
  intro remaining
  induction remaining with
  | zero => intro index images context adds _; exact adds
  | succ remaining ih =>
      intro index images context adds unknown
      have unnamed : ∀ {current : ObjectContext} (image memory : UInt64),
          Adds base current (images.map SwapchainImage.imageId) →
          Adds base current ((images ++ [(⟨0, image, memory⟩ : SwapchainImage)]).map SwapchainImage.imageId) := by
        intro current image memory before
        rw [List.map_append]
        exact before.append paired.not_alive_zero fun nonzero => absurd rfl nonzero
      have imaged := adds.nativeCreate .image (answers index).image
      have backed := imaged.nativeCreate .deviceMemory (answers index).memory
      have serial : ((context.nativeCreate .image (answers index).image).nativeCreate .deviceMemory
          (answers index).memory).nextSerial = context.nextSerial := by
        rw [nativeCreate_nextSerial, nativeCreate_nextSerial]
      have fresh : ¬ base.Alive (handleId .image (context.nextSerial .image)) := by
        have first := unknown 0 (Nat.zero_lt_succ _)
        rwa [show UInt64.ofNat 0 = 0 from rfl, UInt64.add_zero] at first
      simp only [prepareSwapchainImages, takeSerial]
      split
      · exact adds
      split
      · exact unnamed _ _ imaged
      split
      · exact unnamed _ _ imaged
      split
      · exact unnamed _ _ backed
      split
      · exact unnamed _ _ backed
      rw [serial]
      have numbered : Adds base ({ ((context.nativeCreate .image (answers index).image).nativeCreate .deviceMemory
            (answers index).memory) with
          nextSerial := Function.update context.nextSerial .image (context.nextSerial .image + 1) } : ObjectContext)
          (images.map SwapchainImage.imageId) := backed.of_eq rfl rfl rfl rfl rfl rfl
      split
      · rw [List.map_append]
        exact numbered.append fresh handleType_handleId
      rename_i objects inserted
      split
      · exact unnamed _ _ (backed.takeBack _ handleType_handleId inserted)
      · rename_i slot found
        apply ih
        · rw [List.map_append]
          exact backed.enter _ fresh handleType_handleId inserted found
        · intro offset below
          have later := unknown (offset + 1) (by omega)
          have next : context.nextSerial .image + 1 + UInt64.ofNat offset =
              context.nextSerial .image + UInt64.ofNat (offset + 1) := by
            rw [UInt64.add_assoc, UInt64.add_comm 1, UInt64.ofNat_add]
            rfl
          simp only [setMetadata, Function.update_self]
          rw [next]
          exact later

/-! ## The teardown -/

theorem removeHandle_unknown {type : ObjectType} (sound : context.objects.Sound) (unknown : ¬ context.Alive wireId) :
    (context.removeHandle wireId type).2 = context := by
  unfold removeHandle
  split
  · rfl
  · rename_i bits objects removed
    obtain ⟨-, -, -, ⟨parent, live⟩, -⟩ := sound.remove_ok removed
    exact absurd ⟨parent, bits, live⟩ unknown

theorem removeHandle_leaves {type : ObjectType} (sound : context.objects.Sound)
    (isType : context.Alive wireId → handleType wireId = type) (id parentId nativeBits : UInt64) :
    (context.removeHandle wireId type).2.Live id parentId nativeBits ↔
      context.Live id parentId nativeBits ∧ id ≠ wireId := by
  by_cases alive : context.Alive wireId
  · obtain ⟨parent, bits, live⟩ := alive
    have expects : handleExpect wireId type = true :=
      (handleExpect_iff _ _).mpr ⟨(sound.live_formed live).1, isType ⟨parent, bits, live⟩⟩
    obtain ⟨objects, removed⟩ := sound.remove_live expects live
    obtain ⟨-, -, -, -, rest⟩ := sound.remove_ok removed
    simp only [removeHandle, removed]
    exact rest id parentId nativeBits
  · rw [removeHandle_unknown sound alive]
    refine ⟨fun live => ⟨live, ?_⟩, And.left⟩
    rintro rfl
    exact alive ⟨parentId, nativeBits, live⟩

theorem clearMetadata_cases (context : ObjectContext) (type : ObjectType) (wireId : UInt64) :
    (context.clearMetadata type wireId = context ∧
        ∀ slot < metadataCapacity type, context.metadata type slot ≠ wireId) ∨
      ∃ slot < metadataCapacity type, context.metadata type slot = wireId ∧
        context.clearMetadata type wireId = context.setMetadata type slot 0 := by
  by_cases listed : ∃ slot < metadataCapacity type, context.metadata type slot = wireId
  · obtain ⟨position, bound, present⟩ := listed
    obtain ⟨slot, found, inside, holds⟩ := slotOf_listed bound present
    refine .inr ⟨slot, inside, holds, ?_⟩
    simp only [clearMetadata, found, holds, if_true]
  · have unlisted : ∀ slot < metadataCapacity type, context.metadata type slot ≠ wireId :=
      fun slot bound holds => listed ⟨slot, bound, holds⟩
    exact .inl ⟨clearMetadata_unlisted unlisted, unlisted⟩

theorem removeHandle_frame (context : ObjectContext) (wireId : UInt64) (type : ObjectType) :
    (context.removeHandle wireId type).2.queueInfos = context.queueInfos ∧
      (context.removeHandle wireId type).2.mirrors = context.mirrors ∧
      (context.removeHandle wireId type).2.swapchains = context.swapchains ∧
      (context.removeHandle wireId type).2.hasGetDeviceProcAddr = context.hasGetDeviceProcAddr := by
  unfold removeHandle
  split
  · exact ⟨rfl, rfl, rfl, rfl⟩
  · exact ⟨rfl, rfl, rfl, rfl⟩

theorem clearMetadata_frame (context : ObjectContext) (type : ObjectType) (wireId : UInt64) :
    (context.clearMetadata type wireId).queueInfos = context.queueInfos ∧
      (context.clearMetadata type wireId).mirrors = context.mirrors ∧
      (context.clearMetadata type wireId).swapchains = context.swapchains ∧
      (context.clearMetadata type wireId).hasGetDeviceProcAddr = context.hasGetDeviceProcAddr := by
  rcases clearMetadata_cases context type wireId with ⟨same, _⟩ | ⟨slot, _, _, cleared⟩
  · rw [same]
    exact ⟨rfl, rfl, rfl, rfl⟩
  · rw [cleared]
    exact ⟨rfl, rfl, rfl, rfl⟩

namespace Adds

theorem removeImage (adds : Adds base context (wireId :: ids)) (paired : base.Paired) :
    Adds base (context.removeSwapchainImage wireId).2 ids := by
  have unknown := adds.unknown wireId List.mem_cons_self
  have rest : ∀ id ∈ ids, ¬ base.Alive id := fun id member => adds.unknown id (List.mem_cons_of_mem _ member)
  have typed : ∀ id ∈ ids, id ≠ 0 → handleType id = .image :=
    fun id member => adds.typed id (List.mem_cons_of_mem _ member)
  have torn := removeSwapchainImage_paired adds.paired wireId
  unfold removeSwapchainImage at torn ⊢
  by_cases zero : wireId = 0
  · subst zero
    rw [if_pos rfl] at torn ⊢
    refine ⟨torn, rest, typed, ?_, ?_, adds.queueInfos, adds.mirrors, adds.swapchains, adds.loaded⟩
    · intro id other parentId nativeBits
      by_cases blank : id = 0
      · subst blank
        constructor
        · exact fun live => absurd ⟨parentId, nativeBits, live⟩ adds.paired.not_alive_zero
        · exact fun live => absurd ⟨parentId, nativeBits, live⟩ unknown
      · exact adds.live id (fun member => (List.mem_cons.mp member).elim blank other) parentId nativeBits
    · intro type slot
      rcases adds.slots type slot with same | ⟨isImage, bound, free, member⟩
      · exact .inl same
      · rcases List.mem_cons.mp member with blank | member
        · exact .inl (blank.trans free.symm)
        · exact .inr ⟨isImage, bound, free, member⟩
  · rw [if_neg zero] at torn ⊢
    have isImage := adds.typed wireId List.mem_cons_self zero
    have sound : (context.clearMetadata .image wireId).objects.Sound := by
      rw [clearMetadata_objects]
      exact adds.paired.sound
    have leaves := removeHandle_leaves sound (fun _ => isImage)
    have gone : ¬ ((context.clearMetadata .image wireId).removeHandle wireId .image).2.Alive wireId := by
      rintro ⟨parentId, nativeBits, live⟩
      exact ((leaves _ _ _).mp live).2 rfl
    have removed := removeHandle_frame (context.clearMetadata .image wireId) wireId .image
    have cleared := clearMetadata_frame context .image wireId
    refine ⟨torn, rest, typed, ?_, ?_, ?_, ?_, ?_, ?_⟩
    · intro id other parentId nativeBits
      rw [leaves, Live, clearMetadata_objects]
      by_cases same : id = wireId
      · subst same
        constructor
        · exact fun live => absurd rfl live.2
        · exact fun live => absurd ⟨parentId, nativeBits, live⟩ unknown
      · rw [and_iff_left same]
        exact adds.live id (fun member => (List.mem_cons.mp member).elim same other) parentId nativeBits
    · intro type slot
      have held := torn.held type slot
      rw [removeHandle_metadata] at held ⊢
      rcases clearMetadata_cases context .image wireId with ⟨same, unlisted⟩ | ⟨home, inside, holds, cleared⟩
      · rw [same]
        rcases adds.slots type slot with kept | ⟨rfl, bound, free, member⟩
        · exact .inl kept
        · rcases List.mem_cons.mp member with here | member
          · exact absurd here (unlisted slot bound)
          · exact .inr ⟨rfl, bound, free, member⟩
      · rw [cleared, setMetadata_apply] at held ⊢
        by_cases here : type = .image ∧ slot = home
        · obtain ⟨rfl, rfl⟩ := here
          rw [if_pos ⟨rfl, rfl⟩]
          rcases adds.slots .image slot with kept | ⟨-, -, free, -⟩
          · rw [kept] at holds
            have inUse : base.metadata .image slot ≠ 0 := by
              rw [holds]
              exact zero
            have alive := (paired.held .image slot inside inUse).2
            rw [holds] at alive
            exact absurd alive unknown
          · exact .inl free.symm
        · rw [if_neg here] at held ⊢
          rcases adds.slots type slot with kept | ⟨rfl, bound, free, member⟩
          · exact .inl kept
          · rcases List.mem_cons.mp member with again | member
            · rw [again] at held
              exact absurd (held bound zero).2 (by rw [← cleared] at *; exact gone)
            · exact .inr ⟨rfl, bound, free, member⟩
    · rw [removed.1, cleared.1, adds.queueInfos]
    · rw [removed.2.1, cleared.2.1, adds.mirrors]
    · rw [removed.2.2.1, cleared.2.2.1, adds.swapchains]
    · rw [removed.2.2.2, cleared.2.2.2, adds.loaded]

theorem nativeDestroyFound (adds : Adds base context ids) (found : Bool) (type : ObjectType) (handle : UInt64) :
    Adds base (context.nativeDestroyFound found type handle) ids := by
  unfold ObjectContext.nativeDestroyFound
  split
  · exact adds.of_eq rfl rfl rfl rfl rfl rfl
  · exact adds

theorem destroyImages (paired : base.Paired) (driver : ObjectDriver) (loaded : Bool) (device : UInt64)
    (images : List SwapchainImage) : ∀ (status : Option Errno) (context : ObjectContext),
      Adds base context (images.map SwapchainImage.imageId) →
      Adds base (destroySwapchainImages driver loaded device images status context).2 [] := by
  induction images with
  | nil => intro status context adds; exact adds
  | cons image rest ih =>
      intro status context adds
      simp only [destroySwapchainImages]
      apply ih
      apply Adds.nativeDestroyFound
      apply Adds.nativeDestroyFound
      exact removeImage adds paired

theorem destroy (paired : base.Paired) (driver : ObjectDriver) (slot : Nat) {swapchain : SwapchainMetadata}
    (adds : Adds base context (swapchain.images.map SwapchainImage.imageId))
    (unknown : ¬ base.Alive swapchain.swapchainId) :
    Adds base (context.destroySwapchainMetadata driver slot swapchain).2 [] := by
  unfold destroySwapchainMetadata
  dsimp only
  have torn := destroyImages paired driver (context.hasGetDeviceProcAddr && swapchain.device != 0) swapchain.device
    swapchain.images (driver.stopStatus slot) _ ((adds.nativeDestroyFound
      (context.hasGetDeviceProcAddr && swapchain.device != 0 && driver.destroys swapchain.device .fence) .fence
      swapchain.presentCompletion).nativeDestroyFound
        (context.hasGetDeviceProcAddr && swapchain.device != 0 && driver.destroys swapchain.device .commandPool)
        .commandPool swapchain.producerCommandPool)
  unfold removeSwapchainHandle
  split
  · exact torn
  · rw [removeHandle_unknown torn.paired.sound]
    · exact torn
    · rintro ⟨parentId, nativeBits, live⟩
      exact unknown ⟨parentId, nativeBits, (torn.live _ List.not_mem_nil _ _).mp live⟩

end Adds

/-- The entries, the metadata and the slots in use are the same. A free slot may have been cleared. -/
structure Untouched (context next : ObjectContext) : Prop where
  live : ∀ wireId parentId nativeBits, next.Live wireId parentId nativeBits ↔ context.Live wireId parentId nativeBits
  metadata : next.metadata = context.metadata
  queueInfos : next.queueInfos = context.queueInfos
  mirrors : next.mirrors = context.mirrors
  slots : ∀ slot, next.slotAt slot = context.slotAt slot ∨
    (context.slotAt slot).swapchainId = 0 ∧ next.slotAt slot = .zero

theorem Untouched.refl (context : ObjectContext) : Untouched context context :=
  ⟨fun _ _ _ => Iff.rfl, rfl, rfl, rfl, fun _ => .inl rfl⟩

theorem Adds.untouched {slot : Nat} (free : (base.slotAt slot).swapchainId = 0)
    (adds : Adds (base.setSwapchain slot .zero) context []) : Untouched base (context.setSwapchain slot .zero) := by
  refine ⟨fun wireId => adds.live wireId List.not_mem_nil, ?_, adds.queueInfos, adds.mirrors, ?_⟩
  · funext type index
    rcases adds.slots type index with same | ⟨_, _, _, member⟩
    · exact same
    · cases member
  · intro other
    have slots : (context.setSwapchain slot .zero).slotAt other =
        ((base.setSwapchain slot .zero).setSwapchain slot .zero).slotAt other := by
      simp only [setSwapchain, slotAt, adds.swapchains]
    rw [slots, slotAt_clear, slotAt_clear]
    by_cases same : other = slot
    · subst same
      rw [if_pos rfl]
      exact .inr ⟨free, rfl⟩
    · rw [if_neg same, if_neg same]
      exact .inl rfl

/-! ## Native objects -/

def nativeOf (type : ObjectType) (handle : UInt64) : List NativeObject := if handle = 0 then [] else [(type, handle)]

def imageNatives (image : SwapchainImage) : List NativeObject :=
  nativeOf .image image.image ++ nativeOf .deviceMemory image.memory

theorem nativeCreate_natives (context : ObjectContext) (type : ObjectType) (native : NativeAnswer)
    (made : native.result = vkSuccess) (conforms : native.result = vkSuccess → native.handle ≠ 0) :
    (context.nativeCreate type native).created = context.created ++ nativeOf type native.handle ∧
      (context.nativeCreate type native).destroyed = context.destroyed := by
  unfold nativeCreate nativeOf
  rw [if_pos made, if_neg (conforms made)]
  exact ⟨rfl, rfl⟩

theorem nativeDestroyFound_natives (context : ObjectContext) (found : Bool) (type : ObjectType) (handle : UInt64) :
    (context.nativeDestroyFound found type handle).destroyed =
      context.destroyed ++ if found then nativeOf type handle else [] := by
  unfold nativeDestroyFound nativeOf
  by_cases null : handle = 0
  · simp [null]
  · cases found with
    | false => simp
    | true => simp [null, nativeDestroy]

theorem prepareSwapchainImages_natives {answers : Nat → SwapchainImageAnswers}
    (images : ∀ index, (answers index).image.result = vkSuccess → (answers index).image.handle ≠ 0)
    (memories : ∀ index, (answers index).memory.result = vkSuccess → (answers index).memory.handle ≠ 0)
    (deviceId : UInt64) : ∀ remaining index listed context, ∃ added,
      (prepareSwapchainImages answers deviceId remaining index listed context).1.images = listed ++ added ∧
      (prepareSwapchainImages answers deviceId remaining index listed context).2.created =
        context.created ++ added.flatMap imageNatives ∧
      (prepareSwapchainImages answers deviceId remaining index listed context).2.destroyed = context.destroyed := by
  intro remaining
  induction remaining with
  | zero => intro index listed context; exact ⟨[], by simp [prepareSwapchainImages]⟩
  | succ remaining ih =>
      intro index listed context
      simp only [prepareSwapchainImages]
      split
      · exact ⟨[], by simp⟩
      rename_i imageMade
      obtain ⟨imaged, imagedKeeps⟩ := nativeCreate_natives context .image (answers index).image
        (not_not.mp imageMade) (images index)
      have alone : imageNatives ⟨0, (answers index).image.handle, 0⟩ =
          nativeOf .image (answers index).image.handle := by
        simp [imageNatives, nativeOf]
      split
      · exact ⟨[⟨0, (answers index).image.handle, 0⟩], rfl, by simp [alone, imaged], imagedKeeps⟩
      split
      · exact ⟨[⟨0, (answers index).image.handle, 0⟩], rfl, by simp [alone, imaged], imagedKeeps⟩
      rename_i memoryMade
      obtain ⟨backed, backedKeeps⟩ := nativeCreate_natives (context.nativeCreate .image (answers index).image)
        .deviceMemory (answers index).memory (not_not.mp memoryMade) (memories index)
      rw [imaged] at backed
      rw [imagedKeeps] at backedKeeps
      have both : ∀ imageId, context.created ++
          [(⟨imageId, (answers index).image.handle, (answers index).memory.handle⟩ : SwapchainImage)].flatMap
            imageNatives = ((context.nativeCreate .image (answers index).image).nativeCreate .deviceMemory
              (answers index).memory).created := by
        intro imageId
        rw [backed]
        simp [imageNatives]
      split
      · exact ⟨_, rfl, (both 0).symm, backedKeeps⟩
      split
      · exact ⟨_, rfl, (both 0).symm, backedKeeps⟩
      have goesOn : ∀ (imageId : UInt64) (next : ObjectContext),
          next.created = ((context.nativeCreate .image (answers index).image).nativeCreate .deviceMemory
            (answers index).memory).created → next.destroyed = context.destroyed →
          ∃ added, (prepareSwapchainImages answers deviceId remaining (index + 1)
              (listed ++ [⟨imageId, (answers index).image.handle, (answers index).memory.handle⟩]) next).1.images =
                listed ++ added ∧
            (prepareSwapchainImages answers deviceId remaining (index + 1)
              (listed ++ [⟨imageId, (answers index).image.handle, (answers index).memory.handle⟩]) next).2.created =
                context.created ++ added.flatMap imageNatives ∧
            (prepareSwapchainImages answers deviceId remaining (index + 1)
              (listed ++ [⟨imageId, (answers index).image.handle, (answers index).memory.handle⟩]) next).2.destroyed =
                context.destroyed := by
        intro imageId next creates keeps
        obtain ⟨added, listing, created, destroyed⟩ := ih (index + 1)
          (listed ++ [⟨imageId, (answers index).image.handle, (answers index).memory.handle⟩]) next
        refine ⟨[⟨imageId, (answers index).image.handle, (answers index).memory.handle⟩] ++ added, ?_, ?_,
          destroyed.trans keeps⟩
        · rw [← List.append_assoc]
          exact listing
        · rw [List.flatMap_append, ← List.append_assoc, both, ← creates]
          exact created
      simp only [takeSerial]
      split
      · exact ⟨_, rfl, (both _).symm, backedKeeps⟩
      split
      · refine ⟨_, rfl, ?_, ?_⟩
        · rw [removeHandle_created]
          exact (both 0).symm
        · rw [removeHandle_destroyed]
          exact backedKeeps
      · rename_i slot found
        exact goesOn _ _ rfl backedKeeps

/-- The teardown destroys the images and their memory, and of the producer what it finds a function for. -/
theorem destroySwapchainImages_natives {loaded : Bool} {device : UInt64} (isLoaded : loaded = true)
    (image : driver.destroys device .image = true) (memory : driver.destroys device .deviceMemory = true)
    (images : List SwapchainImage) : ∀ (status : Option Errno) (context : ObjectContext),
      (destroySwapchainImages driver loaded device images status context).2.destroyed =
        context.destroyed ++ images.flatMap imageNatives := by
  induction images with
  | nil => intro status context; simp [destroySwapchainImages]
  | cons first rest ih =>
      intro status context
      simp only [destroySwapchainImages]
      rw [ih, nativeDestroyFound_natives, nativeDestroyFound_natives, removeSwapchainImage_destroyed]
      simp [isLoaded, image, memory, imageNatives]

theorem destroySwapchainMetadata_natives {swapchain : SwapchainMetadata} (slot : Nat)
    (loaded : context.hasGetDeviceProcAddr = true) (nonzero : swapchain.device ≠ 0)
    (image : driver.destroys swapchain.device .image = true)
    (memory : driver.destroys swapchain.device .deviceMemory = true) :
    (context.destroySwapchainMetadata driver slot swapchain).2.destroyed = context.destroyed ++
      ((if driver.destroys swapchain.device .fence then nativeOf .fence swapchain.presentCompletion else []) ++
        (if driver.destroys swapchain.device .commandPool then
          nativeOf .commandPool swapchain.producerCommandPool else []) ++
        swapchain.images.flatMap imageNatives) := by
  have isLoaded : (context.hasGetDeviceProcAddr && swapchain.device != 0) = true := by
    simp [loaded, nonzero]
  unfold destroySwapchainMetadata
  dsimp only
  have kept : ∀ current : ObjectContext,
      (current.removeSwapchainHandle swapchain.swapchainId).2.destroyed = current.destroyed := by
    intro current
    unfold removeSwapchainHandle
    split
    · rfl
    · exact removeHandle_destroyed current
  rw [kept, destroySwapchainImages_natives isLoaded image memory, nativeDestroyFound_natives,
    nativeDestroyFound_natives]
  simp only [isLoaded, Bool.true_and, List.append_assoc]

/-- What is destroyed is what was made, if the device has the functions for the producer's objects. -/
theorem producer_perm_iff (pool fence : UInt64) (poolFound fenceFound : Bool) (images : List NativeObject)
    (apart : ∀ object ∈ images, object.1 ≠ .commandPool ∧ object.1 ≠ .fence) :
    ((if fenceFound then nativeOf .fence fence else []) ++ (if poolFound then nativeOf .commandPool pool else []) ++
        images).Perm (nativeOf .commandPool pool ++ nativeOf .fence fence ++ images) ↔
      (pool ≠ 0 → poolFound = true) ∧ (fence ≠ 0 → fenceFound = true) := by
  constructor
  · intro perm
    constructor
    · intro made
      have member := perm.mem_iff.mpr (List.mem_append_left _ (List.mem_append_left _
        (show (ObjectType.commandPool, pool) ∈ nativeOf .commandPool pool by simp [nativeOf, made])))
      by_contra lost
      rw [Bool.not_eq_true] at lost
      subst lost
      rcases List.mem_append.mp member with first | last
      · cases fenceFound <;> simp [nativeOf] at first
      · exact (apart _ last).1 rfl
    · intro made
      have member := perm.mem_iff.mpr (List.mem_append_left _ (List.mem_append_right _
        (show (ObjectType.fence, fence) ∈ nativeOf .fence fence by simp [nativeOf, made])))
      by_contra lost
      rw [Bool.not_eq_true] at lost
      subst lost
      rcases List.mem_append.mp member with first | last
      · cases poolFound <;> simp [nativeOf] at first
      · exact (apart _ last).2 rfl
  · rintro ⟨poolFinds, fenceFinds⟩
    have fencePart : (if fenceFound then nativeOf .fence fence else []) = nativeOf .fence fence := by
      by_cases null : fence = 0
      · simp [nativeOf, null]
      · rw [fenceFinds null, if_pos rfl]
    have poolPart : (if poolFound then nativeOf .commandPool pool else []) = nativeOf .commandPool pool := by
      by_cases null : pool = 0
      · simp [nativeOf, null]
      · rw [poolFinds null, if_pos rfl]
    rw [fencePart, poolPart]
    exact List.perm_append_comm.append_right _

/-- The device has a queue and the entry points of the producer, and the driver makes its command pool. -/
structure ProducesPool (context : ObjectContext) (deviceId : UInt64) (answers : SwapchainAnswers) : Prop where
  queued : ∃ infos, context.deviceQueueInfos deviceId = some infos ∧
    (infos.head?.all fun info => info.queueCount == 0) = false
  entryPoints : answers.entryPoints = true
  queue : answers.queue ≠ 0
  made : answers.commandPool.result = vkSuccess

structure Produced (context next : ObjectContext) (deviceId : UInt64) (answers : SwapchainAnswers)
    (swapchain : SwapchainMetadata) : Prop where
  adds : ∀ {base ids}, Adds base context ids → Adds base next ids
  created : next.created = context.created ++
    (nativeOf .commandPool swapchain.producerCommandPool ++ nativeOf .fence swapchain.presentCompletion)
  destroyed : next.destroyed = context.destroyed
  serials : next.nextSerial = context.nextSerial
  pool : swapchain.producerCommandPool ≠ 0 ↔ context.ProducesPool deviceId answers
  fence : swapchain.presentCompletion ≠ 0 ↔
    context.ProducesPool deviceId answers ∧ answers.commands.1 = vkSuccess ∧ answers.fence.result = vkSuccess

theorem createSwapchainProducerResources_produced {answers : SwapchainAnswers} {deviceId device : UInt64}
    (poolConforms : answers.commandPool.result = vkSuccess → answers.commandPool.handle ≠ 0)
    (fenceConforms : answers.fence.result = vkSuccess → answers.fence.handle ≠ 0) {status : Option Errno}
    {swapchain : SwapchainMetadata}
    (outcome : context.createSwapchainProducerResources answers ⟨0, deviceId, device, 0, [], 0, []⟩ =
      (status, swapchain, next)) :
    Produced context next deviceId answers swapchain ∧ swapchain.device = device ∧ swapchain.images = [] ∧
      swapchain.swapchainId = 0 := by
  have blank : ∀ {swapchain : SwapchainMetadata}, swapchain.producerCommandPool = 0 → swapchain.presentCompletion = 0 →
      ¬ context.ProducesPool deviceId answers → Produced context context deviceId answers swapchain := by
    intro swapchain noPool noFence never
    refine ⟨id, ?_, rfl, rfl, ?_, ?_⟩
    · simp [nativeOf, noPool, noFence]
    · exact ⟨fun made => absurd noPool made, fun produces => absurd produces never⟩
    · exact ⟨fun made => absurd noFence made, fun produces => absurd produces.1 never⟩
  unfold createSwapchainProducerResources at outcome
  split at outcome
  · rename_i unknown
    cases outcome
    refine ⟨blank rfl rfl ?_, rfl, rfl, rfl⟩
    rintro ⟨⟨infos, known, _⟩, _, _, _⟩
    rw [unknown] at known
    cases known
  rename_i infos known
  split at outcome
  · rename_i queueless
    cases outcome
    refine ⟨blank rfl rfl ?_, rfl, rfl, rfl⟩
    rintro ⟨⟨others, again, queued⟩, _, _, _⟩
    rw [known] at again
    cases again
    rw [queueless] at queued
    cases queued
  rename_i queued
  split at outcome
  · rename_i missing
    cases outcome
    refine ⟨blank rfl rfl ?_, rfl, rfl, rfl⟩
    rintro ⟨_, entryPoints, _, _⟩
    rw [entryPoints] at missing
    cases missing
  rename_i entryPoints
  split at outcome
  · rename_i null
    cases outcome
    exact ⟨blank rfl rfl fun produces => produces.queue null, rfl, rfl, rfl⟩
  rename_i queue
  split at outcome
  · rename_i refused
    cases outcome
    exact ⟨blank rfl rfl fun produces => refused produces.made, rfl, rfl, rfl⟩
  rename_i made
  have produces : context.ProducesPool deviceId answers :=
    ⟨⟨infos, known, Bool.eq_false_iff.mpr queued⟩, by simpa using entryPoints, queue, not_not.mp made⟩
  have pool := poolConforms (not_not.mp made)
  obtain ⟨pooled, pooledKeeps⟩ := nativeCreate_natives context .commandPool answers.commandPool (not_not.mp made)
    poolConforms
  dsimp only at outcome
  split at outcome
  · rename_i refused
    cases outcome
    refine ⟨⟨fun adds => adds.nativeCreate _ _, ?_, pooledKeeps, nativeCreate_nextSerial .., ?_, ?_⟩, rfl, rfl, rfl⟩
    · simp [pooled, nativeOf]
    · exact ⟨fun _ => produces, fun _ => pool⟩
    · exact ⟨fun none => absurd rfl none, fun all => absurd all.2.1 refused⟩
  rename_i commands
  split at outcome
  · rename_i refused
    cases outcome
    refine ⟨⟨fun adds => adds.nativeCreate _ _, ?_, pooledKeeps, nativeCreate_nextSerial .., ?_, ?_⟩, rfl, rfl, rfl⟩
    · simp [pooled, nativeOf]
    · exact ⟨fun _ => produces, fun _ => pool⟩
    · exact ⟨fun none => absurd rfl none, fun all => absurd all.2.2 refused⟩
  · rename_i fenced
    cases outcome
    have fence := fenceConforms (not_not.mp fenced)
    obtain ⟨both, bothKeep⟩ := nativeCreate_natives (context.nativeCreate .commandPool answers.commandPool) .fence
      answers.fence (not_not.mp fenced) fenceConforms
    refine ⟨⟨fun adds => (adds.nativeCreate _ _).nativeCreate _ _, ?_, bothKeep.trans pooledKeeps, ?_, ?_, ?_⟩, rfl,
      rfl, rfl⟩
    · rw [both, pooled, List.append_assoc]
    · rw [nativeCreate_nextSerial, nativeCreate_nextSerial]
    · exact ⟨fun _ => produces, fun _ => pool⟩
    · exact ⟨fun _ => ⟨produces, not_not.mp commands, not_not.mp fenced⟩, fun _ => fence⟩

/-! ## No trace -/

/-- Each native object made since has been destroyed since. -/
def Undone (context next : ObjectContext) : Prop :=
  ∃ made gone, next.created = context.created ++ made ∧ next.destroyed = context.destroyed ++ gone ∧ gone.Perm made

theorem undone_iff {made gone : List NativeObject} (created : next.created = context.created ++ made)
    (destroyed : next.destroyed = context.destroyed ++ gone) : Undone context next ↔ gone.Perm made := by
  constructor
  · rintro ⟨others, lost, alsoCreated, alsoDestroyed, perm⟩
    rw [created] at alsoCreated
    rw [destroyed] at alsoDestroyed
    rw [List.append_cancel_left alsoCreated, List.append_cancel_left alsoDestroyed]
    exact perm
  · intro perm
    exact ⟨made, gone, created, destroyed, perm⟩

/-- What is left of a preparation. -/
structure NoTrace (context : ObjectContext) (outcome : Answered × DescriptorTrace) : Prop where
  untouched : Untouched context outcome.1.2
  undone : Undone context outcome.1.2
  descriptors : outcome.2.closed.Perm outcome.2.opened

theorem NoTrace.refl (context : ObjectContext) (reply : Except Errno ObjectReply) :
    NoTrace context ((reply, context), ⟨[], []⟩) :=
  ⟨.refl context, (undone_iff (List.append_nil _).symm (List.append_nil _).symm).mpr .nil, .nil⟩

theorem NoTrace.cleared {slot : Nat} (free : (context.slotAt slot).swapchainId = 0)
    (reply : Except Errno ObjectReply) : NoTrace context ((reply, context.setSwapchain slot .zero), ⟨[], []⟩) := by
  refine ⟨⟨fun _ _ _ => Iff.rfl, rfl, rfl, rfl, ?_⟩,
    (undone_iff (List.append_nil _).symm (List.append_nil _).symm).mpr .nil, .nil⟩
  intro other
  rw [slotAt_clear]
  by_cases same : other = slot
  · subst same
    rw [if_pos rfl]
    exact .inr ⟨free, rfl⟩
  · rw [if_neg same]
    exact .inl rfl

/-- A preparation that gives up leaves no trace as far as the device has the functions for what the producer got. -/
theorem noTrace_abandon_iff (paired : context.Paired) {slot : Nat} (free : (context.slotAt slot).swapchainId = 0)
    {swapchain : SwapchainMetadata} {trace : DescriptorTrace} {reply : Except Errno ObjectReply}
    (adds : Adds (context.setSwapchain slot .zero) next (swapchain.images.map SwapchainImage.imageId))
    (unknown : ¬ context.Alive swapchain.swapchainId)
    (created : next.created = context.created ++ (nativeOf .commandPool swapchain.producerCommandPool ++
      nativeOf .fence swapchain.presentCompletion ++ swapchain.images.flatMap imageNatives))
    (destroyed : next.destroyed = context.destroyed) (loaded : context.hasGetDeviceProcAddr = true)
    (nonzero : swapchain.device ≠ 0) (image : driver.destroys swapchain.device .image = true)
    (memory : driver.destroys swapchain.device .deviceMemory = true) (closes : trace.closed.Perm trace.opened) :
    NoTrace context (next.abandonSwapchain driver slot swapchain reply, trace) ↔
      (swapchain.producerCommandPool ≠ 0 → driver.destroys swapchain.device .commandPool = true) ∧
        (swapchain.presentCompletion ≠ 0 → driver.destroys swapchain.device .fence = true) := by
  have apart : ∀ object ∈ swapchain.images.flatMap imageNatives, object.1 ≠ .commandPool ∧ object.1 ≠ .fence := by
    intro object member
    obtain ⟨made, _, member⟩ := List.mem_flatMap.mp member
    simp only [imageNatives, nativeOf, List.mem_append] at member
    rcases member with member | member
    · split at member
      · cases member
      · obtain rfl := List.mem_singleton.mp member
        simp
    · split at member
      · cases member
      · obtain rfl := List.mem_singleton.mp member
        simp
  rw [← producer_perm_iff _ _ _ _ _ apart]
  have madeStays : (next.abandonSwapchain driver slot swapchain reply).2.created = context.created ++ _ :=
    (destroySwapchainMetadata_created driver next slot swapchain).trans created
  have gone : (next.abandonSwapchain driver slot swapchain reply).2.destroyed = _ :=
    destroySwapchainMetadata_natives slot (adds.loaded.trans loaded) nonzero image memory
  rw [destroyed] at gone
  rw [← undone_iff madeStays gone]
  constructor
  · exact fun noTrace => noTrace.undone
  · intro undone
    refine ⟨Adds.untouched free ?_, undone, closes⟩
    have started : (context.setSwapchain slot .zero).Paired := paired.of_eq rfl rfl
    exact adds.destroy started driver slot unknown

/-- A success of the driver comes with a handle. -/
structure Conforms (native : SwapchainNative) : Prop where
  pool : native.commandPool.result = vkSuccess → native.commandPool.handle ≠ 0
  fence : native.fence.result = vkSuccess → native.fence.handle ≠ 0
  images : ∀ index, (native.images index).image.result = vkSuccess → (native.images index).image.handle ≠ 0
  memories : ∀ index, (native.images index).memory.result = vkSuccess → (native.images index).memory.handle ≠ 0

/-- The numbers a preparation takes have not come round to objects in the table. -/
structure Unnumbered (context : ObjectContext) (minImageCount : Nat) : Prop where
  images : ∀ offset < minImageCount,
    ¬ context.Alive (handleId .image (context.nextSerial .image + UInt64.ofNat offset))
  swapchain : ¬ context.Alive (handleId .swapchain (context.nextSerial .swapchain))

/-- The call gets as far as the command pool of the producer, on this device. -/
structure MakesPool (driver : ObjectDriver) (context : ObjectContext) (deviceId : UInt64) (minImageCount : Nat)
    (fields : Verdict) (native : SwapchainNative) (device : UInt64) : Prop where
  fields : fields = none
  room : ¬ context.objects.capacity - context.objects.count < minImageCount + 1
  slot : (context.swapchains.findIdx? fun swapchain => swapchain.swapchainId == 0).isSome = true
  resolved : ∃ physicalId natives, context.objects.lookup deviceId .device = .ok (physicalId, device) ∧
    context.resolvePhysicalDevice physicalId = .ok natives
  ready : context.swapchainReadiness driver device native = none
  control : native.control.isOk = true
  controlled : native.controlled = none
  produces : context.ProducesPool deviceId (native.answers none)

/-- Whatever the producer gets the device can destroy. -/
def DestroysProducer (driver : ObjectDriver) (context : ObjectContext) (deviceId : UInt64) (minImageCount : Nat)
    (fields : Verdict) (native : SwapchainNative) : Prop :=
  ∀ device, MakesPool driver context deviceId minImageCount fields native device →
    driver.destroys device .commandPool = true ∧
      (native.commands.1 = vkSuccess → native.fence.result = vkSuccess → driver.destroys device .fence = true)

theorem swapchainReadiness_none {device : UInt64} {native : SwapchainNative}
    (ready : context.swapchainReadiness driver device native = none) :
    context.hasGetDeviceProcAddr = true ∧ driver.destroys device .image = true ∧
      driver.destroys device .deviceMemory = true := by
  unfold swapchainReadiness at ready
  split at ready
  · cases ready
  · rename_i present
    simp only [Bool.or_eq_true, Bool.not_eq_true', not_or, Bool.not_eq_false] at present
    obtain ⟨⟨⟨⟨loaded, _⟩, image⟩, _⟩, memory⟩ := present
    exact ⟨loaded, image, memory⟩

theorem slotAt_free {slot : Nat}
    (free : (context.swapchains.findIdx? fun swapchain => swapchain.swapchainId == 0) = some slot) :
    (context.slotAt slot).swapchainId = 0 := by
  obtain ⟨bound, isFree, _⟩ := List.findIdx?_eq_some_iff_getElem.mp free
  simp only [slotAt, List.getD_eq_getElem?_getD, List.getElem?_eq_getElem bound, Option.getD_some]
  simpa using isFree

theorem removeHandle_nextSerial (context : ObjectContext) (wireId : UInt64) (type : ObjectType) :
    (context.removeHandle wireId type).2.nextSerial = context.nextSerial := by
  unfold removeHandle
  split
  · rfl
  · rfl

theorem prepareSwapchainImages_nextSerial (answers : Nat → SwapchainImageAnswers) (deviceId : UInt64) :
    ∀ remaining index images (context : ObjectContext),
      (prepareSwapchainImages answers deviceId remaining index images context).2.nextSerial .swapchain =
        context.nextSerial .swapchain := by
  intro remaining
  induction remaining with
  | zero => intro index images context; rfl
  | succ remaining ih =>
      intro index images context
      have other : ObjectType.swapchain ≠ .image := by decide
      simp only [prepareSwapchainImages, takeSerial]
      split
      · rfl
      split
      · rw [nativeCreate_nextSerial]
      split
      · rw [nativeCreate_nextSerial]
      split
      · rw [nativeCreate_nextSerial, nativeCreate_nextSerial]
      split
      · rw [nativeCreate_nextSerial, nativeCreate_nextSerial]
      split
      · simp [other]
      split
      · rw [removeHandle_nextSerial]
        simp [other]
      · rw [ih]
        simp [setMetadata, other]

theorem registerExported_fails {slot : Nat} {native : SwapchainNative} {control : Nat} {descriptors : List Nat}
    {swapchain : SwapchainMetadata}
    (failed : ¬ Reports (context.registerExported driver slot native control descriptors swapchain).1.1) :
    ∃ (numbered : ObjectContext) (swapchainId : UInt64) (reply : Except Errno ObjectReply) (trace : DescriptorTrace),
      context.registerExported driver slot native control descriptors swapchain =
        (numbered.abandonSwapchain driver slot { swapchain with swapchainId := swapchainId } reply, trace) ∧
      (swapchainId = swapchain.swapchainId ∨ swapchainId = handleId .swapchain (context.nextSerial .swapchain)) ∧
      (∀ {base ids}, Adds base context ids → Adds base numbered ids) ∧ numbered.created = context.created ∧
      numbered.destroyed = context.destroyed ∧ trace.closed.Perm trace.opened := by
  unfold registerExported registerSwapchain at failed ⊢
  generalize (native.answers none).duplicated = duplicated at failed ⊢
  cases duplicated with
  | some code =>
      exact ⟨context, swapchain.swapchainId, _, _, rfl, .inl rfl, id, rfl, rfl, List.perm_append_singleton _ _⟩
  | none =>
      dsimp only [takeSerial] at failed ⊢
      generalize context.objects.insert (handleId .swapchain (context.nextSerial .swapchain)) swapchain.deviceId
        (UInt64.ofNat (slot + 1)) = inserted at failed ⊢
      cases inserted with
      | error code =>
          refine ⟨_, _, _, _, rfl, .inr rfl, ?_, rfl, rfl, List.perm_append_singleton _ _⟩
          exact fun adds => adds.of_eq rfl rfl rfl rfl rfl rfl
      | ok objects => exact absurd ⟨_, rfl⟩ failed

/-- A call that does not report success leaves no trace, unless the device lacks a function for
what the producer got. -/
theorem prepareSwapchainTraced_noTrace (paired : context.Paired) (driver : ObjectDriver) (deviceId : UInt64)
    (minImageCount : Nat) (fields : Verdict) (native : SwapchainNative) (conforms : Conforms native)
    (unnumbered : context.Unnumbered minImageCount) :
    Reports (context.prepareSwapchainTraced driver deviceId minImageCount fields native).1.1 ∨
      (NoTrace context (context.prepareSwapchainTraced driver deviceId minImageCount fields native) ↔
        DestroysProducer driver context deviceId minImageCount fields native) := by
  have early : ∀ {outcome : Answered × DescriptorTrace}, NoTrace context outcome →
      (∀ device, ¬ MakesPool driver context deviceId minImageCount fields native device) →
      (NoTrace context outcome ↔ DestroysProducer driver context deviceId minImageCount fields native) := by
    intro outcome clean never
    exact iff_of_true clean fun device makes => absurd makes (never device)
  unfold prepareSwapchainTraced
  split
  · exact .inr <| early (.refl _ _) fun device makes => by cases makes.fields
  split
  · rename_i crowded
    exact .inr <| early (.refl _ _) fun device makes => makes.room crowded
  rename_i room
  split
  · rename_i full
    exact .inr <| early (.refl _ _) fun device makes => by simpa [full] using makes.slot
  rename_i slot found
  have free := slotAt_free found
  dsimp only
  split
  · rename_i code unknown
    refine .inr <| early (.cleared free _) fun device makes => ?_
    obtain ⟨physicalId, natives, known, _⟩ := makes.resolved
    rw [unknown] at known
    cases known
  rename_i physicalId device known
  split
  · rename_i code unknown
    refine .inr <| early (.cleared free _) fun device makes => ?_
    obtain ⟨physicalId, natives, again, resolved⟩ := makes.resolved
    rw [known] at again
    cases again
    rw [unknown] at resolved
    cases resolved
  rename_i natives resolved
  have onDevice : ∀ {other}, MakesPool driver context deviceId minImageCount none native other → other = device := by
    intro other makes
    obtain ⟨physicalId, natives, again, _⟩ := makes.resolved
    rw [known] at again
    cases again
    rfl
  split
  · rename_i verdict unready
    refine .inr <| early (.cleared free _) fun other makes => ?_
    have ready := makes.ready
    rw [onDevice makes, unready] at ready
    cases ready
  rename_i ready
  obtain ⟨loaded, image, memory⟩ := swapchainReadiness_none ready
  have nonzero : device ≠ 0 := by
    obtain ⟨_, live⟩ := (paired.sound.lookup_eq_ok).mp known
    exact (paired.sound.live_formed live).2
  have started : (context.setSwapchain slot .zero).Paired := paired.of_eq rfl rfl
  have decides : ∀ swapchain : SwapchainMetadata,
      (swapchain.producerCommandPool ≠ 0 ↔ MakesPool driver context deviceId minImageCount none native device) →
      (swapchain.presentCompletion ≠ 0 ↔ MakesPool driver context deviceId minImageCount none native device ∧
        native.commands.1 = vkSuccess ∧ native.fence.result = vkSuccess) →
      ((swapchain.producerCommandPool ≠ 0 → driver.destroys device .commandPool = true) ∧
        (swapchain.presentCompletion ≠ 0 → driver.destroys device .fence = true) ↔
          DestroysProducer driver context deviceId minImageCount none native) := by
    intro swapchain pool fence
    rw [pool, fence]
    constructor
    · rintro ⟨destroysPool, destroysFence⟩ other makes
      obtain rfl := onDevice makes
      exact ⟨destroysPool makes, fun commands fenced => destroysFence ⟨makes, commands, fenced⟩⟩
    · intro destroys
      exact ⟨fun makes => (destroys device makes).1, fun all => (destroys device all.1).2 all.2.1 all.2.2⟩
  have blank : ∀ {trace : DescriptorTrace} {reply : Except Errno ObjectReply}, trace.closed.Perm trace.opened →
      (∀ other, ¬ MakesPool driver context deviceId minImageCount none native other) →
      (NoTrace context ((context.setSwapchain slot .zero).abandonSwapchain driver slot
        ⟨0, deviceId, device, 0, [], 0, []⟩ reply, trace) ↔
          DestroysProducer driver context deviceId minImageCount none native) := by
    intro trace reply closes never
    let swapchain : SwapchainMetadata := ⟨0, deviceId, device, 0, [], 0, []⟩
    refine Iff.trans ?_ (decides swapchain ?_ ?_)
    · refine noTrace_abandon_iff paired free (.refl started) paired.not_alive_zero ?_ rfl loaded nonzero image
        memory closes
      simp [nativeOf, setSwapchain]
    · exact iff_of_false (not_not.mpr rfl) (never device)
    · exact iff_of_false (not_not.mpr rfl) fun all => never device all.1
  split
  · rename_i code refused
    refine .inr <| blank .nil fun other makes => ?_
    have controls := makes.control
    rw [refused] at controls
    cases controls
  rename_i control controls
  split
  · rename_i code refused
    refine .inr <| blank (.refl _) fun other makes => ?_
    rw [makes.controlled] at refused
    cases refused
  rename_i controlled
  have makesPool : (context.setSwapchain slot .zero).ProducesPool deviceId (native.answers none) ↔
      MakesPool driver context deviceId minImageCount none native device := by
    constructor
    · intro produces
      refine ⟨rfl, room, ?_, ⟨physicalId, natives, known, resolved⟩, ready, ?_, controlled,
        produces.queued, produces.entryPoints, produces.queue, produces.made⟩
      · rw [found]
        rfl
      · rw [controls]
        rfl
    · intro makes
      exact ⟨makes.produces.queued, makes.produces.entryPoints, makes.produces.queue, makes.produces.made⟩
  generalize outcome : (context.setSwapchain slot .zero).createSwapchainProducerResources (native.answers none)
    ⟨0, deviceId, device, 0, [], 0, []⟩ = produced 
  obtain ⟨status, swapchain, next⟩ := produced
  obtain ⟨produced, onIt, imageless, unnamed⟩ := createSwapchainProducerResources_produced conforms.pool
    conforms.fence outcome
  have made := produced.adds (.refl started)
  have settle := decides swapchain (produced.pool.trans makesPool) (produced.fence.trans (and_congr_left' makesPool))
  subst onIt
  cases status with
  | some code =>
      dsimp only
      refine .inr <| Iff.trans ?_ settle
      refine noTrace_abandon_iff paired free ?_ ?_ ?_ produced.destroyed loaded nonzero image memory (.refl _)
      · rw [imageless]
        exact made
      · rw [unnamed]
        exact paired.not_alive_zero
      · rw [imageless, List.flatMap_nil, List.append_nil]
        exact produced.created
  | none =>
      dsimp only
      have same : ((exportSwapchainImages native.images deviceId minImageCount 0 [] [] next).1,
          (exportSwapchainImages native.images deviceId minImageCount 0 [] [] next).2.2) =
          prepareSwapchainImages (native.answers none).images deviceId minImageCount 0 [] next :=
        exportSwapchainImages_objects none minImageCount 0 [] [] next
      have adds := prepareSwapchainImages_adds started (native.answers none).images deviceId minImageCount 0
        [] next made
        (by rw [produced.serials]; exact unnumbered.images)
      have imagesConform : ∀ index, ((native.answers none).images index).image.result = vkSuccess →
          ((native.answers none).images index).image.handle ≠ 0 := conforms.images
      have memoriesConform : ∀ index, ((native.answers none).images index).memory.result = vkSuccess →
          ((native.answers none).images index).memory.handle ≠ 0 := conforms.memories
      obtain ⟨added, listed, created, destroyed⟩ :=
        prepareSwapchainImages_natives imagesConform memoriesConform deviceId
        minImageCount 0 [] next
      have serial : (prepareSwapchainImages (native.answers none).images deviceId minImageCount 0 [] next).2.nextSerial
          .swapchain = context.nextSerial .swapchain := by
        rw [prepareSwapchainImages_nextSerial, produced.serials]
        rfl
      rw [← same] at adds listed created destroyed serial
      generalize exportSwapchainImages native.images deviceId minImageCount 0 [] [] next = exported at *
      obtain ⟨progress, descriptors, last⟩ := exported
      dsimp only at *
      rw [List.nil_append] at listed
      rw [produced.created, List.append_assoc, ← listed] at created
      change last.created = context.created ++ _ at created
      rw [produced.destroyed] at destroyed
      by_cases imagesFailed : progress.result ≠ vkSuccess
      · rw [if_pos imagesFailed]
        refine .inr <| Iff.trans ?_ settle
        refine noTrace_abandon_iff paired free adds ?_ created destroyed loaded nonzero image memory
          (List.perm_append_singleton _ _)
        dsimp only
        rw [unnamed]
        exact paired.not_alive_zero
      · rw [if_neg imagesFailed]
        by_cases reports : Reports (last.registerExported driver slot native control descriptors
            { swapchain with images := progress.images }).1.1
        · exact .inl reports
        obtain ⟨numbered, swapchainId, reply, trace, gaveUp, named, grows, sameMade, sameGone, closes⟩ :=
          registerExported_fails reports
        rw [gaveUp]
        refine .inr <| Iff.trans ?_ settle
        refine noTrace_abandon_iff paired free (grows adds) ?_ (sameMade.trans created) (sameGone.trans destroyed)
          loaded nonzero image memory closes
        rcases named with same | taken
        · dsimp only at same ⊢
          rw [same, unnamed]
          exact paired.not_alive_zero
        · dsimp only
          rw [taken, serial]
          exact unnumbered.swapchain

/-- In a run that is short of `2 ^ 64` calls no number has come round. -/
theorem run_unnumbered (found : Bool) (inputs : List (ObjectDriver × ObjectRequest)) (minImageCount : Nat)
    (few : 2 ^ 56 + inputs.length + minImageCount < 2 ^ 64) :
    (Runs.final step (empty globalObjectCapacity found) inputs).Unnumbered minImageCount := by
  have paired := (run_paired inputs _ (empty_paired ⟨12, rfl⟩ (by decide) found)).final
  have below : ∀ type, type = .image ∨ type = .swapchain →
      SerialsBelow type (2 ^ 56 + inputs.length) (Runs.final step (empty globalObjectCapacity found) inputs) :=
    fun type isType => run_serialsBelow isType inputs _ _ (Nat.le_refl _) (by omega)
      (empty_serialsBelow ⟨12, rfl⟩ (by decide) found)
  constructor
  · intro offset before
    exact (below .image (Or.inl rfl)).not_alive paired (by omega)
  · have swapchain : ¬ Alive _ (handleId .swapchain (_ + UInt64.ofNat 0)) :=
      (below .swapchain (Or.inr rfl)).not_alive paired (by omega)
    rw [show UInt64.ofNat 0 = 0 from rfl, UInt64.add_zero] at swapchain
    exact swapchain

/-- In every state of a run, a preparation that does not report success leaves no trace exactly
when the device can destroy what the producer gets. -/
theorem failed_preparation_leaves_no_trace (found : Bool) (inputs : List (ObjectDriver × ObjectRequest))
    (driver : ObjectDriver) (deviceId : UInt64) (minImageCount : Nat) (fields : Verdict) (native : SwapchainNative)
    (conforms : Conforms native)
    (unnumbered : (Runs.final step (empty globalObjectCapacity found) inputs).Unnumbered minImageCount)
    (failed : ¬ Reports ((Runs.final step (empty globalObjectCapacity found) inputs).prepareSwapchainTraced driver
      deviceId minImageCount fields native).1.1) :
    NoTrace (Runs.final step (empty globalObjectCapacity found) inputs)
        ((Runs.final step (empty globalObjectCapacity found) inputs).prepareSwapchainTraced driver deviceId
          minImageCount fields native) ↔
      DestroysProducer driver (Runs.final step (empty globalObjectCapacity found) inputs) deviceId minImageCount fields
        native := by
  have paired := (run_paired inputs _ (empty_paired ⟨12, rfl⟩ (by decide) found)).final
  rcases prepareSwapchainTraced_noTrace paired driver deviceId minImageCount fields native conforms unnumbered with
    reports | settled
  · exact absurd reports failed
  · exact settled

def grantedSwapchain : SwapchainNative where
  queries := none
  control := .ok 5
  controlled := none
  entryPoints := true
  queue := 31
  commandPool := ⟨vkSuccess, 71⟩
  commands := (vkSuccess, [72, 73, 74, 75])
  fence := ⟨vkSuccess, 76⟩
  images := fun index =>
    ⟨⟨vkSuccess, if index = 0 then 80 else 81⟩, true, ⟨vkSuccess, if index = 0 then 90 else 91⟩, vkSuccess, vkSuccess,
      some (6 + index)⟩
  duplicate := .ok 20

/-- The control descriptor is not duplicated, when both images are there. -/
def unduplicatedSwapchain : SwapchainNative := { grantedSwapchain with duplicate := .error .enomem }

def imagelessSwapchain : SwapchainNative :=
  { grantedSwapchain with
    images := fun _ => ⟨⟨vkErrorOutOfDeviceMemory, 0⟩, true, ⟨vkSuccess, 1⟩, vkSuccess, vkSuccess, none⟩ }

/-- A device without `vkDestroyCommandPool`. -/
def poolKeepingDriver : ObjectDriver := { fullDriver with destroys := fun _ type => type != .commandPool }

theorem grantedSwapchain_conforms : Conforms grantedSwapchain := by
  refine ⟨?_, ?_, ?_, ?_⟩
  · decide
  · decide
  · intro index _
    simp only [grantedSwapchain]
    split
    · decide
    · decide
  · intro index _
    simp only [grantedSwapchain]
    split
    · decide
    · decide

theorem unduplicated_leaves_no_trace :
    NoTrace deviceContext
      (deviceContext.prepareSwapchainTraced fullDriver (handleId .device 1) 2 none unduplicatedSwapchain) := by
  refine (failed_preparation_leaves_no_trace true (swapchainRun.take 3) fullDriver (handleId .device 1) 2 none
    unduplicatedSwapchain ?_ (run_unnumbered true _ 2 (by decide)) ?_).mpr ?_
  · exact ⟨grantedSwapchain_conforms.pool, grantedSwapchain_conforms.fence, grantedSwapchain_conforms.images,
      grantedSwapchain_conforms.memories⟩
  · have failed : ¬ Reports (deviceContext.prepareSwapchainTraced fullDriver (handleId .device 1) 2 none
        unduplicatedSwapchain).1.1 := by
      have refused : (deviceContext.prepareSwapchainTraced fullDriver (handleId .device 1) 2 none
          unduplicatedSwapchain).1.1 = .error .enomem := by
        decide +kernel
      rw [refused]
      rintro ⟨ids, reported⟩
      cases reported
    rw [deviceContext] at failed
    exact failed
  · intro device _
    exact ⟨rfl, fun _ _ => rfl⟩

/-- The images fail, and the command pool stays. -/
theorem command_pool_left_behind :
    ∃ (driver : ObjectDriver) (native : SwapchainNative), Conforms native ∧
      (deviceContext.prepareSwapchainTraced driver (handleId .device 1) 2 none native).1.1 =
        .ok ⟨vkErrorOutOfDeviceMemory, []⟩ ∧
      ¬ NoTrace deviceContext (deviceContext.prepareSwapchainTraced driver (handleId .device 1) 2 none native) := by
  refine ⟨poolKeepingDriver, imagelessSwapchain, ⟨?_, ?_, ?_, ?_⟩, ?_, ?_⟩
  · decide
  · decide
  · intro index made
    cases made
  · exact fun _ _ => (by decide : (1 : UInt64) ≠ 0)
  · decide +kernel
  · intro noTrace
    have made : (deviceContext.prepareSwapchainTraced poolKeepingDriver (handleId .device 1) 2 none
        imagelessSwapchain).1.2.created = deviceContext.created ++ [(.commandPool, 71), (.fence, 76)] := by
      decide +kernel
    have gone : (deviceContext.prepareSwapchainTraced poolKeepingDriver (handleId .device 1) 2 none
        imagelessSwapchain).1.2.destroyed = deviceContext.destroyed ++ [(.fence, 76)] := by
      decide +kernel
    have lengths := ((undone_iff made gone).mp noTrace.undone).length_eq
    cases lengths

end ObjectContext

end VulkanBridge
