import VulkanBridge.NativeLifetimes

/-!
What `destroy_device` and `destroy_instance` leave when they return an error.
Their own checks come before anything is changed. After them a teardown goes
step by step and nothing that it undid comes back, but the device or the
instance itself is still there.
-/

namespace VulkanBridge

namespace HandleTable

theorem findIndex_wireId (table : HandleTable) (wireId : UInt64) : ∀ probes index found,
    table.findIndex wireId probes index = some found → (table.entries found).wireId = wireId := by
  intro probes
  induction probes with
  | zero => intro index found search; cases search
  | succ probes ih =>
      intro index found search
      simp only [findIndex] at search
      split at search
      · cases search
      split at search
      · rename_i here
        cases search
        exact here.2
      · exact ih _ _ search

theorem remove_clears {table after : HandleTable} {wireId removedBits : UInt64} {expected : ObjectType}
    (removed : table.remove wireId expected = .ok (removedBits, after)) :
    Shrinks table after ∧ ∀ index, handleType (table.entries index).wireId ≠ expected →
      after.entries index = table.entries index := by
  unfold remove at removed
  split at removed
  · cases removed
  rename_i admitted
  split at removed
  · cases removed
  rename_i found search
  cases removed
  refine ⟨⟨rfl, fun index => ?_⟩, fun index other => ?_⟩
  · by_cases here : index = found
    · exact Or.inr (if_pos here)
    · exact Or.inl (if_neg here)
  · refine if_neg ?_
    rintro rfl
    rw [findIndex_wireId table wireId _ _ _ search] at other
    simp only [Bool.or_eq_true, Bool.not_eq_true', not_or, Bool.not_eq_false] at admitted
    exact other ((handleExpect_iff wireId expected).mp admitted.2).2

end HandleTable

open HandleTable

namespace ObjectContext

/-- A teardown that kept every object of a type: handles were removed, metadata
slots cleared and native objects destroyed, and nothing else. -/
structure Recedes (kept : ObjectType) (context next : ObjectContext) : Prop where
  shrinks : Shrinks context.objects next.objects
  standing : ∀ index, handleType (context.objects.entries index).wireId = kept →
    next.objects.entries index = context.objects.entries index
  metadata : ∀ type slot, next.metadata type slot = context.metadata type slot ∨ next.metadata type slot = 0
  mirrors : next.mirrors = context.mirrors
  loaded : next.hasGetDeviceProcAddr = context.hasGetDeviceProcAddr
  destroyed : ∃ more, next.destroyed = context.destroyed ++ more ∧ ∀ native ∈ more, native.1 ≠ kept

variable {driver : ObjectDriver} {context next : ObjectContext} {kept type : ObjectType}

namespace Recedes

theorem refl (kept : ObjectType) (context : ObjectContext) : Recedes kept context context := by
  refine ⟨Shrinks.refl _, fun _ _ => rfl, fun _ _ => Or.inl rfl, rfl, rfl, [], ?_, ?_⟩
  · exact (List.append_nil _).symm
  · intro native member
    cases member

theorem trans {between : ObjectContext} (first : Recedes kept context between)
    (second : Recedes kept between next) : Recedes kept context next := by
  refine ⟨first.shrinks.trans second.shrinks, ?_, ?_, second.mirrors.trans first.mirrors,
    second.loaded.trans first.loaded, ?_⟩
  · intro index isKept
    have same := first.standing index isKept
    rw [← same] at isKept
    exact (second.standing index isKept).trans same
  · intro type slot
    rcases second.metadata type slot with same | zero
    · rw [same]
      exact first.metadata type slot
    · exact Or.inr zero
  · obtain ⟨early, earlyMore, earlyOther⟩ := first.destroyed
    obtain ⟨late, lateMore, lateOther⟩ := second.destroyed
    refine ⟨early ++ late, by rw [lateMore, earlyMore, List.append_assoc], ?_⟩
    intro native member
    rcases List.mem_append.mp member with before | after
    · exact earlyOther native before
    · exact lateOther native after

theorem nativeDestroy (context : ObjectContext) (handle : UInt64) (other : type ≠ kept) :
    Recedes kept context (context.nativeDestroy type handle) := by
  refine ⟨Shrinks.refl _, fun _ _ => rfl, fun _ _ => Or.inl rfl, rfl, rfl, [(type, handle)], rfl, ?_⟩
  intro native member
  rw [List.mem_singleton.mp member]
  exact other

theorem removeHandle (context : ObjectContext) (wireId : UInt64) (other : type ≠ kept) :
    Recedes kept context (context.removeHandle wireId type).2 := by
  unfold ObjectContext.removeHandle
  split
  · exact refl kept context
  · rename_i bits objects removed
    obtain ⟨shrinks, spared⟩ := remove_clears removed
    refine ⟨shrinks, ?_, fun _ _ => Or.inl rfl, rfl, rfl, (refl kept context).destroyed⟩
    intro index isKept
    refine spared index ?_
    rw [isKept]
    exact other.symm

theorem clearMetadata (context : ObjectContext) (type : ObjectType) (wireId : UInt64) :
    Recedes kept context (context.clearMetadata type wireId) := by
  unfold ObjectContext.clearMetadata
  split
  · exact refl kept context
  split
  · rename_i slot _ _
    refine ⟨Shrinks.refl _, fun _ _ => rfl, ?_, rfl, rfl, (refl kept context).destroyed⟩
    intro other index
    simp only [setMetadata, Function.update_apply]
    split
    · rename_i isType
      subst isType
      simp only [Function.update_apply]
      split
      · exact Or.inr rfl
      · exact Or.inl rfl
    · exact Or.inl rfl
  · exact refl kept context

theorem setSwapchain (context : ObjectContext) (slot : Nat) (swapchain : SwapchainMetadata) :
    Recedes kept context (context.setSwapchain slot swapchain) := by
  have unchanged := refl kept context
  exact ⟨unchanged.shrinks, unchanged.standing, unchanged.metadata, rfl, rfl, unchanged.destroyed⟩

end Recedes

theorem sweep_recedes (selects : ObjectContext → HandleEntry → Bool) (act : ObjectContext → UInt64 → Completed)
    (acts : ∀ current wireId, Recedes kept current (act current wireId).2) : ∀ remaining index context,
      Recedes kept context (sweep selects act remaining index context).2 := by
  intro remaining
  induction remaining with
  | zero => intro index context; exact Recedes.refl kept context
  | succ remaining ih =>
      intro index context
      simp only [sweep]
      split
      · have first := acts context (context.objects.entries index).wireId
        split
        · rename_i code last outcome
          rw [outcome] at first
          exact first
        · rename_i nothing last outcome
          rw [outcome] at first
          exact first.trans (ih (index + 1) last)
      · exact ih (index + 1) context

theorem removeChildren_recedes (context : ObjectContext) (children : Option ObjectType) (objectId : UInt64)
    (others : ∀ child, children = some child → child ≠ kept) :
    Recedes kept context (context.removeChildren children objectId).2 := by
  unfold removeChildren
  split
  · exact Recedes.refl kept context
  · rename_i child
    exact sweep_recedes _ _ (fun current childId => Recedes.removeHandle current childId (others child rfl)) _ _ _

theorem destroyDeviceChild_recedes (context : ObjectContext) (busy : Bool) (children : Option ObjectType)
    (objectId : UInt64) (other : type ≠ kept) (others : ∀ child, children = some child → child ≠ kept) :
    Recedes kept context (context.destroyDeviceChild driver type busy children objectId).2 := by
  unfold destroyDeviceChild
  split
  · exact Recedes.refl kept context
  split
  · exact Recedes.refl kept context
  split
  · exact Recedes.refl kept context
  have emptied := removeChildren_recedes context children objectId others
  split
  · rename_i code next outcome
    rw [outcome] at emptied
    exact emptied
  rename_i nothing next outcome
  rw [outcome] at emptied
  have removed := Recedes.removeHandle next objectId other
  split
  · rename_i code last refused
    rw [refused] at removed
    exact emptied.trans removed
  · rename_i nothing last done
    rw [done] at removed
    exact ((emptied.trans removed).trans (.clearMetadata last type objectId)).trans (.nativeDestroy _ _ other)

theorem destroyImageView_recedes (context : ObjectContext) (imageViewId : UInt64) (other : .imageView ≠ kept) :
    Recedes kept context (context.destroyImageView driver imageViewId).2 := by
  unfold destroyImageView
  split
  · exact Recedes.refl kept context
  split
  · exact Recedes.refl kept context
  split
  · exact Recedes.refl kept context
  have removed := Recedes.removeHandle context imageViewId other
  split
  · rename_i code next refused
    rw [refused] at removed
    exact removed
  · rename_i nothing next done
    rw [done] at removed
    exact removed.trans (.nativeDestroy next _ other)

def Outer (kept : ObjectType) : Prop := kept = .device ∨ kept = .inst

theorem Outer.ne (outer : Outer kept) (inner : type ≠ .device ∧ type ≠ .inst) : type ≠ kept := by
  rcases outer with rfl | rfl
  · exact inner.1
  · exact inner.2

theorem nativeDestroyFound_recedes (context : ObjectContext) (found : Bool) (handle : UInt64)
    (other : type ≠ kept) : Recedes kept context (context.nativeDestroyFound found type handle) := by
  unfold nativeDestroyFound
  split
  · exact .nativeDestroy context handle other
  · exact Recedes.refl kept context

theorem removeSwapchainImage_recedes (context : ObjectContext) (imageId : UInt64) (other : .image ≠ kept) :
    Recedes kept context (context.removeSwapchainImage imageId).2 := by
  unfold removeSwapchainImage
  split
  · exact Recedes.refl kept context
  · exact (Recedes.clearMetadata context .image imageId).trans (.removeHandle _ imageId other)

theorem destroySwapchainImages_recedes (outer : Outer kept) (loaded : Bool) (device : UInt64)
    (images : List SwapchainImage) : ∀ (status : Option Errno) (context : ObjectContext),
      Recedes kept context (context.destroySwapchainImages driver loaded device images status).2 := by
  induction images with
  | nil => intro status context; exact Recedes.refl kept context
  | cons image rest ih =>
      intro status context
      simp only [destroySwapchainImages]
      refine Recedes.trans ?_ (ih _ _)
      refine Recedes.trans ?_ (nativeDestroyFound_recedes _ _ _ (outer.ne (by decide)))
      refine Recedes.trans ?_ (nativeDestroyFound_recedes _ _ _ (outer.ne (by decide)))
      exact removeSwapchainImage_recedes context image.imageId (outer.ne (by decide))

theorem removeSwapchainHandle_recedes (context : ObjectContext) (swapchainId : UInt64) (other : .swapchain ≠ kept) :
    Recedes kept context (context.removeSwapchainHandle swapchainId).2 := by
  unfold removeSwapchainHandle
  split
  · exact Recedes.refl kept context
  · exact .removeHandle context swapchainId other

theorem destroySwapchainSlot_recedes (outer : Outer kept) (context : ObjectContext) (slot : Nat) :
    Recedes kept context (context.destroySwapchainSlot driver slot).2 := by
  simp only [destroySwapchainSlot, destroySwapchainMetadata]
  refine Recedes.trans ?_ (.setSwapchain _ slot .zero)
  refine Recedes.trans ?_ (removeSwapchainHandle_recedes _ _ (outer.ne (by decide)))
  refine Recedes.trans ?_ (destroySwapchainImages_recedes outer _ _ _ _ _)
  refine Recedes.trans ?_ (nativeDestroyFound_recedes _ _ _ (outer.ne (by decide)))
  exact nativeDestroyFound_recedes _ _ _ (outer.ne (by decide))

theorem runStages_recedes {stages : List (ObjectContext → Completed)}
    (each : ∀ stage ∈ stages, ∀ current, Recedes kept current (stage current).2) : ∀ context,
      Recedes kept context (runStages stages context).2 := by
  induction stages with
  | nil => intro context; exact Recedes.refl kept context
  | cons stage rest ih =>
      intro context
      have first := each stage (by simp) context
      simp only [runStages]
      split
      · rename_i code last outcome
        rw [outcome] at first
        exact first
      · rename_i nothing last outcome
        rw [outcome] at first
        exact first.trans (ih (fun other member => each other (by simp [member])) last)

theorem swept_recedes (outer : Outer kept) {swept : ObjectType × (ObjectContext → UInt64 → Completed)}
    (member : swept ∈ sweptBeforeViews driver ++ sweptAfterViews driver) (current : ObjectContext)
    (childId : UInt64) : Recedes kept current (swept.2 current childId).2 := by
  have child : ∀ {type : ObjectType} (busy : Bool) (children : Option ObjectType),
      type ≠ .device ∧ type ≠ .inst → (∀ child, children = some child → child ≠ .device ∧ child ≠ .inst) →
      Recedes kept current (current.destroyDeviceChild driver type busy children childId).2 :=
    fun busy children inner inners => destroyDeviceChild_recedes current busy children childId (outer.ne inner)
      fun child isChild => outer.ne (inners child isChild)
  have leaf : ∀ {type : ObjectType} (busy : Bool), type ≠ .device ∧ type ≠ .inst →
      Recedes kept current (current.destroyDeviceChild driver type busy none childId).2 :=
    fun busy inner => child busy none inner (fun _ isChild => nomatch isChild)
  simp only [sweptBeforeViews, sweptAfterViews, List.cons_append, List.nil_append, List.mem_cons,
    List.not_mem_nil, or_false] at member
  rcases member with rfl | rfl | rfl | rfl | rfl | rfl | rfl | rfl | rfl | rfl | rfl | rfl | rfl | rfl
  case inr.inr.inr.inl => exact child false (some .descriptorSet) (by decide) (by simp)
  case inr.inr.inr.inr.inr.inr.inr.inl => exact child false (some .commandBuffer) (by decide) (by simp)
  case inr.inr.inr.inr.inr.inr.inr.inr.inr.inr.inr.inr.inr =>
    exact .removeHandle current childId (outer.ne (by decide))
  all_goals exact leaf _ (by decide)

theorem destroyDeviceStages_recedes (driver : ObjectDriver) (outer : Outer kept) (deviceId : UInt64) :
    ∀ stage ∈ destroyDeviceStages driver deviceId, ∀ current, Recedes kept current (stage current).2 := by
  intro stage member current
  simp only [destroyDeviceStages, List.mem_append, List.mem_map, List.mem_singleton] at member
  rcases member with ((⟨slot, -, rfl⟩ | ⟨swept, before, rfl⟩) | rfl) | ⟨swept, after, rfl⟩
  · dsimp only [destroyDeviceSwapchain]
    split
    · exact destroySwapchainSlot_recedes outer current slot
    · exact Recedes.refl kept current
  · exact sweep_recedes _ _ (swept_recedes outer (List.mem_append_left _ before)) _ _ _
  · exact sweep_recedes _ _ (fun current viewId => destroyImageView_recedes current viewId (outer.ne (by decide)))
      _ _ _
  · exact sweep_recedes _ _ (swept_recedes outer (List.mem_append_right _ after)) _ _ _

theorem removeHandle_refused {wireId : UInt64} {code : Errno}
    (refused : context.removeHandle wireId type = (.error code, next)) : next = context := by
  unfold removeHandle at refused
  split at refused
  · exact (congrArg Prod.snd refused).symm
  · cases congrArg Prod.fst refused

theorem destroyDevice_recedes (context : ObjectContext) (deviceId : UInt64) :
    Recedes .inst context (context.destroyDevice driver deviceId).2 ∧
      ∀ code, (context.destroyDevice driver deviceId).1 = .error code →
        Recedes .device context (context.destroyDevice driver deviceId).2 := by
  unfold destroyDevice
  split
  · exact ⟨Recedes.refl _ context, fun _ _ => Recedes.refl _ context⟩
  have instances := runStages_recedes (destroyDeviceStages_recedes driver (Or.inr rfl) deviceId) context
  have devices := runStages_recedes (destroyDeviceStages_recedes driver (Or.inl rfl) deviceId) context
  split
  · rename_i code next outcome
    rw [outcome] at instances devices
    exact ⟨instances, fun _ _ => devices⟩
  rename_i nothing next outcome
  rw [outcome] at instances devices
  have removed : Recedes .inst next (next.removeHandle deviceId .device).2 :=
    .removeHandle next deviceId (by decide)
  split
  · rename_i code last refused
    rw [refused] at removed
    refine ⟨instances.trans removed, fun _ _ => ?_⟩
    rw [removeHandle_refused refused]
    exact devices
  · rename_i nothing last done
    rw [done] at removed
    refine ⟨?_, fun code refused => nomatch refused⟩
    exact ((instances.trans removed).trans (.clearMetadata last .device deviceId)).trans
      (.nativeDestroy _ _ (by decide))

theorem destroyInstance_recedes (context : ObjectContext) (instanceId : UInt64) (code : Errno)
    (refused : (context.destroyInstance driver instanceId).1 = .error code) :
    Recedes .inst context (context.destroyInstance driver instanceId).2 := by
  unfold destroyInstance at refused ⊢
  split
  · exact Recedes.refl _ context
  rename_i present
  rw [if_neg present] at refused
  split
  · exact Recedes.refl _ context
  rename_i found
  rw [found] at refused
  dsimp only at refused
  have devices : Recedes .inst context (context.sweepDevices driver instanceId).2 :=
    sweep_recedes _ _ (fun current deviceId => (destroyDevice_recedes current deviceId).1) _ _ _
  split
  · rename_i stopped next outcome
    rw [outcome] at devices
    exact devices
  rename_i nothing deviceless outcome
  rw [outcome] at devices refused
  have physicals : Recedes .inst deviceless (deviceless.sweepChildren .physicalDevice instanceId
      (fun current childId => current.removeHandle childId .physicalDevice)).2 :=
    sweep_recedes _ _ (fun current childId => .removeHandle current childId (by decide)) _ _ _
  split
  · rename_i stopped next swept
    rw [swept] at physicals
    exact devices.trans physicals
  rename_i nothing bare swept
  rw [swept] at physicals
  simp only [swept] at refused
  split
  · rename_i stopped last kept
    rw [removeHandle_refused kept]
    exact devices.trans physicals
  · rename_i nothing last done
    simp only [done] at refused
    cases refused

/-- The test of the sweep over the devices of an instance. -/
def ownsDevice (context : ObjectContext) (instanceId : UInt64) (entry : HandleEntry) : Bool :=
  handleType entry.wireId == .device &&
    match context.objects.lookup entry.parentId .physicalDevice with
    | .error _ => false
    | .ok (physicalParent, _) => physicalParent == instanceId

theorem sweep_refused (selects : ObjectContext → HandleEntry → Bool) (act : ObjectContext → UInt64 → Completed)
    (context : ObjectContext) : ∀ remaining index,
      (∀ other, index ≤ other → other < index + remaining → selects context (context.objects.entries other) = true →
        ∃ code, act context (context.objects.entries other).wireId = (.error code, context)) →
      (∃ other, index ≤ other ∧ other < index + remaining ∧ selects context (context.objects.entries other) = true) →
      ∃ code, sweep selects act remaining index context = (.error code, context) := by
  intro remaining
  induction remaining with
  | zero =>
      rintro index - ⟨other, lower, upper, -⟩
      omega
  | succ remaining ih =>
      rintro index refuses ⟨other, lower, upper, selected⟩
      simp only [sweep]
      by_cases here : selects context (context.objects.entries index) = true
      · obtain ⟨code, refused⟩ := refuses index (by omega) (by omega) here
        refine ⟨code, ?_⟩
        rw [if_pos here, refused]
      · rw [if_neg here]
        have later : index ≠ other := by
          rintro rfl
          exact here selected
        exact ih (index + 1) (fun next low high => refuses next (by omega) (by omega))
          ⟨other, by omega, by omega, selected⟩

/-- A teardown that returns an error changed nothing when its own checks, or
those of every device of the instance, refused it. Otherwise it may stop half
way: the handles and the metadata are as before or gone, the mirrors are as
before, and the device or the instance itself was not destroyed. -/
theorem refused_teardown_recedes (driver : ObjectDriver) (context : ObjectContext) :
    (∀ deviceId code, (context.destroyDevice driver deviceId).1 = .error code →
      Recedes .device context (context.destroyDevice driver deviceId).2 ∧
        ((∃ code, context.destroyDeviceChecks driver deviceId = .error code) →
          (context.destroyDevice driver deviceId).2 = context)) ∧
      ∀ instanceId code, (context.destroyInstance driver instanceId).1 = .error code →
        Recedes .inst context (context.destroyInstance driver instanceId).2 ∧
          (context.hasDestroyInstance = false ∨
              (∃ code, context.objects.lookup instanceId .inst = .error code) ∨
              ((∃ index < context.objects.capacity,
                  context.ownsDevice instanceId (context.objects.entries index) = true) ∧
                ∀ index < context.objects.capacity,
                  context.ownsDevice instanceId (context.objects.entries index) = true →
                    ∃ code, context.destroyDeviceChecks driver (context.objects.entries index).wireId = .error code) →
            (context.destroyInstance driver instanceId).2 = context) := by
  have checked : ∀ deviceId, (∃ code, context.destroyDeviceChecks driver deviceId = .error code) →
      ∃ code, context.destroyDevice driver deviceId = (.error code, context) := by
    rintro deviceId ⟨code, refused⟩
    refine ⟨code, ?_⟩
    simp only [destroyDevice, refused]
  refine ⟨fun deviceId code refused => ⟨(destroyDevice_recedes context deviceId).2 code refused, ?_⟩,
    fun instanceId code refused => ⟨destroyInstance_recedes context instanceId code refused, ?_⟩⟩
  · intro atOnce
    obtain ⟨code, outcome⟩ := checked deviceId atOnce
    rw [outcome]
  · rintro (absent | ⟨code, unknown⟩ | ⟨⟨first, bound, owned⟩, each⟩)
    · simp [destroyInstance, absent]
    · simp only [destroyInstance, unknown]
      split <;> rfl
    · obtain ⟨code, outcome⟩ : ∃ code, context.sweepDevices driver instanceId = (.error code, context) := by
        refine sweep_refused _ _ context context.objects.capacity 0 ?_ ⟨first, by omega, by omega, owned⟩
        intro other _ upper selected
        exact checked _ (each other (by omega) selected)
      unfold destroyInstance
      split
      · rfl
      split
      · rfl
      · rw [outcome]

/-- `vkDeviceWaitIdle` reports a lost device. -/
def lostDriver : ObjectDriver := { fullDriver with stopStatus := fun _ => some .eio }

/-- The swapchain of a lost device is torn down and the call fails. -/
theorem lost_device_half_torn :
    ¬ ∀ (driver : ObjectDriver) (context : ObjectContext) (deviceId : UInt64) (code : Errno),
      (context.destroyDevice driver deviceId).1 = .error code →
        (context.destroyDevice driver deviceId).2.objects = context.objects ∧
          (context.destroyDevice driver deviceId).2.metadata = context.metadata ∧
          (context.destroyDevice driver deviceId).2.mirrors = context.mirrors ∧
          (context.destroyDevice driver deviceId).2.destroyed = context.destroyed := by
  intro atomic
  have failed : (swapchainContext.destroyDevice lostDriver (handleId .device 1)).1 = .error .eio := by
    decide +kernel
  have torn : (swapchainContext.destroyDevice lostDriver (handleId .device 1)).2.destroyed ≠
      swapchainContext.destroyed := by decide +kernel
  exact torn (atomic lostDriver swapchainContext (handleId .device 1) .eio failed).2.2.2

end ObjectContext

end VulkanBridge
