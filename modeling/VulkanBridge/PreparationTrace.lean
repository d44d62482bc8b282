import VulkanBridge.SwapchainReadiness

/-!
The preparation of a swapchain with the file descriptors it opens and closes.
-/

namespace VulkanBridge

def vkErrorInvalidExternalHandle : VulkanResult := -1000072003

/-- What the driver answers while one image is made. `descriptor` is the descriptor that an
export that succeeds stores, none if that is negative. -/
structure SwapchainImageNative where
  image : NativeAnswer
  placed : Bool
  memory : NativeAnswer
  bound : VulkanResult
  exported : VulkanResult
  descriptor : Option Nat

def SwapchainImageNative.export (native : SwapchainImageNative) : VulkanResult × Option Nat :=
  if native.exported ≠ vkSuccess then (native.exported, none)
  else
    match native.descriptor with
    | none => (vkErrorInvalidExternalHandle, none)
    | some descriptor => (vkSuccess, some descriptor)

/-- What the driver and the kernel answer while a swapchain is prepared: `queries` stands for
the format and memory queries, `control` for `memfd_create`, `controlled` for what is done
to its descriptor, `duplicate` for `dup`. -/
structure SwapchainNative where
  queries : Verdict
  control : Except Errno Nat
  controlled : Option Errno
  entryPoints : Bool
  queue : UInt64
  commandPool : NativeAnswer
  commands : VulkanResult × List UInt64
  fence : NativeAnswer
  images : Nat → SwapchainImageNative
  duplicate : Except Errno Nat

/-- The descriptors a call got from the driver and the kernel, and those it closed. -/
structure DescriptorTrace where
  opened : List Nat
  closed : List Nat

namespace ObjectContext

variable (driver : ObjectDriver) (context : ObjectContext)

/-- The entry points of a device that the images need, and the queries. Without
`vkGetDeviceProcAddr` the context has no device. -/
def swapchainReadiness (device : UInt64) (native : SwapchainNative) : Verdict :=
  if !context.hasGetDeviceProcAddr || !driver.creates device .image || !driver.destroys device .image ||
      !driver.creates device .deviceMemory || !driver.destroys device .deviceMemory then some (.error .enosys)
  else native.queries

def exportSwapchainImages (natives : Nat → SwapchainImageNative) (deviceId : UInt64) :
    Nat → Nat → List SwapchainImage → List Nat → ObjectContext → SwapchainProgress × List Nat × ObjectContext
  | 0, _, images, descriptors, context => (⟨vkSuccess, images⟩, descriptors, context)
  | remaining + 1, index, images, descriptors, context =>
      let native := natives index
      if native.image.result ≠ vkSuccess then (⟨native.image.result, images⟩, descriptors, context)
      else
        let imaged := context.nativeCreate .image native.image
        if !native.placed then
          (⟨vkErrorOutOfDeviceMemory, images ++ [⟨0, native.image.handle, 0⟩]⟩, descriptors, imaged)
        else if native.memory.result ≠ vkSuccess then
          (⟨native.memory.result, images ++ [⟨0, native.image.handle, 0⟩]⟩, descriptors, imaged)
        else
          let backed := imaged.nativeCreate .deviceMemory native.memory
          let image : SwapchainImage := ⟨0, native.image.handle, native.memory.handle⟩
          if native.bound ≠ vkSuccess then (⟨native.bound, images ++ [image]⟩, descriptors, backed)
          else
            let descriptors := descriptors ++ (native.export).2.toList
            if native.export.1 ≠ vkSuccess then (⟨native.export.1, images ++ [image]⟩, descriptors, backed)
            else
              let (imageId, numbered) := backed.takeSerial .image
              match numbered.objects.insert imageId deviceId native.image.handle with
              | .error _ =>
                  (⟨vkErrorTooManyObjects, images ++ [{ image with imageId := imageId }]⟩, descriptors, numbered)
              | .ok objects =>
                  let held := { numbered with objects := objects }
                  match held.slotOf .image 0 with
                  | none =>
                      (⟨vkErrorTooManyObjects, images ++ [image]⟩, descriptors, (held.removeHandle imageId .image).2)
                  | some slot =>
                      exportSwapchainImages natives deviceId remaining (index + 1)
                        (images ++ [{ image with imageId := imageId }]) descriptors
                        (held.setMetadata .image slot imageId)

end ObjectContext

/-- The answers as far as the objects of the context see them. -/
def SwapchainNative.answers (native : SwapchainNative) (ready : Verdict) : ObjectContext.SwapchainAnswers where
  ready := ready
  control :=
    match native.control with
    | .error code => some code
    | .ok _ => native.controlled
  entryPoints := native.entryPoints
  queue := native.queue
  commandPool := native.commandPool
  commands := native.commands
  fence := native.fence
  images := fun index =>
    let image := native.images index
    ⟨image.image, image.placed, image.memory, image.bound, image.export.1⟩
  duplicated :=
    match native.duplicate with
    | .error code => some code
    | .ok _ => none

namespace ObjectContext

variable (driver : ObjectDriver) (context : ObjectContext)

/-- The end of a preparation whose images are there, and the descriptors it passes out. -/
def registerExported (slot : Nat) (native : SwapchainNative) (control : Nat) (descriptors : List Nat)
    (swapchain : SwapchainMetadata) : Answered × DescriptorTrace :=
  let descriptors := descriptors ++ (native.duplicate).toOption.toList
  let registered := context.registerSwapchain driver slot (native.answers none).duplicated swapchain
  match registered.1 with
  | .error _ => (registered, ⟨control :: descriptors, descriptors ++ [control]⟩)
  | .ok _ => (registered, ⟨control :: descriptors, []⟩)

/-- `bvb_vulkan_global_context_prepare_swapchain` -/
def prepareSwapchainTraced (deviceId : UInt64) (minImageCount : Nat) (fields : Verdict) (native : SwapchainNative) :
    Answered × DescriptorTrace :=
  match fields with
  | some verdict => ((verdict.map (⟨·, []⟩), context), ⟨[], []⟩)
  | none =>
      if context.objects.capacity - context.objects.count < minImageCount + 1 then
        ((.ok ⟨vkErrorTooManyObjects, []⟩, context), ⟨[], []⟩)
      else
        match context.swapchains.findIdx? fun swapchain => swapchain.swapchainId == 0 with
        | none => ((.ok ⟨vkErrorTooManyObjects, []⟩, context), ⟨[], []⟩)
        | some slot =>
            let start := context.setSwapchain slot .zero
            match context.objects.lookup deviceId .device with
            | .error code => ((.error code, start), ⟨[], []⟩)
            | .ok (physicalId, device) =>
                match context.resolvePhysicalDevice physicalId with
                | .error code => ((.error code, start), ⟨[], []⟩)
                | .ok _ =>
                    match context.swapchainReadiness driver device native with
                    | some verdict => ((verdict.map (⟨·, []⟩), start), ⟨[], []⟩)
                    | none =>
                        let swapchain : SwapchainMetadata := ⟨0, deviceId, device, 0, [], 0, []⟩
                        match native.control with
                        | .error code => (start.abandonSwapchain driver slot swapchain (.error code), ⟨[], []⟩)
                        | .ok control =>
                            match native.controlled with
                            | some code =>
                                (start.abandonSwapchain driver slot swapchain (.error code), ⟨[control], [control]⟩)
                            | none =>
                                match start.createSwapchainProducerResources (native.answers none) swapchain with
                                | (some code, swapchain, next) =>
                                    (next.abandonSwapchain driver slot swapchain (.error code), ⟨[control], [control]⟩)
                                | (none, swapchain, next) =>
                                    let (progress, descriptors, next) :=
                                      exportSwapchainImages native.images deviceId minImageCount 0 [] [] next
                                    let swapchain := { swapchain with images := progress.images }
                                    if progress.result ≠ vkSuccess then
                                      (next.abandonSwapchain driver slot swapchain (.ok ⟨progress.result, []⟩),
                                        ⟨control :: descriptors, descriptors ++ [control]⟩)
                                    else next.registerExported driver slot native control descriptors swapchain

section Objects

variable {driver : ObjectDriver} {context : ObjectContext} {deviceId : UInt64} {minImageCount : Nat} {fields : Verdict}
  {native : SwapchainNative}

theorem exportSwapchainImages_objects (ready : Verdict) : ∀ remaining index images descriptors context,
    ((exportSwapchainImages native.images deviceId remaining index images descriptors context).1,
      (exportSwapchainImages native.images deviceId remaining index images descriptors context).2.2) =
      prepareSwapchainImages (native.answers ready).images deviceId remaining index images context := by
  intro remaining
  induction remaining with
  | zero => intro index images descriptors context; rfl
  | succ remaining ih =>
      intro index images descriptors context
      have answer : (native.answers ready).images index =
          ⟨(native.images index).image, (native.images index).placed, (native.images index).memory,
            (native.images index).bound, (native.images index).export.1⟩ := rfl
      simp only [exportSwapchainImages, prepareSwapchainImages]
      rw [answer]
      generalize native.images index = image
      by_cases imageless : image.image.result ≠ vkSuccess
      · simp only [if_pos imageless]
      simp only [if_neg imageless]
      by_cases unplaced : (!image.placed) = true
      · simp only [if_pos unplaced]
      simp only [if_neg unplaced]
      by_cases unbacked : image.memory.result ≠ vkSuccess
      · simp only [if_pos unbacked]
      simp only [if_neg unbacked]
      by_cases unbound : image.bound ≠ vkSuccess
      · simp only [if_pos unbound]
      simp only [if_neg unbound]
      by_cases kept : image.export.1 ≠ vkSuccess
      · simp only [if_pos kept]
      simp only [if_neg kept]
      generalize ((context.nativeCreate .image image.image).nativeCreate .deviceMemory image.memory).takeSerial .image =
        numbering
      obtain ⟨imageId, numbered⟩ := numbering
      dsimp only
      rcases numbered.objects.insert imageId deviceId image.image.handle with code | objects
      · rfl
      dsimp only
      rcases ({ numbered with objects := objects } : ObjectContext).slotOf .image 0 with _ | slot
      · rfl
      · exact ih _ _ _ _

theorem registerExported_objects (ready : Verdict) (slot control : Nat) (descriptors : List Nat)
    (swapchain : SwapchainMetadata) :
    (context.registerExported driver slot native control descriptors swapchain).1 =
      context.registerSwapchain driver slot (native.answers ready).duplicated swapchain := by
  simp only [registerExported]
  split
  · rfl
  · rfl

def answersFor (driver : ObjectDriver) (context : ObjectContext) (deviceId : UInt64) (native : SwapchainNative) :
    SwapchainAnswers :=
  native.answers
    (match context.objects.lookup deviceId .device with
    | .error _ => none
    | .ok (_, device) => context.swapchainReadiness driver device native)

theorem prepareSwapchainTraced_objects :
    (context.prepareSwapchainTraced driver deviceId minImageCount fields native).1 =
      context.prepareSwapchain driver deviceId minImageCount fields (context.answersFor driver deviceId native) := by
  unfold prepareSwapchainTraced prepareSwapchain
  rcases fields with _ | verdict
  · dsimp only
    by_cases room : context.objects.capacity - context.objects.count < minImageCount + 1
    · rw [if_pos room, if_pos room]
    rw [if_neg room, if_neg room]
    rcases free : context.swapchains.findIdx? fun swapchain => swapchain.swapchainId == 0 with _ | slot
    · rw [free]
    rw [free]
    dsimp only
    rcases found : context.objects.lookup deviceId .device with code | ⟨physicalId, device⟩
    · rfl
    dsimp only
    rcases context.resolvePhysicalDevice physicalId with code | _
    · rfl
    have answers : context.answersFor driver deviceId native =
        native.answers (context.swapchainReadiness driver device native) := by
      rw [answersFor, found]
    rw [answers]
    rcases ready : context.swapchainReadiness driver device native with _ | verdict
    · have isReady : (native.answers none).ready = none := rfl
      have control : (native.answers none).control =
          match native.control with
          | .error code => some code
          | .ok _ => native.controlled := rfl
      simp only [isReady, control]
      rcases native.control with code | control
      · rfl
      rcases native.controlled with _ | code
      · dsimp only
        generalize (context.setSwapchain slot .zero).createSwapchainProducerResources (native.answers none)
          ⟨0, deviceId, device, 0, [], 0, []⟩ = produced
        rcases produced with ⟨_ | code, swapchain, next⟩
        · have images : ((exportSwapchainImages native.images deviceId minImageCount 0 [] [] next).1,
              (exportSwapchainImages native.images deviceId minImageCount 0 [] [] next).2.2) =
              prepareSwapchainImages (native.answers none).images deviceId minImageCount 0 [] next :=
            exportSwapchainImages_objects none minImageCount 0 [] [] next
          dsimp only
          simp only [← images]
          generalize exportSwapchainImages native.images deviceId minImageCount 0 [] [] next = exported
          by_cases failed : exported.1.result ≠ vkSuccess
          · rw [if_pos failed, if_pos failed]
          · rw [if_neg failed, if_neg failed]
            exact registerExported_objects none slot control _ _
        · rfl
      · rfl
    · rfl
  · rfl

/-- The call reported success. -/
def Reports (reply : Except Errno ObjectReply) : Prop := ∃ ids, reply = .ok ⟨vkSuccess, ids⟩

theorem registerSwapchain_reply (slot : Nat) (duplicated : Option Errno) (swapchain : SwapchainMetadata) :
    (∃ code, (context.registerSwapchain driver slot duplicated swapchain).1 = .error code) ∨
      Reports (context.registerSwapchain driver slot duplicated swapchain).1 := by
  unfold registerSwapchain abandonSwapchain
  split
  · exact .inl ⟨_, rfl⟩
  dsimp only
  split
  · exact .inl ⟨_, rfl⟩
  · exact .inr ⟨_, rfl⟩

/-- A call that does not report success has closed each descriptor it opened. -/
theorem prepareSwapchainTraced_descriptors (driver : ObjectDriver) (context : ObjectContext) (deviceId : UInt64)
    (minImageCount : Nat) (fields : Verdict) (native : SwapchainNative) :
    Reports (context.prepareSwapchainTraced driver deviceId minImageCount fields native).1.1 ∨
      (context.prepareSwapchainTraced driver deviceId minImageCount fields native).2.closed.Perm
        (context.prepareSwapchainTraced driver deviceId minImageCount fields native).2.opened := by
  unfold prepareSwapchainTraced
  split
  · exact .inr .nil
  split
  · exact .inr .nil
  split
  · exact .inr .nil
  dsimp only
  split
  · exact .inr .nil
  split
  · exact .inr .nil
  split
  · exact .inr .nil
  split
  · exact .inr .nil
  split
  · exact .inr (.refl _)
  split
  · exact .inr (.refl _)
  split
  · exact .inr (List.perm_append_singleton _ _)
  · unfold registerExported
    dsimp only
    split
    · exact .inr (List.perm_append_singleton _ _)
    · rename_i reply registered
      rcases registerSwapchain_reply _ _ _ with ⟨code, refused⟩ | reported
      · rw [refused] at registered
        cases registered
      · exact .inl reported

end Objects

end ObjectContext

end VulkanBridge
