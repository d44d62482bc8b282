import VulkanBridge.NativeLifetimes

/-!
What a swapchain that was reported ready has for its producer: a command pool,
two command buffers for each image and a fence.
-/

namespace VulkanBridge

open HandleTable

/-- `acquire_commands[index]` -/
def SwapchainMetadata.acquireCommand (swapchain : SwapchainMetadata) (index : Nat) : UInt64 :=
  swapchain.commands.getD index 0

/-- `present_commands[index]` -/
def SwapchainMetadata.presentCommand (swapchain : SwapchainMetadata) (imageCount index : Nat) : UInt64 :=
  swapchain.commands.getD (imageCount + index) 0

/-- Every native object of the producer is there. -/
structure SwapchainMetadata.Complete (swapchain : SwapchainMetadata) (imageCount : Nat) : Prop where
  pool : swapchain.producerCommandPool ≠ 0
  acquire : ∀ index < imageCount, swapchain.acquireCommand index ≠ 0
  present : ∀ index < imageCount, swapchain.presentCommand imageCount index ≠ 0
  fence : swapchain.presentCompletion ≠ 0

namespace ObjectContext

/-- A driver hands out a handle with each success. -/
structure SwapchainAnswers.Conforms (answers : SwapchainAnswers) (imageCount : Nat) : Prop where
  pool : answers.commandPool.result = vkSuccess → answers.commandPool.handle ≠ 0
  commands : answers.commands.1 = vkSuccess → ∀ index < 2 * imageCount, answers.commands.2.getD index 0 ≠ 0
  fence : answers.fence.result = vkSuccess → answers.fence.handle ≠ 0

/-- The three native calls that make the producer's objects succeed. -/
structure SwapchainAnswers.ProducerMade (answers : SwapchainAnswers) : Prop where
  pool : answers.commandPool.result = vkSuccess
  commands : answers.commands.1 = vkSuccess
  fence : answers.fence.result = vkSuccess

variable {driver : ObjectDriver} {context next : ObjectContext} {answers : SwapchainAnswers}
  {swapchain made : SwapchainMetadata} {deviceId : UInt64} {imageCount : Nat}

/-- A record that starts without objects is complete when the native calls
succeeded, and not when one of them failed. -/
theorem createSwapchainProducerResources_complete (conforms : answers.Conforms imageCount)
    (noPool : swapchain.producerCommandPool = 0) (noFence : swapchain.presentCompletion = 0)
    (outcome : context.createSwapchainProducerResources answers swapchain = (none, made, next)) :
    made.Complete imageCount ↔ answers.ProducerMade := by
  unfold createSwapchainProducerResources at outcome
  split at outcome
  · cases outcome
  split at outcome
  · cases outcome
  split at outcome
  · cases outcome
  split at outcome
  · cases outcome
  split at outcome
  · rename_i failed
    cases outcome
    constructor
    · intro complete
      exact absurd noPool complete.pool
    · intro producer
      exact absurd producer.pool failed
  rename_i poolMade
  dsimp only at outcome
  split at outcome
  · rename_i failed
    cases outcome
    constructor
    · intro complete
      exact absurd noFence complete.fence
    · intro producer
      exact absurd producer.commands failed
  rename_i commandsMade
  split at outcome
  · rename_i failed
    cases outcome
    constructor
    · intro complete
      exact absurd noFence complete.fence
    · intro producer
      exact absurd producer.fence failed
  rename_i fenceMade
  cases outcome
  have pool := not_not.mp poolMade
  have commands := not_not.mp commandsMade
  have fence := not_not.mp fenceMade
  constructor
  · intro _
    exact ⟨pool, commands, fence⟩
  · intro _
    refine ⟨conforms.pool pool, ?_, ?_, conforms.fence fence⟩
    · intro index below
      exact conforms.commands commands index (by omega)
    · intro index below
      exact conforms.commands commands (imageCount + index) (by omega)

theorem prepareSwapchainImages_length (images : Nat → SwapchainImageAnswers) (deviceId : UInt64) :
    ∀ remaining index made (context : ObjectContext),
      (prepareSwapchainImages images deviceId remaining index made context).1.result = vkSuccess →
      (prepareSwapchainImages images deviceId remaining index made context).1.images.length =
        made.length + remaining := by
  have outOfMemory : vkErrorOutOfDeviceMemory ≠ vkSuccess := by decide
  have tooMany : vkErrorTooManyObjects ≠ vkSuccess := by decide
  intro remaining
  induction remaining with
  | zero => intro index made context _; rfl
  | succ remaining ih =>
      intro index made context
      simp only [prepareSwapchainImages]
      split
      · rename_i failed
        exact fun success => absurd success failed
      split
      · exact fun success => absurd success outOfMemory
      split
      · rename_i failed
        exact fun success => absurd success failed
      split
      · rename_i failed
        exact fun success => absurd success failed
      split
      · rename_i failed
        exact fun success => absurd success failed
      simp only [takeSerial]
      split
      · exact fun success => absurd success tooMany
      split
      · exact fun success => absurd success tooMany
      · intro success
        rw [ih _ _ _ success, List.length_append, List.length_singleton]
        omega

theorem registerSwapchain_success {slot : Nat} {duplicated : Option Errno} {ids : List UInt64}
    (bound : slot < context.swapchains.length)
    (answered : (context.registerSwapchain driver slot duplicated swapchain).1 = .ok ⟨vkSuccess, ids⟩) :
    ∃ swapchainId, ids = swapchainId :: swapchain.images.map (·.imageId) ∧
      (context.registerSwapchain driver slot duplicated swapchain).2.slotAt slot =
        { swapchain with swapchainId := swapchainId } := by
  unfold registerSwapchain at answered ⊢
  split at answered
  · cases answered
  simp only [takeSerial] at answered ⊢
  split at answered
  · cases answered
  rename_i objects inserted
  refine ⟨handleId .swapchain (context.nextSerial .swapchain), ?_, ?_⟩
  · cases answered
    rfl
  · have filled := slotAt_setSwapchain { context with objects := objects } slot slot
      { swapchain with swapchainId := handleId .swapchain (context.nextSerial .swapchain) } bound
    rwa [if_pos rfl] at filled

/-- A swapchain that was reported ready is complete exactly when the native calls
of its producer succeeded: a failure of theirs is not reported. -/
theorem prepareSwapchain_complete_iff {minImageCount : Nat} {fields : Verdict} {swapchainId : UInt64}
    {imageIds : List UInt64} (conforms : answers.Conforms minImageCount)
    (answered : (context.prepareSwapchain driver deviceId minImageCount fields answers).1 =
      .ok ⟨vkSuccess, swapchainId :: imageIds⟩) :
    ∃ slot, (context.swapchains.findIdx? fun swapchain => swapchain.swapchainId == 0) = some slot ∧
      imageIds.length = minImageCount ∧
      ((context.prepareSwapchain driver deviceId minImageCount fields answers).2.slotAt slot).swapchainId =
        swapchainId ∧
      (((context.prepareSwapchain driver deviceId minImageCount fields answers).2.slotAt slot).Complete
        minImageCount ↔ answers.ProducerMade) := by
  unfold prepareSwapchain at answered ⊢
  cases fields with
  | some verdict =>
      cases verdict with
      | error code => cases answered
      | ok result => cases answered
  | none =>
      dsimp only at answered ⊢
      split at answered
      · cases answered
      rename_i room
      rw [if_neg room]
      cases free : context.swapchains.findIdx? fun swapchain => swapchain.swapchainId == 0 with
      | none =>
          rw [free] at answered
          cases answered
      | some slot =>
          rw [free] at answered
          dsimp only at answered ⊢
          obtain ⟨bound, -⟩ := List.findIdx?_eq_some_iff_getElem.mp free
          have startBound : slot < (context.setSwapchain slot .zero).swapchains.length := by
            simpa [setSwapchain] using bound
          generalize context.setSwapchain slot .zero = start at *
          cases owner : context.objects.lookup deviceId .device with
          | error code =>
              rw [owner] at answered
              cases answered
          | ok found =>
              rw [owner] at answered
              dsimp only at answered ⊢
              cases physical : context.resolvePhysicalDevice found.1 with
              | error code =>
                  rw [physical] at answered
                  cases answered
              | ok _ =>
                  rw [physical] at answered
                  dsimp only at answered ⊢
                  cases ready : answers.ready with
                  | some verdict =>
                      rw [ready] at answered
                      cases verdict with
                      | error code => cases answered
                      | ok result => cases answered
                  | none =>
                      rw [ready] at answered
                      dsimp only at answered ⊢
                      cases control : answers.control with
                      | some code =>
                          rw [control] at answered
                          cases answered
                      | none =>
                          rw [control] at answered
                          dsimp only at answered ⊢
                          refine ⟨slot, rfl, ?_⟩
                          generalize recorded : createSwapchainProducerResources start answers
                            ⟨0, deviceId, found.2, 0, [], 0, []⟩ = producer at *
                          obtain ⟨status, swapchain, pooled⟩ := producer
                          cases status with
                          | some code => cases answered
                          | none =>
                              have frame := createSwapchainProducerResources_frame start answers
                                ⟨0, deviceId, found.2, 0, [], 0, []⟩
                              rw [recorded] at frame
                              obtain ⟨-, sameSlots, -, -, -⟩ := frame
                              have complete :=
                                createSwapchainProducerResources_complete conforms rfl rfl recorded
                              have slots := prepareSwapchainImages_swapchains answers.images deviceId
                                minImageCount 0 [] pooled
                              have counted := prepareSwapchainImages_length answers.images deviceId
                                minImageCount 0 [] pooled
                              dsimp only at answered sameSlots ⊢
                              generalize prepareSwapchainImages answers.images deviceId minImageCount 0 []
                                pooled = prepared at *
                              obtain ⟨progress, imaged⟩ := prepared
                              dsimp only at answered slots counted ⊢
                              by_cases failed : progress.result ≠ vkSuccess
                              · rw [if_pos failed] at answered
                                simp only [abandonSwapchain, Except.ok.injEq, ObjectReply.mk.injEq]
                                  at answered
                                exact absurd answered.1 failed
                              · rw [if_neg failed] at answered ⊢
                                have imagedBound : slot < imaged.swapchains.length := by
                                  rw [slots, sameSlots]
                                  exact startBound
                                obtain ⟨registered, ids, filled⟩ :=
                                  registerSwapchain_success imagedBound answered
                                rw [filled]
                                obtain ⟨sameId, sameImages⟩ := List.cons.inj ids
                                refine ⟨?_, sameId.symm, ?_⟩
                                · rw [sameImages, List.length_map, counted (not_not.mp failed)]
                                  simp
                                · rw [← complete]
                                  exact ⟨fun made => ⟨made.pool, made.acquire, made.present, made.fence⟩,
                                    fun made => ⟨made.pool, made.acquire, made.present, made.fence⟩⟩

/-- The context in which a device has no swapchain yet. -/
def deviceContext : ObjectContext :=
  Runs.final step (empty globalObjectCapacity true) (swapchainRun.take 3)

theorem prepareSwapchain_complete_iff_full :
    ∃ slot, (deviceContext.swapchains.findIdx? fun swapchain => swapchain.swapchainId == 0) = some slot ∧
      [handleId .image 1, handleId .image 2].length = 2 ∧
      ((deviceContext.prepareSwapchain fullDriver (handleId .device 1) 2 none
        swapchainAnswers).2.slotAt slot).swapchainId = handleId .swapchain 1 ∧
      (((deviceContext.prepareSwapchain fullDriver (handleId .device 1) 2 none
        swapchainAnswers).2.slotAt slot).Complete 2 ↔ swapchainAnswers.ProducerMade) := by
  refine prepareSwapchain_complete_iff ⟨?_, ?_, ?_⟩ ?_
  · decide
  · decide
  · decide
  · decide +kernel

/-- The fence of the producer cannot be created, and the swapchain is ready. -/
theorem unfenced_swapchain_is_ready :
    ∃ (answers : SwapchainAnswers) (ids : List UInt64), answers.Conforms 2 ∧
      (deviceContext.prepareSwapchain fullDriver (handleId .device 1) 2 none answers).1 =
        .ok ⟨vkSuccess, ids⟩ ∧
      ((deviceContext.prepareSwapchain fullDriver (handleId .device 1) 2 none answers).2.slotAt 0).swapchainId =
        handleId .swapchain 1 ∧
      ((deviceContext.prepareSwapchain fullDriver (handleId .device 1) 2 none answers).2.slotAt
        0).presentCompletion = 0 := by
  refine ⟨{ swapchainAnswers with fence := ⟨vkErrorOutOfDeviceMemory, 0⟩ },
    [handleId .swapchain 1, handleId .image 1, handleId .image 2], ⟨?_, ?_, ?_⟩, ?_, ?_, ?_⟩
  · decide
  · decide
  · decide
  · decide +kernel
  · decide +kernel
  · decide +kernel

end ObjectContext

end VulkanBridge
