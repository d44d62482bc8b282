import VulkanBridge.NativeHoldings

/-!
The create functions of a service context leave every native object with one
holder when the driver's handles are fresh.
-/

namespace VulkanBridge

open HandleTable

namespace ObjectContext

variable {driver : ObjectDriver} {context next : ObjectContext} {loose : List Holding}
  {wireId parentId nativeBits : UInt64} {type : ObjectType}

theorem nativeCreate_success {native : NativeAnswer} (success : native.result = vkSuccess) :
    context.nativeCreate type native =
      { context with created := context.created ++ [(type, native.handle)] } := by
  rw [nativeCreate, if_pos success]

theorem Accounted.nativeCreate (accounted : context.Accounted loose) {native : NativeAnswer}
    (success : native.result = vkSuccess) (parentId : UInt64)
    (fresh : (context.created ++ [(type, native.handle)]).Nodup) :
    (context.nativeCreate type native).Accounted (⟨(type, native.handle), 0, parentId⟩ :: loose) := by
  rw [nativeCreate_success success]
  exact accounted.create (type, native.handle) parentId fresh

theorem Accounted.insertedType (accounted : context.Accounted loose) {objects : HandleTable} {serial : UInt64}
    (inserted : context.objects.insert (handleId type serial) parentId nativeBits = .ok objects) :
    handleType (handleId type serial) = type :=
  handleType_handleId (handleIsWellFormed_ne_zero (accounted.sound.insert_ok inserted).2.2.1)

theorem Accounted.giveUp {native : NativeAnswer}
    (accounted : context.Accounted (⟨(type, native.handle), 0, parentId⟩ :: loose)) :
    (context.giveUp type native).2.Accounted loose :=
  accounted.destroy (accounted.unshared_of_zero (by simp) rfl)

theorem registerChild_accounted {native : NativeAnswer} (order : SlotOrder) (isOwned : type.owned = true)
    (accounted : context.Accounted [⟨(type, native.handle), 0, parentId⟩]) :
    (context.registerChild type order parentId native).2.Accounted [] := by
  unfold registerChild takeSerial
  dsimp only
  split
  · exact Accounted.giveUp (accounted.of_eq rfl rfl rfl rfl)
  · rename_i objects inserted
    have isType := accounted.insertedType inserted
    have tagged := accounted.insert inserted isType isOwned
    split
    · exact tagged.drop.of_eq rfl rfl rfl rfl
    · split
      · exact tagged.drop.of_eq rfl rfl rfl rfl
      · -- The handle is taken back, so that nothing shares the object.
        obtain ⟨left, removed, sound, live⟩ := accounted.sound.insert_remove isType inserted
        simp only [removeHandle, removed]
        exact Accounted.giveUp
          (accounted.of_live sound (fun id parent bits found => (live id parent bits).mp found) rfl rfl rfl)

theorem registerChild_created (order : SlotOrder) (native : NativeAnswer) :
    (context.registerChild type order parentId native).2.created = context.created := by
  unfold registerChild takeSerial giveUp
  dsimp only
  split
  · rfl
  split
  · rfl
  split
  · rfl
  · rw [nativeDestroy_created, removeHandle_created]

/-- A call whose creations were fresh leaves everything accounted for. -/
def Settled {α : Type} (outcome : α × ObjectContext) : Prop :=
  outcome.2.created.Nodup → outcome.2.Accounted []

theorem settled_registerChild (accounted : context.Accounted []) (order : SlotOrder) {native : NativeAnswer}
    (success : ¬ native.result ≠ vkSuccess) (isOwned : type.owned = true) :
    Settled ((context.nativeCreate type native).registerChild type order parentId native) := by
  intro fresh
  have created : native.result = vkSuccess := by simpa using success
  rw [registerChild_created, nativeCreate_success created] at fresh
  exact registerChild_accounted order isOwned (accounted.nativeCreate created parentId fresh)

theorem settled_giveUp (accounted : context.Accounted []) {native : NativeAnswer}
    (success : ¬ native.result ≠ vkSuccess) :
    Settled ((context.nativeCreate type native).giveUp type native) := by
  intro fresh
  have created : native.result = vkSuccess := by simpa using success
  rw [giveUp, nativeDestroy_created, nativeCreate_success created] at fresh
  exact Accounted.giveUp (accounted.nativeCreate created 0 fresh)

theorem createDeviceChild_settled (accounted : context.Accounted []) (order : SlotOrder) (deviceId : UInt64)
    (fields : Verdict) (references : UInt64 → Verdict) (native : NativeAnswer) (isOwned : type.owned = true) :
    Settled (context.createDeviceChild driver type order deviceId fields references native) := by
  unfold createDeviceChild
  split
  · exact fun _ => accounted
  split
  · exact fun _ => accounted
  split
  · exact fun _ => accounted
  split
  · exact fun _ => accounted
  split
  · exact fun _ => accounted
  split
  · exact fun _ => accounted
  rename_i success
  split
  · exact settled_giveUp accounted success
  · exact settled_registerChild accounted order success isOwned

theorem createImageView_settled (accounted : context.Accounted []) (deviceId imageId : UInt64)
    (fields range : Verdict) (native : NativeAnswer) :
    Settled (context.createImageView driver deviceId imageId fields range native) := by
  unfold createImageView
  split
  · exact fun _ => accounted
  split
  · exact fun _ => accounted
  split
  · exact fun _ => accounted
  split
  · exact fun _ => accounted
  split
  · exact fun _ => accounted
  split
  · exact fun _ => accounted
  split
  · exact fun _ => accounted
  split
  · exact fun _ => accounted
  · rename_i success
    exact settled_registerChild accounted .none success rfl

theorem allocateCommandBuffer_settled (accounted : context.Accounted []) (commandPoolId : UInt64)
    (fields : Verdict) (native : NativeAnswer) :
    Settled (context.allocateCommandBuffer driver commandPoolId fields native) := by
  unfold allocateCommandBuffer
  split
  · exact fun _ => accounted
  split
  · exact fun _ => accounted
  split
  · exact fun _ => accounted
  split
  · exact fun _ => accounted
  · rename_i success
    exact settled_registerChild accounted .none success rfl

theorem insertDescriptorSets_accounted (poolId : UInt64) (sets : List UInt64) :
    ∀ (ids : List UInt64) (context : ObjectContext), context.Accounted [] →
      (insertDescriptorSets poolId sets ids context).2.Accounted [] := by
  induction sets with
  | nil => intro ids context accounted; exact accounted
  | cons set rest ih =>
      intro ids context accounted
      simp only [insertDescriptorSets, takeSerial]
      split
      · exact accounted.of_eq rfl rfl rfl rfl
      · rename_i objects inserted
        have lent : (handleType (handleId .descriptorSet (context.nextSerial .descriptorSet))).owned = false := by
          rw [accounted.insertedType inserted]
          rfl
        exact ih _ _ ((accounted.insertLent inserted lent).of_eq rfl rfl rfl rfl)

theorem allocateDescriptorSets_accounted (accounted : context.Accounted []) (poolId : UInt64)
    (setLayoutIds : List UInt64) (result : VulkanResult) (sets : Nat → UInt64) :
    (context.allocateDescriptorSets driver poolId setLayoutIds result sets).2.Accounted [] := by
  unfold allocateDescriptorSets
  split
  · exact accounted
  split
  · exact accounted
  split
  · exact accounted
  split
  · exact accounted
  split
  · exact accounted
  · exact insertDescriptorSets_accounted poolId _ _ _ accounted

theorem createInstance_settled (accounted : context.Accounted []) (fields : Verdict) (native : NativeAnswer)
    (destroyFound procFound : Bool) :
    Settled (context.createInstance fields native destroyFound procFound) := by
  unfold createInstance
  split
  · exact fun _ => accounted
  split
  · exact fun _ => accounted
  split
  · exact fun _ => accounted
  rename_i success
  have created : native.result = vkSuccess := by simpa using success
  dsimp only
  intro fresh
  have distinct : (context.created ++ [(ObjectType.inst, native.handle)]).Nodup := by
    split at fresh
    · rwa [nativeCreate_success created] at fresh
    split at fresh
    · rwa [nativeDestroy_created, nativeCreate_success created] at fresh
    · rwa [registerChild_created, nativeCreate_success created] at fresh
  have held := accounted.nativeCreate created 0 distinct
  split
  · exact held.drop
  split
  · exact Accounted.giveUp (held.of_eq rfl rfl rfl rfl)
  · exact registerChild_accounted .none rfl (held.of_eq rfl rfl rfl rfl)

theorem registerBorrowed_accounted (accounted : context.Accounted []) (parentId nativeBits : UInt64)
    (lent : type.owned = false) : (context.registerBorrowed type parentId nativeBits).2.Accounted [] := by
  unfold registerBorrowed takeSerial
  dsimp only
  split
  · exact accounted
  split
  · exact accounted.of_eq rfl rfl rfl rfl
  · rename_i objects inserted
    have isLent : (handleType (handleId type (context.nextSerial type))).owned = false := by
      rw [accounted.insertedType inserted]
      exact lent
    exact (accounted.insertLent inserted isLent).of_eq rfl rfl rfl rfl

theorem registerPhysicalDevices_accounted (instanceId : UInt64) (result : VulkanResult) (natives : List UInt64) :
    ∀ (ids : List UInt64) (context : ObjectContext), context.Accounted [] →
      (registerPhysicalDevices instanceId result natives ids context).2.Accounted [] := by
  induction natives with
  | nil => intro ids context accounted; exact accounted
  | cons native rest ih =>
      intro ids context accounted
      have step := registerBorrowed_accounted accounted instanceId native
        (show ObjectType.physicalDevice.owned = false from rfl)
      simp only [registerPhysicalDevices]
      split
      · rename_i code after outcome
        rw [outcome] at step
        exact step
      · rename_i known after outcome
        rw [outcome] at step
        exact ih _ _ step

theorem enumeratePhysicalDevices_accounted (accounted : context.Accounted []) (instanceId : UInt64)
    (answer : Verdict) (result : VulkanResult) (natives : List UInt64) :
    (context.enumeratePhysicalDevices instanceId answer result natives).2.Accounted [] := by
  unfold enumeratePhysicalDevices
  split
  · exact accounted
  split
  · exact accounted
  · exact registerPhysicalDevices_accounted instanceId result natives _ _ accounted

theorem createDevice_settled (accounted : context.Accounted []) (physicalId : UInt64) (fields queues : Verdict)
    (infos : List QueueCreateInfo) (native : NativeAnswer) :
    Settled (context.createDevice driver physicalId fields queues infos native) := by
  unfold createDevice
  split
  · exact fun _ => accounted
  split
  · exact fun _ => accounted
  split
  · exact fun _ => accounted
  split
  · exact fun _ => accounted
  split
  · exact fun _ => accounted
  rename_i success
  have created : native.result = vkSuccess := by simpa using success
  dsimp only [takeSerial]
  intro fresh
  have distinct : (context.created ++ [(ObjectType.device, native.handle)]).Nodup := by
    split at fresh
    · rwa [nativeCreate_success created] at fresh
    split at fresh
    · rwa [giveUp, nativeDestroy_created, nativeCreate_success created] at fresh
    split at fresh
    · rwa [giveUp, nativeDestroy_created, nativeCreate_success created] at fresh
    · rwa [nativeCreate_success created] at fresh
  have held := accounted.nativeCreate created physicalId distinct
  split
  · exact held.drop
  split
  · exact Accounted.giveUp (held.of_eq rfl rfl rfl rfl)
  split
  · exact Accounted.giveUp (held.of_eq rfl rfl rfl rfl)
  · rename_i objects inserted
    have tagged := held.insert inserted (held.insertedType inserted) rfl
    exact tagged.drop.of_eq rfl rfl rfl rfl

theorem getDeviceQueue_accounted (accounted : context.Accounted []) (deviceId : UInt64)
    (queueFamilyIndex queueIndex : UInt32) (present : Bool) (queue : UInt64) :
    (context.getDeviceQueue deviceId queueFamilyIndex queueIndex present queue).2.Accounted [] := by
  unfold getDeviceQueue
  split
  · exact accounted
  split
  · exact accounted
  split
  · exact accounted
  split
  · exact accounted
  split
  · exact accounted
  have step := registerBorrowed_accounted accounted deviceId queue (show ObjectType.queue.owned = false from rfl)
  split
  · rename_i code after outcome
    rw [outcome] at step
    exact step
  · rename_i known after outcome
    rw [outcome] at step
    exact step

end ObjectContext

end VulkanBridge
