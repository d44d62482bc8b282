import VulkanBridge.DescriptorSets

/-!
How far the counters of images and swapchains get in a run. A number that is too large for an id is
refused by the table and ends its call, so that in fewer than about `2 ^ 64` calls no counter comes
round, and the ids a preparation is about to give out are new.
-/

namespace VulkanBridge

open HandleTable

namespace ObjectContext

variable {driver : ObjectDriver} {context next : ObjectContext} {type : ObjectType} {bound : Nat}

/-- The counter of a type is at most `bound`, and above the numbers of all its ids in the table. -/
structure SerialsBelow (type : ObjectType) (bound : Nat) (context : ObjectContext) : Prop where
  sound : context.objects.Sound
  bounded : (context.nextSerial type).toNat ≤ bound
  below : ∀ wireId parentId nativeBits, context.Live wireId parentId nativeBits →
    handleType wireId = type → (handleSerial wireId).toNat < (context.nextSerial type).toNat

namespace SerialsBelow

theorem mono {larger : Nat} (serials : SerialsBelow type bound context) (grows : bound ≤ larger) :
    SerialsBelow type larger context :=
  ⟨serials.sound, Nat.le_trans serials.bounded grows, serials.below⟩

theorem of_eq (serials : SerialsBelow type bound context) (objects : next.objects = context.objects)
    (counters : next.nextSerial = context.nextSerial) : SerialsBelow type bound next := by
  refine ⟨by rw [objects]; exact serials.sound, by rw [counters]; exact serials.bounded, ?_⟩
  intro wireId parentId nativeBits live typed
  rw [Live, objects] at live
  rw [counters]
  exact serials.below wireId parentId nativeBits live typed

theorem of_changes (serials : SerialsBelow type bound context) {makes : ObjectType → Prop}
    (changes : Changes makes context next) (other : ¬ makes type) : SerialsBelow type bound next := by
  refine ⟨changes.sound serials.sound, by rw [changes.other other]; exact serials.bounded, ?_⟩
  intro wireId parentId nativeBits live typed
  rw [changes.other other]
  exact serials.below wireId parentId nativeBits (changes.live_other serials.sound other typed live) typed

theorem takeSerial_nextSerial (serials : SerialsBelow type bound context) (last : bound + 1 < 2 ^ 64) :
    ((context.takeSerial type).2.nextSerial type).toNat = (context.nextSerial type).toNat + 1 := by
  have bounded := serials.bounded
  simp only [ObjectContext.takeSerial, Function.update_self]
  rw [UInt64.toNat_add, UInt64.toNat_one, Nat.mod_eq_of_lt (by omega)]

theorem takes (serials : SerialsBelow type bound context) (last : bound + 1 < 2 ^ 64) :
    SerialsBelow type (bound + 1) (context.takeSerial type).2 := by
  have next := serials.takeSerial_nextSerial last
  refine ⟨serials.sound, by rw [next]; exact Nat.succ_le_succ serials.bounded, ?_⟩
  intro wireId parentId nativeBits live typed
  rw [next]
  exact Nat.lt_succ_of_lt (serials.below wireId parentId nativeBits live typed)

/-- A number that enters the table fits in 56 bits. -/
theorem inserts {objects : HandleTable} {parentId nativeBits : UInt64} (serials : SerialsBelow type bound context)
    (wide : 2 ^ 56 ≤ bound) (last : bound + 1 < 2 ^ 64)
    (inserted : context.objects.insert (context.takeSerial type).1 parentId nativeBits = .ok objects) :
    SerialsBelow type bound { (context.takeSerial type).2 with objects := objects } := by
  have grown := serials.takeSerial_nextSerial last
  obtain ⟨sound, _, formed, _, _, entries⟩ := serials.sound.insert_ok inserted
  have known : handleId type (context.nextSerial type) ≠ 0 := handleIsWellFormed_ne_zero formed
  have fits : (context.nextSerial type).toNat < 2 ^ 56 := by
    have small : ¬ handleSerialMask < context.nextSerial type :=
      fun large => known (handleId_eq_zero_iff.mpr (Or.inr (Or.inr large)))
    have mask : handleSerialMask.toNat = 2 ^ 56 - 1 := by decide
    rw [UInt64.lt_iff_toNat_lt] at small
    omega
  refine ⟨sound, ?_, ?_⟩
  · show ((context.takeSerial type).2.nextSerial type).toNat ≤ bound
    omega
  · intro wireId parentId' nativeBits' live typed
    show (handleSerial wireId).toNat < ((context.takeSerial type).2.nextSerial type).toNat
    rw [grown]
    rcases (entries _ _ _).mp live with old | ⟨same, _, _⟩
    · exact Nat.lt_succ_of_lt (serials.below wireId parentId' nativeBits' old typed)
    · have serial : handleSerial wireId = context.nextSerial type := by
        rw [same]
        exact handleSerial_handleId known
      rw [serial]
      exact Nat.lt_succ_self _

theorem removeHandle (serials : SerialsBelow type bound context) (wireId : UInt64) (removed : ObjectType) :
    SerialsBelow type bound (context.removeHandle wireId removed).2 := by
  have changes : Changes (fun _ => False) context _ := removeHandle_changes context wireId removed
  exact serials.of_changes changes id

theorem nativeCreate (serials : SerialsBelow type bound context) (created : ObjectType) (native : NativeAnswer) :
    SerialsBelow type bound (context.nativeCreate created native) := by
  have changes : Changes (fun _ => False) context _ := nativeCreate_changes context created native
  exact serials.of_changes changes id

theorem abandonSwapchain (serials : SerialsBelow type bound context) (slot : Nat) (swapchain : SwapchainMetadata)
    (reply : Except Errno ObjectReply) :
    SerialsBelow type bound (context.abandonSwapchain driver slot swapchain reply).2 := by
  have changes : Changes (fun _ => False) context _ := abandonSwapchain_changes driver context slot swapchain reply
  exact serials.of_changes changes id

/-! ## Calls -/

theorem registerChild (serials : SerialsBelow type bound context) (wide : 2 ^ 56 ≤ bound) (last : bound + 1 < 2 ^ 64)
    (order : SlotOrder) (parentId : UInt64) (native : NativeAnswer) :
    SerialsBelow type (bound + 1) (context.registerChild type order parentId native).2 := by
  simp only [ObjectContext.registerChild]
  split
  · exact (serials.takes last).of_eq rfl rfl
  · rename_i objects inserted
    have held := (serials.inserts wide last inserted).mono (Nat.le_succ bound)
    split
    · exact held
    · split
      · exact held.of_eq rfl rfl
      · exact (held.removeHandle _ _).of_eq rfl rfl

theorem createDeviceChild (serials : SerialsBelow type bound context) (wide : 2 ^ 56 ≤ bound)
    (last : bound + 1 < 2 ^ 64) (order : SlotOrder) (deviceId : UInt64) (fields : Verdict)
    (references : UInt64 → Verdict) (native : NativeAnswer) :
    SerialsBelow type (bound + 1)
      (context.createDeviceChild driver type order deviceId fields references native).2 := by
  have same := serials.mono (Nat.le_succ bound)
  have created := serials.nativeCreate type native
  unfold ObjectContext.createDeviceChild
  split
  · exact same
  split
  · exact same
  split
  · exact same
  split
  · exact same
  split
  · exact same
  split
  · exact same
  split
  · exact (created.mono (Nat.le_succ bound)).of_eq rfl rfl
  · exact created.registerChild wide last order deviceId native

/-- The images of a preparation: only the number of the last one may be refused. -/
theorem prepareSwapchainImages (wide : 2 ^ 56 ≤ bound) (last : bound + 1 < 2 ^ 64)
    (answers : Nat → SwapchainImageAnswers) (deviceId : UInt64) :
    ∀ remaining index images (context : ObjectContext), SerialsBelow .image bound context →
      SerialsBelow .image (bound + 1)
        (ObjectContext.prepareSwapchainImages answers deviceId remaining index images context).2 ∧
      ((ObjectContext.prepareSwapchainImages answers deviceId remaining index images context).1.result = vkSuccess →
        SerialsBelow .image bound
          (ObjectContext.prepareSwapchainImages answers deviceId remaining index images context).2) := by
  have unchanged : ∀ {context : ObjectContext} {success : Prop}, SerialsBelow .image bound context →
      SerialsBelow .image (bound + 1) context ∧ (success → SerialsBelow .image bound context) :=
    fun serials => ⟨serials.mono (Nat.le_succ bound), fun _ => serials⟩
  have tooMany : vkErrorTooManyObjects ≠ vkSuccess := by decide
  intro remaining
  induction remaining with
  | zero => intro index images context serials; exact unchanged serials
  | succ remaining ih =>
      intro index images context serials
      have imaged := serials.nativeCreate .image (answers index).image
      have backed := imaged.nativeCreate .deviceMemory (answers index).memory
      simp only [ObjectContext.prepareSwapchainImages]
      split
      · exact unchanged serials
      split
      · exact unchanged imaged
      split
      · exact unchanged imaged
      split
      · exact unchanged backed
      split
      · exact unchanged backed
      split
      · exact ⟨backed.takes last, fun success => absurd success tooMany⟩
      rename_i objects inserted
      have held := backed.inserts wide last inserted
      split
      · exact unchanged (held.removeHandle _ _)
      · exact ih _ _ _ (held.of_eq rfl rfl)

theorem registerSwapchain (serials : SerialsBelow .swapchain bound context) (wide : 2 ^ 56 ≤ bound)
    (last : bound + 1 < 2 ^ 64) (slot : Nat) (duplicated : Option Errno) (swapchain : SwapchainMetadata) :
    SerialsBelow .swapchain (bound + 1) (context.registerSwapchain driver slot duplicated swapchain).2 := by
  simp only [ObjectContext.registerSwapchain]
  split
  · exact (serials.abandonSwapchain slot _ _).mono (Nat.le_succ bound)
  split
  · exact (serials.takes last).abandonSwapchain slot _ _
  · rename_i objects inserted
    exact ((serials.inserts wide last inserted).mono (Nat.le_succ bound)).of_eq rfl rfl

theorem registerSwapchain_image (serials : SerialsBelow .image bound context) (slot : Nat)
    (duplicated : Option Errno) (swapchain : SwapchainMetadata) :
    SerialsBelow .image bound (context.registerSwapchain driver slot duplicated swapchain).2 := by
  have changes : Changes (· ∈ [.swapchain]) context _ :=
    registerSwapchain_changes (List.mem_singleton.mpr rfl) driver context slot duplicated swapchain
  exact serials.of_changes changes (by decide)

theorem prepareSwapchain (serials : SerialsBelow type bound context) (isType : type = .image ∨ type = .swapchain)
    (wide : 2 ^ 56 ≤ bound) (last : bound + 1 < 2 ^ 64) (deviceId : UInt64) (minImageCount : Nat) (fields : Verdict)
    (answers : SwapchainAnswers) :
    SerialsBelow type (bound + 1) (context.prepareSwapchain driver deviceId minImageCount fields answers).2 := by
  have grows := Nat.le_succ bound
  unfold ObjectContext.prepareSwapchain
  split
  · exact serials.mono grows
  split
  · exact serials.mono grows
  split
  · exact serials.mono grows
  rename_i slot _
  have start : SerialsBelow type bound (context.setSwapchain slot .zero) := serials.of_eq rfl rfl
  split
  · exact start.mono grows
  rename_i physicalId device _
  split
  · exact start.mono grows
  split
  · exact start.mono grows
  split
  · exact (start.abandonSwapchain slot _ _).mono grows
  have frame := createSwapchainProducerResources_frame (context.setSwapchain slot .zero) answers
    ⟨0, deviceId, device, 0, [], 0, []⟩
  dsimp only
  split
  · rename_i code made next outcome
    rw [outcome] at frame
    have produced : SerialsBelow type bound next := start.of_eq frame.1 frame.2.2.1
    exact (produced.abandonSwapchain slot _ _).mono grows
  · rename_i made next outcome
    rw [outcome] at frame
    have produced : SerialsBelow type bound next := start.of_eq frame.1 frame.2.2.1
    rcases isType with rfl | rfl
    · obtain ⟨imaged, prepared⟩ :=
        SerialsBelow.prepareSwapchainImages wide last answers.images deviceId minImageCount 0 [] next produced
      split
      · exact imaged.abandonSwapchain slot _ _
      · rename_i success
        exact ((prepared (not_not.mp success)).registerSwapchain_image slot _ _).mono grows
    · have images : Changes (· ∈ [.image]) next _ :=
        prepareSwapchainImages_changes (List.mem_singleton.mpr rfl) answers.images deviceId minImageCount 0 [] next
      have imaged := produced.of_changes images (by decide)
      split
      · exact (imaged.abandonSwapchain slot _ _).mono grows
      · exact imaged.registerSwapchain wide last slot _ _

/-- A call lets the counter pass the last number of an id at most once. -/
theorem step (serials : SerialsBelow type bound context) (isType : type = .image ∨ type = .swapchain)
    (wide : 2 ^ 56 ≤ bound) (last : bound + 1 < 2 ^ 64) (input : ObjectDriver × ObjectRequest) :
    SerialsBelow type (bound + 1) (context.step input) := by
  obtain ⟨driver, request⟩ := input
  by_cases made : type ∈ request.makes
  · cases request with
    | prepareSwapchain deviceId minImageCount fields answers =>
        exact serials.prepareSwapchain isType wide last deviceId minImageCount fields answers
    | createImage =>
        obtain rfl : type = .image := List.mem_singleton.mp made
        exact serials.createDeviceChild wide last _ _ _ _ _
    | _ => rcases isType with rfl | rfl <;> simp [ObjectRequest.makes] at made
  · exact (serials.of_changes (call_changes driver context request) made).mono (Nat.le_succ bound)

end SerialsBelow

theorem run_serialsBelow (isType : type = .image ∨ type = .swapchain) (inputs : List (ObjectDriver × ObjectRequest)) :
    ∀ (bound : Nat) (start : ObjectContext), 2 ^ 56 ≤ bound → bound + inputs.length < 2 ^ 64 →
      SerialsBelow type bound start → SerialsBelow type (bound + inputs.length) (Runs.final step start inputs) := by
  induction inputs with
  | nil => intro bound start _ _ serials; exact serials
  | cons input rest ih =>
      intro bound start wide few serials
      rw [List.length_cons] at few ⊢
      have stepped := serials.step isType wide (by omega) input
      have later := ih (bound + 1) (start.step input) (by omega) (by omega) stepped
      rw [Nat.add_right_comm, Nat.add_assoc] at later
      exact later

theorem empty_serialsBelow {capacity : Nat} (power : ∃ exponent, capacity = 2 ^ exponent) (large : 8 ≤ capacity)
    (found : Bool) : SerialsBelow type (2 ^ 56) (empty capacity found) := by
  refine ⟨HandleTable.Sound.init power large, by simp [empty], ?_⟩
  rintro wireId parentId nativeBits ⟨index, _, entry⟩ _
  cases entry

/-- A number that the counter has not reached belongs to no object. -/
theorem SerialsBelow.not_alive (serials : SerialsBelow type bound context) (paired : context.Paired) {offset : Nat}
    (fits : bound + offset < 2 ^ 64) :
    ¬ context.Alive (handleId type (context.nextSerial type + UInt64.ofNat offset)) := by
  intro alive
  have known := paired.alive_ne_zero alive
  obtain ⟨parentId, nativeBits, live⟩ := alive
  have below := serials.below _ parentId nativeBits live (handleType_handleId known)
  have bounded := serials.bounded
  have small : (UInt64.ofNat offset).toNat = offset :=
    UInt64.toNat_ofNat_of_lt' (by simp only [UInt64.size]; omega)
  rw [handleSerial_handleId known, UInt64.toNat_add, small, Nat.mod_eq_of_lt (by omega)] at below
  omega

end ObjectContext

end VulkanBridge
