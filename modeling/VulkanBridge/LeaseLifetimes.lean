import VulkanBridge.LeaseHandouts

/-!
Leases and the object table. The requests that destroy or reset a descriptor
pool tell the leases; those that destroy a device or an instance do not, and a
transaction plans for its pool before the pool is looked up. In runs without
these two, what the leases name is live.
-/

namespace VulkanBridge

open HandleTable
open LeaseService
open ObjectContext (Spares Sparing Durable Apart InstanceApart)

variable {driver : ObjectDriver} {service next : LeaseService} {context : ObjectContext}

/-- The pools of the plans and the unclaimed sets of the banks are live. -/
def LeasesLive (service : LeaseService) : Prop :=
  (∀ index < descriptorLeaseBankCount, (service.plans index).poolId ≠ 0 →
    service.context.Alive (service.plans index).poolId) ∧
  ∀ index < descriptorLeaseBankCount, (service.banks index).ready = true →
    ∀ record ∈ (service.banks index).unclaimed, service.context.Alive record.descriptorSetId

/-- The same with what keeps it: the types, the sets' pools, and that a bank
belongs to its plan. -/
structure Leased (service : LeaseService) : Prop where
  sound : service.context.objects.Sound
  pools : ∀ index < descriptorLeaseBankCount, (service.plans index).poolId ≠ 0 →
    handleType (service.plans index).poolId = .descriptorPool ∧
      service.context.Alive (service.plans index).poolId
  sets : ∀ index < descriptorLeaseBankCount, ∀ record ∈ (service.banks index).pending,
    (service.plans index).poolId ≠ 0 ∧ handleType record.descriptorSetId = .descriptorSet ∧
      ∃ bits, service.context.Live record.descriptorSetId (service.plans index).poolId bits

theorem Leased.leasesLive (leased : Leased service) : LeasesLive service := by
  refine ⟨fun index bound some => (leased.pools index bound some).2, ?_⟩
  intro index bound ready record member
  have pending : record ∈ (service.banks index).pending := by
    rw [LeaseBank.pending, if_pos ready]
    exact member
  obtain ⟨-, -, bits, live⟩ := leased.sets index bound record pending
  exact ⟨_, bits, live⟩

def LeaseTracked (service : LeaseService) (pools sets : UInt64 → Prop) (wireId parentId : UInt64) : Prop :=
  (handleType wireId = .descriptorPool ∧ pools wireId ∧
      ∃ index < descriptorLeaseBankCount, (service.plans index).poolId = wireId) ∨
    (handleType wireId = .descriptorSet ∧ sets parentId ∧
      ∃ index < descriptorLeaseBankCount, (service.plans index).poolId = parentId ∧ parentId ≠ 0)

theorem LeaseTracked.durable (service : LeaseService) (pools sets : UInt64 → Prop) :
    Durable (LeaseTracked service pools sets) := by
  rintro wireId parentId (⟨isPool, -⟩ | ⟨isSet, -⟩)
  · rw [isPool]
    rfl
  · rw [isSet]
    rfl

theorem Leased.of_spares (leased : Leased service) {pools sets : UInt64 → Prop}
    (spares : Spares (LeaseTracked service pools sets) service.context next.context)
    (plans : ∀ index < descriptorLeaseBankCount, (next.plans index).poolId ≠ 0 →
      (next.plans index).poolId = (service.plans index).poolId ∧ pools (service.plans index).poolId)
    (banks : ∀ index < descriptorLeaseBankCount, ∀ record ∈ (next.banks index).pending,
      record ∈ (service.banks index).pending ∧ (next.plans index).poolId = (service.plans index).poolId ∧
        sets (service.plans index).poolId) : Leased next := by
  refine ⟨spares.sound, ?_, ?_⟩
  · intro index bound some
    obtain ⟨same, selected⟩ := plans index bound some
    rw [same] at some ⊢
    obtain ⟨isPool, owner, bits, live⟩ := leased.pools index bound some
    exact ⟨isPool, owner, bits, spares.kept _ _ _ (Or.inl ⟨isPool, selected, index, bound, rfl⟩) live⟩
  · intro index bound record member
    obtain ⟨old, same, selected⟩ := banks index bound record member
    obtain ⟨some, isSet, bits, live⟩ := leased.sets index bound record old
    rw [same]
    exact ⟨some, isSet, bits, spares.kept _ _ _ (Or.inr ⟨isSet, selected, index, bound, rfl, some⟩) live⟩

theorem Leased.of_context (leased : Leased service)
    (spares : Spares (LeaseTracked service (fun _ => True) fun _ => True) service.context context) :
    Leased { service with context := context } := by
  refine leased.of_spares spares ?_ ?_
  · intro index _ _
    exact ⟨rfl, trivial⟩
  · intro index _ record member
    exact ⟨member, rfl, trivial⟩

theorem Leased.of_plans (leased : Leased service) (sameContext : next.context = service.context)
    (plans : ∀ index, (next.plans index).poolId = (service.plans index).poolId)
    (banks : ∀ index < descriptorLeaseBankCount, ∀ record ∈ (next.banks index).pending,
      record ∈ (service.banks index).pending) : Leased next := by
  have spares : Spares (LeaseTracked service (fun _ => True) fun _ => True) service.context next.context :=
    .of_eq leased.sound (by rw [sameContext])
  refine leased.of_spares spares ?_ ?_
  · intro index _ _
    exact ⟨plans index, trivial⟩
  · intro index bound record member
    exact ⟨banks index bound record member, plans index, trivial⟩

/-! ## Transactions -/

theorem insertDescriptorSets_live (poolId : UInt64) (sets : List UInt64) :
    ∀ (ids : List UInt64) (context last : ObjectContext) (reply : ObjectReply), context.objects.Sound →
      (∀ id ∈ ids, handleType id = .descriptorSet ∧ ∃ bits, context.Live id poolId bits) →
      ObjectContext.insertDescriptorSets poolId sets ids context = (.ok reply, last) →
      ∀ id ∈ reply.ids, handleType id = .descriptorSet ∧ ∃ bits, last.Live id poolId bits := by
  induction sets with
  | nil =>
      intro ids context last reply _ held outcome
      cases outcome
      exact held
  | cons set rest ih =>
      intro ids context last reply sound held outcome
      simp only [ObjectContext.insertDescriptorSets, ObjectContext.takeSerial] at outcome
      split at outcome
      · cases outcome
        intro id member
        cases member
      · rename_i objects inserted
        obtain ⟨kept, -, formed, -, -, live⟩ := sound.insert_ok inserted
        refine ih _ _ _ _ kept ?_ outcome
        intro id member
        rcases List.mem_append.mp member with old | new
        · obtain ⟨isSet, bits, before⟩ := held id old
          exact ⟨isSet, bits, (live _ _ _).mpr (Or.inl before)⟩
        · rw [List.mem_singleton.mp new]
          exact ⟨handleType_handleId (handleIsWellFormed_ne_zero formed), set,
            (live _ _ _).mpr (Or.inr ⟨rfl, rfl, rfl⟩)⟩

theorem allocateDescriptorSets_live {poolId : UInt64} {layoutIds : List UInt64} {last : ObjectContext}
    {reply : ObjectReply} {answer : SetAnswer} (sound : context.objects.Sound)
    (outcome : context.allocateDescriptorSets driver poolId layoutIds answer.result answer.sets = (.ok reply, last))
    (id : UInt64) (member : id ∈ reply.ids) : handleType id = .descriptorSet ∧ ∃ bits, last.Live id poolId bits := by
  have nothing : ∀ result : VulkanResult, reply = ⟨result, []⟩ → False := by
    rintro result rfl
    cases member
  unfold ObjectContext.allocateDescriptorSets at outcome
  split at outcome
  · cases outcome
    exact (nothing _ rfl).elim
  split at outcome
  · cases outcome
  split at outcome
  · rename_i verdict _
    cases verdict with
    | error code => cases outcome
    | ok result =>
        cases outcome
        exact (nothing _ rfl).elim
  split at outcome
  · cases outcome
  split at outcome
  · cases outcome
    exact (nothing _ rfl).elim
  · exact insertDescriptorSets_live poolId _ [] context last reply sound (fun id impossible => nomatch impossible)
      outcome id member

theorem allocate_leased (driver : ObjectDriver) (leased : Leased service) (poolId : UInt64)
    (layoutIds : List UInt64) (answer : SetAnswer) :
    Leased (service.allocate driver poolId layoutIds answer).2 ∧
      ∀ reply, (service.allocate driver poolId layoutIds answer).1 = .ok reply → ∀ id ∈ reply.ids,
        handleType id = .descriptorSet ∧
          ∃ bits, (service.allocate driver poolId layoutIds answer).2.context.Live id poolId bits := by
  have spares : Spares (LeaseTracked service (fun _ => True) fun _ => True) service.context
      (service.context.allocateDescriptorSets driver poolId layoutIds answer.result answer.sets).2 :=
    ObjectContext.allocateDescriptorSets_spares leased.sound poolId layoutIds answer.result answer.sets
  unfold LeaseService.allocate
  split
  · rename_i code context outcome
    rw [outcome] at spares
    exact ⟨leased.of_context spares, fun reply impossible => nomatch impossible⟩
  · rename_i reply context outcome
    rw [outcome] at spares
    refine ⟨?_, ?_⟩
    · refine (leased.of_context spares).of_plans rfl ?_ ?_
      · intro index
        rfl
      · intro index _ record member
        exact member
    · rintro other ⟨⟩ id member
      exact allocateDescriptorSets_live leased.sound outcome id member

theorem Leased.setPlan (leased : Leased service) (index : Nat) {plan : LeasePlan}
    (same : plan.poolId = (service.plans index).poolId) : Leased (service.setPlan index plan) :=
  leased.of_plans rfl (setPlan_poolId service index same) (fun _ _ _ member => member)

theorem settleBatch_leased (leased : Leased service) {index batchCount : Nat} {layoutIds : List UInt64}
    {poolId : UInt64} (isPool : (service.plans index).poolId = poolId) {reply : ObjectReply}
    (live : ∀ id ∈ reply.ids, handleType id = .descriptorSet ∧ ∃ bits, service.context.Live id poolId bits) :
    Leased (service.settleBatch index layoutIds batchCount reply).2 := by
  simp only [settleBatch]
  split
  · exact leased
  split
  · exact leased.setPlan index rfl
  split
  · exact leased.setPlan index rfl
  · rename_i bank published
    obtain ⟨ofPool, some, pending⟩ := publish_pending published
    have pools : ∀ other,
        (((service.setBank index bank).setPlan index
          { service.plans index with
            epoch := (service.plans index).epoch + 1
            batchRepetitions := batchCount / layoutIds.length
            published := true }).plans other).poolId = (service.plans other).poolId := by
      refine setPlan_poolId (service.setBank index bank) index ?_
      rfl
    refine ⟨leased.sound, ?_, ?_⟩
    · intro other bound nonzero
      rw [pools] at nonzero ⊢
      exact leased.pools other bound nonzero
    · intro other bound record member
      rw [pools]
      by_cases here : other = index
      · subst here
        have isBank : record ∈ bank.pending := by
          simpa [LeaseService.setPlan, setBank] using member
        rw [pending, ← List.map_uncurry_zip_eq_zipWith] at isBank
        obtain ⟨pair, inside, rfl⟩ := List.mem_map.mp isBank
        obtain ⟨isSet, bits, held⟩ := live pair.2 (List.mem_of_mem_drop (List.of_mem_zip inside).2)
        rw [isPool]
        rw [isPool] at some
        exact ⟨some, isSet, bits, held⟩
      · have old : record ∈ (service.banks other).pending := by
          simpa [LeaseService.setPlan, setBank, Function.update_of_ne here] using member
        exact leased.sets other bound record old

theorem tryBatches_leased (driver : ObjectDriver) {poolId : UInt64} {layoutIds : List UInt64}
    (answers : Nat → SetAnswer) (index : Nat) : ∀ fuel attempt batchCount (service : LeaseService),
      Leased service → (service.plans index).poolId = poolId →
      Leased (tryBatches driver poolId layoutIds answers index fuel attempt batchCount service).2 := by
  intro fuel
  induction fuel with
  | zero =>
      intro attempt batchCount service leased _
      have disabled : Leased (service.disableBatches index) := leased.setPlan index rfl
      exact (allocate_leased driver disabled poolId layoutIds (answers attempt)).1
  | succ fuel ih =>
      intro attempt batchCount service leased isPool
      simp only [tryBatches]
      split
      · have disabled : Leased (service.disableBatches index) := leased.setPlan index rfl
        exact (allocate_leased driver disabled poolId layoutIds (answers attempt)).1
      · obtain ⟨plans, -, -⟩ := allocate_cases driver service poolId (leaseBatchLayouts layoutIds batchCount)
          (answers attempt)
        obtain ⟨kept, live⟩ := allocate_leased driver leased poolId (leaseBatchLayouts layoutIds batchCount)
          (answers attempt)
        split
        · rename_i code next outcome
          rw [outcome] at kept
          exact kept
        · rename_i reply next outcome
          rw [outcome] at kept plans live
          have stillPool : (next.plans index).poolId = poolId := by
            rw [plans]
            exact isPool
          split
          · exact ih _ _ _ kept stillPool
          · exact settleBatch_leased kept stillPool (live reply rfl)

theorem planFind_leased (leased : Leased service) {poolId : UInt64} {layoutIds : List UInt64} {index : Nat}
    {planned : LeaseService} (found : service.planFind poolId layoutIds = some (index, planned))
    (isPool : (∃ index < descriptorLeaseBankCount, (service.plans index).poolId = 0) →
      handleType poolId = .descriptorPool ∧ service.context.Alive poolId) :
    Leased planned ∧ (planned.plans index).poolId = poolId := by
  unfold planFind at found
  split at found
  · cases found
  split at found
  · rename_i position isFor
    cases found
    have fits := List.find?_some isFor
    simp only [LeasePlan.isFor, Bool.and_eq_true, beq_iff_eq] at fits
    exact ⟨leased, fits.1⟩
  split at found
  · rename_i position free
    cases found
    have inside := List.mem_range.mp (List.mem_of_find?_eq_some free)
    have unused := List.find?_some free
    simp only [beq_iff_eq] at unused
    refine ⟨⟨leased.sound, ?_, ?_⟩, ?_⟩
    · intro other bound some
      by_cases here : other = index
      · subst here
        simp only [LeaseService.setPlan, Function.update_self, LeasePlan.start]
        exact isPool ⟨other, inside, unused⟩
      · simp only [LeaseService.setPlan, Function.update_of_ne here] at some ⊢
        exact leased.pools other bound some
    · intro other bound record member
      have held := leased.sets other bound record member
      have different : other ≠ index := by
        rintro rfl
        exact held.1 unused
      simp only [LeaseService.setPlan, Function.update_of_ne different]
      exact held
    · simp [LeaseService.setPlan, LeasePlan.start]
  · cases found

theorem allocateLiveBatch_leased (driver : ObjectDriver) (leased : Leased service) {poolId : UInt64}
    {layoutIds : List UInt64} (answers : Nat → SetAnswer)
    (isPool : poolId ≠ 0 → layoutIds.length ≠ 0 → layoutIds.length ≤ maxDescriptorSetsPerAllocate →
      (∃ index < descriptorLeaseBankCount, (service.plans index).poolId = 0) →
      handleType poolId = .descriptorPool ∧ service.context.Alive poolId) :
    Leased (service.allocateLiveBatch driver poolId layoutIds answers).2 := by
  unfold allocateLiveBatch
  split
  · exact (allocate_leased driver leased poolId layoutIds (answers 0)).1
  rename_i index planned found
  have admitted : poolId ≠ 0 ∧ layoutIds.length ≠ 0 ∧ layoutIds.length ≤ maxDescriptorSetsPerAllocate := by
    unfold planFind at found
    split at found
    · cases found
    · rename_i refused
      push Not at refused
      exact refused
  obtain ⟨some, asked, few⟩ := admitted
  obtain ⟨held, ofPool⟩ := planFind_leased leased found (isPool some asked few)
  dsimp only
  split
  · exact (allocate_leased driver held poolId layoutIds (answers 0)).1
  split
  · have observed : Leased (planned.setPlan index
        { planned.plans index with observedRequests := (planned.plans index).observedRequests + 1 }) :=
      held.setPlan index rfl
    exact (allocate_leased driver observed poolId layoutIds (answers 0)).1
  split
  · exact (allocate_leased driver held poolId layoutIds (answers 0)).1
  refine tryBatches_leased driver answers index _ _ _ _ ?_ ?_
  · split
    · refine held.of_plans rfl (renewPlan_poolId planned index layoutIds.length) ?_
      intro other _ record member
      by_cases here : other = index
      · subst here
        have none : record ∈ LeaseBank.zero.pending := by
          simpa [renewPlan, LeaseService.setPlan, setBank] using member
        cases none
      · simpa [renewPlan, LeaseService.setPlan, setBank, Function.update_of_ne here] using member
    · exact held
  · split
    · rw [renewPlan_poolId]
      exact ofPool
    · exact ofPool

theorem claim_leased (leased : Leased service) (poolId : UInt64) (layoutIds : List UInt64) :
    Leased (service.claim poolId layoutIds).2 := by
  unfold LeaseService.claim
  split
  · exact leased
  split
  · exact leased
  rename_i index ids found
  obtain ⟨-, claimed⟩ := claimFrom_some _ _ _ found
  obtain ⟨-, -, -, rest⟩ := claim_pending claimed
  refine leased.of_plans rfl (fun _ => rfl) ?_
  intro other _ record member
  by_cases here : other = index
  · subst here
    have left : record ∈ (service.banks other).pending.drop layoutIds.length := by
      rw [← rest]
      simpa [advance, setBank] using member
    exact List.mem_of_mem_drop left
  · simpa [advance, setBank, Function.update_of_ne here] using member

/-! ## Pools -/

namespace ObjectContext

variable {type : ObjectType}

theorem sweep_completes (selects : ObjectContext → HandleEntry → Bool) (act : ObjectContext → UInt64 → Completed)
    (acts : ∀ current index, current.objects.Sound → index < current.objects.capacity →
      selects current (current.objects.entries index) = true →
      ∃ next, act current (current.objects.entries index).wireId = (.ok (), next) ∧ next.objects.Sound ∧
        next.objects.capacity = current.objects.capacity) :
    ∀ remaining index (context : ObjectContext), context.objects.Sound →
      index + remaining ≤ context.objects.capacity →
        ∃ next, sweep selects act remaining index context = (.ok (), next) := by
  intro remaining
  induction remaining with
  | zero => intro index context _ _; exact ⟨context, rfl⟩
  | succ remaining ih =>
      intro index context sound bound
      simp only [sweep]
      by_cases selected : selects context (context.objects.entries index) = true
      · obtain ⟨next, done, kept, capacity⟩ := acts context index sound (by omega) selected
        rw [if_pos selected, done]
        exact ih (index + 1) next kept (by omega)
      · rw [if_neg selected]
        exact ih (index + 1) context sound (by omega)

theorem removeHandle_completes (sound : context.objects.Sound) {wireId parentId nativeBits : UInt64}
    (isType : handleType wireId = type) (live : context.Live wireId parentId nativeBits) :
    ∃ next, context.removeHandle wireId type = (.ok (), next) := by
  have expects := (handleExpect_iff _ _).mpr ⟨(sound.live_formed live).1, isType⟩
  obtain ⟨objects, removed⟩ := sound.remove_live expects live
  refine ⟨{ context with objects := objects }, ?_⟩
  simp only [removeHandle, removed]

theorem removeChildren_completes (sound : context.objects.Sound) (children : Option ObjectType) (objectId : UInt64)
    (typed : ∀ child, children = some child → child ≠ .invalid) :
    ∃ next, context.removeChildren children objectId = (.ok (), next) := by
  unfold removeChildren
  split
  · exact ⟨context, rfl⟩
  rename_i child
  refine sweep_completes (fun _ => isChild child objectId) _ ?_ _ _ context sound (by omega)
  intro current index kept bound selected
  have live := kept.live_of_type bound (isChild_typed (typed child rfl) selected)
  simp only [isChild, Bool.and_eq_true, beq_iff_eq] at selected
  obtain ⟨next, done⟩ := removeHandle_completes kept selected.1 live
  have spares : Spares (fun _ _ => False) current
      (current.removeHandle (current.objects.entries index).wireId child).2 :=
    .removeHandle kept _ child (fun _ _ _ _ => not_false)
  rw [done] at spares
  exact ⟨next, done, spares.sound, spares.capacity⟩

theorem destroyDeviceChild_refused (sound : context.objects.Sound) {busy : Bool} {children : Option ObjectType}
    {objectId : UInt64} {code : Errno} {next : ObjectContext}
    (typed : ∀ child, children = some child → child ≠ .invalid ∧ child ≠ type)
    (refused : context.destroyDeviceChild driver type busy children objectId = (.error code, next)) :
    next = context := by
  unfold destroyDeviceChild at refused
  split at refused
  · cases refused
    rfl
  rename_i deviceId device bits resolved
  split at refused
  · cases refused
    rfl
  split at refused
  · cases refused
    rfl
  obtain ⟨emptied, done⟩ := removeChildren_completes sound children objectId
    (fun child isChild => (typed child isChild).1)
  rw [done] at refused
  dsimp only at refused
  unfold resolveDeviceChild at resolved
  split at resolved
  · cases resolved
  rename_i ownerId held found
  obtain ⟨expects, live⟩ := sound.lookup_eq_ok.mp found
  have isType := ((handleExpect_iff _ _).mp expects).2
  have spares : Spares (fun wireId _ => wireId = objectId) context
      (context.removeChildren children objectId).2 := by
    refine removeChildren_spares sound children objectId (fun child isChild => (typed child isChild).1) ?_
    rintro child _ childBits isChild childType - rfl
    exact (typed child isChild).2 (childType.symm.trans isType)
  rw [done] at spares
  obtain ⟨last, gone⟩ := removeHandle_completes spares.sound isType (spares.kept _ _ _ rfl live)
  rw [gone] at refused
  cases refused

theorem resetDescriptorPool_cases (sound : context.objects.Sound) (poolId : UInt64) (fields : Verdict) (present : Bool)
    (result : VulkanResult) :
    (context.resetDescriptorPool poolId fields present result).2 = context ∨
      (context.resetDescriptorPool poolId fields present result).1 = .ok ⟨vkSuccess, []⟩ := by
  unfold resetDescriptorPool
  split
  · exact Or.inl rfl
  split
  · exact Or.inl rfl
  split
  · exact Or.inl rfl
  split
  · exact Or.inl rfl
  obtain ⟨emptied, done⟩ := removeChildren_completes sound (some .descriptorSet) poolId (by rintro child ⟨⟩; decide)
  rw [done]
  exact Or.inr rfl

end ObjectContext

theorem forgetPool_mine (service : LeaseService) {poolId : UInt64} (some : poolId ≠ 0) {index : Nat}
    (mine : index < descriptorLeaseBankCount ∧ (service.plans index).poolId = poolId) :
    (service.forgetPool poolId).plans index = .zero ∧ (service.forgetPool poolId).banks index = .zero := by
  rw [forgetPool, if_neg some]
  exact ⟨if_pos mine, if_pos mine⟩

theorem forgetPool_other (service : LeaseService) {poolId : UInt64} {index : Nat}
    (other : ¬ (index < descriptorLeaseBankCount ∧ (service.plans index).poolId = poolId)) :
    (service.forgetPool poolId).plans index = service.plans index ∧
      (service.forgetPool poolId).banks index = service.banks index := by
  unfold forgetPool
  split
  · exact ⟨rfl, rfl⟩
  · exact ⟨if_neg other, if_neg other⟩

theorem forgetPool_leased (leased : Leased service) (poolId : UInt64)
    (spares : Spares (LeaseTracked service (· ≠ poolId) (· ≠ poolId)) service.context context) :
    Leased ((service.emptyPool poolId context).forgetPool poolId) := by
  have context_eq : ((service.emptyPool poolId context).forgetPool poolId).context = context := by
    unfold forgetPool
    split <;> rfl
  by_cases zero : poolId = 0
  · rw [forgetPool, if_pos zero]
    refine leased.of_spares spares ?_ ?_
    · intro index _ some
      exact ⟨rfl, fun same => some (same.trans zero)⟩
    · intro index bound record member
      exact ⟨member, rfl, fun same => (leased.sets index bound record member).1 (same.trans zero)⟩
  · refine leased.of_spares (by rw [context_eq]; exact spares) ?_ ?_
    · intro index bound some
      by_cases mine : index < descriptorLeaseBankCount ∧ (service.plans index).poolId = poolId
      · rw [(forgetPool_mine (service.emptyPool poolId context) zero mine).1] at some
        exact absurd rfl some
      · rw [(forgetPool_other (service.emptyPool poolId context) mine).1]
        exact ⟨rfl, fun isPool => mine ⟨bound, isPool⟩⟩
    · intro index bound record member
      by_cases mine : index < descriptorLeaseBankCount ∧ (service.plans index).poolId = poolId
      · rw [(forgetPool_mine (service.emptyPool poolId context) zero mine).2] at member
        cases member
      · obtain ⟨plan, bank⟩ := forgetPool_other (service.emptyPool poolId context) mine
        rw [bank] at member
        rw [plan]
        exact ⟨member, rfl, fun isPool => mine ⟨bound, isPool⟩⟩

theorem afterPoolReset_leased (leased : Leased service) (poolId : UInt64)
    (spares : Spares (LeaseTracked service (fun _ => True) (· ≠ poolId)) service.context context) :
    Leased ((service.emptyPool poolId context).afterPoolReset poolId) := by
  have pools : ∀ index, (((service.emptyPool poolId context).afterPoolReset poolId).plans index).poolId =
      (service.plans index).poolId := by
    intro index
    unfold afterPoolReset
    dsimp only
    split <;> rfl
  refine leased.of_spares spares ?_ ?_
  · intro index _ _
    exact ⟨pools index, trivial⟩
  · intro index bound record member
    by_cases mine : index < descriptorLeaseBankCount ∧ (service.plans index).poolId = poolId
    · have emptied : ((service.emptyPool poolId context).afterPoolReset poolId).banks index = .zero := if_pos mine
      rw [emptied] at member
      cases member
    · have kept : ((service.emptyPool poolId context).afterPoolReset poolId).banks index = service.banks index :=
        if_neg mine
      rw [kept] at member
      exact ⟨member, pools index, fun isPool => mine ⟨bound, isPool⟩⟩

theorem destroyDescriptorPool_leased (driver : ObjectDriver) (leased : Leased service) (poolId : UInt64) :
    Leased (service.answer driver (.destroyDescriptorPool poolId)).2 := by
  simp only [answer]
  split
  · rename_i code next refused
    have same : next = service.context := by
      refine ObjectContext.destroyDeviceChild_refused leased.sound ?_ refused
      rintro child ⟨⟩
      decide
    rw [same]
    exact leased
  · rename_i nothing next done
    have spares : Spares (LeaseTracked service (· ≠ poolId) (· ≠ poolId)) service.context
        (service.context.destroyDescriptorPool driver poolId).2 := by
      by_cases isPool : handleType poolId = .descriptorPool
      · refine ObjectContext.destroyPool_spares leased.sound poolId ?_
        rintro wireId parentId nativeBits (⟨typed, other, -⟩ | ⟨typed, other, -⟩) -
        · refine ⟨other, fun isSet => ?_⟩
          rw [typed] at isSet
          cases isSet
        · refine ⟨?_, fun _ => other⟩
          rintro rfl
          rw [typed] at isPool
          cases isPool
      · exact .of_eq leased.sound (ObjectContext.destroyDeviceChild_other leased.sound _ _ poolId isPool)
    rw [done] at spares
    exact forgetPool_leased leased poolId spares

theorem resetDescriptorPool_leased (driver : ObjectDriver) (leased : Leased service) (poolId : UInt64)
    (fields : Verdict) (present : Bool) (result : VulkanResult) :
    Leased (service.answer driver (.resetDescriptorPool poolId fields present result)).2 := by
  have spares : Spares (LeaseTracked service (fun _ => True) (· ≠ poolId)) service.context
      (service.context.resetDescriptorPool poolId fields present result).2 := by
    refine ObjectContext.resetDescriptorPool_spares leased.sound poolId fields present result ?_
    rintro setId setBits isSet - (⟨isPool, -⟩ | ⟨-, other, -⟩)
    · rw [isSet] at isPool
      cases isPool
    · exact other rfl
  have unchanged := ObjectContext.resetDescriptorPool_cases leased.sound poolId fields present result
  simp only [answer]
  split
  · rename_i reply next outcome
    rw [outcome] at spares unchanged
    split
    · exact afterPoolReset_leased leased poolId spares
    · rename_i failed
      rcases unchanged with same | done
      · rw [show next = service.context from same]
        exact leased
      · cases done
        exact absurd rfl failed
  · rename_i code next outcome
    rw [outcome] at unchanged
    rcases unchanged with same | done
    · rw [show next = service.context from same]
      exact leased
    · cases done

/-! ## Runs -/

namespace LeaseService

def poolDevice (service : LeaseService) (poolId : UInt64) : Option UInt64 :=
  match service.context.objects.lookup poolId .descriptorPool with
  | .error _ => none
  | .ok (deviceId, _) => some deviceId

def deviceInstance (service : LeaseService) (deviceId : UInt64) : Option UInt64 :=
  match service.context.objects.lookup deviceId .device with
  | .error _ => none
  | .ok (physicalDeviceId, _) =>
      match service.context.objects.lookup physicalDeviceId .physicalDevice with
      | .error _ => none
      | .ok (instanceId, _) => some instanceId

def plannedDevices (service : LeaseService) : List UInt64 :=
  (List.range descriptorLeaseBankCount).filterMap fun index => service.poolDevice (service.plans index).poolId

def admitsTeardown (service : LeaseService) (driver : ObjectDriver) (deviceId : UInt64) : Bool :=
  match service.context.destroyDeviceChecks driver deviceId with
  | .error _ => false
  | .ok _ => true

/-- A new plan is for a live pool, and what is torn down has no pool with a plan. -/
def keepsLeases (service : LeaseService) (driver : ObjectDriver) : LeaseInput → Bool
  | .transaction poolId layoutIds _ =>
      (service.poolDevice poolId).isSome || poolId == 0 || layoutIds.length == 0 ||
        decide (maxDescriptorSetsPerAllocate < layoutIds.length) ||
        (List.range descriptorLeaseBankCount).all fun index => (service.plans index).poolId != 0
  | .call (.destroyDevice deviceId) =>
      !service.admitsTeardown driver deviceId || !service.plannedDevices.contains deviceId
  | .call (.destroyInstance instanceId) =>
      service.plannedDevices.all fun deviceId =>
        !service.admitsTeardown driver deviceId || service.deviceInstance deviceId != some instanceId
  | _ => true

end LeaseService

theorem poolDevice_some (leased : Leased service) {poolId deviceId : UInt64}
    (found : service.poolDevice poolId = some deviceId) :
    handleType poolId = .descriptorPool ∧ ∃ bits, service.context.Live poolId deviceId bits := by
  unfold poolDevice at found
  split at found
  · cases found
  · rename_i parent bits known
    cases found
    obtain ⟨expects, live⟩ := leased.sound.lookup_eq_ok.mp known
    exact ⟨((handleExpect_iff _ _).mp expects).2, bits, live⟩

theorem plannedDevices_mem (leased : Leased service) {index : Nat} (bound : index < descriptorLeaseBankCount)
    {poolId deviceId bits : UInt64} (isPool : (service.plans index).poolId = poolId)
    (typed : handleType poolId = .descriptorPool) (live : service.context.Live poolId deviceId bits) :
    deviceId ∈ service.plannedDevices := by
  refine List.mem_filterMap.mpr ⟨index, List.mem_range.mpr bound, ?_⟩
  have expects := (handleExpect_iff _ _).mpr ⟨(leased.sound.live_formed live).1, typed⟩
  rw [isPool, poolDevice, leased.sound.lookup_eq_ok.mpr ⟨expects, live⟩]

theorem admitsTeardown_iff {deviceId : UInt64} :
    service.admitsTeardown driver deviceId = true ↔
      ∃ device, service.context.destroyDeviceChecks driver deviceId = .ok device := by
  unfold admitsTeardown
  cases service.context.destroyDeviceChecks driver deviceId <;> simp

theorem destroyDeviceChecks_type {deviceId device : UInt64} (sound : context.objects.Sound)
    (admitted : context.destroyDeviceChecks driver deviceId = .ok device) : handleType deviceId = .device := by
  unfold ObjectContext.destroyDeviceChecks at admitted
  split at admitted
  · cases admitted
  split at admitted
  · cases admitted
  · rename_i physicalId bits found
    exact ((handleExpect_iff _ _).mp (sound.lookup_eq_ok.mp found).1).2

theorem Leased.apart (leased : Leased service) {deviceId : UInt64} (isDevice : handleType deviceId = .device)
    (outside : deviceId ∉ service.plannedDevices) :
    Apart (LeaseTracked service (fun _ => True) fun _ => True) deviceId service.context := by
  rintro wireId parentId nativeBits (⟨typed, -, index, bound, isPool⟩ | ⟨typed, -, index, bound, isPool, some⟩) live
  · refine ⟨?_, ?_, ?_⟩
    · rintro rfl
      rw [typed] at isDevice
      cases isDevice
    · rintro - rfl
      exact outside (plannedDevices_mem leased bound isPool typed live)
    · intro isSet
      rw [typed] at isSet
      cases isSet
  · refine ⟨?_, ?_, ?_⟩
    · rintro rfl
      rw [typed] at isDevice
      cases isDevice
    · rw [typed]
      rintro (impossible | impossible) <;> cases impossible
    · rintro - upId upBits up rfl
      rw [← isPool] at some
      have poolType := (leased.pools index bound some).1
      rw [isPool] at poolType
      exact outside (plannedDevices_mem leased bound isPool poolType up)

theorem answer_leased (leased : Leased service) (request : ObjectRequest)
    (keeps : service.keepsLeases driver (.call request) = true) : Leased (service.answer driver request).2 := by
  have others : Sparing (LeaseTracked service (fun _ => True) fun _ => True) service.context driver request →
      Leased { service with context := (service.context.call driver request).2 } :=
    fun sparing => leased.of_context
      (ObjectContext.call_spares (LeaseTracked.durable service _ _) leased.sound request sparing)
  cases request with
  | allocateDescriptorSets poolId layoutIds result sets =>
      exact (allocate_leased driver leased poolId layoutIds ⟨result, sets⟩).1
  | destroyDescriptorPool poolId => exact destroyDescriptorPool_leased driver leased poolId
  | resetDescriptorPool poolId fields present result =>
      exact resetDescriptorPool_leased driver leased poolId fields present result
  | destroyDevice deviceId =>
      refine others ?_
      intro device admitted
      simp only [keepsLeases, admitsTeardown_iff.mpr ⟨device, admitted⟩, Bool.not_true, Bool.false_or,
        Bool.not_eq_true', List.contains_eq_mem, decide_eq_false_iff_not] at keeps
      exact leased.apart (destroyDeviceChecks_type leased.sound admitted) keeps
  | destroyInstance instanceId =>
      refine others ?_
      intro deviceId physicalId device deviceBits physicalBits live isPhysical owned admitted
      have isDevice := destroyDeviceChecks_type leased.sound admitted
      refine leased.apart isDevice ?_
      intro planned
      have kept := List.all_eq_true.mp keeps deviceId planned
      have formed := (leased.sound.live_formed live).1
      have ownerFormed := (leased.sound.live_formed owned).1
      have found : service.deviceInstance deviceId = some instanceId := by
        rw [deviceInstance,
          leased.sound.lookup_eq_ok.mpr ⟨(handleExpect_iff _ _).mpr ⟨formed, isDevice⟩, live⟩]
        dsimp only
        rw [leased.sound.lookup_eq_ok.mpr ⟨(handleExpect_iff _ _).mpr ⟨ownerFormed, isPhysical⟩, owned⟩]
      rw [admitsTeardown_iff.mpr ⟨device, admitted⟩, found] at kept
      simp at kept
  | freeMemory memoryId =>
      refine others ?_
      rintro isMemory - parentId nativeBits - (⟨isPool, -⟩ | ⟨isSet, -⟩)
      · rw [isMemory] at isPool
        cases isPool
      · rw [isMemory] at isSet
        cases isSet
  | _ => exact others trivial

theorem serve_leased (leased : Leased service) (input : LeaseInput)
    (keeps : service.keepsLeases driver input = true) : Leased (service.serve driver input).2 := by
  cases input with
  | transaction poolId layoutIds answers =>
      refine allocateLiveBatch_leased driver leased answers ?_
      rintro some asked few ⟨index, bound, free⟩
      simp only [keepsLeases, Bool.or_eq_true, beq_iff_eq, decide_eq_true_eq, List.all_eq_true, List.mem_range,
        bne_iff_ne] at keeps
      rcases keeps with (((known | zero) | none) | many) | taken
      · obtain ⟨deviceId, found⟩ := Option.isSome_iff_exists.mp known
        obtain ⟨typed, live⟩ := poolDevice_some leased found
        exact ⟨typed, deviceId, live⟩
      · exact absurd zero some
      · exact absurd none asked
      · omega
      · exact absurd free (taken index bound)
  | claim poolId layoutIds =>
      have claimed := claim_leased leased poolId layoutIds
      simp only [serve]
      split
      · rename_i code next outcome
        rw [outcome] at claimed
        exact claimed
      · rename_i ids next outcome
        rw [outcome] at claimed
        exact claimed
  | call request => exact answer_leased leased request keeps

def leaseStep (service : LeaseService) (input : ObjectDriver × LeaseInput) : LeaseService :=
  (service.serve input.1 input.2).2

theorem empty_leased (found : Bool) : Leased (LeaseService.empty found) := by
  refine ⟨?_, ?_, ?_⟩
  · exact HandleTable.Sound.init ⟨12, rfl⟩ (by decide)
  · intro index _ some
    exact absurd rfl some
  · intro index _ record member
    cases member

/-- In every run whose new plans are for live pools and whose teardowns of
devices and instances spare the planned pools, what the leases name is live. -/
theorem leases_live_unless_torn_down (found : Bool) (inputs : List (ObjectDriver × LeaseInput))
    (keeps : Runs.EveryStep leaseStep (fun service input => service.keepsLeases input.1 input.2 = true)
      (LeaseService.empty found) inputs) :
    Runs.EveryState leaseStep LeasesLive (LeaseService.empty found) inputs := by
  have states : Runs.EveryState leaseStep Leased (LeaseService.empty found) inputs :=
    Runs.everyState_of_everyStep (fun _ input leased kept => serve_leased leased input.2 kept) inputs _
      (empty_leased found) keeps
  exact states.imp fun _ leased => leased.leasesLive

theorem leases_live_unless_torn_down_banked :
    ((Runs.final leaseStep (LeaseService.empty true) (LeaseHistory.leaseRun.take 8)).banks 0).unclaimed ≠ [] ∧
      Runs.EveryState leaseStep LeasesLive (LeaseService.empty true) (LeaseHistory.leaseRun.take 8) :=
  ⟨by decide +kernel, leases_live_unless_torn_down true (LeaseHistory.leaseRun.take 8) (by decide +kernel)⟩

theorem destroyDevice_shrinks (count : Nat) {deviceId device : UInt64} {between : ObjectContext}
    (admitted : context.destroyDeviceChecks driver deviceId = .ok device)
    (staged : ObjectContext.runStages ((ObjectContext.destroyDeviceStages driver deviceId).take count) context =
      (.ok (), between)) :
    Shrinks between.objects (context.destroyDevice driver deviceId).2.objects := by
  have stages : ObjectContext.runStages (ObjectContext.destroyDeviceStages driver deviceId) context =
      ObjectContext.runStages ((ObjectContext.destroyDeviceStages driver deviceId).drop count) between := by
    conv_lhs => rw [← List.take_append_drop count (ObjectContext.destroyDeviceStages driver deviceId)]
    rw [ObjectContext.runStages_append, staged]
  have receded : ObjectContext.Recedes .inst between
      (ObjectContext.runStages ((ObjectContext.destroyDeviceStages driver deviceId).drop count) between).2 := by
    refine ObjectContext.runStages_recedes ?_ between
    intro stage member
    exact ObjectContext.destroyDeviceStages_recedes driver (Or.inr rfl) deviceId stage (List.mem_of_mem_drop member)
  unfold ObjectContext.destroyDevice
  rw [admitted, stages]
  dsimp only
  split
  · rename_i code next outcome
    rw [outcome] at receded
    exact receded.shrinks
  rename_i nothing next outcome
  rw [outcome] at receded
  have removed : ObjectContext.Recedes .inst next (next.removeHandle deviceId .device).2 :=
    .removeHandle next deviceId (by decide)
  split
  · rename_i code last refused
    rw [refused] at removed
    exact receded.shrinks.trans removed.shrinks
  · rename_i nothing last done
    rw [done] at removed
    have cleared : ObjectContext.Recedes .inst last (last.clearMetadata .device deviceId) :=
      .clearMetadata last .device deviceId
    have destroyed : ObjectContext.Recedes .inst (last.clearMetadata .device deviceId)
        ((last.clearMetadata .device deviceId).nativeDestroy .device device) := .nativeDestroy _ _ (by decide)
    exact ((receded.trans removed).trans (cleared.trans destroyed)).shrinks

theorem sweep_none (selects : ObjectContext → HandleEntry → Bool) (act : ObjectContext → UInt64 → Completed)
    (context : ObjectContext) : ∀ remaining index,
      (∀ position, index ≤ position → selects context (context.objects.entries position) = false) →
      ObjectContext.sweep selects act remaining index context = (.ok (), context) := by
  intro remaining
  induction remaining with
  | zero => intro index _; rfl
  | succ remaining ih =>
      intro index skips
      rw [ObjectContext.sweep, skips index (Nat.le_refl index), if_neg Bool.false_ne_true]
      exact ih (index + 1) (fun position lower => skips position (by omega))

theorem sweep_skip (selects : ObjectContext → HandleEntry → Bool) (act : ObjectContext → UInt64 → Completed)
    (context : ObjectContext) (remaining : Nat) : ∀ skipped index,
      (∀ position, index ≤ position → position < index + skipped →
        selects context (context.objects.entries position) = false) →
      ObjectContext.sweep selects act (skipped + remaining) index context =
        ObjectContext.sweep selects act remaining (index + skipped) context := by
  intro skipped
  induction skipped with
  | zero => intro index _; rw [Nat.zero_add, Nat.add_zero]
  | succ skipped ih =>
      intro index skips
      rw [show skipped + 1 + remaining = skipped + remaining + 1 by omega, ObjectContext.sweep,
        skips index (Nat.le_refl index) (by omega), if_neg Bool.false_ne_true,
        ih (index + 1) (fun position lower upper => skips position (by omega) (by omega)),
        show index + 1 + skipped = index + (skipped + 1) by omega]

theorem sweep_act {selects : ObjectContext → HandleEntry → Bool} {act : ObjectContext → UInt64 → Completed}
    {index : Nat} {after : ObjectContext} (selected : selects context (context.objects.entries index) = true)
    (done : act context (context.objects.entries index).wireId = (.ok (), after)) (remaining : Nat) :
    ObjectContext.sweep selects act (remaining + 1) index context =
      ObjectContext.sweep selects act remaining (index + 1) after := by
  rw [ObjectContext.sweep, if_pos selected, done]

/-- A pool of a device, with a plan for it. -/
def plannedRun : List (ObjectDriver × LeaseInput) :=
  LeaseHistory.poolRun.take 4 ++ [(ObjectContext.fullDriver,
    .transaction (handleId .descriptorPool 1) [handleId .descriptorSetLayout 1] fun _ => ⟨vkSuccess, fun _ => 60⟩)]

def planned : LeaseService := Runs.final leaseStep (LeaseService.empty true) plannedRun

set_option maxRecDepth 100000 in
theorem planned_entries : planned.context.objects.entries = fun position =>
    if position = 3698 then ⟨handleId .descriptorPool 1, handleId .device 1, 40, .occupied⟩
    else if position = 2625 then ⟨handleId .device 1, handleId .physicalDevice 1, 30, .occupied⟩
    else if position = 1444 then ⟨handleId .physicalDevice 1, handleId .inst 1, 20, .occupied⟩
    else if position = 3879 then ⟨handleId .inst 1, 0, 10, .occupied⟩
    else .zero := by
  rfl

theorem planned_other (position : Nat) (other : position ≠ 3698) (type : ObjectType) (parentId : UInt64)
    (isOwned : type ∈ [.pipeline, .pipelineLayout, .queryPool, .descriptorSet, .descriptorPool]) :
    ObjectContext.isChild type parentId (planned.context.objects.entries position) = false := by
  have untyped : handleType (planned.context.objects.entries position).wireId ≠ type := by
    rw [planned_entries]
    dsimp only
    rw [if_neg other]
    split_ifs <;> revert type <;> decide
  simp [ObjectContext.isChild, untyped]

theorem planned_childless {type : ObjectType} (parentId : UInt64) (act : ObjectContext → UInt64 → Completed)
    (isOwned : type ∈ [.pipeline, .pipelineLayout, .queryPool, .descriptorSet]) :
    planned.context.sweepChildren type parentId act = (.ok (), planned.context) := by
  refine sweep_none (fun _ => ObjectContext.isChild type parentId) act planned.context _ 0 ?_
  intro position _
  by_cases here : position = 3698
  · have untyped : handleType (planned.context.objects.entries position).wireId ≠ type := by
      rw [planned_entries, here]
      revert type
      decide
    simp [ObjectContext.isChild, untyped]
  · refine planned_other position here type parentId ?_
    revert type
    decide

theorem planned_facts :
    planned.context.resolveDeviceChild (handleId .descriptorPool 1) .descriptorPool = .ok (handleId .device 1, 30, 40) ∧
      planned.context.destroyDeviceChecks ObjectContext.fullDriver (handleId .device 1) = .ok 30 ∧
      planned.poolDevice (handleId .descriptorPool 1) = some (handleId .device 1) ∧
      planned.context.objects.capacity = 4096 ∧
      planned.context.swapchains = List.replicate wsiFrameRingMaxSlots .zero ∧
      (planned.plans 0).poolId = handleId .descriptorPool 1 := by
  decide +kernel

theorem runStages_toPools {deviceId : UInt64} {after : ObjectContext}
    (slotless : ∀ slot, context.destroyDeviceSwapchain driver deviceId slot = (.ok (), context))
    (childless : ∀ type act, type ∈ [ObjectType.pipeline, .pipelineLayout, .queryPool] →
      context.sweepChildren type deviceId act = (.ok (), context))
    (swept : context.sweepChildren .descriptorPool deviceId
      (fun current objectId => current.destroyDescriptorPool driver objectId) = (.ok (), after)) :
    ObjectContext.runStages ((ObjectContext.destroyDeviceStages driver deviceId).take 8) context = (.ok (), after) := by
  have stages : (ObjectContext.destroyDeviceStages driver deviceId).take 8 =
      (List.range wsiFrameRingMaxSlots).map
        (fun slot current => current.destroyDeviceSwapchain driver deviceId slot) ++
      ((ObjectContext.sweptBeforeViews driver).take 4).map
        (fun swept current => current.sweepChildren swept.1 deviceId swept.2) := rfl
  have slots : ObjectContext.runStages ((List.range wsiFrameRingMaxSlots).map fun slot current =>
      current.destroyDeviceSwapchain driver deviceId slot) context = (.ok (), context) := by
    simp only [wsiFrameRingMaxSlots, List.range_succ, List.range_zero, List.nil_append, List.map_cons, List.map_nil,
      List.cons_append, ObjectContext.runStages, slotless]
  rw [stages, ObjectContext.runStages_append, slots]
  simp only [ObjectContext.sweptBeforeViews, List.take_succ_cons, List.take_zero, List.map_cons, List.map_nil,
    ObjectContext.runStages]
  rw [childless .pipeline _ (by decide)]
  dsimp only
  rw [childless .pipelineLayout _ (by decide)]
  dsimp only
  rw [childless .queryPool _ (by decide)]
  dsimp only
  rw [swept]

theorem planned_leased : Leased planned := by
  have states : Runs.EveryState leaseStep Leased (LeaseService.empty true) plannedRun :=
    Runs.everyState_of_everyStep (fun _ input leased kept => serve_leased leased input.2 kept) plannedRun _
      (empty_leased true) (by decide +kernel)
  exact states.final

theorem planned_destroyPool :
    ∃ next, planned.context.destroyDescriptorPool ObjectContext.fullDriver (handleId .descriptorPool 1) =
      (.ok (), next) ∧
      Shrinks planned.context.objects next.objects ∧
      ∀ parentId bits, ¬ next.Live (handleId .descriptorPool 1) parentId bits := by
  have sound := planned_leased.sound
  have isPool : handleType (handleId .descriptorPool 1) = .descriptorPool := by decide
  obtain ⟨resolved, -, ofDevice, -⟩ := planned_facts
  have childless : planned.context.removeChildren (some .descriptorSet) (handleId .descriptorPool 1) =
      (.ok (), planned.context) := planned_childless _ _ (by decide)
  obtain ⟨bits, live⟩ : ∃ bits, planned.context.Live (handleId .descriptorPool 1) (handleId .device 1) bits :=
    (poolDevice_some planned_leased ofDevice).2
  obtain ⟨last, removed⟩ := ObjectContext.removeHandle_completes sound isPool live
  have gone : ∀ parentId bits, ¬ (planned.context.removeHandle (handleId .descriptorPool 1) .descriptorPool).2.Live
      (handleId .descriptorPool 1) parentId bits := fun _ _ => ObjectContext.removeHandle_gone sound isPool
  have receded : ObjectContext.Recedes .inst planned.context
      (planned.context.removeHandle (handleId .descriptorPool 1) .descriptorPool).2 :=
    .removeHandle planned.context _ (by decide)
  rw [removed] at gone receded
  refine ⟨(last.clearMetadata .descriptorPool (handleId .descriptorPool 1)).nativeDestroy .descriptorPool 40,
    ?_, ?_, ?_⟩
  · simp only [ObjectContext.destroyDescriptorPool, ObjectContext.destroyDeviceChild, resolved, childless, removed]
    rfl
  · simpa using receded.shrinks
  · intro parentId bits live
    refine gone parentId bits ?_
    simpa [ObjectContext.Live] using live

theorem planned_pool :
    ∃ next, planned.context.sweepChildren .descriptorPool (handleId .device 1)
        (fun current objectId => current.destroyDescriptorPool ObjectContext.fullDriver objectId) = (.ok (), next) ∧
      ∀ parentId bits, ¬ next.Live (handleId .descriptorPool 1) parentId bits := by
  obtain ⟨next, destroyed, shrinks, gone⟩ := planned_destroyPool
  refine ⟨next, ?_, gone⟩
  obtain ⟨-, -, -, capacity, -⟩ := planned_facts
  have skips : ∀ position, 0 ≤ position → position < 0 + 3698 →
      ObjectContext.isChild .descriptorPool (handleId .device 1)
        (planned.context.objects.entries position) = false := by
    intro position _ upper
    exact planned_other position (by omega) _ _ (by decide)
  have entry : planned.context.objects.entries 3698 =
      ⟨handleId .descriptorPool 1, handleId .device 1, 40, .occupied⟩ := by
    rw [planned_entries]
    rfl
  have after : ∀ position, 3699 ≤ position →
      ObjectContext.isChild .descriptorPool (handleId .device 1) (next.objects.entries position) = false := by
    intro position lower
    rcases shrinks.entries position with same | cleared
    · rw [same]
      exact planned_other position (by omega) _ _ (by decide)
    · rw [cleared]
      decide
  have here : ObjectContext.sweep (fun _ => ObjectContext.isChild .descriptorPool (handleId .device 1))
      (fun current objectId => current.destroyDescriptorPool ObjectContext.fullDriver objectId) (397 + 1) 3698
      planned.context = (.ok (), next) := by
    refine (sweep_act ?_ ?_ 397).trans (sweep_none _ _ next 397 (3698 + 1) after)
    · rw [entry]
      decide
    · rw [entry]
      exact destroyed
  have whole : 4096 = 3698 + (397 + 1) := rfl
  rw [ObjectContext.sweepChildren, capacity, whole,
    sweep_skip (fun _ => ObjectContext.isChild .descriptorPool (handleId .device 1)) _ planned.context (397 + 1) 3698 0
      skips]
  exact here

theorem LeasesLive.pool {service : LeaseService} {context : ObjectContext} {index : Nat} {poolId : UInt64}
    (live : LeasesLive { service with context := context }) (isPool : (service.plans index).poolId = poolId)
    (bound : index < descriptorLeaseBankCount) (some : poolId ≠ 0) : context.Alive poolId := by
  subst isPool
  exact live.1 index bound some

theorem leaseStep_destroyDevice (service : LeaseService) (driver : ObjectDriver) (deviceId : UInt64) :
    leaseStep service (driver, .call (.destroyDevice deviceId)) =
      { service with context := (service.context.destroyDevice driver deviceId).2 } := rfl

/-- The device of a planned pool is destroyed, and the plan still names the pool. -/
theorem device_teardown_strands_plan :
    ¬ Runs.EveryState leaseStep LeasesLive (LeaseService.empty true)
      (plannedRun ++ [(ObjectContext.fullDriver, .call (.destroyDevice (handleId .device 1)))]) := by
  intro states
  have live : LeasesLive (leaseStep planned (ObjectContext.fullDriver, .call (.destroyDevice (handleId .device 1)))) :=
    states.final_snoc
  rw [leaseStep_destroyDevice] at live
  obtain ⟨next, swept, gone⟩ := planned_pool
  obtain ⟨-, admitted, -, -, swapchains, isPool⟩ := planned_facts
  have slotless : ∀ slot, planned.context.destroyDeviceSwapchain ObjectContext.fullDriver (handleId .device 1) slot =
      (.ok (), planned.context) := by
    intro slot
    have zero : planned.context.swapchains.getD slot .zero = .zero := by
      rw [swapchains, List.getD_eq_getElem?_getD, List.getElem?_replicate]
      split <;> rfl
    rw [ObjectContext.destroyDeviceSwapchain, zero]
    rfl
  have staged := runStages_toPools slotless (fun type act isEarly => planned_childless _ act (by
    revert type
    decide)) swept
  have shrinks := destroyDevice_shrinks 8 admitted staged
  obtain ⟨owner, bits, held⟩ := live.pool isPool (by decide) (by decide)
  exact gone owner bits (HandleTable.Live.of_shrinks shrinks held)

end VulkanBridge
