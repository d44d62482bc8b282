import VulkanBridge.DescriptorLeases

/-!
Leased descriptor sets over whole runs: what the client is given for a pool and
its layouts was allocated for them after the pool's last reset, and no set is
given twice.
-/

namespace VulkanBridge

open LeaseService
open ObjectContext (fullDriver)

def standingAfter (poolId : UInt64) (pairs : List (UInt64 × UInt64)) : LeaseEvent → List (UInt64 × UInt64)
  | .allocated owner layoutIds setIds => if owner = poolId then pairs ++ layoutIds.zip setIds else pairs
  | .emptied owner => if owner = poolId then [] else pairs

/-- The sets allocated from a pool since it was last reset or destroyed. -/
def standing (poolId : UInt64) (log : List LeaseEvent) : List (UInt64 × UInt64) :=
  log.foldl (standingAfter poolId) []

def LeaseEvent.setIds : LeaseEvent → List UInt64
  | .allocated _ _ setIds => setIds
  | .emptied _ => []

def allottedIds (log : List LeaseEvent) : List UInt64 := log.flatMap LeaseEvent.setIds

variable {poolId : UInt64} {layoutIds setIds : List UInt64} {log : List LeaseEvent}

theorem standing_append (poolId : UInt64) (log : List LeaseEvent) (event : LeaseEvent) :
    standing poolId (log ++ [event]) = standingAfter poolId (standing poolId log) event := by
  simp only [standing, List.foldl_append, List.foldl_cons, List.foldl_nil]

theorem allottedIds_append (log : List LeaseEvent) (event : LeaseEvent) :
    allottedIds (log ++ [event]) = allottedIds log ++ event.setIds := by
  simp [allottedIds]

theorem mem_standing_allocated (owner : UInt64) {pair : UInt64 × UInt64} (member : pair ∈ standing owner log) :
    pair ∈ standing owner (log ++ [.allocated poolId layoutIds setIds]) := by
  rw [standing_append, standingAfter]
  split
  · exact List.mem_append_left _ member
  · exact member

theorem standing_allotted (poolId : UInt64) : ∀ (log : List LeaseEvent) (pair : UInt64 × UInt64),
    pair ∈ standing poolId log → pair.2 ∈ allottedIds log := by
  intro log
  induction log using List.reverseRecOn with
  | nil => intro pair member; cases member
  | append_singleton log event ih =>
      intro pair member
      rw [standing_append] at member
      rw [allottedIds_append]
      cases event with
      | allocated owner layoutIds setIds =>
          simp only [standingAfter] at member
          split at member
          · rcases List.mem_append.mp member with old | new
            · exact List.mem_append_left _ (ih pair old)
            · exact List.mem_append_right _ (List.of_mem_zip new).2
          · exact List.mem_append_left _ (ih pair member)
      | emptied owner =>
          simp only [standingAfter] at member
          split at member
          · cases member
          · exact List.mem_append_left _ (ih pair member)

/-! ## The banks -/

def LeaseBank.pending (bank : LeaseBank) : List LeaseRecord := if bank.ready then bank.unclaimed else []

def LeaseBank.pendingIds (bank : LeaseBank) : List UInt64 := bank.pending.map (·.descriptorSetId)

/-- The sets in the banks stand, belong to the plans' pools, and are neither
given yet nor in two places. -/
structure Banked (given : List UInt64) (service : LeaseService) : Prop where
  owned : ∀ index < descriptorLeaseBankCount, (service.banks index).pending ≠ [] →
    (service.plans index).poolId = (service.banks index).poolId ∧ (service.banks index).poolId ≠ 0
  stood : ∀ index < descriptorLeaseBankCount, ∀ record ∈ (service.banks index).pending,
    (record.layoutId, record.descriptorSetId) ∈ standing (service.banks index).poolId service.log
  nodup : ∀ index < descriptorLeaseBankCount, (service.banks index).pendingIds.Nodup
  disjoint : ∀ first < descriptorLeaseBankCount, ∀ second < descriptorLeaseBankCount, first ≠ second →
    ∀ id ∈ (service.banks first).pendingIds, id ∉ (service.banks second).pendingIds
  apart : ∀ index < descriptorLeaseBankCount, ∀ id ∈ (service.banks index).pendingIds, id ∉ given
  allotted : ∀ id ∈ given, id ∈ allottedIds service.log
  once : given.Nodup

variable {given : List UInt64} {service next : LeaseService}

namespace Banked

theorem pending_allotted (banked : Banked given service) {index : Nat} (bound : index < descriptorLeaseBankCount)
    {id : UInt64} (member : id ∈ (service.banks index).pendingIds) : id ∈ allottedIds service.log := by
  obtain ⟨record, isPending, rfl⟩ := List.mem_map.mp member
  exact standing_allotted _ _ _ (banked.stood index bound record isPending)

/-- Banks are left alone or emptied. Where sets are left, the plan keeps its
pool and what stands of it. -/
theorem of_emptied (banked : Banked given service) (ids : allottedIds next.log = allottedIds service.log)
    (banks : ∀ index < descriptorLeaseBankCount, next.banks index = service.banks index ∨
      next.banks index = .zero)
    (kept : ∀ index < descriptorLeaseBankCount, (next.banks index).pending ≠ [] →
      (next.plans index).poolId = (service.plans index).poolId ∧
        standing (service.banks index).poolId next.log = standing (service.banks index).poolId service.log) :
    Banked given next := by
  have pending : ∀ index < descriptorLeaseBankCount, (next.banks index).pending = [] ∨
      next.banks index = service.banks index ∧ (next.banks index).pending ≠ [] := by
    intro index bound
    by_cases empty : (next.banks index).pending = []
    · exact Or.inl empty
    · rcases banks index bound with same | zero
      · exact Or.inr ⟨same, empty⟩
      · rw [zero] at empty
        exact absurd rfl empty
  have members : ∀ index < descriptorLeaseBankCount, ∀ id ∈ (next.banks index).pendingIds,
      id ∈ (service.banks index).pendingIds := by
    intro index bound id member
    rcases pending index bound with empty | ⟨same, -⟩
    · rw [LeaseBank.pendingIds, empty] at member
      cases member
    · rwa [same] at member
  refine ⟨?_, ?_, ?_, ?_, ?_, ?_, banked.once⟩
  · intro index bound some
    rw [(kept index bound some).1]
    rcases pending index bound with empty | ⟨same, -⟩
    · exact absurd empty some
    · rw [same] at some ⊢
      exact banked.owned index bound some
  · intro index bound record member
    rcases pending index bound with empty | ⟨same, some⟩
    · rw [empty] at member
      cases member
    · rw [same] at member ⊢
      rw [(kept index bound some).2]
      exact banked.stood index bound record member
  · intro index bound
    rcases pending index bound with empty | ⟨same, -⟩
    · rw [LeaseBank.pendingIds, empty]
      exact List.nodup_nil
    · rw [same]
      exact banked.nodup index bound
  · intro first firstBound second secondBound different id inFirst inSecond
    exact banked.disjoint first firstBound second secondBound different id (members first firstBound id inFirst)
      (members second secondBound id inSecond)
  · intro index bound id member
    exact banked.apart index bound id (members index bound id member)
  · rw [ids]
    exact banked.allotted

theorem of_banks (banked : Banked given service) (log : next.log = service.log)
    (banks : ∀ index < descriptorLeaseBankCount, next.banks index = service.banks index ∨
      next.banks index = .zero)
    (plans : ∀ index < descriptorLeaseBankCount, (next.banks index).pending ≠ [] →
      (next.plans index).poolId = (service.plans index).poolId) : Banked given next := by
  refine banked.of_emptied ?_ banks (fun index bound some => ⟨plans index bound some, ?_⟩)
  · rw [log]
  · rw [log]

theorem extend (banked : Banked given service) {taken rest : List UInt64}
    (log : next.log = service.log ++ [.allocated poolId layoutIds (taken ++ rest)])
    (plans : next.plans = service.plans) (banks : next.banks = service.banks)
    (fresh : (allottedIds next.log).Nodup) :
    Banked (given ++ taken) next ∧ rest.Nodup ∧
      ∀ id ∈ rest, id ∉ given ++ taken ∧ ∀ index < descriptorLeaseBankCount, id ∉ (next.banks index).pendingIds := by
  rw [log, allottedIds_append, LeaseEvent.setIds] at fresh
  obtain ⟨-, newNodup, new⟩ := List.nodup_append.mp fresh
  obtain ⟨takenNodup, restNodup, split⟩ := List.nodup_append.mp newNodup
  have unknown : ∀ id ∈ taken ++ rest, id ∉ allottedIds service.log := by
    intro id member old
    exact new id old id member rfl
  have unpending : ∀ id ∈ taken ++ rest, ∀ index < descriptorLeaseBankCount,
      id ∉ (service.banks index).pendingIds :=
    fun id member index bound pending => unknown id member (banked.pending_allotted bound pending)
  refine ⟨⟨?_, ?_, ?_, ?_, ?_, ?_, ?_⟩, restNodup, ?_⟩
  · rw [plans, banks]
    exact banked.owned
  · rw [banks, log]
    intro index bound record member
    exact mem_standing_allocated _ (banked.stood index bound record member)
  · rw [banks]
    exact banked.nodup
  · rw [banks]
    exact banked.disjoint
  · rw [banks]
    intro index bound id member given
    rcases List.mem_append.mp given with old | new
    · exact banked.apart index bound id member old
    · exact unpending id (List.mem_append_left _ new) index bound member
  · rw [log, allottedIds_append, LeaseEvent.setIds]
    intro id member
    rcases List.mem_append.mp member with old | new
    · exact List.mem_append_left _ (banked.allotted id old)
    · exact List.mem_append_right _ (List.mem_append_left _ new)
  · refine List.nodup_append.mpr ⟨banked.once, takenNodup, ?_⟩
    rintro id old _ new rfl
    exact unknown id (List.mem_append_left _ new) (banked.allotted id old)
  · intro id member
    refine ⟨?_, ?_⟩
    · intro given
      rcases List.mem_append.mp given with old | new
      · exact unknown id (List.mem_append_right _ member) (banked.allotted id old)
      · exact split id new id member rfl
    · rw [banks]
      exact unpending id (List.mem_append_right _ member)

theorem fill (banked : Banked given service) {index : Nat} {bank : LeaseBank}
    (log : next.log = service.log) (banks : next.banks = Function.update service.banks index bank)
    (plans : ∀ other, (next.plans other).poolId = (service.plans other).poolId)
    (isPool : (service.plans index).poolId = bank.poolId) (some : bank.poolId ≠ 0)
    (stood : ∀ record ∈ bank.pending, (record.layoutId, record.descriptorSetId) ∈ standing bank.poolId service.log)
    (nodup : bank.pendingIds.Nodup)
    (unknown : ∀ id ∈ bank.pendingIds, id ∉ given ∧
      ∀ other < descriptorLeaseBankCount, id ∉ (service.banks other).pendingIds) : Banked given next := by
  have here : next.banks index = bank := by rw [banks, Function.update_self]
  have there : ∀ other, other ≠ index → next.banks other = service.banks other := by
    intro other different
    rw [banks, Function.update_of_ne different]
  refine ⟨?_, ?_, ?_, ?_, ?_, ?_, banked.once⟩
  · intro other bound pending
    rw [plans]
    by_cases same : other = index
    · rw [same, here]
      exact ⟨isPool, some⟩
    · rw [there other same] at pending ⊢
      exact banked.owned other bound pending
  · intro other bound record member
    rw [log]
    by_cases same : other = index
    · rw [same, here] at member ⊢
      exact stood record member
    · rw [there other same] at member ⊢
      exact banked.stood other bound record member
  · intro other bound
    by_cases same : other = index
    · rw [same, here]
      exact nodup
    · rw [there other same]
      exact banked.nodup other bound
  · intro first firstBound second secondBound different id inFirst inSecond
    by_cases isFirst : first = index
    · rw [isFirst, here] at inFirst
      rw [there second (fun isSecond => different (isFirst.trans isSecond.symm))] at inSecond
      exact (unknown id inFirst).2 second secondBound inSecond
    · rw [there first isFirst] at inFirst
      by_cases isSecond : second = index
      · rw [isSecond, here] at inSecond
        exact (unknown id inSecond).2 first firstBound inFirst
      · rw [there second isSecond] at inSecond
        exact banked.disjoint first firstBound second secondBound different id inFirst inSecond
  · intro other bound id member
    by_cases same : other = index
    · rw [same, here] at member
      exact (unknown id member).1
    · rw [there other same] at member
      exact banked.apart other bound id member
  · rw [log]
    exact banked.allotted

end Banked

/-- What the client is given was allocated for what it asked. -/
def Honoured (handout : Handout) (log : List LeaseEvent) : Prop :=
  handout.setIds.length = handout.layoutIds.length ∧
    ∀ pair ∈ handout.layoutIds.zip handout.setIds, pair ∈ standing handout.poolId log

def givenBy (handout : Option Handout) : List UInt64 := (handout.map (·.setIds)).getD []

def Serves (given : List UInt64) (outcome : Option Handout × LeaseService) : Prop :=
  Banked (given ++ givenBy outcome.1) outcome.2 ∧ ∀ handout, outcome.1 = some handout → Honoured handout outcome.2.log

theorem Serves.nothing (banked : Banked given service) : Serves given (none, service) := by
  refine ⟨?_, fun handout impossible => nomatch impossible⟩
  rw [show given ++ givenBy none = given from List.append_nil given]
  exact banked

theorem insertDescriptorSets_length (descriptorPoolId : UInt64) (sets : List UInt64) :
    ∀ (ids : List UInt64) (context last : ObjectContext) (reply : ObjectReply),
      ObjectContext.insertDescriptorSets descriptorPoolId sets ids context = (.ok reply, last) →
      reply.result = vkSuccess → reply.ids.length = ids.length + sets.length := by
  induction sets with
  | nil =>
      intro ids context last reply outcome _
      cases outcome
      rfl
  | cons set rest ih =>
      intro ids context last reply outcome done
      simp only [ObjectContext.insertDescriptorSets, ObjectContext.takeSerial] at outcome
      split at outcome
      · cases outcome
        exact absurd done (by decide)
      · have counted := ih _ _ _ _ outcome done
        simp only [List.length_append, List.length_cons, List.length_nil] at counted ⊢
        omega

theorem allocateDescriptorSets_length {driver : ObjectDriver} {context last : ObjectContext} {reply : ObjectReply}
    {answer : SetAnswer}
    (outcome : context.allocateDescriptorSets driver poolId layoutIds answer.result answer.sets = (.ok reply, last))
    (done : reply.result = vkSuccess) : reply.ids.length = layoutIds.length := by
  unfold ObjectContext.allocateDescriptorSets at outcome
  split at outcome
  · cases outcome
    exact absurd done (by decide)
  split at outcome
  · cases outcome
  split at outcome
  · rename_i verdict _
    cases verdict with
    | error code => cases outcome
    | ok result =>
        -- The lineage of a layout is refused with an error code.
        rename_i lineages
        obtain ⟨layoutId, -, refused⟩ := List.exists_of_findSome?_eq_some lineages
        unfold ObjectContext.lineage at refused
        split at refused
        · cases refused
        · split at refused
          · cases refused
          · cases refused
  split at outcome
  · cases outcome
  split at outcome
  · rename_i failed
    cases outcome
    exact absurd done failed
  · have counted := insertDescriptorSets_length _ _ _ _ _ _ outcome done
    simpa using counted

/-- An allocation adds one event to the log when it succeeds, and nothing else
that concerns the leases. -/
theorem allocate_cases (driver : ObjectDriver) (service : LeaseService) (poolId : UInt64) (layoutIds : List UInt64)
    (answer : SetAnswer) :
    (service.allocate driver poolId layoutIds answer).2.plans = service.plans ∧
      (service.allocate driver poolId layoutIds answer).2.banks = service.banks ∧
      ((∃ setIds, (service.allocate driver poolId layoutIds answer).1 = .ok ⟨vkSuccess, setIds⟩ ∧
          setIds.length = layoutIds.length ∧
          (service.allocate driver poolId layoutIds answer).2.log =
            service.log ++ [.allocated poolId layoutIds setIds]) ∨
        (∀ reply, (service.allocate driver poolId layoutIds answer).1 = .ok reply → reply.result ≠ vkSuccess) ∧
          (service.allocate driver poolId layoutIds answer).2.log = service.log) := by
  unfold LeaseService.allocate
  split
  · exact ⟨rfl, rfl, Or.inr ⟨(fun reply impossible => nomatch impossible), rfl⟩⟩
  · rename_i reply context outcome
    refine ⟨rfl, rfl, ?_⟩
    by_cases done : reply.result = vkSuccess
    · refine Or.inl ⟨reply.ids, ?_, allocateDescriptorSets_length outcome done, by simp [done]⟩
      rw [← done]
    · refine Or.inr ⟨?_, by simp [done]⟩
      rintro other ⟨⟩
      exact done

theorem Banked.of_frame (banked : Banked given service) (log : next.log = service.log)
    (plans : next.plans = service.plans) (banks : next.banks = service.banks) : Banked given next := by
  refine banked.of_banks log (fun index _ => Or.inl ?_) (fun index _ _ => ?_)
  · rw [banks]
  · rw [plans]

theorem allocate_serves (driver : ObjectDriver) (banked : Banked given service) (poolId : UInt64)
    (layoutIds : List UInt64) (answer : SetAnswer)
    (fresh : (allottedIds (service.allocate driver poolId layoutIds answer).2.log).Nodup) :
    Serves given (handoutOf poolId layoutIds (service.allocate driver poolId layoutIds answer).1,
      (service.allocate driver poolId layoutIds answer).2) := by
  obtain ⟨plans, banks, ⟨setIds, done, counted, log⟩ | ⟨failed, log⟩⟩ :=
    allocate_cases driver service poolId layoutIds answer
  · have whole : (service.allocate driver poolId layoutIds answer).2.log =
        service.log ++ [.allocated poolId layoutIds (setIds ++ [])] := by
      rw [List.append_nil]
      exact log
    have extended := (banked.extend whole plans banks fresh).1
    rw [done]
    refine ⟨extended, ?_⟩
    rintro handout ⟨⟩
    refine ⟨counted, fun pair member => ?_⟩
    simp only [log, standing_append, standingAfter, if_true]
    exact List.mem_append_right _ member
  · have nothing : handoutOf poolId layoutIds (service.allocate driver poolId layoutIds answer).1 = none := by
      cases reply : (service.allocate driver poolId layoutIds answer).1 with
      | error code => rfl
      | ok answered => exact if_neg (failed answered reply)
    rw [nothing]
    exact Serves.nothing (banked.of_frame log plans banks)

/-! ## Batches -/

theorem leaseBatchLayouts_length (layoutIds : List UInt64) (batchCount : Nat) :
    (leaseBatchLayouts layoutIds batchCount).length = batchCount := by
  simp [leaseBatchLayouts]

theorem leaseBatchLayouts_take {batchCount : Nat} (enough : layoutIds.length ≤ batchCount) :
    (leaseBatchLayouts layoutIds batchCount).take layoutIds.length = layoutIds := by
  refine List.ext_getElem ?_ ?_
  · rw [List.length_take, leaseBatchLayouts_length]
    omega
  · intro index inTake bound
    have small : index % layoutIds.length = index := Nat.mod_eq_of_lt bound
    simp [leaseBatchLayouts, small, bound]

theorem leaseSmallerBatchSetCount_lt {currentCount signatureCount : Nat} (large : signatureCount < currentCount) :
    leaseSmallerBatchSetCount currentCount signatureCount < currentCount := by
  unfold leaseSmallerBatchSetCount
  split
  · omega
  split
  · rename_i more
    have whole := Nat.div_mul_le_self currentCount signatureCount
    have halved : currentCount / signatureCount / 2 < currentCount / signatureCount := by omega
    calc currentCount / signatureCount / 2 * signatureCount
        < currentCount / signatureCount * signatureCount := by
          exact Nat.mul_lt_mul_of_pos_right halved (by omega)
      _ ≤ currentCount := whole
  · omega

/-- The loop ends before its fuel does. -/
theorem tryBatches_fuel (driver : ObjectDriver) (poolId : UInt64) (layoutIds : List UInt64)
    (answers : Nat → SetAnswer) (index : Nat) : ∀ fuel more attempt batchCount (service : LeaseService),
      batchCount ≤ fuel →
      tryBatches driver poolId layoutIds answers index (fuel + more) attempt batchCount service =
        tryBatches driver poolId layoutIds answers index fuel attempt batchCount service := by
  intro fuel
  induction fuel with
  | zero =>
      intro more attempt batchCount service enough
      cases more with
      | zero => rfl
      | succ more =>
          rw [Nat.zero_add, tryBatches, tryBatches, if_pos (by omega)]
  | succ fuel ih =>
      intro more attempt batchCount service enough
      rw [Nat.add_right_comm, tryBatches, tryBatches]
      by_cases small : batchCount ≤ layoutIds.length
      · rw [if_pos small, if_pos small]
      · rw [if_neg small, if_neg small]
        have less := leaseSmallerBatchSetCount_lt (Nat.lt_of_not_le small)
        split
        · rfl
        · split
          · exact ih more _ _ _ (by omega)
          · rfl

theorem publish_pending {poolId epoch : UInt64} {records : List LeaseRecord} {bank : LeaseBank}
    (published : LeaseBank.publish poolId epoch records = some bank) :
    bank.poolId = poolId ∧ poolId ≠ 0 ∧ bank.pending = records := by
  unfold LeaseBank.publish at published
  split at published
  · cases published
  rename_i admitted
  split at published
  · cases published
  · cases published
    refine ⟨rfl, fun zero => admitted (Or.inl zero), ?_⟩
    simp [LeaseBank.pending, LeaseBank.unclaimed]

theorem setPlan_poolId (service : LeaseService) (index : Nat) {plan : LeasePlan}
    (same : plan.poolId = (service.plans index).poolId) (other : Nat) :
    ((service.setPlan index plan).plans other).poolId = (service.plans other).poolId := by
  simp only [setPlan, Function.update_apply]
  split
  · rename_i here
    rw [here, same]
  · rfl

theorem Banked.setPlan (banked : Banked given service) (index : Nat) {plan : LeasePlan}
    (same : plan.poolId = (service.plans index).poolId) : Banked given (service.setPlan index plan) :=
  banked.of_banks rfl (fun _ _ => Or.inl rfl) (fun other _ _ => setPlan_poolId service index same other)

theorem settleBatch_log (service : LeaseService) (index : Nat) (layoutIds : List UInt64) (batchCount : Nat)
    (reply : ObjectReply) : (service.settleBatch index layoutIds batchCount reply).2.log = service.log := by
  simp only [settleBatch]
  repeat' split
  all_goals rfl

theorem settleBatch_serves {before : LeaseService} (banked : Banked given before) {index batchCount : Nat}
    (isPool : (before.plans index).poolId = poolId) (large : layoutIds.length ≤ batchCount)
    (counted : setIds.length = batchCount) (plans : service.plans = before.plans)
    (banks : service.banks = before.banks)
    (log : service.log = before.log ++ [.allocated poolId (leaseBatchLayouts layoutIds batchCount) setIds])
    (fresh : (allottedIds service.log).Nodup) :
    Serves given (handoutOf poolId layoutIds (service.settleBatch index layoutIds batchCount ⟨vkSuccess, setIds⟩).1,
      (service.settleBatch index layoutIds batchCount ⟨vkSuccess, setIds⟩).2) := by
  have whole := log
  rw [← List.take_append_drop layoutIds.length setIds] at whole
  obtain ⟨extended, restNodup, unknown⟩ := banked.extend whole plans banks fresh
  have stands : ∀ pair ∈ (leaseBatchLayouts layoutIds batchCount).zip setIds,
      pair ∈ standing poolId service.log := by
    intro pair member
    simp only [log, standing_append, standingAfter, if_true]
    exact List.mem_append_right _ member
  have honoured : Honoured ⟨poolId, layoutIds, setIds.take layoutIds.length⟩ service.log := by
    refine ⟨?_, fun pair member => stands pair ?_⟩
    · simp only [List.length_take]
      omega
    · have first : layoutIds.zip (setIds.take layoutIds.length) =
          ((leaseBatchLayouts layoutIds batchCount).zip setIds).take layoutIds.length := by
        rw [List.zip_eq_zipWith, List.zip_eq_zipWith, List.take_zipWith, leaseBatchLayouts_take large]
      rw [first] at member
      exact List.mem_of_mem_take member
  have given : ∀ last : LeaseService, last.log = service.log →
      Banked (given ++ setIds.take layoutIds.length) last →
      Serves given (some ⟨poolId, layoutIds, setIds.take layoutIds.length⟩, last) := by
    intro last same settled
    refine ⟨settled, ?_⟩
    rintro handout ⟨⟩
    dsimp only
    rw [same]
    exact honoured
  have answered : ¬ ((vkSuccess : VulkanResult) ≠ vkSuccess ∨ setIds.length ≠ batchCount) := by
    rintro (impossible | different)
    · exact impossible rfl
    · exact different counted
  unfold settleBatch
  rw [if_neg answered]
  dsimp only
  split
  · exact given _ rfl (extended.setPlan index rfl)
  split
  · exact given _ rfl (extended.setPlan index rfl)
  · rename_i bank published
    obtain ⟨ofPool, some, pending⟩ := publish_pending published
    rw [plans, isPool] at ofPool some
    have rest : ((leaseBatchLayouts layoutIds batchCount).drop layoutIds.length).zip
        (setIds.drop layoutIds.length) = ((leaseBatchLayouts layoutIds batchCount).zip setIds).drop
          layoutIds.length := by
      rw [List.zip_eq_zipWith, List.zip_eq_zipWith, List.drop_zipWith]
    rw [← List.map_uncurry_zip_eq_zipWith] at pending
    have ids : bank.pendingIds = setIds.drop layoutIds.length := by
      rw [LeaseBank.pendingIds, pending, List.map_map]
      refine List.map_snd_zip ?_
      rw [List.length_drop, List.length_drop, leaseBatchLayouts_length, counted]
    refine given _ rfl (extended.fill rfl rfl ?_ ?_ ?_ ?_ ?_ ?_)
    · intro other
      refine (setPlan_poolId (service.setBank index bank) index ?_ other).trans rfl
      rfl
    · rw [plans, isPool, ofPool]
    · rw [ofPool]
      exact some
    · intro record member
      rw [ofPool]
      rw [pending, rest] at member
      obtain ⟨pair, inside, rfl⟩ := List.mem_map.mp member
      exact stands pair (List.mem_of_mem_drop inside)
    · rw [ids]
      exact restNodup
    · rw [ids]
      exact unknown

theorem tryBatches_serves (driver : ObjectDriver) (answers : Nat → SetAnswer) (index : Nat) :
    ∀ fuel attempt batchCount (service : LeaseService), Banked given service →
      (service.plans index).poolId = poolId →
      (allottedIds (tryBatches driver poolId layoutIds answers index fuel attempt batchCount service).2.log).Nodup →
      Serves given
        (handoutOf poolId layoutIds
          (tryBatches driver poolId layoutIds answers index fuel attempt batchCount service).1,
        (tryBatches driver poolId layoutIds answers index fuel attempt batchCount service).2) := by
  intro fuel
  induction fuel with
  | zero =>
      intro attempt batchCount service banked _ fresh
      have disabled : Banked given (service.disableBatches index) := banked.setPlan index rfl
      exact allocate_serves driver disabled poolId layoutIds (answers attempt) fresh
  | succ fuel ih =>
      intro attempt batchCount service banked isPool fresh
      simp only [tryBatches] at fresh ⊢
      by_cases small : batchCount ≤ layoutIds.length
      · simp only [if_pos small] at fresh ⊢
        have disabled : Banked given (service.disableBatches index) := banked.setPlan index rfl
        exact allocate_serves driver disabled poolId layoutIds (answers attempt) fresh
      · simp only [if_neg small] at fresh ⊢
        obtain ⟨plans, banks, outcome⟩ := allocate_cases driver service poolId
          (leaseBatchLayouts layoutIds batchCount) (answers attempt)
        cases allocated : service.allocate driver poolId (leaseBatchLayouts layoutIds batchCount)
            (answers attempt) with
        | mk reply next =>
            rw [allocated] at plans banks outcome
            simp only [allocated] at fresh ⊢
            rcases outcome with ⟨setIds, rfl, counted, log⟩ | ⟨failed, log⟩
            · have done : ¬ ((vkSuccess : VulkanResult) = vkErrorOutOfPoolMemory ∨
                  (vkSuccess : VulkanResult) = vkErrorFragmentedPool) := by decide
              simp only [if_neg done, settleBatch_log] at fresh ⊢
              rw [leaseBatchLayouts_length] at counted
              exact settleBatch_serves banked isPool (by omega) counted plans banks log fresh
            · have kept := banked.of_frame log plans banks
              cases reply with
              | error code => exact Serves.nothing kept
              | ok answered =>
                  by_cases short : answered.result = vkErrorOutOfPoolMemory ∨
                      answered.result = vkErrorFragmentedPool
                  · simp only [if_pos short] at fresh ⊢
                    exact ih _ _ _ kept (by rw [plans]; exact isPool) fresh
                  · have refused : answered.result ≠ vkSuccess ∨ answered.ids.length ≠ batchCount :=
                      Or.inl (failed answered rfl)
                    simp only [if_neg short, settleBatch, if_pos refused]
                    rw [handoutOf, if_neg (failed answered rfl)]
                    exact Serves.nothing kept

theorem planFind_banked (banked : Banked given service) {index : Nat} {planned : LeaseService}
    (found : service.planFind poolId layoutIds = some (index, planned)) :
    Banked given planned ∧ index < descriptorLeaseBankCount ∧ (planned.plans index).poolId = poolId ∧
      planned.log = service.log := by
  unfold planFind at found
  split at found
  · cases found
  split at found
  · rename_i position isFor
    cases found
    have bound := List.mem_range.mp (List.mem_of_find?_eq_some isFor)
    have fits := List.find?_some isFor
    simp only [LeasePlan.isFor, Bool.and_eq_true, beq_iff_eq] at fits
    exact ⟨banked, bound, fits.1, rfl⟩
  · split at found
    · rename_i position free
      cases found
      have bound := List.mem_range.mp (List.mem_of_find?_eq_some free)
      have unused := List.find?_some free
      simp only [beq_iff_eq] at unused
      refine ⟨banked.of_banks rfl (fun _ _ => Or.inl rfl) ?_, bound, ?_, rfl⟩
      · intro other inside pending
        simp only [LeaseService.setPlan, Function.update_apply]
        split
        · rename_i here
          subst here
          obtain ⟨owner, nonzero⟩ := banked.owned other inside pending
          rw [unused] at owner
          exact absurd owner.symm nonzero
        · rfl
      · simp [LeaseService.setPlan, LeasePlan.start]
    · cases found

theorem renewPlan_poolId (service : LeaseService) (index signatureCount other : Nat) :
    ((service.renewPlan index signatureCount).plans other).poolId = (service.plans other).poolId := by
  simp only [renewPlan, LeaseService.setPlan, setBank, Function.update_apply]
  split
  · rename_i here
    rw [here]
  · rfl

theorem allocateLiveBatch_serves (driver : ObjectDriver) (banked : Banked given service)
    (answers : Nat → SetAnswer)
    (fresh : (allottedIds (service.allocateLiveBatch driver poolId layoutIds answers).2.log).Nodup) :
    Serves given (handoutOf poolId layoutIds (service.allocateLiveBatch driver poolId layoutIds answers).1,
      (service.allocateLiveBatch driver poolId layoutIds answers).2) := by
  unfold allocateLiveBatch at fresh ⊢
  split at fresh
  · exact allocate_serves driver banked poolId layoutIds (answers 0) fresh
  rename_i index planned found
  obtain ⟨held, bound, isPool, -⟩ := planFind_banked banked found
  dsimp only at fresh ⊢
  split at fresh
  · rename_i exact_
    rw [if_pos exact_]
    exact allocate_serves driver held poolId layoutIds (answers 0) fresh
  rename_i batches
  rw [if_neg batches]
  split at fresh
  · rename_i cold
    rw [if_pos cold]
    refine allocate_serves driver ?_ poolId layoutIds (answers 0) fresh
    exact held.setPlan index rfl
  rename_i warm
  rw [if_neg warm]
  split at fresh
  · rename_i leased
    rw [if_pos leased]
    exact allocate_serves driver held poolId layoutIds (answers 0) fresh
  rename_i usedUp
  rw [if_neg usedUp]
  refine tryBatches_serves driver answers index _ _ _ _ ?_ ?_ fresh
  · split
    · refine held.of_banks rfl ?_ ?_
      · intro other _
        simp only [renewPlan, LeaseService.setPlan, setBank, Function.update_apply]
        split
        · exact Or.inr rfl
        · exact Or.inl rfl
      · intro other _ _
        exact renewPlan_poolId planned index layoutIds.length other
    · exact held
  · split
    · rw [renewPlan_poolId]
      exact isPool
    · exact isPool

/-! ## Claims -/

theorem claim_pending {bank : LeaseBank} (claimed : bank.claim poolId layoutIds = some setIds) :
    bank.poolId = poolId ∧ (bank.pending.take layoutIds.length).map (·.layoutId) = layoutIds ∧
      (bank.pending.take layoutIds.length).map (·.descriptorSetId) = setIds ∧
      ({ bank with cursor := bank.cursor + layoutIds.length } : LeaseBank).pending =
        bank.pending.drop layoutIds.length := by
  unfold LeaseBank.claim at claimed
  split at claimed
  · cases claimed
  rename_i open_
  simp only [Bool.or_eq_true, Bool.not_eq_true', bne_iff_ne, not_or, Bool.not_eq_false, not_not] at open_
  split at claimed
  · cases claimed
  dsimp only at claimed
  split at claimed
  · rename_i fits
    cases claimed
    have pending : bank.pending = bank.records.drop bank.cursor := by
      simp [LeaseBank.pending, open_.1, LeaseBank.unclaimed]
    refine ⟨open_.2, ?_, ?_, ?_⟩
    · rw [pending]
      exact fits.1
    · rw [pending]
    · simp [LeaseBank.pending, open_.1, LeaseBank.unclaimed, List.drop_drop]
  · cases claimed

theorem claimFrom_some {banks : Nat → LeaseBank} : ∀ remaining index found,
    claimFrom banks poolId layoutIds remaining index = some found →
      found.1 < index + remaining ∧ (banks found.1).claim poolId layoutIds = some found.2 := by
  intro remaining
  induction remaining with
  | zero => intro index found impossible; cases impossible
  | succ remaining ih =>
      intro index found outcome
      simp only [claimFrom] at outcome
      split at outcome
      · rename_i ids claimed
        cases outcome
        exact ⟨by omega, claimed⟩
      · obtain ⟨bound, claimed⟩ := ih _ _ outcome
        exact ⟨by omega, claimed⟩

theorem claim_honoured (banked : Banked given service) {index : Nat} (bound : index < descriptorLeaseBankCount)
    (claimed : (service.banks index).claim poolId layoutIds = some setIds) :
    Honoured ⟨poolId, layoutIds, setIds⟩ service.log := by
  obtain ⟨isPool, layouts, sets, -⟩ := claim_pending claimed
  refine ⟨?_, ?_⟩
  · have first := congrArg List.length layouts
    have second := congrArg List.length sets
    simp only [List.length_map] at first second
    exact second.symm.trans first
  · intro pair member
    have records : layoutIds.zip setIds = ((service.banks index).pending.take layoutIds.length).map
        fun record => (record.layoutId, record.descriptorSetId) := by
      rw [← List.zip_map', layouts, sets]
    rw [records] at member
    obtain ⟨record, inside, rfl⟩ := List.mem_map.mp member
    rw [← isPool]
    exact banked.stood index bound record (List.mem_of_mem_take inside)

theorem advance_serves (banked : Banked given service) {index : Nat} (bound : index < descriptorLeaseBankCount)
    (claimed : (service.banks index).claim poolId layoutIds = some setIds) :
    Serves given (some ⟨poolId, layoutIds, setIds⟩, service.advance index layoutIds.length) := by
  obtain ⟨isPool, layouts, sets, rest⟩ := claim_pending claimed
  have here : (service.advance index layoutIds.length).banks index =
      { service.banks index with cursor := (service.banks index).cursor + layoutIds.length } := by
    simp [advance, setBank]
  have there : ∀ other, other ≠ index →
      (service.advance index layoutIds.length).banks other = service.banks other := by
    intro other different
    simp [advance, setBank, Function.update_of_ne different]
  have left : ((service.advance index layoutIds.length).banks index).pending =
      (service.banks index).pending.drop layoutIds.length := by
    rw [here]
    exact rest
  have whole : (service.banks index).pendingIds =
      setIds ++ ((service.advance index layoutIds.length).banks index).pendingIds := by
    rw [LeaseBank.pendingIds, LeaseBank.pendingIds, left, ← sets, ← List.map_append, List.take_append_drop]
  have taken : ∀ id ∈ setIds, id ∈ (service.banks index).pendingIds := by
    intro id member
    rw [whole]
    exact List.mem_append_left _ member
  have remains : ∀ other, ∀ id ∈ ((service.advance index layoutIds.length).banks other).pendingIds,
      id ∈ (service.banks other).pendingIds := by
    intro other id member
    by_cases same : other = index
    · subst same
      rw [whole]
      exact List.mem_append_right _ member
    · rwa [there other same] at member
  have split := banked.nodup index bound
  rw [whole] at split
  obtain ⟨takenNodup, leftNodup, separate⟩ := List.nodup_append.mp split
  refine ⟨⟨?_, ?_, ?_, ?_, ?_, ?_, ?_⟩, ?_⟩
  · intro other inside some
    by_cases same : other = index
    · subst same
      rw [left] at some
      have before : (service.banks other).pending ≠ [] := by
        intro empty
        rw [empty] at some
        exact some List.drop_nil
      rw [here]
      exact banked.owned other inside before
    · rw [there other same] at some ⊢
      exact banked.owned other inside some
  · intro other inside record member
    by_cases same : other = index
    · subst same
      rw [left] at member
      rw [here]
      exact banked.stood other inside record (List.mem_of_mem_drop member)
    · rw [there other same] at member ⊢
      exact banked.stood other inside record member
  · intro other inside
    by_cases same : other = index
    · subst same
      exact leftNodup
    · rw [there other same]
      exact banked.nodup other inside
  · intro first firstBound second secondBound different id inFirst inSecond
    exact banked.disjoint first firstBound second secondBound different id (remains first id inFirst)
      (remains second id inSecond)
  · intro other inside id member given
    rcases List.mem_append.mp given with old | new
    · exact banked.apart other inside id (remains other id member) old
    · by_cases same : other = index
      · subst same
        exact separate id new id member rfl
      · exact banked.disjoint other inside index bound same id (remains other id member) (taken id new)
  · intro id member
    rcases List.mem_append.mp member with old | new
    · exact banked.allotted id old
    · exact banked.pending_allotted bound (taken id new)
  · refine List.nodup_append.mpr ⟨banked.once, takenNodup, ?_⟩
    rintro id old _ new rfl
    exact banked.apart index bound id (taken id new) old
  · rintro handout ⟨⟩
    have honoured := claim_honoured banked bound claimed
    exact honoured

theorem claim_serves (banked : Banked given service) (poolId : UInt64) (layoutIds : List UInt64)
    (driver : ObjectDriver) : Serves given (service.serve driver (.claim poolId layoutIds)) := by
  simp only [serve, LeaseService.claim]
  by_cases refused : poolId = 0 ∨ layoutIds.length = 0 ∨ descriptorLeaseMaxClaim < layoutIds.length
  · rw [if_pos refused]
    exact Serves.nothing banked
  rw [if_neg refused]
  cases found : claimFrom service.banks poolId layoutIds descriptorLeaseBankCount 0 with
  | none => exact Serves.nothing banked
  | some claimed =>
      obtain ⟨bound, taken⟩ := claimFrom_some _ _ _ found
      exact advance_serves banked (by omega) taken

theorem emptyPool_banked (banked : Banked given service) (poolId : UInt64) (context : ObjectContext)
    (log : next.log = (service.emptyPool poolId context).log)
    (banks : ∀ index < descriptorLeaseBankCount, next.banks index = .zero ∨
      next.banks index = service.banks index ∧ ((service.plans index).poolId = poolId → poolId = 0) ∧
        next.plans index = service.plans index) :
    Banked given next := by
  refine banked.of_emptied ?_ ?_ ?_
  · rw [log, LeaseService.emptyPool, allottedIds_append, LeaseEvent.setIds, List.append_nil]
  · intro index bound
    rcases banks index bound with zero | ⟨same, -⟩
    · exact Or.inr zero
    · exact Or.inl same
  · intro index bound some
    rcases banks index bound with zero | ⟨same, other, plan⟩
    · rw [zero] at some
      exact absurd rfl some
    · rw [same] at some
      obtain ⟨owner, nonzero⟩ := banked.owned index bound some
      refine ⟨by rw [plan], ?_⟩
      rw [log, LeaseService.emptyPool, standing_append, standingAfter, if_neg]
      intro isPool
      rw [← isPool] at owner nonzero
      exact nonzero (other owner)

theorem forgetPool_banked (banked : Banked given service) (poolId : UInt64) (context : ObjectContext) :
    Banked given ((service.emptyPool poolId context).forgetPool poolId) := by
  refine emptyPool_banked banked poolId context ?_ ?_
  · unfold forgetPool
    split <;> rfl
  · intro index bound
    unfold forgetPool
    split
    · rename_i zero
      exact Or.inr ⟨rfl, fun _ => zero, rfl⟩
    · by_cases mine : index < descriptorLeaseBankCount ∧ (service.plans index).poolId = poolId
      · exact Or.inl (if_pos mine)
      · refine Or.inr ⟨if_neg mine, fun isPool => absurd ⟨bound, isPool⟩ mine, if_neg mine⟩

theorem afterPoolReset_banked (banked : Banked given service) (poolId : UInt64) (context : ObjectContext) :
    Banked given ((service.emptyPool poolId context).afterPoolReset poolId) := by
  refine emptyPool_banked banked poolId context rfl ?_
  intro index bound
  by_cases mine : index < descriptorLeaseBankCount ∧ (service.plans index).poolId = poolId
  · exact Or.inl (if_pos mine)
  · refine Or.inr ⟨if_neg mine, fun isPool => absurd ⟨bound, isPool⟩ mine, if_neg mine⟩

theorem answer_serves (driver : ObjectDriver) (banked : Banked given service) (request : ObjectRequest)
    (fresh : (allottedIds (service.answer driver request).2.log).Nodup) :
    Serves given (service.answer driver request) := by
  have others : ∀ context : ObjectContext, Serves given (none, { service with context := context }) :=
    fun context => Serves.nothing (banked.of_frame rfl rfl rfl)
  cases request with
  | allocateDescriptorSets poolId layoutIds result sets =>
      exact allocate_serves driver banked poolId layoutIds ⟨result, sets⟩ fresh
  | destroyDescriptorPool poolId =>
      simp only [answer]
      split
      · exact others _
      · exact Serves.nothing (forgetPool_banked banked poolId _)
  | resetDescriptorPool poolId fields present result =>
      simp only [answer]
      split
      · split
        · exact Serves.nothing (afterPoolReset_banked banked poolId _)
        · exact others _
      · exact others _
  | _ => exact others _

theorem serve_serves (driver : ObjectDriver) (banked : Banked given service) (input : LeaseInput)
    (fresh : (allottedIds (service.serve driver input).2.log).Nodup) : Serves given (service.serve driver input) := by
  cases input with
  | transaction poolId layoutIds answers => exact allocateLiveBatch_serves driver banked answers fresh
  | claim poolId layoutIds => exact claim_serves banked poolId layoutIds driver
  | call request => exact answer_serves driver banked request fresh

/-- A service beside the ids of the sets its client was given. -/
structure LeaseHistory where
  service : LeaseService
  given : List UInt64

namespace LeaseHistory

def step (history : LeaseHistory) (input : ObjectDriver × LeaseInput) : LeaseHistory :=
  ⟨(history.service.serve input.1 input.2).2,
    history.given ++ givenBy (history.service.serve input.1 input.2).1⟩

def start (found : Bool) : LeaseHistory := ⟨.empty found, []⟩

/-- The ids of descriptor sets are not reused. -/
def Fresh (history : LeaseHistory) : Prop := (allottedIds history.service.log).Nodup

instance : DecidablePred Fresh := fun history =>
  inferInstanceAs (Decidable (allottedIds history.service.log).Nodup)

/-- The pool and the layouts an input asks sets for. -/
def asks : LeaseInput → Option (UInt64 × List UInt64)
  | .transaction poolId layoutIds _ => some (poolId, layoutIds)
  | .claim poolId layoutIds => some (poolId, layoutIds)
  | .call (.allocateDescriptorSets poolId layoutIds _ _) => some (poolId, layoutIds)
  | .call _ => none

theorem serve_asks (driver : ObjectDriver) (service : LeaseService) (input : LeaseInput) (handout : Handout)
    (given : (service.serve driver input).1 = some handout) :
    asks input = some (handout.poolId, handout.layoutIds) := by
  have ofReply : ∀ (poolId : UInt64) (layoutIds : List UInt64) (reply : Except Errno ObjectReply),
      handoutOf poolId layoutIds reply = some handout → (poolId, layoutIds) = (handout.poolId, handout.layoutIds) := by
    intro poolId layoutIds reply given
    cases reply with
    | error code => cases given
    | ok reply =>
        simp only [handoutOf] at given
        split at given
        · cases given
          rfl
        · cases given
  cases input with
  | transaction poolId layoutIds answers => exact congrArg some (ofReply _ _ _ given)
  | claim poolId layoutIds =>
      simp only [serve] at given
      split at given
      · cases given
      · cases given
        rfl
  | call request =>
      cases request with
      | allocateDescriptorSets poolId layoutIds result sets => exact congrArg some (ofReply _ _ _ given)
      | destroyDescriptorPool poolId =>
          simp only [serve, answer] at given
          split at given <;> cases given
      | resetDescriptorPool poolId fields present result =>
          simp only [serve, answer] at given
          split at given
          · split at given <;> cases given
          · cases given
      | _ => cases given

theorem start_banked (found : Bool) : Banked (start found).given (start found).service := by
  refine ⟨?_, ?_, ?_, ?_, ?_, ?_, List.nodup_nil⟩
  · intro index _ some
    exact absurd rfl some
  · intro index _ record member
    cases member
  · intro index _
    exact List.nodup_nil
  · intro first _ second _ _ id member
    cases member
  · intro index _ id member
    cases member
  · intro id member
    cases member

theorem run_banked (inputs : List (ObjectDriver × LeaseInput)) (history : LeaseHistory)
    (banked : Banked history.given history.service) (fresh : Runs.EveryState step Fresh history inputs) :
    Runs.EveryState step (fun state => Banked state.given state.service) history inputs :=
  Runs.everyState_of_everyStep
    (fun _ input holds next => (serve_serves input.1 holds input.2 next).1) inputs history banked fresh.next

/-- Every set given to the client was allocated for what it asked, since the
last reset of its pool, and none is given twice. -/
theorem leases_handed_out_once (found : Bool) (inputs : List (ObjectDriver × LeaseInput))
    (fresh : Runs.EveryState step Fresh (start found) inputs) :
    Runs.EveryStep step
        (fun history input => ∀ handout, (history.service.serve input.1 input.2).1 = some handout →
          asks input.2 = some (handout.poolId, handout.layoutIds) ∧ Honoured handout (history.step input).service.log)
        (start found) inputs ∧
      Runs.EveryState step (fun history => history.given.Nodup) (start found) inputs := by
  have states := run_banked inputs (start found) (start_banked found) fresh
  refine ⟨states.everyStep ?_ fresh.next, states.imp fun _ banked => banked.once⟩
  intro history input banked next handout given
  exact ⟨serve_asks input.1 history.service input.2 handout given,
    (serve_serves input.1 banked input.2 next).2 handout given⟩

def poolRun : List (ObjectDriver × LeaseInput) :=
  [(fullDriver, .call (.createInstance none ⟨vkSuccess, 10⟩ true true)),
    (fullDriver, .call (.enumeratePhysicalDevices (handleId .inst 1) none vkSuccess [20])),
    (fullDriver, .call (.createDevice (handleId .physicalDevice 1) none none [⟨0, 1⟩] ⟨vkSuccess, 30⟩)),
    (fullDriver, .call (.createDescriptorPool (handleId .device 1) none ⟨vkSuccess, 40⟩)),
    (fullDriver, .call (.createDescriptorSetLayout (handleId .device 1) none ⟨vkSuccess, 50⟩))]

/-- Three transactions for one set each, the last of which allocates two, and
the claim of the second. -/
def leaseRun : List (ObjectDriver × LeaseInput) :=
  let ask : LeaseInput := .transaction (handleId .descriptorPool 1) [handleId .descriptorSetLayout 1]
    fun _ => ⟨vkSuccess, fun index => 60 + UInt64.ofNat index⟩
  poolRun ++ [(fullDriver, ask), (fullDriver, ask), (fullDriver, ask),
    (fullDriver, .claim (handleId .descriptorPool 1) [handleId .descriptorSetLayout 1])]

theorem leases_handed_out_once_claimed :
    (Runs.final step (start true) leaseRun).given = (List.range 4).map (fun index =>
        handleId .descriptorSet (1 + UInt64.ofNat index)) ∧
      Runs.EveryState step (fun history => history.given.Nodup) (start true) leaseRun :=
  ⟨by decide +kernel, (leases_handed_out_once true leaseRun (by decide +kernel)).2⟩

end LeaseHistory

end VulkanBridge
