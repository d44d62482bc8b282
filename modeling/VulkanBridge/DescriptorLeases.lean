import VulkanBridge.SparedHandles

/-!
Leased descriptor sets. The ring worker of the service (`bridge_service.c`)
allocates more sets than a request asks for, answers with the first of them and
puts the rest into a bank of the shared region (`descriptor_transaction_ring.c`),
from which the client takes sets without asking. The header of the ring is taken
as valid.
-/

namespace VulkanBridge

def vkErrorOutOfPoolMemory : VulkanResult := -1000069000
def vkErrorFragmentedPool : VulkanResult := -12

def descriptorLeaseBankCount : Nat := 64
def descriptorLeaseBankCapacity : Nat := 64
def descriptorLeaseMaxClaim : Nat := 16

structure LeaseRecord where
  layoutId : UInt64
  descriptorSetId : UInt64
  deriving DecidableEq, Repr

/-- A bank of the shared region; its `count` is the number of records. -/
structure LeaseBank where
  poolId : UInt64
  epoch : UInt64
  records : List LeaseRecord
  cursor : Nat
  ready : Bool
  deriving DecidableEq, Repr

structure LeasePlan where
  poolId : UInt64
  epoch : UInt64
  signature : List UInt64
  batchRepetitions : Nat
  observedRequests : Nat
  published : Bool
  batchDisabled : Bool
  deriving DecidableEq, Repr

namespace LeaseBank

def zero : LeaseBank := ⟨0, 0, [], 0, false⟩

/-- `bvb_descriptor_lease_bank_publish`, `none` when it is refused. -/
def publish (poolId epoch : UInt64) (records : List LeaseRecord) : Option LeaseBank :=
  if poolId = 0 ∨ epoch = 0 ∨ records.length = 0 ∨ descriptorLeaseBankCapacity < records.length then none
  else if records.any fun record => record.layoutId == 0 || record.descriptorSetId == 0 then none
  else some ⟨poolId, epoch, records, 0, true⟩

def claim (bank : LeaseBank) (poolId : UInt64) (layoutIds : List UInt64) : Option (List UInt64) :=
  if !bank.ready || bank.poolId != poolId then none
  else if bank.records.length < bank.cursor ∨ bank.records.length - bank.cursor < layoutIds.length then none
  else
    let wanted := (bank.records.drop bank.cursor).take layoutIds.length
    if wanted.map (·.layoutId) = layoutIds ∧ wanted.all (·.descriptorSetId != 0) then
      some (wanted.map (·.descriptorSetId))
    else none

/-- The records no claim has taken. -/
def unclaimed (bank : LeaseBank) : List LeaseRecord := bank.records.drop bank.cursor

/-- `bvb_descriptor_lease_bank_cursor` succeeds and shows unclaimed records. -/
def hasUnclaimed (bank : LeaseBank) : Bool := bank.ready && decide (bank.cursor < bank.records.length)

end LeaseBank

namespace LeasePlan

def zero : LeasePlan := ⟨0, 0, [], 0, 0, false, false⟩

def isFor (plan : LeasePlan) (poolId : UInt64) (layoutIds : List UInt64) : Bool :=
  plan.poolId == poolId && plan.signature == layoutIds

def start (poolId : UInt64) (layoutIds : List UInt64) : LeasePlan := ⟨poolId, 0, layoutIds, 2, 0, false, false⟩

end LeasePlan

def leaseBatchSetCount (signatureCount repetitions : Nat) : Nat :=
  if signatureCount = 0 ∨ maxDescriptorSetsPerAllocate < signatureCount ∨ repetitions = 0 then 0
  else min repetitions (maxDescriptorSetsPerAllocate / signatureCount) * signatureCount

def leaseSmallerBatchSetCount (currentCount signatureCount : Nat) : Nat :=
  if currentCount ≤ signatureCount ∨ signatureCount = 0 then signatureCount
  else if 1 < currentCount / signatureCount / 2 then currentCount / signatureCount / 2 * signatureCount
  else signatureCount

def leaseBatchLayouts (layoutIds : List UInt64) (batchCount : Nat) : List UInt64 :=
  (List.range batchCount).map fun index => layoutIds.getD (index % layoutIds.length) 0

inductive LeaseEvent where
  | allocated (poolId : UInt64) (layoutIds setIds : List UInt64)
  | emptied (poolId : UInt64)
  deriving DecidableEq, Repr

structure SetAnswer where
  result : VulkanResult
  sets : Nat → UInt64

structure LeaseService where
  context : ObjectContext
  plans : Nat → LeasePlan
  banks : Nat → LeaseBank
  log : List LeaseEvent

namespace LeaseService

variable (driver : ObjectDriver) (service : LeaseService)

def setPlan (index : Nat) (plan : LeasePlan) : LeaseService :=
  { service with plans := Function.update service.plans index plan }

def setBank (index : Nat) (bank : LeaseBank) : LeaseService :=
  { service with banks := Function.update service.banks index bank }

def allocate (poolId : UInt64) (layoutIds : List UInt64) (answer : SetAnswer) :
    Except Errno ObjectReply × LeaseService :=
  match service.context.allocateDescriptorSets driver poolId layoutIds answer.result answer.sets with
  | (.error code, context) => (.error code, { service with context := context })
  | (.ok reply, context) =>
      (.ok reply,
        { service with
          context := context
          log := if reply.result = vkSuccess then service.log ++ [.allocated poolId layoutIds reply.ids]
            else service.log })

def planFind (poolId : UInt64) (layoutIds : List UInt64) : Option (Nat × LeaseService) :=
  if poolId = 0 ∨ layoutIds.length = 0 ∨ maxDescriptorSetsPerAllocate < layoutIds.length then none
  else
    match (List.range descriptorLeaseBankCount).find? fun index => (service.plans index).isFor poolId layoutIds with
    | some index => some (index, service)
    | none =>
        match (List.range descriptorLeaseBankCount).find? fun index => (service.plans index).poolId == 0 with
        | some index => some (index, service.setPlan index (.start poolId layoutIds))
        | none => none

def renewPlan (index signatureCount : Nat) : LeaseService :=
  let plan := service.plans index
  let most := maxDescriptorSetsPerAllocate / signatureCount
  let repetitions :=
    if plan.batchRepetitions < most then min (plan.batchRepetitions * 2) most else plan.batchRepetitions
  (service.setBank index .zero).setPlan index { plan with published := false, batchRepetitions := repetitions }

def disableBatches (index : Nat) : LeaseService :=
  service.setPlan index { service.plans index with batchDisabled := true }

def settleBatch (index : Nat) (layoutIds : List UInt64) (batchCount : Nat) (reply : ObjectReply) :
    Except Errno ObjectReply × LeaseService :=
  if reply.result ≠ vkSuccess ∨ reply.ids.length ≠ batchCount then (.ok reply, service)
  else
    let response : ObjectReply := ⟨vkSuccess, reply.ids.take layoutIds.length⟩
    let leases := List.zipWith LeaseRecord.mk ((leaseBatchLayouts layoutIds batchCount).drop layoutIds.length)
      (reply.ids.drop layoutIds.length)
    let plan : LeasePlan := { service.plans index with batchRepetitions := batchCount / layoutIds.length }
    if plan.epoch = 0xffffffffffffffff then (.ok response, service.setPlan index { plan with batchDisabled := true })
    else
      match LeaseBank.publish plan.poolId (plan.epoch + 1) leases with
      | none =>
          (.ok response, service.setPlan index { plan with epoch := plan.epoch + 1, batchDisabled := true })
      | some bank =>
          (.ok response,
            (service.setBank index bank).setPlan index { plan with epoch := plan.epoch + 1, published := true })

/-- The loop that asks for smaller batches while the pool is short. `fuel`
bounds its rounds; `tryBatches_fuel` shows that the batch's own size is enough. -/
def tryBatches (poolId : UInt64) (layoutIds : List UInt64) (answers : Nat → SetAnswer) (index : Nat) :
    Nat → Nat → Nat → LeaseService → Except Errno ObjectReply × LeaseService
  | 0, attempt, _, service =>
      (service.disableBatches index).allocate driver poolId layoutIds (answers attempt)
  | fuel + 1, attempt, batchCount, service =>
      if batchCount ≤ layoutIds.length then
        (service.disableBatches index).allocate driver poolId layoutIds (answers attempt)
      else
        match service.allocate driver poolId (leaseBatchLayouts layoutIds batchCount) (answers attempt) with
        | (.error code, next) => (.error code, next)
        | (.ok reply, next) =>
            if reply.result = vkErrorOutOfPoolMemory ∨ reply.result = vkErrorFragmentedPool then
              tryBatches poolId layoutIds answers index fuel (attempt + 1)
                (leaseSmallerBatchSetCount batchCount layoutIds.length) next
            else next.settleBatch index layoutIds batchCount reply

/-- `descriptor_lease_allocate_live_batch`. -/
def allocateLiveBatch (poolId : UInt64) (layoutIds : List UInt64) (answers : Nat → SetAnswer) :
    Except Errno ObjectReply × LeaseService :=
  match service.planFind poolId layoutIds with
  | none => service.allocate driver poolId layoutIds (answers 0)
  | some (index, planned) =>
      let plan := planned.plans index
      if plan.batchDisabled ∨ leaseBatchSetCount layoutIds.length plan.batchRepetitions ≤ layoutIds.length then
        planned.allocate driver poolId layoutIds (answers 0)
      else if !plan.published && decide (plan.observedRequests < 2) then
        (planned.setPlan index { plan with observedRequests := plan.observedRequests + 1 }).allocate driver poolId
          layoutIds (answers 0)
      else if plan.published && (planned.banks index).hasUnclaimed then
        planned.allocate driver poolId layoutIds (answers 0)
      else
        let renewed := if plan.published then planned.renewPlan index layoutIds.length else planned
        let batchCount := leaseBatchSetCount layoutIds.length (renewed.plans index).batchRepetitions
        tryBatches driver poolId layoutIds answers index batchCount 0 batchCount renewed

/-- `descriptor_lease_forget_pool`: the plans of a pool and their banks go. -/
def forgetPool (poolId : UInt64) : LeaseService :=
  if poolId = 0 then service
  else
    { service with
      plans := fun index =>
        if index < descriptorLeaseBankCount ∧ (service.plans index).poolId = poolId then .zero
        else service.plans index
      banks := fun index =>
        if index < descriptorLeaseBankCount ∧ (service.plans index).poolId = poolId then .zero
        else service.banks index }

/-- `descriptor_lease_after_pool_reset`: the banks go and the plans start over. -/
def afterPoolReset (poolId : UInt64) : LeaseService :=
  { service with
    plans := fun index =>
      if index < descriptorLeaseBankCount ∧ (service.plans index).poolId = poolId then
        { service.plans index with
          published := false, batchDisabled := false, batchRepetitions := 2, observedRequests := 0 }
      else service.plans index
    banks := fun index =>
      if index < descriptorLeaseBankCount ∧ (service.plans index).poolId = poolId then .zero
      else service.banks index }

def claimFrom (banks : Nat → LeaseBank) (poolId : UInt64) (layoutIds : List UInt64) :
    Nat → Nat → Option (Nat × List UInt64)
  | 0, _ => none
  | remaining + 1, index =>
      match (banks index).claim poolId layoutIds with
      | some ids => some (index, ids)
      | none => claimFrom banks poolId layoutIds remaining (index + 1)

def advance (index count : Nat) : LeaseService :=
  service.setBank index { service.banks index with cursor := (service.banks index).cursor + count }

/-- `bvb_descriptor_lease_claim`. -/
def claim (poolId : UInt64) (layoutIds : List UInt64) : Except Errno (List UInt64) × LeaseService :=
  if poolId = 0 ∨ layoutIds.length = 0 ∨ descriptorLeaseMaxClaim < layoutIds.length then (.error .einval, service)
  else
    match claimFrom service.banks poolId layoutIds descriptorLeaseBankCount 0 with
    | none => (.error .enoent, service)
    | some (index, ids) => (.ok ids, service.advance index layoutIds.length)

end LeaseService

/-- A transaction in the ring, a claim of the client, or a request of the socket. -/
inductive LeaseInput where
  | transaction (poolId : UInt64) (layoutIds : List UInt64) (answers : Nat → SetAnswer)
  | claim (poolId : UInt64) (layoutIds : List UInt64)
  | call (request : ObjectRequest)

structure Handout where
  poolId : UInt64
  layoutIds : List UInt64
  setIds : List UInt64
  deriving DecidableEq, Repr

namespace LeaseService

variable (driver : ObjectDriver) (service : LeaseService)

def empty (found : Bool) : LeaseService :=
  ⟨.empty globalObjectCapacity found, fun _ => .zero, fun _ => .zero, []⟩

def handoutOf (poolId : UInt64) (layoutIds : List UInt64) : Except Errno ObjectReply → Option Handout
  | .ok reply => if reply.result = vkSuccess then some ⟨poolId, layoutIds, reply.ids⟩ else none
  | .error _ => none

def emptyPool (poolId : UInt64) (context : ObjectContext) : LeaseService :=
  { service with context := context, log := service.log ++ [.emptied poolId] }

/-- The socket's requests: those about descriptor pools also tell the leases. -/
def answer : ObjectRequest → Option Handout × LeaseService
  | .allocateDescriptorSets poolId layoutIds result sets =>
      let (reply, next) := service.allocate driver poolId layoutIds ⟨result, sets⟩
      (handoutOf poolId layoutIds reply, next)
  | .destroyDescriptorPool poolId =>
      match service.context.destroyDescriptorPool driver poolId with
      | (.error _, context) => (none, { service with context := context })
      | (.ok _, context) =>
          (none, (service.emptyPool poolId context).forgetPool poolId)
  | .resetDescriptorPool poolId fields present result =>
      match service.context.resetDescriptorPool poolId fields present result with
      | (.ok reply, context) =>
          if reply.result = vkSuccess then
            (none, (service.emptyPool poolId context).afterPoolReset poolId)
          else (none, { service with context := context })
      | (.error _, context) => (none, { service with context := context })
  | request => (none, { service with context := (service.context.call driver request).2 })

def serve : LeaseInput → Option Handout × LeaseService
  | .transaction poolId layoutIds answers =>
      let (reply, next) := service.allocateLiveBatch driver poolId layoutIds answers
      (handoutOf poolId layoutIds reply, next)
  | .claim poolId layoutIds =>
      match service.claim poolId layoutIds with
      | (.error _, next) => (none, next)
      | (.ok ids, next) => (some ⟨poolId, layoutIds, ids⟩, next)
  | .call request => service.answer driver request

end LeaseService

end VulkanBridge
