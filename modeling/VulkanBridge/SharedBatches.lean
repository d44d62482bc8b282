import VulkanBridge.VisibleIngress
import VulkanBridge.Runs

/-!
The shared region of visible batches while its peer, who keeps it mapped, writes to it.
-/

namespace VulkanBridge

open ByteBuffer

/-- The bytes of the region around a call: at its first read, and wherever the caller reads
them later. `torn` is the answer of the validation if they change between its reads, which
may be any. -/
structure PeerWrites where
  before : Buffer
  torn : Option (Except Errno CommandBatchInfo)
  after : List Buffer

structure AcceptedBatch where
  sequence : UInt64
  length : Nat
  reads : List Buffer

structure RegionService where
  region : VisibleBatchRegion
  accepted : List AcceptedBatch

inductive RegionCall where
  | setup (payload : Buffer) (payloadLength : Nat) (file : MemoryFile)
  | execute (peer : PeerWrites) (payload : Buffer) (payloadLength : Nat)

namespace VisibleBatchRegion

variable (region : VisibleBatchRegion)

/-- The checks of `bvb_visible_batch_region_execute` before it reads the region. -/
def admission (payload : Buffer) (payloadLength : Nat) : Except Errno SharedBatchExecute :=
  if payloadLength ≠ visibleBatchExecuteSize then .error .einval
  else if !region.mapped then .error .enxio
  else
    match decodeVisibleBatchExecute payload with
    | .error code => .error code
    | .ok (token, shared) =>
        if !tokenMatches region.token token then .error .eacces
        else if shared.generation ≠ region.generation then .error .estale
        else if shared.sequence ≤ region.lastSequence then .error .ealready
        else if shared.offset.toNat > region.length ∨ shared.length.toNat > region.length - shared.offset.toNat then
          .error .erange
        else .ok shared

def accept (shared : SharedBatchExecute) (validated : Except Errno CommandBatchInfo) :
    Except Errno (VisibleBatch × VisibleBatchRegion) :=
  match validated with
  | .error code => .error code
  | .ok info =>
      if info.sequence ≠ shared.sequence then .error .eproto
      else
        .ok (⟨.region shared.offset.toNat, shared.length.toNat, shared.sequence⟩,
          { region with lastSequence := shared.sequence })

end VisibleBatchRegion

def SharedBatchExecute.bytes (shared : SharedBatchExecute) (memory : Buffer) : Buffer :=
  window memory shared.offset.toNat shared.length.toNat

def PeerWrites.validation (peer : PeerWrites) (shared : SharedBatchExecute) : Except Errno CommandBatchInfo :=
  peer.torn.getD (commandBatchValidate (shared.bytes peer.before) shared.length.toNat)

namespace RegionService

variable (service : RegionService)

/-- What a call returns and leaves. -/
def call : RegionCall → Except Errno Unit × RegionService
  | .setup payload payloadLength file =>
      match service.region.setup payload payloadLength file with
      | .error code => (.error code, service)
      | .ok region => (.ok (), { service with region := region })
  | .execute peer payload payloadLength =>
      match service.region.admission payload payloadLength with
      | .error code => (.error code, service)
      | .ok shared =>
          match service.region.accept shared (peer.validation shared) with
          | .error code => (.error code, service)
          | .ok (batch, region) =>
              (.ok (),
                { region := region
                  accepted :=
                    service.accepted ++ [⟨batch.sequence, batch.length, peer.after.map shared.bytes⟩] })

def step (service : RegionService) (call : RegionCall) : RegionService := (service.call call).2

end RegionService

namespace VisibleBatchRegion

variable {region next : VisibleBatchRegion} {payload memory : Buffer} {payloadLength : Nat}
  {shared : SharedBatchExecute}
  {batch : VisibleBatch} {validated : Except Errno CommandBatchInfo}

theorem execute_eq : region.execute memory payload payloadLength =
    (region.admission payload payloadLength).bind fun shared =>
      region.accept shared (commandBatchValidate (shared.bytes memory) shared.length.toNat) := by
  unfold execute admission
  by_cases size : payloadLength ≠ visibleBatchExecuteSize
  · rw [if_pos size, if_pos size]
    rfl
  rw [if_neg size, if_neg size]
  by_cases unmapped : (!region.mapped) = true
  · rw [if_pos unmapped, if_pos unmapped]
    rfl
  rw [if_neg unmapped, if_neg unmapped]
  rcases decodeVisibleBatchExecute payload with code | ⟨token, shared⟩
  · rfl
  dsimp only
  split
  · rfl
  split
  · rfl
  split
  · rfl
  split
  · rfl
  · rfl

theorem admission_eq_ok (admitted : region.admission payload payloadLength = .ok shared) :
    (∃ token, decodeVisibleBatchExecute payload = .ok (token, shared)) ∧ region.lastSequence < shared.sequence := by
  unfold admission at admitted
  split at admitted
  · cases admitted
  split at admitted
  · cases admitted
  split at admitted
  · cases admitted
  · rename_i token decoded found
    split at admitted
    · cases admitted
    split at admitted
    · cases admitted
    split at admitted
    · cases admitted
    · rename_i fresh
      split at admitted
      · cases admitted
      · cases admitted
        exact ⟨⟨token, found⟩, UInt64.not_le.mp fresh⟩

theorem accept_eq_ok : region.accept shared validated = .ok (batch, next) ↔
    (∃ info, validated = .ok info ∧ info.sequence = shared.sequence) ∧
      batch = ⟨.region shared.offset.toNat, shared.length.toNat, shared.sequence⟩ ∧
      next = { region with lastSequence := shared.sequence } := by
  unfold accept
  rcases validated with code | info
  · simp
  · by_cases same : info.sequence = shared.sequence
    · dsimp only
      rw [if_neg (not_not_intro same)]
      simp only [Except.ok.injEq, Prod.mk.injEq, exists_eq_left', same, true_and, eq_comm]
    · simp [same]

theorem setup_lastSequence {file : MemoryFile} (done : region.setup payload payloadLength file = .ok next) :
    next.lastSequence = region.lastSequence := by
  unfold setup at done
  repeat (split at done; · cases done)
  cases done
  rfl

end VisibleBatchRegion

namespace RegionService

variable {service : RegionService}

/-- The sequences were accepted in increasing order, and the region remembers the last. -/
structure Increasing (service : RegionService) : Prop where
  ordered : (service.accepted.map AcceptedBatch.sequence).Pairwise (· < ·)
  remembered : ∀ batch ∈ service.accepted, batch.sequence ≤ service.region.lastSequence

/-- What the callers read is what was accepted. -/
def Settled (service : RegionService) : Prop :=
  ∀ batch ∈ service.accepted, ∀ bytes ∈ batch.reads,
    (commandBatchValidate bytes batch.length).map CommandBatchInfo.sequence = .ok batch.sequence

instance (service : RegionService) : Decidable service.Settled := inferInstanceAs (Decidable (∀ _ ∈ _, _))

/-- A call that fails leaves the region as it was. -/
def FailureLeaves (service : RegionService) (call : RegionCall) : Prop :=
  ∀ code, (service.call call).1 = .error code → (service.call call).2.region = service.region

/-- The peer changes no byte of the batch that the request names, from the first read of the
call to the last of its caller. -/
def Undisturbed (_ : RegionService) : RegionCall → Prop
  | .setup _ _ _ => True
  | .execute peer payload _ =>
      peer.torn = none ∧ ∀ token shared, decodeVisibleBatchExecute payload = .ok (token, shared) →
        ∀ memory ∈ peer.after, shared.bytes memory = shared.bytes peer.before

theorem failureLeaves (service : RegionService) (call : RegionCall) : service.FailureLeaves call := by
  intro code failed
  cases call with
  | setup payload payloadLength file =>
      simp only [RegionService.call] at failed ⊢
      split at failed
      · rfl
      · cases failed
  | execute peer payload payloadLength =>
      simp only [RegionService.call] at failed ⊢
      split at failed
      · rfl
      split at failed
      · rfl
      · cases failed

theorem step_cases (service : RegionService) (call : RegionCall) :
    ((service.step call).accepted = service.accepted ∧
      (service.step call).region.lastSequence = service.region.lastSequence) ∨
    ∃ peer payload payloadLength token shared info, call = .execute peer payload payloadLength ∧
      decodeVisibleBatchExecute payload = .ok (token, shared) ∧ service.region.lastSequence < shared.sequence ∧
      peer.validation shared = .ok info ∧ info.sequence = shared.sequence ∧
      service.step call =
        ⟨{ service.region with lastSequence := shared.sequence },
          service.accepted ++ [⟨shared.sequence, shared.length.toNat, peer.after.map shared.bytes⟩]⟩ := by
  cases call with
  | setup payload payloadLength file =>
      refine .inl ?_
      simp only [step, RegionService.call]
      split
      · exact ⟨rfl, rfl⟩
      · rename_i region done
        exact ⟨rfl, VisibleBatchRegion.setup_lastSequence done⟩
  | execute peer payload payloadLength =>
      simp only [step, RegionService.call]
      split
      · exact .inl ⟨rfl, rfl⟩
      rename_i shared admitted
      obtain ⟨⟨token, decoded⟩, fresh⟩ := VisibleBatchRegion.admission_eq_ok admitted
      split
      · exact .inl ⟨rfl, rfl⟩
      · rename_i batch region accepted
        obtain ⟨⟨info, validated, same⟩, rfl, rfl⟩ := VisibleBatchRegion.accept_eq_ok.mp accepted
        exact .inr ⟨peer, payload, payloadLength, token, shared, info, rfl, decoded, fresh, validated, same, rfl⟩

theorem Increasing.step (increasing : service.Increasing) (call : RegionCall) : (service.step call).Increasing := by
  rcases step_cases service call with ⟨accepted, last⟩ | ⟨peer, _, _, _, shared, info, _, _, fresh, _, _, next⟩
  · constructor
    · rw [accepted]
      exact increasing.ordered
    · rw [accepted, last]
      exact increasing.remembered
  · rw [next]
    have older : ∀ batch ∈ service.accepted, batch.sequence < shared.sequence := by
      intro batch member
      exact UInt64.lt_of_le_of_lt (increasing.remembered batch member) fresh
    constructor
    · rw [List.map_append, List.pairwise_append]
      refine ⟨increasing.ordered, List.pairwise_singleton _ _, ?_⟩
      intro sequence member last present
      obtain ⟨batch, present', rfl⟩ := List.mem_map.mp member
      rw [List.mem_singleton.mp present]
      exact older batch present'
    · intro batch member
      rcases List.mem_append.mp member with earlier | last
      · exact UInt64.le_of_lt (older batch earlier)
      · rw [List.mem_singleton.mp last]
        exact UInt64.le_refl _

theorem Settled.step (settled : service.Settled) (call : RegionCall) (undisturbed : service.Undisturbed call) :
    (service.step call).Settled := by
  rcases step_cases service call with
    ⟨accepted, _⟩ | ⟨peer, payload, payloadLength, token, shared, info, rfl, decoded, _, validated, same, next⟩
  · rw [Settled, accepted]
    exact settled
  · obtain ⟨whole, kept⟩ := undisturbed
    rw [PeerWrites.validation, whole, Option.getD_none] at validated
    rw [next]
    intro batch member bytes read
    rcases List.mem_append.mp member with earlier | last
    · exact settled batch earlier bytes read
    · obtain rfl := List.mem_singleton.mp last
      obtain ⟨memory, found, rfl⟩ := List.mem_map.mp read
      dsimp only
      rw [kept token shared decoded memory found, validated]
      exact congrArg Except.ok same

end RegionService

open RegionService in
/-- In every run the accepted sequences increase and a call that fails leaves the region. In a run
whose calls are not disturbed, what the callers read is what was accepted. -/
theorem shared_batches_settled (region : VisibleBatchRegion) (calls : List RegionCall) :
    Runs.EveryState step Increasing ⟨region, []⟩ calls ∧ Runs.EveryStep step FailureLeaves ⟨region, []⟩ calls ∧
      (Runs.EveryStep step Undisturbed ⟨region, []⟩ calls →
        Runs.EveryState step RegionService.Settled ⟨region, []⟩ calls) := by
  refine ⟨?_, ?_, ?_⟩
  · refine Runs.everyState_of_step (fun _ call increasing => increasing.step call) calls _ ⟨List.Pairwise.nil, ?_⟩
    intro batch member
    cases member
  · exact Runs.everyStep_of_all failureLeaves calls _
  · refine Runs.everyState_of_everyStep (fun _ call settled => settled.step call) calls _ ?_
    intro batch member
    cases member

/-- The bytes of a batch of one record. -/
def endBatch : Buffer :=
  let header := putU32 (putU16 (putU32 zeroed 0 commandBatchMagic) 4 commandBatchVersion) 8 40
  let header := putU64 (putU64 (putU32 header 12 1) 16 (handleId .commandBuffer 1)) 24 1
  putU16 header 32 Opcode.vulkanEnd.code

def batchToken : Buffer := fun index => if index < lifecycleTokenSize then 1 else 0

def setupCall : RegionCall :=
  .setup (putU64 (putU32 batchToken 32 4096) 40 7) visibleBatchSetupSize
    ⟨true, .ok (true, 4096), .ok (true, true), none⟩

/-- A request for the first 40 bytes. -/
def executeCall (peer : PeerWrites) : RegionCall :=
  .execute peer (putU64 (putU32 (putU32 (putU64 batchToken 32 7) 40 0) 44 40) 48 1) visibleBatchExecuteSize

def unmappedRegion : VisibleBatchRegion := ⟨false, 0, 0, 0, batchToken⟩

open RegionService in
theorem undisturbed_batch_settled : Runs.EveryState step RegionService.Settled ⟨unmappedRegion, []⟩
    [setupCall, executeCall ⟨endBatch, none, [endBatch]⟩] := by
  refine (shared_batches_settled unmappedRegion _).2.2 ⟨trivial, ⟨rfl, ?_⟩, trivial⟩
  intro token shared _ memory same
  rw [List.mem_singleton.mp same]

open RegionService in
/-- The peer clears the count of the records behind an accepted execute. -/
theorem changed_batch_refused : ¬ Runs.EveryState step RegionService.Settled ⟨unmappedRegion, []⟩
    [setupCall, executeCall ⟨endBatch, none, [putU32 endBatch 12 0]⟩] := by
  decide +kernel

end VulkanBridge
