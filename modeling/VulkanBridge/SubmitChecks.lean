import VulkanBridge.QueueSubmit

/-!
A queue submit with command streams fails closed: whatever its validation refuses
leaves the generation table and the driver alone, and what its validation accepts
the submit itself does not refuse again.
-/

namespace VulkanBridge

open CheckedLoops

namespace ServiceContext

variable {context : ServiceContext}

structure Submittable (context : ServiceContext) (request : QueueSubmit2Request) (deviceId device queue : UInt64) :
    Prop where
  limits : ¬submitOutsideLimits request
  queue : context.resolveQueue request.queueId = .ok (device, queue)
  owner : ∃ queueBits, context.objects.lookup request.queueId .queue = .ok (deviceId, queueBits)
  waits : ∀ wait ∈ request.waits, ∃ info, context.submitSemaphore deviceId wait = .ok info
  commands : ∀ command ∈ request.commands, ∃ info, context.submitCommand deviceId device command = .ok info
  signals : ∀ signal ∈ request.signals, ∃ info, context.submitSemaphore deviceId signal = .ok info
  fence : ∃ fence, context.submitFence deviceId device request.fenceId = .ok fence

theorem submitSemaphore_ok_iff {deviceId : UInt64} {record : SubmitSemaphoreRecord} :
    (∃ info, context.submitSemaphore deviceId record = .ok info) ↔
      ∃ parentId semaphoreBits, context.objects.lookup record.semaphoreId .semaphore = .ok (parentId, semaphoreBits) ∧
        ¬(parentId ≠ deviceId ∨ record.deviceIndex ≠ 0) := by
  simp only [submitSemaphore, bind_eq_ok, refused_eq_ok, pure_eq_ok, Prod.exists]
  constructor
  · rintro ⟨info, parentId, bits, found, accepted, -⟩
    exact ⟨parentId, bits, found, accepted⟩
  · rintro ⟨parentId, bits, found, accepted⟩
    exact ⟨_, parentId, bits, found, accepted, rfl⟩

theorem submitCommand_ok_iff {deviceId device : UInt64} {record : SubmitCommandRecord} :
    (∃ info, context.submitCommand deviceId device record = .ok info) ↔
      ∃ owner, context.resolveCommandBuffer record.commandBufferId = .ok owner ∧
        ¬(owner.deviceId ≠ deviceId ∨ owner.device ≠ device ∨ record.deviceMask ≠ 0) := by
  simp only [submitCommand, bind_eq_ok, refused_eq_ok, pure_eq_ok]
  constructor
  · rintro ⟨info, owner, found, accepted, -⟩
    exact ⟨owner, found, accepted⟩
  · rintro ⟨owner, found, accepted⟩
    exact ⟨_, owner, found, accepted, rfl⟩

theorem submitFence_ok_iff {deviceId device fenceId : UInt64} :
    (∃ fence, context.submitFence deviceId device fenceId = .ok fence) ↔
      (fenceId ≠ 0 → ∃ fence, context.resolveDeviceChild fenceId .fence = .ok fence ∧
        ¬(fence.deviceId ≠ deviceId ∨ fence.device ≠ device)) := by
  by_cases absent : fenceId = 0
  · simp [submitFence, absent]
  · rw [submitFence, if_neg absent]
    simp only [bind_eq_ok, refused_eq_ok, pure_eq_ok]
    constructor
    · rintro ⟨bits, fence, found, accepted, -⟩ _
      exact ⟨fence, found, accepted⟩
    · intro resolves
      obtain ⟨fence, found, accepted⟩ := resolves absent
      exact ⟨_, fence, found, accepted, rfl⟩

theorem prepareQueueSubmit2_iff {request : QueueSubmit2Request} :
    (∃ prepared, context.prepareQueueSubmit2 request = .ok prepared) ↔
      ∃ deviceId device queue, context.Submittable request deviceId device queue := by
  simp only [prepareQueueSubmit2, guarded_eq_ok, bind_eq_ok, Prod.exists, reduceCtorEq, imp_false]
  constructor
  · rintro ⟨prepared, limits, device, queue, resolved, deviceId, bits, owner, waits, waited, commands, commanded,
      signals, signalled, fence, fenced, -⟩
    exact ⟨deviceId, device, queue, limits, resolved, ⟨bits, owner⟩, mapM_ok_iff.mp ⟨waits, waited⟩,
      mapM_ok_iff.mp ⟨commands, commanded⟩, mapM_ok_iff.mp ⟨signals, signalled⟩, fence, fenced⟩
  · rintro ⟨deviceId, device, queue, limits, resolved, ⟨bits, owner⟩, waits, commands, signals, fence, fenced⟩
    obtain ⟨waits, waited⟩ := mapM_ok_iff.mpr waits
    obtain ⟨commands, commanded⟩ := mapM_ok_iff.mpr commands
    obtain ⟨signals, signalled⟩ := mapM_ok_iff.mpr signals
    exact ⟨_, limits, device, queue, resolved, deviceId, bits, owner, waits, waited, commands, commanded, signals,
      signalled, fence, fenced, rfl⟩

theorem validateQueueSubmit2_iff {request : QueueSubmit2Request} {deviceId : UInt64} :
    context.validateQueueSubmit2 request = .ok deviceId ↔
      ∃ device queue, context.Submittable request deviceId device queue := by
  simp only [validateQueueSubmit2, guarded_eq_ok, bind_eq_ok, Prod.exists, reduceCtorEq, imp_false,
    List.forM_eq_forM, forM_eq_ok, when_eq_ok, exists_const]
  constructor
  · rintro ⟨limits, device, queue, resolved, owner, bits, owned, waits, commands, signals, rest⟩
    have fenced : deviceId = owner ∧ (request.fenceId ≠ 0 → ∃ fence,
        context.resolveDeviceChild request.fenceId .fence = .ok fence ∧
          ¬(fence.deviceId ≠ owner ∨ fence.device ≠ device)) := by
      by_cases absent : request.fenceId = 0
      · rw [if_neg (not_not.mpr absent), pure_eq_ok] at rest
        exact ⟨rest.symm, fun present => absurd absent present⟩
      · rw [if_pos absent, bind_eq_ok] at rest
        obtain ⟨fence, found, accepted⟩ := rest
        rw [guarded_eq_ok] at accepted
        obtain ⟨accepted, same⟩ := accepted
        exact ⟨(pure_eq_ok.mp same).symm, fun _ => ⟨fence, found, fun refused => absurd (accepted refused) (by simp)⟩⟩
    obtain ⟨rfl, fence⟩ := fenced
    exact ⟨device, queue, limits, resolved, ⟨bits, owned⟩,
      fun wait member => submitSemaphore_ok_iff.mpr (waits wait member),
      fun command member => submitCommand_ok_iff.mpr (commands command member),
      fun signal member => submitSemaphore_ok_iff.mpr (signals signal member), submitFence_ok_iff.mpr fence⟩
  · rintro ⟨device, queue, limits, resolved, ⟨bits, owned⟩, waits, commands, signals, fenced⟩
    refine ⟨limits, device, queue, resolved, deviceId, bits, owned,
      fun wait member => submitSemaphore_ok_iff.mp (waits wait member),
      fun command member => submitCommand_ok_iff.mp (commands command member),
      fun signal member => submitSemaphore_ok_iff.mp (signals signal member), ?_⟩
    by_cases absent : request.fenceId = 0
    · rw [if_neg (not_not.mpr absent)]
      rfl
    · obtain ⟨fence, found, accepted⟩ := submitFence_ok_iff.mp fenced absent
      rw [if_pos absent, found, ok_bind, if_neg accepted]
      rfl

/-- What the validation accepts the submit does not refuse, and the other way round. -/
theorem prepareQueueSubmit2_iff_validate {request : QueueSubmit2Request} :
    (∃ prepared, context.prepareQueueSubmit2 request = .ok prepared) ↔
      ∃ deviceId, context.validateQueueSubmit2 request = .ok deviceId := by
  simp only [prepareQueueSubmit2_iff, validateQueueSubmit2_iff]

theorem decodeSubmitCommand_regular {input : ByteBuffer.Buffer} {offset : Nat} {record : SubmitCommandRecord}
    (decoded : decodeSubmitCommand false input offset = .ok record) : record.streamFlags = 0 := by
  simp only [decodeSubmitCommand, guarded_eq_ok, accepted_eq_ok] at decoded
  obtain ⟨-, -, same⟩ := decoded
  rw [← Except.ok.inj same]
  rfl

theorem decodeQueueSubmit2Request_streams {input : ByteBuffer.Buffer} {length : Nat} {streamWire : Bool}
    {request : QueueSubmit2Request} (decoded : decodeQueueSubmit2Request input length streamWire = .ok request) :
    (streamWire = false → submitStreams request = []) ∧
      (streamWire = true → request.commands.any (·.streamFlags == submitSharedStream) = true) := by
  simp only [decodeQueueSubmit2Request, guarded_eq_ok, bind_eq_ok, reduceCtorEq, imp_false] at decoded
  obtain ⟨-, -, -, -, waits, -, commands, commanded, some, signals, -, same⟩ := decoded
  obtain rfl := pure_eq_ok.mp same
  constructor
  · rintro rfl
    rw [submitStreams, List.filter_eq_nil_iff]
    intro command member
    obtain ⟨index, -, one⟩ := mem_of_mapM_ok commanded (List.fst_mem_of_mem_zipIdx member)
    simp [decodeSubmitCommand_regular one]
  · rintro rfl
    simpa using some

/-- The validation refuses the submit or one of its streams. -/
def Refuses (context : ServiceContext) (environment : SubmitEnvironment) (region : Option SharedBatchRegion)
    (request : QueueSubmit2Request) : Prop :=
  (∀ deviceId, context.validateQueueSubmit2 request ≠ .ok deviceId) ∨
    ∃ deviceId, context.validateQueueSubmit2 request = .ok deviceId ∧
      ∃ stream ∈ submitStreams request, ∀ shared snapshot, submitRegion region = .ok shared →
        context.validateSubmitStream environment shared request deviceId stream.1 stream.2 ≠ .ok snapshot

/-- A failed submit that changed no generation, recorded nothing and submitted nothing. -/
structure Untouched (region : Option SharedBatchRegion) (outcome : SubmitOutcome) : Prop where
  failed : outcome.status ≠ none
  region : outcome.region = region
  recorded : outcome.recorded = []
  submitted : outcome.submitted = none

theorem validateSubmitStreams_refused {environment : SubmitEnvironment} {region : Option SharedBatchRegion}
    {request : QueueSubmit2Request} (refuses : context.Refuses environment region request) :
    ∃ code, context.validateSubmitStreams environment region request = .error code := by
  cases outcome : context.validateSubmitStreams environment region request with
  | error code => exact ⟨code, rfl⟩
  | ok validated =>
      simp only [validateSubmitStreams, bind_eq_ok] at outcome
      obtain ⟨shared, regioned, deviceId, valid, snapshots, streamed, -⟩ := outcome
      rcases refuses with none | ⟨other, alsoValid, stream, member, fails⟩
      · exact absurd valid (none deviceId)
      · obtain rfl := Except.ok.inj (valid.symm.trans alsoValid)
        obtain ⟨pair, accepted⟩ := mapM_ok_iff.mp ⟨snapshots, streamed⟩ stream member
        obtain ⟨snapshot, passed, -⟩ := bind_eq_ok.mp accepted
        exact absurd passed (fails shared snapshot regioned)

theorem queueSubmit2_refused (environment : SubmitEnvironment) {request : QueueSubmit2Request}
    (refuses : ∀ deviceId, context.validateQueueSubmit2 request ≠ .ok deviceId) :
    ∃ code, context.queueSubmit2 environment request = .error code := by
  cases outcome : context.prepareQueueSubmit2 request with
  | error code => exact ⟨code, by rw [queueSubmit2, outcome]; rfl⟩
  | ok prepared =>
      obtain ⟨deviceId, valid⟩ := prepareQueueSubmit2_iff_validate.mp ⟨prepared, outcome⟩
      exact absurd valid (refuses deviceId)

theorem answerVulkanQueueSubmit2_untouched {environment : SubmitEnvironment} {region : Option SharedBatchRegion}
    {negotiated streamWire : Bool} {payload : ByteBuffer.Buffer} {length : Nat} {request : QueueSubmit2Request}
    (decoded : decodeQueueSubmit2Request payload length streamWire = .ok request)
    (refuses : context.Refuses environment region request) :
    Untouched region (context.answerVulkanQueueSubmit2 environment region negotiated streamWire payload length) := by
  obtain ⟨regular, streams⟩ := decodeQueueSubmit2Request_streams decoded
  cases negotiated with
  | false => exact ⟨nofun, rfl, rfl, rfl⟩
  | true =>
      simp only [answerVulkanQueueSubmit2, Bool.true_eq_false, if_false, decoded]
      cases streamWire with
      | true =>
          obtain ⟨code, refused⟩ := validateSubmitStreams_refused refuses
          simp only [replaySubmitCommandStreams, streams rfl, Bool.true_eq_false, if_false, if_true, refused]
          exact ⟨nofun, rfl, rfl, rfl⟩
      | false =>
          have invalid : ∀ deviceId, context.validateQueueSubmit2 request ≠ .ok deviceId := by
            rcases refuses with none | ⟨-, -, stream, member, -⟩
            · exact none
            · rw [regular rfl] at member
              cases member
          obtain ⟨code, refused⟩ := queueSubmit2_refused environment invalid
          simp only [Bool.false_eq_true, if_false, refused]
          exact ⟨nofun, rfl, rfl, rfl⟩

/-- After its own checks a submit fails only for the memory mirrors or for want of the
native function. -/
theorem queueSubmit2_failure {environment : SubmitEnvironment} {request : QueueSubmit2Request}
    {prepared : PreparedSubmit} {code : Errno} (checked : context.prepareQueueSubmit2 request = .ok prepared)
    (failed : context.queueSubmit2 environment request = .error code) :
    environment.mirrorStatus = some code ∨
      code = .enosys ∧ ∀ suffix ∈ [Suffix.core, .khr], environment.submitPresent prepared.device suffix = false := by
  rw [queueSubmit2, checked, ok_bind] at failed
  split at failed
  · rename_i mirror synced
    obtain rfl := Except.error.inj failed
    exact .inl synced
  · split at failed
    · rename_i missing
      obtain rfl := Except.error.inj failed
      refine .inr ⟨rfl, fun suffix member => ?_⟩
      simpa using List.find?_eq_none.mp missing suffix member
    · cases failed

/-- Whatever the validation of a submit or of one of its streams refuses leaves the
generation table and the driver as they were, and a submit that passed it meets no
check of its own that it fails. -/
theorem submit_fails_closed (context : ServiceContext) (environment : SubmitEnvironment)
    (region : Option SharedBatchRegion) :
    (∀ negotiated streamWire payload length request,
        decodeQueueSubmit2Request payload length streamWire = .ok request →
        context.Refuses environment region request →
        Untouched region
          (context.answerVulkanQueueSubmit2 environment region negotiated streamWire payload length)) ∧
      ∀ request deviceId, context.validateQueueSubmit2 request = .ok deviceId →
        ∃ prepared, context.prepareQueueSubmit2 request = .ok prepared ∧
          ∀ code, context.queueSubmit2 environment request = .error code →
            environment.mirrorStatus = some code ∨ code = .enosys ∧
              ∀ suffix ∈ [Suffix.core, .khr], environment.submitPresent prepared.device suffix = false := by
  constructor
  · intro negotiated streamWire payload length request decoded refuses
    exact answerVulkanQueueSubmit2_untouched decoded refuses
  · intro request deviceId valid
    obtain ⟨prepared, checked⟩ := prepareQueueSubmit2_iff_validate.mpr ⟨deviceId, valid⟩
    exact ⟨prepared, checked, fun code failed => queueSubmit2_failure checked failed⟩

def submitContext : ServiceContext :=
  { objects :=
      [((0x0300000000000001 : UInt64), (0 : UInt64), (0xd0 : UInt64)),
        (0x0400000000000001, 0x0300000000000001, 0xe0), (0x1100000000000001, 0x0300000000000001, 0xf0)].foldl
        (fun table (wireId, parentId, nativeBits) => (table.call (.insert wireId parentId nativeBits)).2)
        ⟨fun _ => .zero, 8, 0⟩
    queryPoolMetadata := [] }

example : submitContext.validateQueueSubmit2
      ⟨0x0400000000000001, 0, 0, [⟨0x1100000000000001, 7, 1, 0⟩], [], []⟩ = .ok 0x0300000000000001 := rfl

example : submitContext.validateQueueSubmit2
      ⟨0x0400000000000001, 0, 0, [⟨0x1100000000000001, 7, 1, 2⟩], [], []⟩ = .error .eproto := rfl

end ServiceContext

end VulkanBridge
