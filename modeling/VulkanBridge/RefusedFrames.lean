import VulkanBridge.IngressHandoff

/-!
A frame that is sent again: the replay guard of the region takes its sequence
before the hand-over, so the same request is never taken a second time.
-/

namespace VulkanBridge

open ByteBuffer

theorem execute_refused {region : VisibleBatchRegion} {memory payload token : Buffer} {payloadLength : Nat}
    {shared : SharedBatchExecute} (decoded : decodeVisibleBatchExecute payload = .ok (token, shared))
    (behind : shared.sequence ≤ region.lastSequence) :
    ∃ code, region.execute memory payload payloadLength = .error code := by
  cases executed : region.execute memory payload payloadLength with
  | error code => exact ⟨code, rfl⟩
  | ok result =>
      exfalso
      unfold VisibleBatchRegion.execute at executed
      split at executed
      · cases executed
      split at executed
      · cases executed
      rw [decoded] at executed
      dsimp only at executed
      split at executed
      · cases executed
      split at executed
      · cases executed
      cases executed

theorem execute_again {region after : VisibleBatchRegion} {memory payload : Buffer} {payloadLength : Nat}
    {batch : VisibleBatch} (accepted : region.execute memory payload payloadLength = .ok (batch, after)) :
    ∃ code, after.execute memory payload payloadLength = .error code := by
  obtain ⟨token, shared, decoded, -, rfl⟩ := execute_ok accepted
  exact execute_refused decoded (UInt64.le_refl _)

namespace IngressSystem

/-- The request would be refused before the hand-over. -/
def Refuses (system : IngressSystem) (request : IngressRequest) : Prop :=
  ∃ code, system.loopbackBatch request = .error code

variable {system : IngressSystem} {request : IngressRequest}

theorem loopbackBatch_execute (system : IngressSystem) (isExecute : request.opcode = opcodeVisibleBatchExecute)
    (ready : system.ingress.brokeredRegionReady = true) :
    system.loopbackBatch request =
      match request.check opcodeVisibleBatchExecute visibleBatchExecuteSize with
      | .error code => .error code
      | .ok _ =>
          (system.ingress.brokeredRegion.execute system.memory request.payload request.payloadLength.toNat).map
            fun (batch, region) => (batch, { system.ingress with brokeredRegion := region }) := by
  have notInline : request.opcode ≠ opcodeVisibleBatchInline := by
    rw [isExecute]
    decide
  rw [loopbackBatch, if_neg notInline, if_pos isExecute, ready]
  rfl

/-- The bytes of the region stay, and no other execution is taken. -/
def Untouched (system : IngressSystem) : IngressInput → Prop
  | .write memory => memory = system.memory
  | .receive (some request) => request.opcode = opcodeVisibleBatchExecute → system.Refuses request
  | _ => True

structure SameGuard (system next : IngressSystem) : Prop where
  ready : next.ingress.brokeredRegionReady = system.ingress.brokeredRegionReady
  region : next.ingress.brokeredRegion = system.ingress.brokeredRegion
  memory : next.memory = system.memory

variable {next : IngressSystem}

theorem SameGuard.trans {last : IngressSystem} (first : SameGuard system next) (second : SameGuard next last) :
    SameGuard system last :=
  ⟨second.ready.trans first.ready, second.region.trans first.region, second.memory.trans first.memory⟩

theorem SameGuard.refuses (same : SameGuard system next) (isExecute : request.opcode = opcodeVisibleBatchExecute)
    (ready : system.ingress.brokeredRegionReady = true) (refuses : system.Refuses request) : next.Refuses request := by
  obtain ⟨code, refused⟩ := refuses
  rw [loopbackBatch_execute system isExecute ready] at refused
  rw [Refuses, loopbackBatch_execute next isExecute (same.ready.trans ready), same.region, same.memory]
  split at refused
  · exact ⟨_, rfl⟩
  · cases executed :
        system.ingress.brokeredRegion.execute system.memory request.payload request.payloadLength.toNat with
    | error other => exact ⟨other, rfl⟩
    | ok result =>
        rw [executed] at refused
        cases refused

theorem submit_ingress {ingress after : VisibleIngress} {submission : Submission}
    (submitted : ingress.submit submission = .ok after) :
    after.brokeredRegionReady = ingress.brokeredRegionReady ∧ after.brokeredRegion = ingress.brokeredRegion := by
  unfold VisibleIngress.submit at submitted
  split at submitted
  · cases submitted
  split at submitted
  · cases submitted
  split at submitted
  · cases submitted
  · cases submitted
    exact ⟨rfl, rfl⟩

theorem complete_ingress {ingress after : VisibleIngress} {status : Int} {acceptNext : Bool}
    (completed : ingress.complete status acceptNext = .ok after) :
    after.brokeredRegionReady = ingress.brokeredRegionReady ∧ after.brokeredRegion = ingress.brokeredRegion := by
  unfold VisibleIngress.complete at completed
  split at completed
  · cases completed
  split at completed
  · cases completed
  · cases completed
    exact ⟨rfl, rfl⟩

theorem installRegion_refused {ingress : VisibleIngress} (ready : ingress.brokeredRegionReady = true)
    (file : MemoryFile) (regionBytes generation : UInt64) :
    ∃ code, ingress.installRegion file regionBytes generation = .error code := by
  cases installed : ingress.installRegion file regionBytes generation with
  | error code => exact ⟨code, rfl⟩
  | ok after =>
      exfalso
      unfold VisibleIngress.installRegion at installed
      split at installed
      · cases installed
      split at installed
      · cases installed
      split at installed
      · cases installed
      split at installed
      · cases installed
      · cases installed

theorem loopbackBatch_guard {batch : VisibleBatch} {ingress : VisibleIngress}
    (other : request.opcode ≠ opcodeVisibleBatchExecute)
    (decoded : system.loopbackBatch request = .ok (batch, ingress)) : ingress = system.ingress := by
  unfold loopbackBatch at decoded
  rw [if_neg other] at decoded
  split at decoded
  · split at decoded
    · cases decoded
    · obtain ⟨inner, -, same⟩ := CheckedLoops.map_eq_ok.mp decoded
      cases same
      rfl
  · cases decoded

theorem waitTest_guard (system : IngressSystem) : SameGuard system system.waitTest := by
  unfold waitTest
  split
  · exact ⟨rfl, rfl, rfl⟩
  · unfold waitReturn
    split <;> exact ⟨rfl, rfl, rfl⟩

theorem step_guard (ready : system.ingress.brokeredRegionReady = true) (input : IngressInput)
    (untouched : system.Untouched input) : SameGuard system (system.step input) := by
  unfold step
  split
  · unfold connect
    split
    · exact ⟨rfl, rfl, rfl⟩
    · split <;> exact ⟨rfl, rfl, rfl⟩
  · rename_i request worker
    unfold receive
    split
    · exact ⟨rfl, rfl, rfl⟩
    rename_i request
    split
    · exact ⟨rfl, rfl, rfl⟩
    · rename_i batch ingress decoded
      by_cases isExecute : request.opcode = opcodeVisibleBatchExecute
      · obtain ⟨code, refused⟩ := untouched isExecute
        rw [refused] at decoded
        cases decoded
      · rw [loopbackBatch_guard isExecute decoded]
        exact ⟨rfl, rfl, rfl⟩
  · unfold receiveSetup
    split
    · exact ⟨rfl, rfl, rfl⟩
    split
    · exact ⟨rfl, rfl, rfl⟩
    split
    · exact ⟨rfl, rfl, rfl⟩
    · split <;> exact ⟨rfl, rfl, rfl⟩
  · exact ⟨rfl, rfl, rfl⟩
  · unfold receiveExecute
    split
    · exact ⟨rfl, rfl, rfl⟩
    split
    · exact ⟨rfl, rfl, rfl⟩
    · split <;> exact ⟨rfl, rfl, rfl⟩
  · unfold submit
    dsimp only
    split
    · exact ⟨rfl, rfl, rfl⟩
    · rename_i ingress submitted
      obtain ⟨sameReady, sameRegion⟩ := submit_ingress submitted
      exact ⟨sameReady, sameRegion, rfl⟩
  · unfold wake
    split <;> exact ⟨rfl, rfl, rfl⟩
  · exact ⟨rfl, rfl, rfl⟩
  · exact ⟨rfl, rfl, rfl⟩
  · exact ⟨rfl, rfl, rfl⟩
  · exact ⟨rfl, rfl, untouched⟩
  · rename_i file regionBytes generation
    obtain ⟨code, refused⟩ := installRegion_refused ready file regionBytes generation
    simp only [install, refused]
    exact ⟨rfl, rfl, rfl⟩
  · have opened : SameGuard system { system with ingress := { system.ingress with accepting := true } } :=
      ⟨rfl, rfl, rfl⟩
    exact opened.trans (waitTest_guard _)
  · rename_i how free
    cases how with
    | woken => exact waitTest_guard system
    | timedOut => exact ⟨rfl, rfl, rfl⟩
    | failed => exact ⟨rfl, rfl, rfl⟩
  · unfold complete
    split
    · exact ⟨rfl, rfl, rfl⟩
    · rename_i ingress completed
      obtain ⟨sameReady, sameRegion⟩ := complete_ingress completed
      exact ⟨sameReady, sameRegion, rfl⟩
  · unfold destroy
    split <;> exact ⟨rfl, rfl, rfl⟩
  · rename_i how free
    cases how with
    | woken =>
        dsimp only [drainEnd]
        split <;> exact ⟨rfl, rfl, rfl⟩
    | timedOut => exact ⟨rfl, rfl, rfl⟩
    | failed => exact ⟨rfl, rfl, rfl⟩
  · exact ⟨rfl, rfl, rfl⟩

theorem receive_refuses (isExecute : request.opcode = opcodeVisibleBatchExecute)
    (ready : system.ingress.brokeredRegionReady = true) :
    (system.receive (some request)).ingress.brokeredRegionReady = true ∧
      (system.receive (some request)).Refuses request := by
  unfold receive
  dsimp only
  cases decoded : system.loopbackBatch request with
  | error code =>
      refine ⟨ready, code, ?_⟩
      exact decoded
  | ok result =>
      obtain ⟨batch, ingress⟩ := result
      dsimp only
      rw [loopbackBatch_execute system isExecute ready] at decoded
      split at decoded
      · cases decoded
      rename_i checked
      obtain ⟨⟨first, region⟩, executed, same⟩ := CheckedLoops.map_eq_ok.mp decoded
      cases same
      refine ⟨ready, ?_⟩
      obtain ⟨code, refused⟩ := execute_again executed
      refine ⟨code, ?_⟩
      refine (loopbackBatch_execute _ isExecute (by exact ready)).trans ?_
      rw [checked]
      dsimp only
      rw [refused]
      rfl

/-- The request is received, and a batch is returned to the consumer that waits. -/
def HandsOver (system : IngressSystem) (request : IngressRequest) : Prop :=
  ∃ submission, .returned submission ∈ (((system.step (.receive (some request))).step .submit).step
    (.waitEnd .woken)).log ∧
    .returned submission ∉ system.log

/-- The system when a request that was received comes in again. -/
def resent (system : IngressSystem) (request : IngressRequest) (between : List IngressInput) : IngressSystem :=
  Runs.final step (system.step (.receive (some request))) between

theorem waitTest_idle (idle : system.ingress.batchReady = false) : system.waitTest.log = system.log := by
  unfold waitTest
  by_cases stopped : system.ingress.stop = true
  · simp [idle, stopped, waitReturn]
  · simp [idle, stopped]

theorem not_handsOver (orderly : Orderly system) (receiving : system.worker = .receiving)
    (refuses : system.Refuses request) :
    ¬ system.HandsOver request ∧
      ∃ code : Errno, (system.step (.receive (some request))).worker = .responding request none code.status := by
  obtain ⟨code, refused⟩ := refuses
  have answered : system.step (.receive (some request)) =
      { system with worker := .responding request none code.status } := by
    simp only [step, receiving, receive, refused]
  refine ⟨?_, code, by rw [answered]⟩
  rintro ⟨submission, member, fresh⟩
  have submitted : (system.step (.receive (some request))).step .submit =
      { system with worker := .responding request none code.status } := by
    rw [answered]
    rfl
  rw [submitted] at member
  have next : Orderly { system with worker := IngressWorker.responding request none code.status } := by
    rw [← answered]
    exact step_orderly orderly _
  rcases step_log { system with worker := .responding request none code.status } (.waitEnd .woken) with
    same | ⟨event, isOther, grown⟩ | ⟨ingress, handoff, tested⟩
  · rw [same] at member
    exact fresh member
  · rw [grown] at member
    rcases List.mem_append.mp member with old | new
    · exact fresh old
    · rw [← List.mem_singleton.mp new] at isOther
      cases isOther
  · have idle : ingress.batchReady = false := handoff.ready.trans next.coupled
    rw [tested, waitTest_idle idle] at member
    exact fresh member

/-- A frame that was sent once, with whatever answer, is refused when it is sent
again, as long as no other is taken in between. -/
theorem frame_sent_again_refused (token memory : Buffer) (before between : List IngressInput)
    (request : IngressRequest) (isExecute : request.opcode = opcodeVisibleBatchExecute)
    (ready : (Runs.final step (create true token memory) before).ingress.brokeredRegionReady = true)
    (receiving : (Runs.final step (create true token memory) before).worker = .receiving)
    (untouched : Runs.EveryStep step Untouched
      ((Runs.final step (create true token memory) before).step (.receive (some request))) between)
    (again : ((Runs.final step (create true token memory) before).resent request between).worker = .receiving) :
    ¬ ((Runs.final step (create true token memory) before).resent request between).HandsOver request ∧
      ∃ code : Errno, (((Runs.final step (create true token memory) before).resent request between).step
        (.receive (some request))).worker = .responding request none code.status := by
  have orderly : ∀ inputs, Orderly (Runs.final step (create true token memory) inputs) := by
    intro inputs
    have states : Runs.EveryState step Orderly (create true token memory) inputs :=
      Runs.everyState_of_step (fun _ input orderly => step_orderly orderly input) inputs _
        (create_orderly true token memory)
    exact states.final
  have guarded : ∀ (inputs : List IngressInput) (start : IngressSystem),
      start.ingress.brokeredRegionReady = true ∧ start.Refuses request → Runs.EveryStep step Untouched start inputs →
      Runs.EveryState step (fun system => system.ingress.brokeredRegionReady = true ∧ system.Refuses request) start
        inputs := by
    refine Runs.everyState_of_everyStep ?_
    rintro system input ⟨isReady, refuses⟩ calm
    have same := step_guard isReady input calm
    exact ⟨same.ready.trans isReady, same.refuses isExecute isReady refuses⟩
  have first := receive_refuses isExecute ready
  have stepped : (Runs.final step (create true token memory) before).step (.receive (some request)) =
      (Runs.final step (create true token memory) before).receive (some request) := by
    simp only [step, receiving]
  have refuses : ((Runs.final step (create true token memory) before).resent request between).Refuses request := by
    rw [resent]
    exact (guarded between _ (by rw [stepped]; exact first) untouched).final.2
  refine not_handsOver ?_ again refuses
  have whole : (Runs.final step (create true token memory) before).resent request between =
      Runs.final step (create true token memory) (before ++ .receive (some request) :: between) := by
    rw [Runs.final_append]
    rfl
  rw [whole]
  exact orderly _

def frameMemory : Buffer :=
  match CommandBatchBuilder.start zeroed 4096 (handleId .commandBuffer 1) 7 with
  | .error _ => zeroed
  | .ok builder =>
      match (builder.step .endRendering).finish with
      | .error _ => zeroed
      | .ok (finished, _) => finished.bytes

def frameToken : Buffer := fun _ => 1

/-- The execution of that batch. -/
def frameRequest : IngressRequest where
  version := protocolVersion
  kind := protocolRequest
  opcode := opcodeVisibleBatchExecute
  requestId := 5
  payloadLength := 56
  status := 0
  payload := putU64 (putU32 (putU32 (putU64 (copyInto zeroed 0 frameToken 32) 32 9) 40 0) 44 40) 48 7

def refusingRun : List IngressInput :=
  [.install ⟨true, .ok (true, 4096), .ok (true, true), none⟩ 4096 9, .waitBatch, .waitEnd .timedOut, .connect true]

/-- The request is answered, and the consumer waits again. -/
def retryRun : List IngressInput :=
  [.submit, .respond true, .clear, .close, .waitBatch, .connect true]

def refusingSystem : IngressSystem := Runs.final step (create true frameToken frameMemory) refusingRun

def answeredStatuses (log : List IngressEvent) : List Int :=
  log.filterMap fun event =>
    match event with
    | .answered _ _ status => some status
    | _ => none

def isReceiving : IngressWorker → Bool
  | .receiving => true
  | _ => false

theorem isReceiving_eq {worker : IngressWorker} (receiving : isReceiving worker = true) : worker = .receiving := by
  cases worker with
  | receiving => rfl
  | _ => cases receiving

theorem refusing_ready : refusingSystem.ingress.brokeredRegionReady = true ∧
    isReceiving refusingSystem.worker = true ∧
      isReceiving (refusingSystem.resent frameRequest retryRun).worker = true := by
  decide +kernel

theorem frame_sent_again_refused_waiting :
    ¬ (refusingSystem.resent frameRequest retryRun).HandsOver frameRequest ∧
      ∃ code : Errno, ((refusingSystem.resent frameRequest retryRun).step (.receive (some frameRequest))).worker =
        .responding frameRequest none code.status := by
  obtain ⟨ready, receiving, again⟩ := refusing_ready
  refine frame_sent_again_refused frameToken frameMemory refusingRun retryRun frameRequest rfl ready
    (isReceiving_eq receiving) ?_ (isReceiving_eq again)
  exact ⟨trivial, trivial, trivial, trivial, trivial, trivial, trivial⟩

/-- The first time nobody accepts. The second time the consumer waits, and the
frame is refused as one that was already taken. -/
theorem refused_frame_not_handed_over :
    answeredStatuses (refusingSystem.resent frameRequest retryRun).log = [Errno.eagain.status] ∧
      (refusingSystem.resent frameRequest retryRun).ingress.accepting = true ∧
      returnedTickets (Runs.final step (refusingSystem.resent frameRequest retryRun)
        [.receive (some frameRequest), .submit, .waitEnd .woken, .respond true]).log = [] ∧
      answeredStatuses (Runs.final step (refusingSystem.resent frameRequest retryRun)
        [.receive (some frameRequest), .submit, .waitEnd .woken, .respond true]).log =
          [Errno.eagain.status, Errno.ealready.status] := by
  decide +kernel

end IngressSystem

end VulkanBridge
