import VulkanBridge.RingWakeups
import VulkanBridge.Runs

/-!
Published failures and the parties of the descriptor ring. A failure is
published in a word of its own, which no futex compares: a peer that has read
the status words and goes on to park is missed by the wakes. Where every wake
of a failure finds its peer elsewhere, no peer stays parked.
-/

namespace VulkanBridge

namespace WaitPoint

/-- From here the waiter goes on to park, as the words stand, without another
read of the service's, or of the client's, status. -/
def parksPastServiceStatus (view : WaitView) : WaitPoint → Bool
  | .sleepWord => view.word < view.expected
  | .futexWait observed => view.word == observed
  | .parked => true
  | _ => false

def parksPastClientStatus (view : WaitView) : WaitPoint → Bool
  | .sleepServiceStatus => 0 ≤ view.serviceStatus && view.word < view.expected
  | point => point.parksPastServiceStatus view

variable {point next : WaitPoint} {view later : WaitView} {choice : WaitChoice} {state after : RingWaitState}

theorem step_spared (elsewhere : point ≠ .sleepServiceStatus) (spared : point.parksPastServiceStatus view = false)
    (moved : point.step view choice state = (after, .stands next)) :
    next.parksPastServiceStatus view = false ∧ (next = .sleepServiceStatus → point = .sleepClientStatus) := by
  cases point with
  | sleepServiceStatus => contradiction
  | parked => contradiction
  | storeIdle outcome => simp [WaitPoint.step] at moved
  | sleepClientStatus =>
      simp only [WaitPoint.step, Prod.mk.injEq, WaitNext.stands.injEq] at moved
      obtain ⟨_, rfl⟩ := moved
      split <;> exact ⟨rfl, fun _ => rfl⟩
  | sleepWord =>
      simp only [parksPastServiceStatus, decide_eq_false_iff_not, Nat.not_lt] at spared
      simp only [WaitPoint.step, Prod.mk.injEq, WaitNext.stands.injEq] at moved
      obtain ⟨_, rfl⟩ := moved
      rw [if_pos spared]
      exact ⟨rfl, fun same => by cases same⟩
  | futexWait observed =>
      simp only [parksPastServiceStatus, beq_eq_false_iff_ne] at spared
      simp only [WaitPoint.step, Prod.mk.injEq, WaitNext.stands.injEq] at moved
      obtain ⟨_, rfl⟩ := moved
      rw [if_neg spared]
      cases choice <;> exact ⟨rfl, fun same => by cases same⟩
  | relax =>
      simp only [WaitPoint.step, Prod.mk.injEq, WaitNext.stands.injEq] at moved
      obtain ⟨_, rfl⟩ := moved
      cases choice <;> exact ⟨rfl, fun same => by cases same⟩
  | storeSpinning | storeSleeping =>
      simp only [WaitPoint.step, Prod.mk.injEq, WaitNext.stands.injEq] at moved
      obtain ⟨_, rfl⟩ := moved
      exact ⟨rfl, fun same => by cases same⟩
  | entryClientStatus | entryServiceStatus | entryWord | entryClock =>
      simp only [WaitPoint.step, Prod.mk.injEq] at moved
      obtain ⟨_, moved⟩ := moved
      split at moved <;> cases moved
      exact ⟨rfl, fun same => by cases same⟩
  | spinClientStatus | spinServiceStatus | spinWord =>
      simp only [WaitPoint.step, Prod.mk.injEq, WaitNext.stands.injEq] at moved
      obtain ⟨_, rfl⟩ := moved
      split <;> exact ⟨rfl, fun same => by cases same⟩

theorem step_past_serviceStatus (failed : view.serviceStatus < 0)
    (spared : point.parksPastServiceStatus view = false)
    (moved : point.step view choice state = (after, .stands next)) :
    next.parksPastServiceStatus view = false := by
  by_cases reads : point = .sleepServiceStatus
  · subst reads
    simp only [WaitPoint.step, Prod.mk.injEq, WaitNext.stands.injEq] at moved
    obtain ⟨_, rfl⟩ := moved
    rw [if_pos failed]
    rfl
  · exact (step_spared reads spared moved).1

theorem parksPastClientStatus_eq (elsewhere : point ≠ .sleepServiceStatus) :
    point.parksPastClientStatus view = point.parksPastServiceStatus view := by
  cases point with
  | sleepServiceStatus => contradiction
  | _ => rfl

theorem step_past_clientStatus (failed : view.clientStatus < 0)
    (spared : point.parksPastClientStatus view = false)
    (moved : point.step view choice state = (after, .stands next)) :
    next.parksPastClientStatus view = false := by
  by_cases reads : point = .sleepClientStatus
  · subst reads
    simp only [WaitPoint.step, Prod.mk.injEq, WaitNext.stands.injEq] at moved
    obtain ⟨_, rfl⟩ := moved
    rw [if_pos failed]
    rfl
  by_cases second : point = .sleepServiceStatus
  · subst second
    simp only [parksPastClientStatus, Bool.and_eq_false_iff, decide_eq_false_iff_not, Int.not_le,
      Nat.not_lt] at spared
    simp only [WaitPoint.step, Prod.mk.injEq, WaitNext.stands.injEq] at moved
    obtain ⟨_, rfl⟩ := moved
    split
    · rfl
    · rename_i working
      simpa [parksPastClientStatus, parksPastServiceStatus] using spared.resolve_left working
  · rw [parksPastClientStatus_eq second] at spared
    obtain ⟨kept, origin⟩ := step_spared second spared moved
    rwa [parksPastClientStatus_eq fun same => reads (origin same)]

structure Onward (view later : WaitView) : Prop where
  word : view.word ≤ later.word
  expected : later.expected = view.expected
  serviceStatus : view.serviceStatus < 0 → later.serviceStatus < 0

theorem Onward.parksPastServiceStatus (onward : Onward view later)
    (observed : ∀ value, point = .futexWait value → value ≤ view.word)
    (spared : point.parksPastServiceStatus view = false) : point.parksPastServiceStatus later = false := by
  have word := onward.word
  have expected := onward.expected
  cases point with
  | sleepWord =>
      simp only [WaitPoint.parksPastServiceStatus, decide_eq_false_iff_not, Nat.not_lt] at spared ⊢
      omega
  | futexWait value =>
      have behind := observed value rfl
      simp only [WaitPoint.parksPastServiceStatus, beq_eq_false_iff_ne] at spared ⊢
      omega
  | parked => contradiction
  | _ => rfl

theorem Onward.parksPastClientStatus (onward : Onward view later)
    (observed : ∀ value, point = .futexWait value → value ≤ view.word)
    (spared : point.parksPastClientStatus view = false) : point.parksPastClientStatus later = false := by
  cases point with
  | sleepServiceStatus =>
      have word := onward.word
      have expected := onward.expected
      simp only [WaitPoint.parksPastClientStatus, Bool.and_eq_false_iff, decide_eq_false_iff_not, Int.not_le,
        Nat.not_lt] at spared ⊢
      rcases spared with failed | reached
      · exact .inl (onward.serviceStatus failed)
      · exact .inr (by omega)
  | sleepWord | futexWait | parked => exact onward.parksPastServiceStatus observed spared
  | _ => rfl

theorem woken_spared {parks : WaitPoint → Bool} (restarts : parks .sleepClientStatus = false)
    (parked : parks point = true → point = .parked) : parks point.woken = false := by
  cases parking : parks point with
  | true =>
      rw [parked parking]
      exact restarts
  | false =>
      cases point <;> first | exact parking | exact restarts

theorem step_futexWait {value : Nat} (moved : point.step view choice state = (after, .stands (.futexWait value))) :
    value = view.word := by
  cases point with
  | sleepWord =>
      simp only [WaitPoint.step, Prod.mk.injEq, WaitNext.stands.injEq] at moved
      obtain ⟨_, moved⟩ := moved
      split at moved <;> cases moved
      rfl
  | relax =>
      simp only [WaitPoint.step, Prod.mk.injEq, WaitNext.stands.injEq] at moved
      obtain ⟨_, moved⟩ := moved
      cases choice <;> cases moved
  | futexWait | parked =>
      simp only [WaitPoint.step, Prod.mk.injEq, WaitNext.stands.injEq] at moved
      obtain ⟨_, moved⟩ := moved
      cases choice <;> simp only [reduceCtorEq] at moved <;> split at moved <;> cases moved
  | storeIdle outcome => simp [WaitPoint.step] at moved
  | storeSpinning | storeSleeping => simp [WaitPoint.step] at moved
  | _ =>
      simp only [WaitPoint.step, Prod.mk.injEq, WaitNext.stands.injEq] at moved
      obtain ⟨_, moved⟩ := moved
      split at moved <;> cases moved

theorem woken_futexWait {value : Nat} (woken : .futexWait value = point.woken) : point = .futexWait value := by
  cases point <;> first | exact woken.symm | contradiction

end WaitPoint

namespace RingSystem

variable {system later : RingSystem}

/-- The property of a failure that was published and whose wakes are made: the
peer is not parked. -/
def NobodySleepsThrough (system : RingSystem) : Prop :=
  (system.clientAlarm = true → system.worker.point ≠ .waiting .parked) ∧
    (system.serviceAlarm = true → system.client.point ≠ .waiting .parked)

/-- The worker is parked, or it goes on to park without another read of the
client's status. -/
def workerParks (system : RingSystem) : Bool :=
  match system.worker.point with
  | .waiting point => point.parksPastClientStatus system.workerView
  | _ => false

def clientParks (system : RingSystem) : Bool :=
  match system.client.point with
  | .waiting point => point.parksPastServiceStatus system.clientView
  | _ => false

/-- A wake of a failure finds its peer parked, or not on the way from the read of
the status to the park. -/
def wakesInTime (system : RingSystem) : RingMove → Bool
  | .failClient _ =>
      system.clientFailure != .wakeRequest || !system.workerParks || system.worker.point == .waiting .parked
  | .failService _ =>
      system.serviceFailure != .wakeCompletion || !system.clientParks || system.client.point == .waiting .parked
  | _ => true

/-- The client's failure reaches the worker: it is in the status word, and once
the worker's word was woken the worker parks no more before it reads that status. -/
structure ClientFailureSeen (system : RingSystem) : Prop where
  published : system.clientFailure ≠ .quiet ∨ system.clientAlarm = true → system.ring.clientStatus < 0
  seen : system.clientFailure = .wakeCompletion ∨ system.clientAlarm = true → system.workerParks = false

structure ServiceFailureSeen (system : RingSystem) : Prop where
  published : system.serviceFailure ≠ .quiet ∨ system.serviceAlarm = true → system.ring.serviceStatus < 0
  seen : system.serviceAlarm = true → system.clientParks = false

theorem nobodySleepsThrough_of_seen (client : system.ClientFailureSeen) (service : system.ServiceFailureSeen) :
    system.NobodySleepsThrough := by
  constructor
  · intro alarm parked
    have spared := client.seen (.inr alarm)
    rw [workerParks, parked] at spared
    contradiction
  · intro alarm parked
    have spared := service.seen alarm
    rw [clientParks, parked] at spared
    contradiction

/-- The words are not ahead of their writers, and a value that a party goes to wait
on is not ahead of its word. -/
structure Ordered (system : RingSystem) : Prop where
  request : system.ring.requestSequence ≤ system.client.sequence
  completion : system.ring.completionSequence ≤ system.worker.afterSequence + 1
  workerObserved : ∀ value, system.worker.point = .waiting (.futexWait value) →
    value ≤ system.ring.requestSequence
  clientObserved : ∀ value, system.client.point = .waiting (.futexWait value) →
    value ≤ system.ring.completionSequence

def WorkerKept (system later : RingSystem) : Prop :=
  later.worker = system.worker ∨ later.worker = system.wakeRequest.worker

def ClientKept (system later : RingSystem) : Prop :=
  later.client = system.client ∨ later.client = system.wakeCompletion.client

theorem WorkerKept.afterSequence (kept : system.WorkerKept later) :
    later.worker.afterSequence = system.worker.afterSequence := by
  rcases kept with same | woken
  · rw [same]
  · rw [woken, wakeRequest_others.2.2]

theorem ClientKept.sequence (kept : system.ClientKept later) : later.client.sequence = system.client.sequence := by
  rcases kept with same | woken
  · rw [same]
  · rw [woken, wakeCompletion_others.2.2]

theorem WorkerKept.waiting (kept : system.WorkerKept later) {point : WaitPoint}
    (stands : later.worker.point = .waiting point) :
    ∃ before, system.worker.point = .waiting before ∧ (point = before ∨ point = before.woken) := by
  rcases kept with same | woken
  · rw [same] at stands
    exact ⟨point, stands, .inl rfl⟩
  · rw [woken] at stands
    obtain ⟨before, waiting, rfl⟩ := wakeRequest_waiting stands
    exact ⟨before, waiting, .inr rfl⟩

theorem ClientKept.waiting (kept : system.ClientKept later) {point : WaitPoint}
    (stands : later.client.point = .waiting point) :
    ∃ before, system.client.point = .waiting before ∧ (point = before ∨ point = before.woken) := by
  rcases kept with same | woken
  · rw [same] at stands
    exact ⟨point, stands, .inl rfl⟩
  · rw [woken] at stands
    obtain ⟨before, waiting, rfl⟩ := wakeCompletion_waiting stands
    exact ⟨before, waiting, .inr rfl⟩

theorem workerParks_kept (spared : system.workerParks = false) (ordered : system.Ordered)
    (kept : system.WorkerKept later) (request : system.ring.requestSequence ≤ later.ring.requestSequence)
    (status : system.ring.serviceStatus < 0 → later.ring.serviceStatus < 0) : later.workerParks = false := by
  have onward : WaitPoint.Onward system.workerView later.workerView :=
    ⟨request, by simp only [workerView, kept.afterSequence], status⟩
  unfold workerParks
  split
  · rename_i point stands
    obtain ⟨before, waiting, same⟩ := kept.waiting stands
    rw [workerParks, waiting] at spared
    have still := onward.parksPastClientStatus
      (fun value same => ordered.workerObserved value (by rw [waiting, same])) spared
    rcases same with rfl | rfl
    · exact still
    · exact WaitPoint.woken_spared rfl fun parks => by rw [still] at parks; contradiction
  · rfl

theorem clientParks_kept (spared : system.clientParks = false) (ordered : system.Ordered)
    (kept : system.ClientKept later) (completion : system.ring.completionSequence ≤ later.ring.completionSequence)
    (status : system.ring.serviceStatus < 0 → later.ring.serviceStatus < 0) : later.clientParks = false := by
  have onward : WaitPoint.Onward system.clientView later.clientView :=
    ⟨completion, by simp only [clientView, kept.sequence], status⟩
  unfold clientParks
  split
  · rename_i point stands
    obtain ⟨before, waiting, same⟩ := kept.waiting stands
    rw [clientParks, waiting] at spared
    have still := onward.parksPastServiceStatus
      (fun value same => ordered.clientObserved value (by rw [waiting, same])) spared
    rcases same with rfl | rfl
    · exact still
    · exact WaitPoint.woken_spared rfl fun parks => by rw [still] at parks; contradiction
  · rfl

/-! ## Steps of the parties -/

def clientAlarms (system : RingSystem) : FailPoint × Bool × Int :=
  (system.clientFailure, system.clientAlarm, system.ring.clientStatus)

def serviceAlarms (system : RingSystem) : FailPoint × Bool × Int :=
  (system.serviceFailure, system.serviceAlarm, system.ring.serviceStatus)

def alarms (system : RingSystem) : (FailPoint × Bool × Int) × (FailPoint × Bool × Int) :=
  (system.clientAlarms, system.serviceAlarms)

theorem wakeRequest_alarms : system.wakeRequest.alarms = system.alarms := by
  simp only [wakeRequest]
  split <;> rfl

theorem wakeCompletion_alarms : system.wakeCompletion.alarms = system.alarms := by
  simp only [wakeCompletion]
  split <;> rfl

theorem ClientFailureSeen.congr (seen : system.ClientFailureSeen) (alarms : later.clientAlarms = system.clientAlarms)
    (still : system.ring.clientStatus < 0 → system.workerParks = false → later.workerParks = false) :
    later.ClientFailureSeen := by
  simp only [clientAlarms, Prod.mk.injEq] at alarms
  obtain ⟨failure, alarm, status⟩ := alarms
  constructor
  · rw [failure, alarm, status]
    exact seen.published
  · rw [failure, alarm]
    intro woke
    refine still (seen.published ?_) (seen.seen woke)
    rcases woke with waking | done
    · exact .inl (by rw [waking]; simp)
    · exact .inr done

theorem ServiceFailureSeen.congr (seen : system.ServiceFailureSeen)
    (alarms : later.serviceAlarms = system.serviceAlarms)
    (still : system.ring.serviceStatus < 0 → system.clientParks = false → later.clientParks = false) :
    later.ServiceFailureSeen := by
  simp only [serviceAlarms, Prod.mk.injEq] at alarms
  obtain ⟨failure, alarm, status⟩ := alarms
  constructor
  · rw [failure, alarm, status]
    exact seen.published
  · rw [alarm]
    intro woke
    exact still (seen.published (.inr woke)) (seen.seen woke)

structure ClientFrame (system later : RingSystem) : Prop where
  alarms : later.alarms = system.alarms
  worker : system.WorkerKept later
  grows : system.ring.requestSequence ≤ later.ring.requestSequence
  behind : later.ring.requestSequence ≤ later.client.sequence
  completion : later.ring.completionSequence = system.ring.completionSequence

structure WorkerFrame (system later : RingSystem) : Prop where
  alarms : later.alarms = system.alarms
  client : system.ClientKept later
  grows : system.ring.completionSequence ≤ later.ring.completionSequence
  behind : later.ring.completionSequence ≤ later.worker.afterSequence + 1
  request : later.ring.requestSequence = system.ring.requestSequence

theorem clientStep_frame (ordered : system.Ordered) (choice : WaitChoice) (request : List UInt8) :
    system.ClientFrame (system.clientStep choice request) := by
  have behind := ordered.request
  cases stands : system.client.point with
  | wake =>
      simp only [clientStep, stands]
      have others := system.wakeRequest_others
      refine ⟨wakeRequest_alarms, .inr rfl, ?_, ?_, ?_⟩
      · exact Nat.le_of_eq (congrArg DescriptorRing.requestSequence others.1).symm
      · simpa only [clientAt, others] using behind
      · exact congrArg DescriptorRing.completionSequence others.1
  | idle =>
      simp only [clientStep, stands]
      split
      · have next := Nat.le_succ_of_le behind
        split <;> exact ⟨rfl, .inl rfl, Nat.le_refl _, next, rfl⟩
      · exact ⟨rfl, .inl rfl, Nat.le_refl _, behind, rfl⟩
  | storeRequestSequence =>
      simp only [clientStep, stands]
      exact ⟨rfl, .inl rfl, behind, Nat.le_refl _, rfl⟩
  | _ =>
      simp only [clientStep, stands]
      (repeat' split) <;> exact ⟨by trivial, .inl (by trivial), Nat.le_refl _, behind, by trivial⟩

theorem workerStep_frame (ordered : system.Ordered) (choice : WaitChoice) (stop : Bool)
    (reply : Int × List UInt8) : system.WorkerFrame (system.workerStep choice stop reply) := by
  have behind := ordered.completion
  cases stands : system.worker.point with
  | wake =>
      simp only [workerStep, stands]
      have others := system.wakeCompletion_others
      refine ⟨wakeCompletion_alarms, .inr rfl, ?_, ?_, ?_⟩
      · exact Nat.le_of_eq (congrArg DescriptorRing.completionSequence others.1).symm
      · simpa only [workerAt, others] using behind
      · exact congrArg DescriptorRing.requestSequence others.1
  | storeCompletionSequence =>
      simp only [workerStep, stands]
      exact ⟨rfl, .inl rfl, behind, Nat.le_refl _, rfl⟩
  | advance =>
      simp only [workerStep, stands]
      exact ⟨rfl, .inl rfl, Nat.le_refl _, by simp only; omega, rfl⟩
  | _ =>
      simp only [workerStep, stands]
      (repeat' split) <;> exact ⟨by trivial, .inl (by trivial), Nat.le_refl _, behind, by trivial⟩

theorem clientStep_spared (failed : system.ring.serviceStatus < 0) (spared : system.clientParks = false)
    (choice : WaitChoice) (request : List UInt8) : (system.clientStep choice request).clientParks = false := by
  generalize ran : system.clientStep choice request = later
  unfold clientParks
  split
  · rename_i point stands
    rw [← ran] at stands
    rcases clientStep_waiting stands with rfl | ⟨before, waiting, waits⟩
    · rfl
    · rw [← ran, waits]
      rw [waits] at stands
      rw [clientParks, waiting] at spared
      rcases moved : before.step system.clientView choice system.ring.completionWaitState with ⟨state, next⟩
      simp only [clientWaitStep, moved, clientAt] at stands ⊢
      cases next with
      | stands next =>
          cases stands
          exact WaitPoint.step_past_serviceStatus failed spared moved
      | returns outcome => cases outcome <;> contradiction
  · rfl

theorem workerStep_spared (failed : system.ring.clientStatus < 0) (spared : system.workerParks = false)
    (choice : WaitChoice) (stop : Bool) (reply : Int × List UInt8) :
    (system.workerStep choice stop reply).workerParks = false := by
  generalize ran : system.workerStep choice stop reply = later
  unfold workerParks
  split
  · rename_i point stands
    rw [← ran] at stands
    rcases workerStep_waiting stands with rfl | ⟨before, waiting, waits⟩
    · rfl
    · rw [← ran, waits]
      rw [waits] at stands
      rw [workerParks, waiting] at spared
      rcases moved : before.step system.workerView choice system.ring.requestWaitState with ⟨state, next⟩
      simp only [workerWaitStep, moved, workerAt] at stands ⊢
      cases next with
      | stands next =>
          cases stands
          exact WaitPoint.step_past_clientStatus failed spared moved
      | returns outcome =>
          cases outcome with
          | reached => contradiction
          | peerFailed status =>
              simp only at stands
              split at stands <;> contradiction
          | failed code =>
              simp only at stands
              split at stands <;> contradiction
  · rfl

theorem WorkerKept.observed (kept : system.WorkerKept later) (ordered : system.Ordered) {value : Nat}
    (stands : later.worker.point = .waiting (.futexWait value)) : value ≤ system.ring.requestSequence := by
  obtain ⟨before, waiting, same | woken⟩ := kept.waiting stands
  · exact ordered.workerObserved value (by rw [waiting, same])
  · exact ordered.workerObserved value (by rw [waiting, WaitPoint.woken_futexWait woken])

theorem ClientKept.observed (kept : system.ClientKept later) (ordered : system.Ordered) {value : Nat}
    (stands : later.client.point = .waiting (.futexWait value)) : value ≤ system.ring.completionSequence := by
  obtain ⟨before, waiting, same | woken⟩ := kept.waiting stands
  · exact ordered.clientObserved value (by rw [waiting, same])
  · exact ordered.clientObserved value (by rw [waiting, WaitPoint.woken_futexWait woken])

theorem clientStep_ordered (ordered : system.Ordered) (choice : WaitChoice) (request : List UInt8) :
    (system.clientStep choice request).Ordered := by
  have frame := clientStep_frame ordered choice request
  refine ⟨frame.behind, ?_, fun _ stands => Nat.le_trans (frame.worker.observed ordered stands) frame.grows, ?_⟩
  · rw [frame.completion, frame.worker.afterSequence]
    exact ordered.completion
  · intro value stands
    rw [frame.completion]
    rcases clientStep_waiting stands with impossible | ⟨before, _, waits⟩
    · contradiction
    rw [waits] at stands
    rcases moved : before.step system.clientView choice system.ring.completionWaitState with ⟨state, next⟩
    simp only [clientWaitStep, moved, clientAt] at stands
    cases next with
    | stands next =>
        cases stands
        exact Nat.le_of_eq (WaitPoint.step_futexWait moved)
    | returns outcome => cases outcome <;> contradiction

theorem workerStep_ordered (ordered : system.Ordered) (choice : WaitChoice) (stop : Bool)
    (reply : Int × List UInt8) : (system.workerStep choice stop reply).Ordered := by
  have frame := workerStep_frame ordered choice stop reply
  refine ⟨?_, frame.behind, ?_, fun _ stands => Nat.le_trans (frame.client.observed ordered stands) frame.grows⟩
  · rw [frame.request, frame.client.sequence]
    exact ordered.request
  · intro value stands
    rw [frame.request]
    rcases workerStep_waiting stands with impossible | ⟨before, _, waits⟩
    · contradiction
    rw [waits] at stands
    rcases moved : before.step system.workerView choice system.ring.requestWaitState with ⟨state, next⟩
    simp only [workerWaitStep, moved, workerAt] at stands
    cases next with
    | stands next =>
        cases stands
        exact Nat.le_of_eq (WaitPoint.step_futexWait moved)
    | returns outcome =>
        cases outcome with
        | reached => contradiction
        | peerFailed status =>
            simp only at stands
            split at stands <;> contradiction
        | failed code =>
            simp only at stands
            split at stands <;> contradiction

theorem FailureStep.kept (failure : system.FailureStep later) : system.ClientKept later ∧ system.WorkerKept later := by
  rcases failure.1 with ⟨client, worker⟩ | ⟨client, woken⟩ | ⟨woken, worker⟩
  · exact ⟨.inl client, .inl worker⟩
  · exact ⟨.inl client, .inr woken⟩
  · exact ⟨.inr woken, .inl worker⟩

theorem FailureStep.ordered (failure : system.FailureStep later) (ordered : system.Ordered) : later.Ordered := by
  obtain ⟨client, worker⟩ := failure.kept
  obtain ⟨-, request, completion, -⟩ := failure
  constructor
  · rw [request, client.sequence]
    exact ordered.request
  · rw [completion, worker.afterSequence]
    exact ordered.completion
  · intro value stands
    rw [request]
    exact worker.observed ordered stands
  · intro value stands
    rw [completion]
    exact client.observed ordered stands

/-! ## Steps of the failures -/

theorem failClientStep_serviceAlarms (status : Int) :
    (system.failClientStep status).serviceAlarms = system.serviceAlarms := by
  have request := (Prod.mk.inj system.wakeRequest_alarms).2
  have completion := (Prod.mk.inj system.wakeCompletion_alarms).2
  simp only [failClientStep]
  split
  · exact request
  · exact completion
  · split <;> rfl

theorem failServiceStep_clientAlarms (status : Int) :
    (system.failServiceStep status).clientAlarms = system.clientAlarms := by
  have request := (Prod.mk.inj system.wakeRequest_alarms).1
  have completion := (Prod.mk.inj system.wakeCompletion_alarms).1
  simp only [failServiceStep]
  split
  · exact request
  · exact completion
  · split <;> rfl

theorem failClientStep_serviceStatus {status : Int} (failed : system.ring.serviceStatus < 0) :
    (system.failClientStep status).ring.serviceStatus < 0 := by
  have alarms := system.failClientStep_serviceAlarms status
  simp only [serviceAlarms, Prod.mk.injEq] at alarms
  rwa [alarms.2.2]

theorem failServiceStep_serviceStatus {status : Int} (failed : system.ring.serviceStatus < 0) :
    (system.failServiceStep status).ring.serviceStatus < 0 := by
  simp only [failServiceStep]
  split
  · simpa only [wakeRequest_others] using failed
  · simpa only [wakeCompletion_others] using failed
  · split
    · exact failed
    · simp only
      omega

theorem failure_workerParks (ordered : system.Ordered) (failure : system.FailureStep later)
    (status : system.ring.serviceStatus < 0 → later.ring.serviceStatus < 0) (spared : system.workerParks = false) :
    later.workerParks = false :=
  workerParks_kept spared ordered failure.kept.2 (Nat.le_of_eq failure.2.1.symm) status

theorem failure_clientParks (ordered : system.Ordered) (failure : system.FailureStep later)
    (status : system.ring.serviceStatus < 0 → later.ring.serviceStatus < 0) (spared : system.clientParks = false) :
    later.clientParks = false :=
  clientParks_kept spared ordered failure.kept.1 (Nat.le_of_eq failure.2.2.1.symm) status

theorem wakeRequest_unparks (parked : system.workerParks = true → system.worker.point = .waiting .parked) :
    system.wakeRequest.workerParks = false := by
  generalize woken : system.wakeRequest = later
  unfold workerParks
  split
  · rename_i point stands
    rw [← woken] at stands ⊢
    obtain ⟨before, waiting, rfl⟩ := wakeRequest_waiting stands
    refine WaitPoint.woken_spared rfl fun parks => ?_
    have view : system.wakeRequest.workerView = system.workerView := by
      simp only [workerView, wakeRequest_others]
    rw [view] at parks
    have stood := parked (by rw [workerParks, waiting]; exact parks)
    rw [waiting] at stood
    exact WorkerPoint.waiting.inj stood
  · rfl

theorem wakeCompletion_unparks (parked : system.clientParks = true → system.client.point = .waiting .parked) :
    system.wakeCompletion.clientParks = false := by
  generalize woken : system.wakeCompletion = later
  unfold clientParks
  split
  · rename_i point stands
    rw [← woken] at stands ⊢
    obtain ⟨before, waiting, rfl⟩ := wakeCompletion_waiting stands
    refine WaitPoint.woken_spared rfl fun parks => ?_
    have view : system.wakeCompletion.clientView = system.clientView := by
      simp only [clientView, wakeCompletion_others]
    rw [view] at parks
    have stood := parked (by rw [clientParks, waiting]; exact parks)
    rw [waiting] at stood
    exact ClientPoint.waiting.inj stood
  · rfl

theorem failClientStep_clientSeen (ordered : system.Ordered) (seen : system.ClientFailureSeen) (status : Int)
    (inTime : system.wakesInTime (.failClient status) = true) : (system.failClientStep status).ClientFailureSeen := by
  have negative := seen.published
  have still := failure_workerParks ordered (system.failClientStep_failure status) failClientStep_serviceStatus
  cases stands : system.clientFailure with
  | wakeRequest =>
      have failed := negative (.inl (by rw [stands]; simp))
      simp only [failClientStep, stands]
      refine ⟨fun _ => ?_, fun _ => ?_⟩
      · simpa only [wakeRequest_others] using failed
      · refine wakeRequest_unparks fun parks => ?_
        simpa [wakesInTime, stands, parks] using inTime
  | wakeCompletion =>
      have failed := negative (.inl (by rw [stands]; simp))
      have spared := still (seen.seen (.inl stands))
      simp only [failClientStep, stands] at spared ⊢
      refine ⟨fun _ => ?_, fun _ => spared⟩
      simpa only [wakeCompletion_others] using failed
  | quiet =>
      simp only [failClientStep, stands] at still ⊢
      split
      · exact seen
      · rename_i below
        rw [if_neg below] at still
        refine ⟨fun _ => by simp only; omega, fun woke => ?_⟩
        rcases woke with waking | done
        · contradiction
        · exact still (seen.seen (.inr done))

theorem failServiceStep_serviceSeen (ordered : system.Ordered) (seen : system.ServiceFailureSeen) (status : Int)
    (inTime : system.wakesInTime (.failService status) = true) :
    (system.failServiceStep status).ServiceFailureSeen := by
  have negative := seen.published
  have still := failure_clientParks ordered (system.failServiceStep_failure status) failServiceStep_serviceStatus
  cases stands : system.serviceFailure with
  | wakeRequest =>
      have failed := negative (.inl (by rw [stands]; simp))
      have alarms := system.wakeRequest_alarms
      simp only [RingSystem.alarms, serviceAlarms, Prod.mk.injEq] at alarms
      simp only [failServiceStep, stands] at still ⊢
      refine ⟨fun _ => ?_, fun alarm => still (seen.seen ?_)⟩
      · simpa only [wakeRequest_others] using failed
      · simpa only [alarms] using alarm
  | wakeCompletion =>
      have failed := negative (.inl (by rw [stands]; simp))
      simp only [failServiceStep, stands]
      refine ⟨fun _ => ?_, fun _ => ?_⟩
      · simpa only [wakeCompletion_others] using failed
      · refine wakeCompletion_unparks fun parks => ?_
        simpa [wakesInTime, stands, parks] using inTime
  | quiet =>
      simp only [failServiceStep, stands] at still ⊢
      split
      · exact seen
      · rename_i below
        rw [if_neg below] at still
        exact ⟨fun _ => by simp only; omega, fun alarm => still (seen.seen alarm)⟩

theorem step_ordered (ordered : system.Ordered) (move : RingMove) : (system.step move).Ordered := by
  cases move with
  | client choice request => exact clientStep_ordered ordered choice request
  | worker choice stop reply => exact workerStep_ordered ordered choice stop reply
  | failClient status => exact (failClientStep_failure status).ordered ordered
  | failService status => exact (failServiceStep_failure status).ordered ordered

theorem step_clientSeen {move : RingMove} (ordered : system.Ordered) (seen : system.ClientFailureSeen)
    (inTime : system.wakesInTime move = true) : (system.step move).ClientFailureSeen := by
  cases move with
  | client choice request =>
      have frame := clientStep_frame ordered choice request
      obtain ⟨alarms, others⟩ := Prod.mk.inj frame.alarms
      have status := (Prod.mk.inj (Prod.mk.inj others).2).2
      refine seen.congr alarms fun _ spared => ?_
      exact workerParks_kept spared ordered frame.worker frame.grows fun failed => status ▸ failed
  | worker choice stop reply =>
      have frame := workerStep_frame ordered choice stop reply
      exact seen.congr (Prod.mk.inj frame.alarms).1 fun failed spared =>
        workerStep_spared failed spared choice stop reply
  | failClient status => exact failClientStep_clientSeen ordered seen status inTime
  | failService status =>
      refine seen.congr (failServiceStep_clientAlarms status) fun _ spared => ?_
      exact failure_workerParks ordered (failServiceStep_failure status) failServiceStep_serviceStatus spared

theorem step_serviceSeen {move : RingMove} (ordered : system.Ordered) (seen : system.ServiceFailureSeen)
    (inTime : system.wakesInTime move = true) : (system.step move).ServiceFailureSeen := by
  cases move with
  | client choice request =>
      have frame := clientStep_frame ordered choice request
      exact seen.congr (Prod.mk.inj frame.alarms).2 fun failed spared =>
        clientStep_spared failed spared choice request
  | worker choice stop reply =>
      have frame := workerStep_frame ordered choice stop reply
      obtain ⟨_, alarms⟩ := Prod.mk.inj frame.alarms
      have status := (Prod.mk.inj (Prod.mk.inj alarms).2).2
      refine seen.congr alarms fun _ spared => ?_
      exact clientParks_kept spared ordered frame.client frame.grows fun failed => status ▸ failed
  | failClient status =>
      refine seen.congr (failClientStep_serviceAlarms status) fun _ spared => ?_
      exact failure_clientParks ordered (failClientStep_failure status) failClientStep_serviceStatus spared
  | failService status => exact failServiceStep_serviceSeen ordered seen status inTime

structure Alarmed (system : RingSystem) : Prop where
  ordered : system.Ordered
  client : system.ClientFailureSeen
  service : system.ServiceFailureSeen

theorem initial_alarmed (slotCount : Nat) : (initial slotCount).Alarmed := by
  constructor <;> constructor <;> simp [initial]

theorem run_nobodySleepsThrough (slotCount : Nat) {moves : List RingMove}
    (inTime : Runs.EveryStep step (fun system move => system.wakesInTime move = true) (initial slotCount) moves) :
    Runs.EveryState step NobodySleepsThrough (initial slotCount) moves := by
  have kept : ∀ (system : RingSystem) (move : RingMove), system.Alarmed → system.wakesInTime move = true →
      (system.step move).Alarmed := fun _ move alarmed meets =>
    ⟨step_ordered alarmed.ordered move, step_clientSeen alarmed.ordered alarmed.client meets,
      step_serviceSeen alarmed.ordered alarmed.service meets⟩
  refine (Runs.everyState_of_everyStep kept moves _ (initial_alarmed slotCount) inTime).imp ?_
  exact fun _ alarmed => nobodySleepsThrough_of_seen alarmed.client alarmed.service

end RingSystem

end VulkanBridge
