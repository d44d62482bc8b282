import VulkanBridge.DescriptorRing

/-!
The handshake of `wait_for_sequence` and `wake_if_sleeping`: a party parked on a
word that has reached what it expects is about to be woken.
-/

namespace VulkanBridge

namespace WaitPoint

def sleeps : WaitPoint → Bool
  | .sleepClientStatus | .sleepServiceStatus | .sleepWord | .futexWait _ | .parked => true
  | _ => false

/-- A waiter and the word it waits on: asleep it has said so, it parks only on a
value below the expected one, and parked on a word that got there it has a wake
coming. -/
structure Watched (expected word : Nat) (state : RingWaitState) (coming : Prop) (point : WaitPoint) : Prop where
  asleep : point.sleeps = true → state = .sleeping
  observed : ∀ value, point = .futexWait value → value < expected
  woken : point = .parked → expected ≤ word → coming

variable {expected word : Nat} {state : RingWaitState} {coming : Prop} {point : WaitPoint}

theorem watched_of_awake (awake : point.sleeps = false) : Watched expected word state coming point := by
  constructor
  · intro sleeps
    rw [awake] at sleeps
    contradiction
  · rintro value rfl
    contradiction
  · rintro rfl
    contradiction

theorem Watched.afterWake (watched : Watched expected word state coming point) {later : Prop} :
    Watched expected word state later point.woken := by
  have asleep := watched.asleep
  have observed := watched.observed
  cases point with
  | parked => exact ⟨fun _ => asleep rfl, fun _ same => (nomatch same), fun same => (nomatch same)⟩
  | futexWait value => exact ⟨asleep, observed, fun same => (nomatch same)⟩
  | _ => exact ⟨asleep, fun _ same => (nomatch same), fun same => (nomatch same)⟩

theorem Watched.weaken (watched : Watched expected word state coming point) {later : Prop}
    (kept : point = .parked → expected ≤ word → coming → later) : Watched expected word state later point :=
  ⟨watched.asleep, watched.observed, fun parked got => kept parked got (watched.woken parked got)⟩

theorem Watched.step {view : WaitView} {choice : WaitChoice} {after : RingWaitState} {next : WaitPoint}
    (watched : Watched view.expected view.word state coming point)
    (moved : point.step view choice state = (after, .stands next)) :
    Watched view.expected view.word after coming next := by
  have asleep := watched.asleep
  have observed := watched.observed
  have woken := watched.woken
  cases point with
  | futexWait value =>
      have below := observed value rfl
      have told := asleep rfl
      simp only [WaitPoint.step, Prod.mk.injEq, WaitNext.stands.injEq] at moved
      obtain ⟨rfl, rfl⟩ := moved
      cases choice with
      | clockFails | expired => exact watched_of_awake rfl
      | proceed | clockOverflows | interrupted =>
          by_cases same : view.word = value
          · simp only [same, ↓reduceIte]
            exact ⟨fun _ => told, fun _ same => (nomatch same), fun _ got => by omega⟩
          · simp only [same, ↓reduceIte]
            exact ⟨fun _ => told, fun _ same => (nomatch same), fun same => (nomatch same)⟩
  | parked =>
      have told := asleep rfl
      simp only [WaitPoint.step, Prod.mk.injEq, WaitNext.stands.injEq] at moved
      obtain ⟨rfl, rfl⟩ := moved
      cases choice with
      | expired => exact watched_of_awake rfl
      | interrupted => exact ⟨fun _ => told, fun _ same => (nomatch same), fun same => (nomatch same)⟩
      | proceed | clockFails | clockOverflows => exact watched
  | sleepWord =>
      have told := asleep rfl
      simp only [WaitPoint.step, Prod.mk.injEq, WaitNext.stands.injEq] at moved
      obtain ⟨rfl, rfl⟩ := moved
      split
      · exact watched_of_awake rfl
      · rename_i below
        refine ⟨fun _ => told, ?_, fun same => (nomatch same)⟩
        intro value same
        cases same
        omega
  | sleepClientStatus | sleepServiceStatus =>
      have told := asleep rfl
      simp only [WaitPoint.step, Prod.mk.injEq, WaitNext.stands.injEq] at moved
      obtain ⟨rfl, rfl⟩ := moved
      split
      · exact watched_of_awake rfl
      · exact ⟨fun _ => told, fun _ same => (nomatch same), fun same => (nomatch same)⟩
  | storeSleeping =>
      simp only [WaitPoint.step, Prod.mk.injEq, WaitNext.stands.injEq] at moved
      obtain ⟨rfl, rfl⟩ := moved
      exact ⟨fun _ => rfl, fun _ same => (nomatch same), fun same => (nomatch same)⟩
  | entryClientStatus | entryServiceStatus | entryWord | entryClock =>
      simp only [WaitPoint.step, Prod.mk.injEq] at moved
      obtain ⟨rfl, moved⟩ := moved
      split at moved
      · contradiction
      · cases moved
        exact watched_of_awake rfl
  | storeIdle outcome => simp [WaitPoint.step] at moved
  | relax =>
      simp only [WaitPoint.step, Prod.mk.injEq, WaitNext.stands.injEq] at moved
      obtain ⟨rfl, rfl⟩ := moved
      cases choice <;> exact watched_of_awake rfl
  | storeSpinning =>
      simp only [WaitPoint.step, Prod.mk.injEq, WaitNext.stands.injEq] at moved
      obtain ⟨rfl, rfl⟩ := moved
      exact watched_of_awake rfl
  | spinClientStatus | spinServiceStatus | spinWord =>
      simp only [WaitPoint.step, Prod.mk.injEq, WaitNext.stands.injEq] at moved
      obtain ⟨rfl, rfl⟩ := moved
      split <;> exact watched_of_awake rfl

end WaitPoint

namespace RingSystem

variable {system : RingSystem}

/-- The client, or the worker, is inside `wake_if_sleeping`. -/
def ClientWakes (system : RingSystem) : Prop :=
  system.client.point = .loadWaitState ∨ system.client.point = .wake

def WorkerWakes (system : RingSystem) : Prop :=
  system.worker.point = .loadWaitState ∨ system.worker.point = .wake

def ClientWatched (system : RingSystem) : Prop :=
  ∀ point, system.client.point = .waiting point → point.Watched system.client.sequence
    system.ring.completionSequence system.ring.completionWaitState system.WorkerWakes

def WorkerWatched (system : RingSystem) : Prop :=
  ∀ point, system.worker.point = .waiting point → point.Watched (system.worker.afterSequence + 1)
    system.ring.requestSequence system.ring.requestWaitState system.ClientWakes

theorem wakeRequest_others : system.wakeRequest.ring = system.ring ∧ system.wakeRequest.client = system.client ∧
    system.wakeRequest.worker.afterSequence = system.worker.afterSequence := by
  simp only [wakeRequest]
  split <;> exact ⟨rfl, rfl, rfl⟩

theorem wakeRequest_waiting {point : WaitPoint} (stands : system.wakeRequest.worker.point = .waiting point) :
    ∃ before, system.worker.point = .waiting before ∧ point = before.woken := by
  simp only [wakeRequest] at stands
  split at stands
  · rename_i before waiting
    cases stands
    exact ⟨before, waiting, rfl⟩
  · rename_i elsewhere
    exact absurd stands (elsewhere point)

theorem wakeRequest_wakes : system.wakeRequest.WorkerWakes ↔ system.WorkerWakes := by
  simp only [wakeRequest]
  split
  · rename_i point waiting
    simp [WorkerWakes, waiting, workerAt]
  · exact Iff.rfl

theorem wakeCompletion_others :
    system.wakeCompletion.ring = system.ring ∧ system.wakeCompletion.worker = system.worker ∧
      system.wakeCompletion.client.sequence = system.client.sequence := by
  simp only [wakeCompletion]
  split <;> exact ⟨rfl, rfl, rfl⟩

theorem wakeCompletion_waiting {point : WaitPoint}
    (stands : system.wakeCompletion.client.point = .waiting point) :
    ∃ before, system.client.point = .waiting before ∧ point = before.woken := by
  simp only [wakeCompletion] at stands
  split at stands
  · rename_i before waiting
    cases stands
    exact ⟨before, waiting, rfl⟩
  · rename_i elsewhere
    exact absurd stands (elsewhere point)

theorem wakeCompletion_wakes : system.wakeCompletion.ClientWakes ↔ system.ClientWakes := by
  simp only [wakeCompletion]
  split
  · rename_i point waiting
    simp [ClientWakes, waiting, clientAt]
  · exact Iff.rfl

theorem WorkerWatched.congr {later : RingSystem} (watched : system.WorkerWatched)
    (worker : later.worker = system.worker)
    (word : later.ring.requestSequence = system.ring.requestSequence)
    (state : later.ring.requestWaitState = system.ring.requestWaitState)
    (wakes : system.ClientWakes → later.ClientWakes) : later.WorkerWatched := by
  intro point stands
  rw [worker] at stands
  rw [worker, word, state]
  exact (watched point stands).weaken fun _ _ => wakes

theorem ClientWatched.congr {later : RingSystem} (watched : system.ClientWatched)
    (client : later.client = system.client)
    (word : later.ring.completionSequence = system.ring.completionSequence)
    (state : later.ring.completionWaitState = system.ring.completionWaitState)
    (wakes : system.WorkerWakes → later.WorkerWakes) : later.ClientWatched := by
  intro point stands
  rw [client] at stands
  rw [client, word, state]
  exact (watched point stands).weaken fun _ _ => wakes

theorem WorkerWatched.afterWake {later : RingSystem} (watched : system.WorkerWatched)
    (worker : later.worker = system.wakeRequest.worker)
    (word : later.ring.requestSequence = system.ring.requestSequence)
    (state : later.ring.requestWaitState = system.ring.requestWaitState) : later.WorkerWatched := by
  intro point stands
  rw [worker] at stands
  obtain ⟨before, waiting, rfl⟩ := wakeRequest_waiting stands
  rw [worker, system.wakeRequest_others.2.2, word, state]
  exact (watched before waiting).afterWake

theorem ClientWatched.afterWake {later : RingSystem} (watched : system.ClientWatched)
    (client : later.client = system.wakeCompletion.client)
    (word : later.ring.completionSequence = system.ring.completionSequence)
    (state : later.ring.completionWaitState = system.ring.completionWaitState) : later.ClientWatched := by
  intro point stands
  rw [client] at stands
  obtain ⟨before, waiting, rfl⟩ := wakeCompletion_waiting stands
  rw [client, system.wakeCompletion_others.2.2, word, state]
  exact (watched before waiting).afterWake

theorem clientStep_watches_worker (watched : system.WorkerWatched) (choice : WaitChoice)
    (request : List UInt8) : (system.clientStep choice request).WorkerWatched := by
  -- outside `wake_if_sleeping` no wake of the client is pending
  have elsewhere {later : RingSystem} (away : ¬system.ClientWakes) (worker : later.worker = system.worker)
      (word : later.ring.requestSequence = system.ring.requestSequence)
      (state : later.ring.requestWaitState = system.ring.requestWaitState) : later.WorkerWatched :=
    watched.congr worker word state fun wakes => absurd wakes away
  cases stands : system.client.point with
  | storeRequestSequence =>
      simp only [clientStep, stands]
      intro point waiting
      refine ⟨(watched point waiting).asleep, (watched point waiting).observed, ?_⟩
      intro _ _
      exact .inl rfl
  | loadWaitState =>
      simp only [clientStep, stands]
      intro point waiting
      refine (watched point waiting).weaken ?_
      rintro rfl _ _
      have told := (watched .parked waiting).asleep rfl
      exact .inr (by simp [clientAt, told])
  | wake =>
      simp only [clientStep, stands]
      exact watched.afterWake rfl (by rw [clientAt, wakeRequest_others.1]) (by rw [clientAt, wakeRequest_others.1])
  | waiting point =>
      have away : ¬system.ClientWakes := by simp [ClientWakes, stands]
      simp only [clientStep, stands]
      exact elsewhere away rfl rfl rfl
  | _ =>
      have away : ¬system.ClientWakes := by simp [ClientWakes, stands]
      simp only [clientStep, stands]
      (repeat' split) <;> exact elsewhere away rfl rfl rfl

theorem clientStep_waiting {choice : WaitChoice} {request : List UInt8} {point : WaitPoint}
    (stands : (system.clientStep choice request).client.point = .waiting point) :
    point = .entryClientStatus ∨ ∃ before, system.client.point = .waiting before ∧
      system.clientStep choice request = system.clientWaitStep choice before := by
  cases stood : system.client.point with
  | deadline =>
      left
      simp only [clientStep, stood] at stands
      split at stands <;> simp_all [clientAt]
  | waiting before => exact .inr ⟨before, rfl, by simp only [clientStep, stood]⟩
  | wake =>
      simp only [clientStep, stood] at stands
      contradiction
  | loadWaitState =>
      simp only [clientStep, stood, clientAt] at stands
      split at stands <;> contradiction
  | _ =>
      exfalso
      simp only [clientStep, stood] at stands
      repeat' split at stands
      all_goals first | contradiction | simp_all

theorem clientStep_watches_client (watched : system.ClientWatched) (choice : WaitChoice)
    (request : List UInt8) : (system.clientStep choice request).ClientWatched := by
  intro point stands
  rcases clientStep_waiting stands with rfl | ⟨before, waiting, ran⟩
  · exact WaitPoint.watched_of_awake rfl
  · rw [ran] at stands ⊢
    rcases moved : before.step system.clientView choice system.ring.completionWaitState with ⟨state, next⟩
    simp only [clientWaitStep, moved, clientAt] at stands ⊢
    cases next with
    | stands next =>
        cases stands
        exact (watched before waiting).step moved
    | returns outcome => cases outcome <;> contradiction

theorem workerStep_watches_client (watched : system.ClientWatched) (choice : WaitChoice) (stop : Bool)
    (reply : Int × List UInt8) : (system.workerStep choice stop reply).ClientWatched := by
  have elsewhere {later : RingSystem} (away : ¬system.WorkerWakes) (client : later.client = system.client)
      (word : later.ring.completionSequence = system.ring.completionSequence)
      (state : later.ring.completionWaitState = system.ring.completionWaitState) : later.ClientWatched :=
    watched.congr client word state fun wakes => absurd wakes away
  cases stands : system.worker.point with
  | storeCompletionSequence =>
      simp only [workerStep, stands]
      intro point waiting
      refine ⟨(watched point waiting).asleep, (watched point waiting).observed, ?_⟩
      intro _ _
      exact .inl rfl
  | loadWaitState =>
      simp only [workerStep, stands]
      intro point waiting
      refine (watched point waiting).weaken ?_
      rintro rfl _ _
      have told := (watched .parked waiting).asleep rfl
      exact .inr (by simp [workerAt, told])
  | wake =>
      simp only [workerStep, stands]
      exact watched.afterWake rfl (by rw [workerAt, wakeCompletion_others.1])
        (by rw [workerAt, wakeCompletion_others.1])
  | waiting point =>
      have away : ¬system.WorkerWakes := by simp [WorkerWakes, stands]
      simp only [workerStep, stands]
      exact elsewhere away rfl rfl rfl
  | _ =>
      have away : ¬system.WorkerWakes := by simp [WorkerWakes, stands]
      simp only [workerStep, stands]
      (repeat' split) <;> exact elsewhere away rfl rfl rfl

theorem workerStep_waiting {choice : WaitChoice} {stop : Bool} {reply : Int × List UInt8} {point : WaitPoint}
    (stands : (system.workerStep choice stop reply).worker.point = .waiting point) :
    point = .entryClientStatus ∨ ∃ before, system.worker.point = .waiting before ∧
      system.workerStep choice stop reply = system.workerWaitStep choice before := by
  cases stood : system.worker.point with
  | loop =>
      left
      simp only [workerStep, stood] at stands
      repeat' split at stands
      all_goals simp_all [workerAt]
  | waiting before => exact .inr ⟨before, rfl, by simp only [workerStep, stood]⟩
  | loadWaitState =>
      simp only [workerStep, stood, workerAt] at stands
      split at stands <;> contradiction
  | wake | advance | copyRequest | storeStatus | storeLength | copyResponse | storeCompleted
  | storeCompletionSequence =>
      simp only [workerStep, stood] at stands
      contradiction
  | ended code =>
      simp only [workerStep, stood] at stands
      contradiction
  | checkSequence | checkState | checkLength | serve | completeSequence | completeState =>
      simp only [workerStep, stood, workerAt] at stands
      split at stands <;> contradiction

theorem workerStep_watches_worker (watched : system.WorkerWatched) (choice : WaitChoice) (stop : Bool)
    (reply : Int × List UInt8) : (system.workerStep choice stop reply).WorkerWatched := by
  intro point stands
  rcases workerStep_waiting stands with rfl | ⟨before, waiting, ran⟩
  · exact WaitPoint.watched_of_awake rfl
  · rw [ran] at stands ⊢
    rcases moved : before.step system.workerView choice system.ring.requestWaitState with ⟨state, next⟩
    simp only [workerWaitStep, moved, workerAt] at stands ⊢
    cases next with
    | stands next =>
        cases stands
        exact (watched before waiting).step moved
    | returns outcome =>
        cases outcome with
        | reached => contradiction
        | peerFailed status =>
            simp only at stands
            split at stands <;> contradiction
        | failed code =>
            simp only at stands
            split at stands <;> contradiction

/-- What a step of `fail_peer` may do: publish a status or wake one of the words. -/
def FailureStep (system later : RingSystem) : Prop :=
  (later.client = system.client ∧ later.worker = system.worker ∨
    later.client = system.client ∧ later.worker = system.wakeRequest.worker ∨
    later.client = system.wakeCompletion.client ∧ later.worker = system.worker) ∧
  later.ring.requestSequence = system.ring.requestSequence ∧
  later.ring.completionSequence = system.ring.completionSequence ∧
  later.ring.requestWaitState = system.ring.requestWaitState ∧
  later.ring.completionWaitState = system.ring.completionWaitState

theorem failClientStep_failure (status : Int) : system.FailureStep (system.failClientStep status) := by
  have request := system.wakeRequest_others
  have completion := system.wakeCompletion_others
  simp only [failClientStep]
  split
  · simp only [FailureStep, request]
    simp
  · simp only [FailureStep, completion]
    simp
  · split <;> simp [FailureStep]

theorem failServiceStep_failure (status : Int) : system.FailureStep (system.failServiceStep status) := by
  have request := system.wakeRequest_others
  have completion := system.wakeCompletion_others
  simp only [failServiceStep]
  split
  · simp only [FailureStep, request]
    simp
  · simp only [FailureStep, completion]
    simp
  · split <;> simp [FailureStep]

theorem FailureStep.watches {later : RingSystem} (failure : system.FailureStep later)
    (client : system.ClientWatched) (worker : system.WorkerWatched) :
    later.ClientWatched ∧ later.WorkerWatched := by
  obtain ⟨parties, request, completion, requestState, completionState⟩ := failure
  rcases parties with ⟨sameClient, sameWorker⟩ | ⟨sameClient, woken⟩ | ⟨woken, sameWorker⟩
  · constructor
    · refine client.congr sameClient completion completionState ?_
      simp [WorkerWakes, sameWorker]
    · refine worker.congr sameWorker request requestState ?_
      simp [ClientWakes, sameClient]
  · constructor
    · refine client.congr sameClient completion completionState fun wakes => ?_
      rw [WorkerWakes, woken]
      exact wakeRequest_wakes.mpr wakes
    · exact worker.afterWake woken request requestState
  · constructor
    · exact client.afterWake woken completion completionState
    · refine worker.congr sameWorker request requestState fun wakes => ?_
      rw [ClientWakes, woken]
      exact wakeCompletion_wakes.mpr wakes

theorem step_watches (move : RingMove) (client : system.ClientWatched) (worker : system.WorkerWatched) :
    (system.step move).ClientWatched ∧ (system.step move).WorkerWatched := by
  cases move with
  | client choice request =>
      exact ⟨clientStep_watches_client client choice request, clientStep_watches_worker worker choice request⟩
  | worker choice stop reply =>
      exact ⟨workerStep_watches_client client choice stop reply,
        workerStep_watches_worker worker choice stop reply⟩
  | failClient status => exact (failClientStep_failure status).watches client worker
  | failService status => exact (failServiceStep_failure status).watches client worker

theorem run_watches (moves : List RingMove) (client : system.ClientWatched) (worker : system.WorkerWatched) :
    (Runs.final step system moves).ClientWatched ∧ (Runs.final step system moves).WorkerWatched := by
  induction moves generalizing system with
  | nil => exact ⟨client, worker⟩
  | cons move rest ih =>
      obtain ⟨nextClient, nextWorker⟩ := step_watches move client worker
      exact ih nextClient nextWorker

/-- The worker, or the client, is going to wake the word: it stands at the wake,
or before the load of a state that says sleeping. -/
def WorkerWakePending (system : RingSystem) : Prop :=
  system.worker.point = .wake ∨
    system.worker.point = .loadWaitState ∧ system.ring.completionWaitState = .sleeping

def ClientWakePending (system : RingSystem) : Prop :=
  system.client.point = .wake ∨
    system.client.point = .loadWaitState ∧ system.ring.requestWaitState = .sleeping

/-- No wakeup is lost: a party parked on a word that has reached the sequence it
expects has a wake pending in its peer's `wake_if_sleeping`. -/
theorem parked_party_has_wake (slotCount : Nat) (moves : List RingMove) :
    let system := Runs.final step (initial slotCount) moves
    (system.client.point = .waiting .parked → system.client.sequence ≤ system.ring.completionSequence →
      system.WorkerWakePending) ∧
    (system.worker.point = .waiting .parked →
      system.worker.afterSequence + 1 ≤ system.ring.requestSequence → system.ClientWakePending) := by
  have start : (initial slotCount).ClientWatched ∧ (initial slotCount).WorkerWatched := by
    constructor
    · intro point stands
      contradiction
    · intro point stands
      contradiction
  obtain ⟨client, worker⟩ := run_watches moves start.1 start.2
  constructor
  · intro parked got
    have asleep := (client .parked parked).asleep rfl
    rcases (client .parked parked).woken rfl got with loads | wakes
    · exact .inr ⟨loads, asleep⟩
    · exact .inl wakes
  · intro parked got
    have asleep := (worker .parked parked).asleep rfl
    rcases (worker .parked parked).woken rfl got with loads | wakes
    · exact .inr ⟨loads, asleep⟩
    · exact .inl wakes

/-- The client parks, then the worker serves its request up to the wake. -/
def parkedClientMoves : List RingMove :=
  List.replicate 25 (.client .expired [7]) ++ [.client .proceed [7]] ++
    List.replicate 16 (.worker .proceed false (0, [9]))

theorem parked_party_has_wake_client :
    (Runs.final step (initial 2) parkedClientMoves).client.point = .waiting .parked ∧
      (Runs.final step (initial 2) parkedClientMoves).WorkerWakePending :=
  ⟨by decide +kernel, (parked_party_has_wake 2 parkedClientMoves).1 (by decide +kernel) (by decide +kernel)⟩

end RingSystem

end VulkanBridge
