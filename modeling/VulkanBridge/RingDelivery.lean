import VulkanBridge.RingWakeups

/-!
The descriptor transaction ring delivers every request once and every response
to the call it was made for. At any time the ring is in one of three phases of
the next call: the client prepares it, it is posted, or it is served; in each
phase one party owns the slot of the call.
-/

namespace VulkanBridge

open ByteBuffer

theorem messageAt_copy (buffer : Buffer) (message : List UInt8) :
    messageAt (copyInto buffer 0 (messageBytes message) message.length) message.length = message := by
  apply List.ext_getElem
  · simp [messageAt]
  · intro index inside bound
    simp only [messageAt, List.length_map, List.length_range] at inside
    simp [messageAt, copyInto, messageBytes, bound]

def ServedCall.issue (call : ServedCall) : IssuedCall := ⟨call.sequence, call.request⟩

def ServedCall.answer (call : ServedCall) : ReturnedCall := ⟨call.sequence, call.response⟩

/-- A call of the ring fails with none of the results that only a confused slot gives. -/
def CallEnd.Expected : CallEnd → Prop
  | .failed code => code ≠ .ebusy ∧ code ≠ .eproto ∧ code ≠ .estale
  | _ => True

def Errno.Expected (code : Option Errno) : Prop :=
  code ≠ some .ebusy ∧ code ≠ some .eproto ∧ code ≠ some .estale

/-- What a wait may return: that the word was reached only where that may be, and
no error but of the clock and the deadline. -/
def WaitEnd.Sound (reached : Prop) : WaitEnd → Prop
  | .reached => reached
  | .failed code => code = .eio ∨ code = .etimedout
  | .peerFailed _ => True

def WaitPoint.Sound (reached : Prop) : WaitPoint → Prop
  | .storeIdle outcome => outcome.Sound reached
  | _ => True

def WaitNext.Sound (reached : Prop) : WaitNext → Prop
  | .stands point => point.Sound reached
  | .returns outcome => outcome.Sound reached

theorem WaitPoint.Sound.mono {reached later : Prop} {point : WaitPoint} (sound : point.Sound reached)
    (weaker : reached → later) : point.Sound later := by
  cases point with
  | storeIdle outcome =>
      cases outcome with
      | reached => exact weaker sound
      | peerFailed status => trivial
      | failed code => exact sound
  | _ => trivial

theorem WaitPoint.Sound.woken {reached : Prop} {point : WaitPoint} (sound : point.Sound reached) :
    point.woken.Sound reached := by
  cases point with
  | storeIdle outcome => exact sound
  | _ => trivial

theorem WaitPoint.step_sound {reached : Prop} {view : WaitView} {choice : WaitChoice} {state : RingWaitState}
    {point : WaitPoint} (got : view.expected ≤ view.word → reached) (sound : point.Sound reached) :
    (point.step view choice state).2.Sound reached := by
  cases point with
  | storeIdle outcome => exact sound
  | storeSpinning | storeSleeping => trivial
  | entryWord | spinWord | sleepWord =>
      simp only [WaitPoint.step]
      split
      · rename_i there
        exact got there
      · trivial
  | relax | parked =>
      cases choice <;> first | trivial | exact .inl rfl | exact .inr rfl
  | futexWait observed =>
      cases choice with
      | clockFails => exact .inl rfl
      | expired => exact .inr rfl
      | proceed | clockOverflows | interrupted =>
          simp only [WaitPoint.step]
          split <;> trivial
  | entryClock =>
      simp only [WaitPoint.step]
      split
      · exact .inl rfl
      · trivial
  | entryClientStatus | entryServiceStatus | spinClientStatus | spinServiceStatus | sleepClientStatus
  | sleepServiceStatus =>
      simp only [WaitPoint.step]
      split <;> trivial

/-- Calls that were issued, served with success and returned, one after the other. -/
structure Settled (past : List ServedCall) : Prop where
  numbered : past.map ServedCall.sequence = (List.range past.length).map (· + 1)
  succeeded : ∀ call ∈ past, call.status = 0

namespace RingSystem

variable {system : RingSystem} {past : List ServedCall}

/-- The slot of the call after `past`. -/
def nextIndex (system : RingSystem) (past : List ServedCall) : Nat := past.length % system.ring.slotCount

def nextSlotOf (system : RingSystem) (past : List ServedCall) : RingSlot :=
  system.ring.slots (system.nextIndex past)

/-- The client is in the call after `past`. -/
structure Calling (system : RingSystem) (past : List ServedCall) : Prop where
  sequence : system.client.sequence = past.length + 1
  issued : system.issued = past.map ServedCall.issue ++ [⟨past.length + 1, system.client.request⟩]
  nonempty : system.client.request.length ≠ 0
  bounded : system.client.request.length ≤ ringRequestBytes

structure Carries (slot : RingSlot) (sequence : Nat) (request : List UInt8) : Prop where
  sequenceWord : slot.sequence = sequence
  length : slot.requestLength = request.length
  bytes : messageAt slot.request request.length = request

structure Answers (slot : RingSlot) (call : ServedCall) : Prop where
  completed : slot.state = .completed
  sequenceWord : slot.sequence = call.sequence
  status : slot.status = call.status
  length : slot.responseLength = call.response.length
  bytes : messageAt slot.response call.response.length = call.response

def WorkerAway (worker : RingWorker) (count : Nat) : Prop :=
  match worker.point with
  | .loop => worker.afterSequence = count
  | .waiting point => worker.afterSequence = count ∧ point.Sound False
  | .loadWaitState | .wake | .advance => worker.afterSequence + 1 = count
  | .ended code => Errno.Expected code
  | _ => False

def ClientAway (client : RingClient) : Prop :=
  match client.point with
  | .loadWaitState | .wake | .deadline => True
  | .waiting point => point.Sound False
  | .ended how => how.Expected
  | _ => False

def PreparesAt (system : RingSystem) (past : List ServedCall) (slot : RingSlot) : ClientPoint → Prop
  | .idle =>
      system.client.sequence = past.length ∧ system.issued = past.map ServedCall.issue ∧
        slot.state = .available
  | .clientStatus | .serviceStatus | .slotState | .clearSlot | .copyRequest =>
      system.Calling past ∧ slot.state = .available
  | .storeLength =>
      system.Calling past ∧ slot.state = .available ∧
        messageAt slot.request system.client.request.length = system.client.request
  | .storeSequence =>
      system.Calling past ∧ slot.state = .available ∧
        messageAt slot.request system.client.request.length = system.client.request ∧
        slot.requestLength = system.client.request.length
  | .storeRequested =>
      system.Calling past ∧ slot.state = .available ∧ Carries slot (past.length + 1) system.client.request
  | .storeRequestSequence =>
      system.Calling past ∧ slot.state = .requested ∧ Carries slot (past.length + 1) system.client.request
  | .ended how => how.Expected ∧ past.map ServedCall.issue <+: system.issued
  | _ => False

def workerCall (system : RingSystem) (past : List ServedCall) : ServedCall :=
  ⟨past.length + 1, system.client.request, system.worker.status, system.worker.response⟩

def Unserved (system : RingSystem) (past : List ServedCall) (slot : RingSlot) : Prop :=
  system.worker.afterSequence = past.length ∧ slot.state = .requested ∧ system.served = past

def Answered (system : RingSystem) (past : List ServedCall) : Prop :=
  system.worker.afterSequence = past.length ∧ system.served = past ++ [system.workerCall past] ∧
    system.worker.response.length ≤ ringResponseBytes

def ServesAt (system : RingSystem) (past : List ServedCall) (slot : RingSlot) : WorkerPoint → Prop
  | .loop | .checkSequence | .checkState | .checkLength | .copyRequest => system.Unserved past slot
  | .waiting point => system.Unserved past slot ∧ point.Sound True
  | .loadWaitState | .wake | .advance =>
      system.worker.afterSequence + 1 = past.length ∧ slot.state = .requested ∧ system.served = past
  | .serve => system.Unserved past slot ∧ system.worker.request = system.client.request
  | .completeSequence | .completeState | .storeStatus => system.Answered past ∧ slot.state = .requested
  | .storeLength => system.Answered past ∧ slot.state = .requested ∧ slot.status = system.worker.status
  | .copyResponse =>
      system.Answered past ∧ slot.state = .requested ∧ slot.status = system.worker.status ∧
        slot.responseLength = system.worker.response.length
  | .storeCompleted =>
      system.Answered past ∧ slot.state = .requested ∧ slot.status = system.worker.status ∧
        slot.responseLength = system.worker.response.length ∧
        messageAt slot.response system.worker.response.length = system.worker.response
  | .storeCompletionSequence => system.Answered past ∧ Answers slot (system.workerCall past)
  | .ended code =>
      Errno.Expected code ∧ (system.served = past ∨
        ∃ status response, system.served = past ++ [⟨past.length + 1, system.client.request, status, response⟩])

def CollectsAt (system : RingSystem) (call : ServedCall) (slot : RingSlot) : ClientPoint → Prop
  | .loadWaitState | .wake | .deadline | .checkSequence | .checkState | .checkLength | .checkStatus =>
      Answers slot call
  | .waiting point => Answers slot call ∧ point.Sound True
  | .copyResponse => Answers slot call ∧ call.status = 0
  | .releaseSlot => call.status = 0 ∧ system.client.response = call.response
  | .storeAvailable | .storeNextSlot =>
      call.status = 0 ∧ system.client.response = call.response ∧ slot.state = .available
  | .ended how => how.Expected
  | _ => False

structure Base (system : RingSystem) (past : List ServedCall) (requested completed : Nat) : Prop where
  settled : Settled past
  request : system.ring.requestSequence = requested
  completion : system.ring.completionSequence = completed
  returned : system.returned = past.map ServedCall.answer
  others : ∀ index, index ≠ system.nextIndex past → (system.ring.slots index).state = .available

structure Preparing (system : RingSystem) (past : List ServedCall) : Prop where
  base : system.Base past past.length past.length
  served : system.served = past
  worker : WorkerAway system.worker past.length
  client : system.PreparesAt past (system.nextSlotOf past) system.client.point

structure Posted (system : RingSystem) (past : List ServedCall) : Prop where
  base : system.Base past (past.length + 1) past.length
  calling : system.Calling past
  carries : Carries (system.nextSlotOf past) (past.length + 1) system.client.request
  client : ClientAway system.client
  worker : system.ServesAt past (system.nextSlotOf past) system.worker.point

structure Served (system : RingSystem) (past : List ServedCall) (call : ServedCall) : Prop where
  base : system.Base past (past.length + 1) (past.length + 1)
  calling : system.Calling past
  served : system.served = past ++ [call]
  issue : call.issue = ⟨past.length + 1, system.client.request⟩
  bounded : call.response.length ≤ ringResponseBytes
  worker : WorkerAway system.worker (past.length + 1)
  client : system.CollectsAt call (system.nextSlotOf past) system.client.point

def Delivers (system : RingSystem) : Prop :=
  ∃ past, system.Preparing past ∨ system.Posted past ∨ ∃ call, system.Served past call

theorem initial_delivers (slotCount : Nat) : (initial slotCount).Delivers := by
  refine ⟨[], .inl ⟨⟨⟨rfl, ?_⟩, rfl, rfl, rfl, fun _ _ => rfl⟩, rfl, rfl, rfl, rfl, rfl⟩⟩
  intro call member
  contradiction

/-! ## The worker while it is away -/

theorem expected_of_clock {code : Errno} (clock : code = .eio ∨ code = .etimedout) :
    Errno.Expected (some code) := by
  rcases clock with rfl | rfl <;> simp [Errno.Expected]

/-- A step that touches neither the slots and the sequences nor the logs; the
client may have been woken. -/
structure Spares (system later : RingSystem) : Prop where
  served : later.served = system.served
  returned : later.returned = system.returned
  issued : later.issued = system.issued
  slotCount : later.ring.slotCount = system.ring.slotCount
  slots : later.ring.slots = system.ring.slots
  request : later.ring.requestSequence = system.ring.requestSequence
  completion : later.ring.completionSequence = system.ring.completionSequence

theorem Spares.refl (system : RingSystem) : system.Spares system := ⟨rfl, rfl, rfl, rfl, rfl, rfl, rfl⟩

theorem wakeRequest_spares : system.Spares system.wakeRequest := by
  simp only [wakeRequest]
  split <;> exact ⟨rfl, rfl, rfl, rfl, rfl, rfl, rfl⟩

theorem wakeCompletion_spares : system.Spares system.wakeCompletion := by
  simp only [wakeCompletion]
  split <;> exact ⟨rfl, rfl, rfl, rfl, rfl, rfl, rfl⟩

theorem workerStep_away {count : Nat} (away : WorkerAway system.worker count)
    (unposted : system.ring.requestSequence < count + 1) (choice : WaitChoice) (stop : Bool)
    (reply : Int × List UInt8) :
    WorkerAway (system.workerStep choice stop reply).worker count ∧
      system.Spares (system.workerStep choice stop reply) := by
  have given := away
  cases stands : system.worker.point with
  | loop =>
      rw [WorkerAway, stands] at away
      simp only [workerStep, stands]
      split
      · exact ⟨⟨by simp, by simp, by simp⟩, ⟨rfl, rfl, rfl, rfl, rfl, rfl, rfl⟩⟩
      · split
        · exact ⟨⟨by simp, by simp, by simp⟩, ⟨rfl, rfl, rfl, rfl, rfl, rfl, rfl⟩⟩
        · cases choice with
          | clockFails | clockOverflows =>
              exact ⟨⟨by simp, by simp, by simp⟩, ⟨rfl, rfl, rfl, rfl, rfl, rfl, rfl⟩⟩
          | proceed | expired | interrupted =>
              exact ⟨⟨away, trivial⟩, ⟨rfl, rfl, rfl, rfl, rfl, rfl, rfl⟩⟩
  | waiting point =>
      rw [WorkerAway, stands] at away
      obtain ⟨after, sound⟩ := away
      have below : ¬system.workerView.expected ≤ system.workerView.word := by
        simp only [workerView]
        omega
      have next : (point.step system.workerView choice system.ring.requestWaitState).2.Sound False :=
        WaitPoint.step_sound (fun there => below there) sound
      simp only [workerStep, stands, workerWaitStep]
      refine ⟨?_, ⟨rfl, rfl, rfl, rfl, rfl, rfl, rfl⟩⟩
      rcases moved : point.step system.workerView choice system.ring.requestWaitState with ⟨state, goes⟩
      rw [moved] at next
      cases goes with
      | stands later => exact ⟨after, next⟩
      | returns outcome =>
          cases outcome with
          | reached => contradiction
          | peerFailed status =>
              simp only [workerAt]
              split
              · exact after
              · exact ⟨by simp, by simp, by simp⟩
          | failed code =>
              simp only [workerAt]
              split
              · exact after
              · exact expected_of_clock next
  | loadWaitState =>
      rw [WorkerAway, stands] at away
      simp only [workerStep, stands]
      refine ⟨?_, ⟨rfl, rfl, rfl, rfl, rfl, rfl, rfl⟩⟩
      simp only [workerAt]
      split <;> exact away
  | wake =>
      rw [WorkerAway, stands] at away
      simp only [workerStep, stands]
      have spares := system.wakeCompletion_spares
      have worker := system.wakeCompletion_others.2.1
      refine ⟨?_, ⟨spares.served, spares.returned, spares.issued, spares.slotCount, spares.slots,
        spares.request, spares.completion⟩⟩
      simp only [workerAt, worker]
      exact away
  | advance =>
      rw [WorkerAway, stands] at away
      simp only [workerStep, stands]
      exact ⟨away, ⟨rfl, rfl, rfl, rfl, rfl, rfl, rfl⟩⟩
  | ended code =>
      simp only [workerStep, stands]
      exact ⟨given, .refl system⟩
  | _ =>
      rw [WorkerAway, stands] at away
      contradiction

theorem workerStep_client (choice : WaitChoice) (stop : Bool) (reply : Int × List UInt8) :
    (system.workerStep choice stop reply).client = system.client ∨
      ∃ point, system.client.point = .waiting point ∧
        (system.workerStep choice stop reply).client = { system.client with point := .waiting point.woken } := by
  cases stands : system.worker.point with
  | wake =>
      simp only [workerStep, stands, workerAt, wakeCompletion]
      split
      · rename_i point waiting
        exact .inr ⟨point, waiting, rfl⟩
      · exact .inl rfl
  | _ =>
      simp only [workerStep, stands]
      (repeat' split) <;> exact .inl (by trivial)

theorem Base.congr {later : RingSystem} {requested completed : Nat} (base : system.Base past requested completed)
    (spares : system.Spares later) : later.Base past requested completed := by
  refine ⟨base.settled, spares.request.trans base.request, spares.completion.trans base.completion,
    spares.returned.trans base.returned, ?_⟩
  rw [nextIndex, spares.slotCount, spares.slots]
  exact base.others

theorem Spares.nextSlotOf {later : RingSystem} (spares : system.Spares later) (past : List ServedCall) :
    later.nextSlotOf past = system.nextSlotOf past := by
  rw [RingSystem.nextSlotOf, RingSystem.nextSlotOf, nextIndex, nextIndex, spares.slotCount, spares.slots]

theorem Calling.congr {later : RingSystem} (calling : system.Calling past)
    (sequence : later.client.sequence = system.client.sequence)
    (request : later.client.request = system.client.request) (issued : later.issued = system.issued) :
    later.Calling past := by
  constructor
  · rw [sequence]
    exact calling.sequence
  · rw [issued, request]
    exact calling.issued
  · rw [request]
    exact calling.nonempty
  · rw [request]
    exact calling.bounded

theorem PreparesAt.congr {later : RingSystem} {slot : RingSlot} {point : ClientPoint}
    (prepares : system.PreparesAt past slot point) (sequence : later.client.sequence = system.client.sequence)
    (request : later.client.request = system.client.request) (issued : later.issued = system.issued) :
    later.PreparesAt past slot point := by
  have calling : system.Calling past → later.Calling past := fun calling =>
    calling.congr sequence request issued
  cases point with
  | idle | ended =>
      simp only [PreparesAt, sequence, issued] at prepares ⊢
      exact prepares
  | clientStatus | serviceStatus | slotState | clearSlot | copyRequest | storeLength | storeSequence
  | storeRequested | storeRequestSequence =>
      simp only [PreparesAt, request] at prepares ⊢
      exact ⟨calling prepares.1, prepares.2⟩
  | _ => contradiction

theorem WorkerAway.woken {count : Nat} (away : WorkerAway system.worker count) :
    WorkerAway system.wakeRequest.worker count := by
  simp only [wakeRequest]
  split
  · rename_i point waiting
    rw [WorkerAway, waiting] at away
    exact ⟨away.1, away.2.woken⟩
  · exact away

/-! ## The client prepares -/

theorem Preparing.workerStep (preparing : system.Preparing past) (choice : WaitChoice) (stop : Bool)
    (reply : Int × List UInt8) : (system.workerStep choice stop reply).Preparing past := by
  obtain ⟨away, spares⟩ := workerStep_away preparing.worker (by rw [preparing.base.request]; omega) choice stop
    reply
  have client : (system.workerStep choice stop reply).client = system.client := by
    rcases workerStep_client choice stop reply with same | ⟨point, waiting, _⟩
    · exact same
    · have prepares := preparing.client
      rw [waiting] at prepares
      contradiction
  refine ⟨preparing.base.congr spares, spares.served.trans preparing.served, away, ?_⟩
  rw [spares.nextSlotOf, client]
  exact preparing.client.congr (by rw [client]) (by rw [client]) spares.issued

theorem Calling.clientIndex (calling : system.Calling past) : system.clientIndex = system.nextIndex past := by
  rw [RingSystem.clientIndex, calling.sequence, nextIndex, Nat.add_sub_cancel]

theorem Calling.clientSlot (calling : system.Calling past) : system.clientSlot = system.nextSlotOf past := by
  rw [RingSystem.clientSlot, calling.clientIndex, nextSlotOf]

theorem Calling.slot_set (calling : system.Calling past) (slot : RingSlot) :
    (system.setClientSlot slot).nextSlotOf past = slot := by
  simp only [nextSlotOf, setClientSlot, DescriptorRing.setSlot, nextIndex, calling.clientIndex]
  exact Function.update_self _ _ _

theorem Base.setClientSlot {requested completed : Nat} (base : system.Base past requested completed)
    (calling : system.Calling past) (slot : RingSlot) :
    (system.setClientSlot slot).Base past requested completed := by
  refine ⟨base.settled, base.request, base.completion, base.returned, ?_⟩
  intro index other
  simp only [RingSystem.setClientSlot, DescriptorRing.setSlot, calling.clientIndex]
  exact (congrArg RingSlot.state (Function.update_of_ne other _ _)).trans (base.others index other)

theorem Preparing.write {point : ClientPoint} {slot : RingSlot} (preparing : system.Preparing past)
    (calling : system.Calling past) (client : system.PreparesAt past slot point) :
    ((system.setClientSlot slot).clientAt point).Preparing past := by
  have base := preparing.base.setClientSlot calling slot
  refine ⟨⟨base.settled, base.request, base.completion, base.returned, base.others⟩, preparing.served,
    preparing.worker, ?_⟩
  have same : ((system.setClientSlot slot).clientAt point).nextSlotOf past = slot := calling.slot_set slot
  rw [same]
  exact client.congr rfl rfl rfl

theorem Preparing.goes {point : ClientPoint} (preparing : system.Preparing past)
    (client : system.PreparesAt past (system.nextSlotOf past) point) :
    (system.clientAt point).Preparing past := by
  have base := preparing.base
  exact ⟨⟨base.settled, base.request, base.completion, base.returned, base.others⟩, preparing.served,
    preparing.worker, client.congr rfl rfl rfl⟩

theorem WorkerAway.serves {slot : RingSlot} (away : WorkerAway system.worker past.length)
    (requested : slot.state = .requested) (served : system.served = past) :
    system.ServesAt past slot system.worker.point := by
  rw [WorkerAway] at away
  cases stands : system.worker.point with
  | loop =>
      rw [stands] at away
      exact ⟨away, requested, served⟩
  | waiting point =>
      rw [stands] at away
      exact ⟨⟨away.1, requested, served⟩, away.2.mono False.elim⟩
  | loadWaitState | wake | advance =>
      rw [stands] at away
      exact ⟨away, requested, served⟩
  | ended code =>
      rw [stands] at away
      exact ⟨away, .inl served⟩
  | _ =>
      rw [stands] at away
      contradiction

theorem Preparing.clientStep (preparing : system.Preparing past) (choice : WaitChoice)
    (request : List UInt8) : (system.clientStep choice request).Delivers := by
  have prepares := preparing.client
  have base := preparing.base
  have ended {how : CallEnd} (expected : how.Expected) (calling : system.Calling past) :
      (system.clientAt (.ended how)).Delivers := by
    refine ⟨past, .inl (preparing.goes ⟨expected, ?_⟩)⟩
    exact ⟨_, calling.issued.symm⟩
  cases stands : system.client.point with
  | idle =>
      rw [stands] at prepares
      obtain ⟨sequence, issued, free⟩ := prepares
      simp only [RingSystem.clientStep, stands]
      split
      · split
        · refine ⟨past, .inl ⟨⟨base.settled, base.request, base.completion, base.returned, base.others⟩,
            preparing.served, preparing.worker, ⟨by simp, by simp, by simp⟩, ?_⟩⟩
          exact ⟨[], by rw [List.append_nil]; exact issued.symm⟩
        · rename_i accepted
          refine ⟨past, .inl ⟨⟨base.settled, base.request, base.completion, base.returned, base.others⟩,
            preparing.served, preparing.worker, ⟨?_, ?_, ?_, ?_⟩, free⟩⟩
          · simp only [clientAt, sequence]
          · simp only [clientAt, sequence, issued]
          · simp only [clientAt]
            omega
          · simp only [clientAt]
            omega
      · exact ⟨past, .inl preparing⟩
  | clientStatus | serviceStatus =>
      rw [stands] at prepares
      simp only [RingSystem.clientStep, stands]
      split
      · exact ended trivial prepares.1
      · exact ⟨past, .inl (preparing.goes prepares)⟩
  | slotState =>
      rw [stands] at prepares
      obtain ⟨calling, free⟩ := prepares
      simp only [RingSystem.clientStep, stands, calling.clientSlot, free, ne_eq, not_true_eq_false, ↓reduceIte]
      exact ⟨past, .inl (preparing.goes ⟨calling, free⟩)⟩
  | clearSlot =>
      rw [stands] at prepares
      simp only [RingSystem.clientStep, stands]
      exact ⟨past, .inl (preparing.write prepares.1 ⟨prepares.1, rfl⟩)⟩
  | copyRequest =>
      rw [stands] at prepares
      obtain ⟨calling, free⟩ := prepares
      simp only [RingSystem.clientStep, stands, calling.clientSlot]
      exact ⟨past, .inl (preparing.write calling ⟨calling, free, messageAt_copy _ _⟩)⟩
  | storeLength =>
      rw [stands] at prepares
      obtain ⟨calling, free, bytes⟩ := prepares
      simp only [RingSystem.clientStep, stands, calling.clientSlot]
      exact ⟨past, .inl (preparing.write calling ⟨calling, free, bytes, rfl⟩)⟩
  | storeSequence =>
      rw [stands] at prepares
      obtain ⟨calling, free, bytes, length⟩ := prepares
      simp only [RingSystem.clientStep, stands, calling.clientSlot]
      exact ⟨past, .inl (preparing.write calling ⟨calling, free, calling.sequence, length, bytes⟩)⟩
  | storeRequested =>
      rw [stands] at prepares
      obtain ⟨calling, free, carries⟩ := prepares
      simp only [RingSystem.clientStep, stands, calling.clientSlot]
      exact ⟨past, .inl (preparing.write calling
        ⟨calling, rfl, carries.sequenceWord, carries.length, carries.bytes⟩)⟩
  | storeRequestSequence =>
      rw [stands] at prepares
      obtain ⟨calling, requested, carries⟩ := prepares
      simp only [RingSystem.clientStep, stands]
      refine ⟨past, .inr (.inl ⟨⟨base.settled, calling.sequence, base.completion, base.returned, base.others⟩,
        calling.congr rfl rfl rfl, carries, trivial, ?_⟩)⟩
      exact WorkerAway.serves preparing.worker requested preparing.served
  | ended how =>
      simp only [RingSystem.clientStep, stands]
      exact ⟨past, .inl preparing⟩
  | _ =>
      rw [stands] at prepares
      contradiction

/-! ## The request is posted -/

theorem ServesAt.congr {later : RingSystem} {slot : RingSlot} {point : WorkerPoint}
    (serves : system.ServesAt past slot point)
    (after : later.worker.afterSequence = system.worker.afterSequence)
    (read : later.worker.request = system.worker.request) (status : later.worker.status = system.worker.status)
    (response : later.worker.response = system.worker.response)
    (request : later.client.request = system.client.request) (served : later.served = system.served) :
    later.ServesAt past slot point := by
  have unserved : later.Unserved past slot ↔ system.Unserved past slot := by
    rw [Unserved, Unserved, after, served]
  have call : later.workerCall past = system.workerCall past := by
    rw [workerCall, workerCall, request, status, response]
  have answered : later.Answered past ↔ system.Answered past := by
    rw [Answered, Answered, after, served, call, response]
  cases point with
  | loop | checkSequence | checkState | checkLength | copyRequest => exact unserved.mpr serves
  | waiting point => exact ⟨unserved.mpr serves.1, serves.2⟩
  | loadWaitState | wake | advance =>
      simp only [ServesAt, after, served] at serves ⊢
      exact serves
  | serve =>
      refine ⟨unserved.mpr serves.1, ?_⟩
      rw [read, request]
      exact serves.2
  | ended code =>
      simp only [ServesAt, served, request] at serves ⊢
      exact serves
  | _ =>
      simp only [ServesAt, answered, call, status, response] at serves ⊢
      exact serves

theorem Carries.congr {later : RingSystem} (carries : Carries (system.nextSlotOf past) (past.length + 1)
      system.client.request) (slot : later.nextSlotOf past = system.nextSlotOf past)
    (request : later.client.request = system.client.request) :
    Carries (later.nextSlotOf past) (past.length + 1) later.client.request := by
  rw [slot, request]
  exact carries

theorem Posted.congr {later : RingSystem} (posted : system.Posted past) (spares : system.Spares later)
    (sequence : later.client.sequence = system.client.sequence)
    (request : later.client.request = system.client.request) (client : ClientAway later.client)
    (worker : later.ServesAt past (system.nextSlotOf past) later.worker.point) : later.Posted past := by
  refine ⟨posted.base.congr spares, posted.calling.congr sequence request spares.issued,
    posted.carries.congr (spares.nextSlotOf past) request, client, ?_⟩
  rw [spares.nextSlotOf]
  exact worker

theorem ServesAt.woken {slot : RingSlot} (serves : system.ServesAt past slot system.worker.point) :
    system.wakeRequest.ServesAt past slot system.wakeRequest.worker.point := by
  simp only [wakeRequest]
  split
  · rename_i point waiting
    rw [waiting] at serves
    exact ⟨serves.1, serves.2.woken⟩
  · exact serves

theorem ClientAway.woken (away : ClientAway system.client) : ClientAway system.wakeCompletion.client := by
  simp only [wakeCompletion]
  split
  · rename_i point waiting
    rw [ClientAway, waiting] at away
    exact WaitPoint.Sound.woken away
  · exact away

theorem Posted.clientStep (posted : system.Posted past) (choice : WaitChoice) (request : List UInt8) :
    (system.clientStep choice request).Posted past := by
  have away := posted.client
  have goes {point : ClientPoint} (client : ClientAway { system.client with point := point }) :
      (system.clientAt point).Posted past :=
    posted.congr ⟨rfl, rfl, rfl, rfl, rfl, rfl, rfl⟩ rfl rfl client (posted.worker.congr rfl rfl rfl rfl rfl rfl)
  rw [ClientAway] at away
  cases stands : system.client.point with
  | loadWaitState =>
      simp only [RingSystem.clientStep, stands]
      split
      · exact goes trivial
      · exact goes trivial
  | wake =>
      have spares := system.wakeRequest_spares
      have client := system.wakeRequest_others.2.1
      simp only [RingSystem.clientStep, stands]
      refine posted.congr ⟨spares.served, spares.returned, spares.issued, spares.slotCount, spares.slots,
        spares.request, spares.completion⟩ (by rw [clientAt, client]) (by rw [clientAt, client]) ?_ ?_
      · rw [clientAt, client]
        trivial
      · exact posted.worker.woken.congr rfl rfl rfl rfl rfl rfl
  | deadline =>
      simp only [RingSystem.clientStep, stands]
      cases choice with
      | clockFails | clockOverflows => exact goes ⟨by simp, by simp, by simp⟩
      | proceed | expired | interrupted => exact goes trivial
  | waiting point =>
      rw [stands] at away
      have below : ¬system.clientView.expected ≤ system.clientView.word := by
        simp only [clientView, posted.calling.sequence, posted.base.completion]
        omega
      have next : (point.step system.clientView choice system.ring.completionWaitState).2.Sound False :=
        WaitPoint.step_sound (fun there => below there) away
      simp only [RingSystem.clientStep, stands, clientWaitStep]
      refine posted.congr ⟨rfl, rfl, rfl, rfl, rfl, rfl, rfl⟩ rfl rfl ?_
        (posted.worker.congr rfl rfl rfl rfl rfl rfl)
      rcases moved : point.step system.clientView choice system.ring.completionWaitState with ⟨state, step⟩
      rw [moved] at next
      cases step with
      | stands later => exact next
      | returns outcome =>
          cases outcome with
          | reached => contradiction
          | peerFailed status => trivial
          | failed code =>
              rcases next with rfl | rfl
              · exact ⟨by simp, by simp, by simp⟩
              · exact ⟨by simp, by simp, by simp⟩
  | ended how =>
      simp only [RingSystem.clientStep, stands]
      exact posted
  | _ =>
      rw [stands] at away
      contradiction

theorem workerIndex_next (after : system.worker.afterSequence = past.length) :
    system.workerIndex = system.nextIndex past := by
  rw [workerIndex, after, nextIndex]

theorem workerSlot_next (after : system.worker.afterSequence = past.length) :
    system.workerSlot = system.nextSlotOf past := by
  rw [workerSlot, workerIndex_next after, nextSlotOf]

theorem Posted.write {point : WorkerPoint} {slot : RingSlot} (posted : system.Posted past)
    (after : system.worker.afterSequence = past.length)
    (carries : Carries slot (past.length + 1) system.client.request)
    (worker : system.ServesAt past slot point) : ((system.setWorkerSlot slot).workerAt point).Posted past := by
  have same : ((system.setWorkerSlot slot).workerAt point).nextSlotOf past = slot := by
    simp only [nextSlotOf, setWorkerSlot, workerAt, DescriptorRing.setSlot, nextIndex, workerIndex_next after]
    exact Function.update_self _ _ _
  refine ⟨⟨posted.base.settled, posted.base.request, posted.base.completion, posted.base.returned, ?_⟩,
    posted.calling.congr rfl rfl rfl, ?_, posted.client, ?_⟩
  · intro index other
    simp only [setWorkerSlot, workerAt, DescriptorRing.setSlot, workerIndex_next after]
    exact (congrArg RingSlot.state (Function.update_of_ne other _ _)).trans (posted.base.others index other)
  · rw [same]
    exact carries
  · rw [same]
    exact worker.congr rfl rfl rfl rfl rfl rfl

theorem Posted.goes {point : WorkerPoint} (posted : system.Posted past)
    (worker : system.ServesAt past (system.nextSlotOf past) point) : (system.workerAt point).Posted past :=
  posted.congr ⟨rfl, rfl, rfl, rfl, rfl, rfl, rfl⟩ rfl rfl posted.client
    (worker.congr rfl rfl rfl rfl rfl rfl)

theorem ClientAway.collects {call : ServedCall} {slot : RingSlot} (away : ClientAway system.client)
    (answers : Answers slot call) : system.CollectsAt call slot system.client.point := by
  rw [ClientAway] at away
  cases stands : system.client.point with
  | loadWaitState | wake | deadline => exact answers
  | waiting point =>
      rw [stands] at away
      exact ⟨answers, WaitPoint.Sound.mono away False.elim⟩
  | ended how =>
      rw [stands] at away
      exact away
  | _ =>
      rw [stands] at away
      contradiction

theorem Posted.workerStep (posted : system.Posted past) (choice : WaitChoice) (stop : Bool)
    (reply : Int × List UInt8) : (system.workerStep choice stop reply).Delivers := by
  have serves := posted.worker
  have carries := posted.carries
  have calling := posted.calling
  have goes {point : WorkerPoint} (worker : system.ServesAt past (system.nextSlotOf past) point) :
      (system.workerAt point).Delivers := ⟨past, .inr (.inl (posted.goes worker))⟩
  cases stands : system.worker.point with
  | loop =>
      rw [stands] at serves
      simp only [RingSystem.workerStep, stands]
      split
      · exact goes ⟨⟨by simp, by simp, by simp⟩, .inl serves.2.2⟩
      · split
        · exact goes ⟨⟨by simp, by simp, by simp⟩, .inl serves.2.2⟩
        · cases choice with
          | clockFails | clockOverflows => exact goes ⟨⟨by simp, by simp, by simp⟩, .inl serves.2.2⟩
          | proceed | expired | interrupted => exact goes ⟨serves, trivial⟩
  | waiting point =>
      rw [stands] at serves
      obtain ⟨unserved, sound⟩ := serves
      have next : (point.step system.workerView choice system.ring.requestWaitState).2.Sound True :=
        WaitPoint.step_sound (fun _ => trivial) sound
      simp only [RingSystem.workerStep, stands, workerWaitStep]
      refine ⟨past, .inr (.inl (posted.congr ⟨rfl, rfl, rfl, rfl, rfl, rfl, rfl⟩ rfl rfl posted.client ?_))⟩
      rcases moved : point.step system.workerView choice system.ring.requestWaitState with ⟨state, step⟩
      rw [moved] at next
      cases step with
      | stands later => exact ⟨unserved, next⟩
      | returns outcome =>
          cases outcome with
          | reached => exact unserved
          | peerFailed status =>
              simp only [workerAt]
              split
              · exact unserved
              · exact ⟨⟨by simp, by simp, by simp⟩, .inl unserved.2.2⟩
          | failed code =>
              simp only [workerAt]
              split
              · exact unserved
              · exact ⟨expected_of_clock next, .inl unserved.2.2⟩
  | loadWaitState =>
      rw [stands] at serves
      simp only [RingSystem.workerStep, stands]
      split
      · exact goes serves
      · exact goes serves
  | wake =>
      rw [stands] at serves
      have spares := system.wakeCompletion_spares
      obtain ⟨_, worker, sequence⟩ := system.wakeCompletion_others
      have request : system.wakeCompletion.client.request = system.client.request := by
        simp only [wakeCompletion]
        split <;> rfl
      simp only [RingSystem.workerStep, stands]
      refine ⟨past, .inr (.inl (posted.congr ⟨spares.served, spares.returned, spares.issued, spares.slotCount,
        spares.slots, spares.request, spares.completion⟩ sequence request posted.client.woken ?_))⟩
      simp only [workerAt, ServesAt, worker, spares.served]
      exact serves
  | advance =>
      rw [stands] at serves
      simp only [RingSystem.workerStep, stands]
      exact ⟨past, .inr (.inl (posted.congr ⟨rfl, rfl, rfl, rfl, rfl, rfl, rfl⟩ rfl rfl posted.client serves))⟩
  | checkSequence =>
      rw [stands] at serves
      simp only [RingSystem.workerStep, stands, workerSlot_next serves.1, carries.sequenceWord, serves.1, ne_eq,
        not_true_eq_false, ↓reduceIte]
      exact goes serves
  | checkState =>
      rw [stands] at serves
      simp only [RingSystem.workerStep, stands, workerSlot_next serves.1, serves.2.1, ne_eq,
        not_true_eq_false, ↓reduceIte]
      exact goes serves
  | checkLength =>
      rw [stands] at serves
      have fits : ¬((system.nextSlotOf past).requestLength = 0 ∨
          (system.nextSlotOf past).requestLength > ringRequestBytes) := by
        rw [carries.length]
        have nonempty := calling.nonempty
        have bounded := calling.bounded
        omega
      simp only [RingSystem.workerStep, stands, workerSlot_next serves.1]
      rw [if_neg fits]
      exact goes serves
  | copyRequest =>
      rw [stands] at serves
      simp only [RingSystem.workerStep, stands, workerSlot_next serves.1]
      refine ⟨past, .inr (.inl (posted.congr ⟨rfl, rfl, rfl, rfl, rfl, rfl, rfl⟩ rfl rfl posted.client
        ⟨serves, ?_⟩))⟩
      simp only [carries.length]
      exact carries.bytes
  | serve =>
      rw [stands] at serves
      obtain ⟨⟨after, requested, served⟩, read⟩ := serves
      simp only [RingSystem.workerStep, stands]
      have base := posted.base
      split
      · refine ⟨past, .inr (.inl ⟨⟨base.settled, base.request, base.completion, base.returned, base.others⟩,
          calling.congr rfl rfl rfl, carries, posted.client, ⟨by simp, by simp, by simp⟩, .inr ?_⟩)⟩
        exact ⟨reply.1, reply.2, by simp only [workerAt, served, after, read]⟩
      · rename_i accepted
        refine ⟨past, .inr (.inl ⟨⟨base.settled, base.request, base.completion, base.returned, base.others⟩,
          calling.congr rfl rfl rfl, carries, posted.client, ⟨after, ?_, ?_⟩, requested⟩)⟩
        · simp only [workerAt, workerCall, served, after, read]
        · simp only [workerAt]
          omega
  | completeSequence =>
      rw [stands] at serves
      simp only [RingSystem.workerStep, stands, workerSlot_next serves.1.1, carries.sequenceWord, serves.1.1,
        ne_eq, not_true_eq_false, ↓reduceIte]
      exact goes serves
  | completeState =>
      rw [stands] at serves
      simp only [RingSystem.workerStep, stands, workerSlot_next serves.1.1, serves.2, ne_eq,
        not_true_eq_false, ↓reduceIte]
      exact goes serves
  | storeStatus =>
      rw [stands] at serves
      simp only [RingSystem.workerStep, stands, workerSlot_next serves.1.1]
      exact ⟨past, .inr (.inl (posted.write serves.1.1 ⟨carries.sequenceWord, carries.length, carries.bytes⟩
        ⟨serves.1, serves.2, rfl⟩))⟩
  | storeLength =>
      rw [stands] at serves
      obtain ⟨answered, requested, status⟩ := serves
      simp only [RingSystem.workerStep, stands, workerSlot_next answered.1]
      exact ⟨past, .inr (.inl (posted.write answered.1 ⟨carries.sequenceWord, carries.length, carries.bytes⟩
        ⟨answered, requested, status, rfl⟩))⟩
  | copyResponse =>
      rw [stands] at serves
      obtain ⟨answered, requested, status, length⟩ := serves
      simp only [RingSystem.workerStep, stands, workerSlot_next answered.1]
      exact ⟨past, .inr (.inl (posted.write answered.1 ⟨carries.sequenceWord, carries.length, carries.bytes⟩
        ⟨answered, requested, status, length, messageAt_copy _ _⟩))⟩
  | storeCompleted =>
      rw [stands] at serves
      obtain ⟨answered, requested, status, length, bytes⟩ := serves
      simp only [RingSystem.workerStep, stands, workerSlot_next answered.1]
      exact ⟨past, .inr (.inl (posted.write answered.1 ⟨carries.sequenceWord, carries.length, carries.bytes⟩
        ⟨answered, rfl, carries.sequenceWord, status, length, bytes⟩))⟩
  | storeCompletionSequence =>
      rw [stands] at serves
      obtain ⟨⟨after, served, bounded⟩, answers⟩ := serves
      have base := posted.base
      simp only [RingSystem.workerStep, stands]
      refine ⟨past, .inr (.inr ⟨system.workerCall past, ⟨base.settled, base.request, ?_, base.returned,
        base.others⟩, calling.congr rfl rfl rfl, served, rfl, bounded, ?_, ?_⟩)⟩
      · simp only [workerAt, after]
      · simp only [workerAt, WorkerAway, after]
      · exact ClientAway.collects posted.client answers
  | ended code =>
      simp only [RingSystem.workerStep, stands]
      exact ⟨past, .inr (.inl posted)⟩

/-! ## The request is served -/

variable {call : ServedCall}

theorem CollectsAt.congr {later : RingSystem} {slot : RingSlot} {point : ClientPoint}
    (collects : system.CollectsAt call slot point) (response : later.client.response = system.client.response) :
    later.CollectsAt call slot point := by
  cases point with
  | releaseSlot | storeAvailable | storeNextSlot =>
      simp only [CollectsAt, response] at collects ⊢
      exact collects
  | _ => exact collects

theorem Served.congr {later : RingSystem} (done : system.Served past call) (spares : system.Spares later)
    (sequence : later.client.sequence = system.client.sequence)
    (request : later.client.request = system.client.request)
    (worker : WorkerAway later.worker (past.length + 1))
    (client : later.CollectsAt call (system.nextSlotOf past) later.client.point) : later.Served past call := by
  refine ⟨done.base.congr spares, done.calling.congr sequence request spares.issued,
    spares.served.trans done.served, ?_, done.bounded, worker, ?_⟩
  · rw [request]
    exact done.issue
  · rw [spares.nextSlotOf]
    exact client

theorem Served.workerStep (done : system.Served past call) (choice : WaitChoice) (stop : Bool)
    (reply : Int × List UInt8) : (system.workerStep choice stop reply).Served past call := by
  obtain ⟨away, spares⟩ := workerStep_away done.worker (by rw [done.base.request]; omega) choice stop reply
  rcases workerStep_client choice stop reply with same | ⟨point, waiting, same⟩
  · refine done.congr spares (by rw [same]) (by rw [same]) away ?_
    rw [same]
    exact done.client.congr (by rw [same])
  · have collects := done.client
    rw [waiting] at collects
    refine done.congr spares (by rw [same]) (by rw [same]) away ?_
    rw [same]
    exact ⟨collects.1, collects.2.woken⟩

theorem ordered_append (settled : Settled past) (sequence : call.sequence = past.length + 1) :
    (past ++ [call]).map ServedCall.sequence = (List.range (past ++ [call]).length).map (· + 1) := by
  rw [List.map_append, settled.numbered, List.length_append, List.length_singleton, List.range_succ,
    List.map_append, List.map_singleton, List.map_singleton, sequence]

theorem settled_append (settled : Settled past) (sequence : call.sequence = past.length + 1)
    (success : call.status = 0) : Settled (past ++ [call]) := by
  constructor
  · exact ordered_append settled sequence
  · intro other member
    rcases List.mem_append.mp member with earlier | last
    · exact settled.succeeded other earlier
    · rw [List.mem_singleton.mp last]
      exact success

theorem Served.returns (done : system.Served past call) (stands : system.client.point = .storeNextSlot)
    (nextSlot : Nat) :
    ({ system with
      ring := { system.ring with nextSlot := nextSlot }
      returned := system.returned ++ [ReturnedCall.mk system.client.sequence system.client.response]
      }.clientAt .idle).Preparing (past ++ [call]) := by
  have collects := done.client
  rw [stands] at collects
  obtain ⟨success, response, free⟩ := collects
  have base := done.base
  have number : call.sequence = past.length + 1 := congrArg IssuedCall.sequence done.issue
  have allFree : ∀ index, (system.ring.slots index).state = .available := by
    intro index
    by_cases this : index = system.nextIndex past
    · rw [this]
      exact free
    · exact base.others index this
  refine ⟨⟨settled_append base.settled number success, ?_, ?_, ?_, fun index _ => allFree index⟩,
    done.served, ?_, ?_, ?_, allFree _⟩
  · rw [List.length_append, List.length_singleton]
    exact base.request
  · rw [List.length_append, List.length_singleton]
    exact base.completion
  · simp only [clientAt, base.returned, List.map_append, List.map_singleton, ServedCall.answer, number,
      done.calling.sequence, response]
  · rw [List.length_append, List.length_singleton]
    exact done.worker
  · rw [List.length_append, List.length_singleton]
    exact done.calling.sequence
  · simp only [clientAt, done.calling.issued, List.map_append, List.map_singleton, done.issue]

theorem Served.clientStep (done : system.Served past call) (choice : WaitChoice) (request : List UInt8) :
    (system.clientStep choice request).Delivers := by
  have collects := done.client
  have calling := done.calling
  have number : call.sequence = past.length + 1 := congrArg IssuedCall.sequence done.issue
  have goes {point : ClientPoint} (client : system.CollectsAt call (system.nextSlotOf past) point) :
      (system.clientAt point).Delivers :=
    ⟨past, .inr (.inr ⟨call, done.congr ⟨rfl, rfl, rfl, rfl, rfl, rfl, rfl⟩ rfl rfl done.worker
      (client.congr rfl)⟩)⟩
  have writes {point : ClientPoint} {slot : RingSlot} (client : system.CollectsAt call slot point) :
      ((system.setClientSlot slot).clientAt point).Delivers := by
    have base := done.base.setClientSlot calling slot
    have same : ((system.setClientSlot slot).clientAt point).nextSlotOf past = slot := calling.slot_set slot
    refine ⟨past, .inr (.inr ⟨call, ⟨base.settled, base.request, base.completion, base.returned, base.others⟩,
      calling.congr rfl rfl rfl, done.served, done.issue, done.bounded, done.worker, ?_⟩)⟩
    rw [same]
    exact client.congr rfl
  cases stands : system.client.point with
  | loadWaitState =>
      rw [stands] at collects
      simp only [RingSystem.clientStep, stands]
      split
      · exact goes collects
      · exact goes collects
  | wake =>
      rw [stands] at collects
      have spares := system.wakeRequest_spares
      have client := system.wakeRequest_others.2.1
      simp only [RingSystem.clientStep, stands]
      refine ⟨past, .inr (.inr ⟨call, done.congr ⟨spares.served, spares.returned, spares.issued,
        spares.slotCount, spares.slots, spares.request, spares.completion⟩ (by rw [clientAt, client])
        (by rw [clientAt, client]) ?_ collects⟩)⟩
      exact done.worker.woken
  | deadline =>
      rw [stands] at collects
      simp only [RingSystem.clientStep, stands]
      cases choice with
      | clockFails | clockOverflows => exact goes ⟨by simp, by simp, by simp⟩
      | proceed | expired | interrupted => exact goes ⟨collects, trivial⟩
  | waiting point =>
      rw [stands] at collects
      have next : (point.step system.clientView choice system.ring.completionWaitState).2.Sound True :=
        WaitPoint.step_sound (fun _ => trivial) collects.2
      simp only [RingSystem.clientStep, stands, clientWaitStep]
      refine ⟨past, .inr (.inr ⟨call, done.congr ⟨rfl, rfl, rfl, rfl, rfl, rfl, rfl⟩ rfl rfl done.worker ?_⟩)⟩
      rcases moved : point.step system.clientView choice system.ring.completionWaitState with ⟨state, step⟩
      rw [moved] at next
      cases step with
      | stands later => exact ⟨collects.1, next⟩
      | returns outcome =>
          cases outcome with
          | reached => exact collects.1
          | peerFailed status => trivial
          | failed code =>
              rcases next with rfl | rfl
              · exact ⟨by simp, by simp, by simp⟩
              · exact ⟨by simp, by simp, by simp⟩
  | checkSequence =>
      rw [stands] at collects
      have same : (system.nextSlotOf past).sequence = system.client.sequence := by
        rw [calling.sequence, ← number]
        exact collects.sequenceWord
      simp only [RingSystem.clientStep, stands, calling.clientSlot, same, ne_eq, not_true_eq_false, ↓reduceIte]
      exact goes collects
  | checkState =>
      rw [stands] at collects
      have completed : (system.nextSlotOf past).state = .completed := collects.completed
      simp only [RingSystem.clientStep, stands, calling.clientSlot, completed, ne_eq, not_true_eq_false,
        ↓reduceIte]
      exact goes collects
  | checkLength =>
      rw [stands] at collects
      have fits : ¬(system.nextSlotOf past).responseLength > ringResponseBytes := by
        have length := collects.length
        have bounded := done.bounded
        omega
      simp only [RingSystem.clientStep, stands, calling.clientSlot]
      rw [if_neg fits]
      exact goes collects
  | checkStatus =>
      rw [stands] at collects
      simp only [RingSystem.clientStep, stands, calling.clientSlot]
      split
      · exact goes trivial
      · rename_i success
        refine goes ⟨collects, ?_⟩
        rw [← collects.status]
        exact not_not.mp success
  | copyResponse =>
      rw [stands] at collects
      obtain ⟨answers, success⟩ := collects
      simp only [RingSystem.clientStep, stands, calling.clientSlot]
      refine ⟨past, .inr (.inr ⟨call, done.congr ⟨rfl, rfl, rfl, rfl, rfl, rfl, rfl⟩ rfl rfl done.worker
        ⟨success, ?_⟩⟩)⟩
      simp only [answers.length]
      exact answers.bytes
  | releaseSlot =>
      rw [stands] at collects
      simp only [RingSystem.clientStep, stands]
      exact writes ⟨collects.1, collects.2, rfl⟩
  | storeAvailable =>
      rw [stands] at collects
      simp only [RingSystem.clientStep, stands]
      exact writes ⟨collects.1, collects.2.1, rfl⟩
  | storeNextSlot =>
      simp only [RingSystem.clientStep, stands]
      exact ⟨past ++ [call], .inl (done.returns stands _)⟩
  | ended how =>
      simp only [RingSystem.clientStep, stands]
      exact ⟨past, .inr (.inr ⟨call, done⟩)⟩
  | _ =>
      rw [stands] at collects
      contradiction

/-- A step of `fail_peer` may wake a party and touches only the status words. -/
theorem Preparing.failure {later : RingSystem} (preparing : system.Preparing past)
    (failure : system.FailureStep later) (spares : system.Spares later) : later.Preparing past := by
  have notWaiting : system.wakeCompletion.client = system.client := by
    have prepares := preparing.client
    simp only [wakeCompletion]
    split
    · rename_i point waiting
      rw [waiting] at prepares
      contradiction
    · rfl
  have client : later.client = system.client := by
    rcases failure.1 with ⟨same, _⟩ | ⟨same, _⟩ | ⟨same, _⟩
    · exact same
    · exact same
    · exact same.trans notWaiting
  have worker : WorkerAway later.worker past.length := by
    rcases failure.1 with ⟨_, same⟩ | ⟨_, same⟩ | ⟨_, same⟩
    · rw [same]
      exact preparing.worker
    · rw [same]
      exact preparing.worker.woken
    · rw [same]
      exact preparing.worker
  refine ⟨preparing.base.congr spares, spares.served.trans preparing.served, worker, ?_⟩
  rw [spares.nextSlotOf, client]
  exact preparing.client.congr (by rw [client]) (by rw [client]) spares.issued

theorem wakeCompletion_request : system.wakeCompletion.client.request = system.client.request ∧
    system.wakeCompletion.client.response = system.client.response := by
  simp only [wakeCompletion]
  split <;> exact ⟨rfl, rfl⟩

theorem Posted.failure {later : RingSystem} (posted : system.Posted past) (failure : system.FailureStep later)
    (spares : system.Spares later) : later.Posted past := by
  rcases failure.1 with ⟨client, worker⟩ | ⟨client, worker⟩ | ⟨client, worker⟩
  · refine posted.congr spares (by rw [client]) (by rw [client]) (by rw [client]; exact posted.client) ?_
    rw [worker]
    exact posted.worker.congr (by rw [worker]) (by rw [worker]) (by rw [worker]) (by rw [worker])
      (by rw [client]) spares.served
  · refine posted.congr spares (by rw [client]) (by rw [client]) (by rw [client]; exact posted.client) ?_
    rw [worker]
    exact posted.worker.woken.congr (by rw [worker]) (by rw [worker]) (by rw [worker]) (by rw [worker])
      (by rw [client, wakeRequest_others.2.1]) (spares.served.trans wakeRequest_spares.served.symm)
  · refine posted.congr spares (by rw [client, wakeCompletion_others.2.2])
      (by rw [client, wakeCompletion_request.1]) (by rw [client]; exact posted.client.woken) ?_
    rw [worker]
    exact posted.worker.congr (by rw [worker]) (by rw [worker]) (by rw [worker]) (by rw [worker])
      (by rw [client, wakeCompletion_request.1]) spares.served

theorem CollectsAt.woken {slot : RingSlot} (collects : system.CollectsAt call slot system.client.point) :
    system.wakeCompletion.CollectsAt call slot system.wakeCompletion.client.point := by
  simp only [wakeCompletion]
  split
  · rename_i point waiting
    rw [waiting] at collects
    exact ⟨collects.1, collects.2.woken⟩
  · exact collects

theorem Served.failure {later : RingSystem} (done : system.Served past call) (failure : system.FailureStep later)
    (spares : system.Spares later) : later.Served past call := by
  rcases failure.1 with ⟨client, worker⟩ | ⟨client, worker⟩ | ⟨client, worker⟩
  · refine done.congr spares (by rw [client]) (by rw [client]) (by rw [worker]; exact done.worker) ?_
    rw [client]
    exact done.client.congr (by rw [client])
  · refine done.congr spares (by rw [client]) (by rw [client]) (by rw [worker]; exact done.worker.woken) ?_
    rw [client]
    exact done.client.congr (by rw [client])
  · refine done.congr spares (by rw [client, wakeCompletion_others.2.2])
      (by rw [client, wakeCompletion_request.1]) (by rw [worker]; exact done.worker) ?_
    rw [client]
    exact done.client.woken.congr (by rw [client])

theorem Delivers.failure {later : RingSystem} (delivers : system.Delivers) (failure : system.FailureStep later)
    (spares : system.Spares later) : later.Delivers := by
  obtain ⟨past, preparing | posted | ⟨call, done⟩⟩ := delivers
  · exact ⟨past, .inl (preparing.failure failure spares)⟩
  · exact ⟨past, .inr (.inl (posted.failure failure spares))⟩
  · exact ⟨past, .inr (.inr ⟨call, done.failure failure spares⟩)⟩

theorem failClientStep_spares (status : Int) : system.Spares (system.failClientStep status) := by
  have request := system.wakeRequest_spares
  have completion := system.wakeCompletion_spares
  simp only [failClientStep]
  split
  · exact ⟨request.served, request.returned, request.issued, request.slotCount, request.slots, request.request,
      request.completion⟩
  · exact ⟨completion.served, completion.returned, completion.issued, completion.slotCount, completion.slots,
      completion.request, completion.completion⟩
  · split <;> exact ⟨rfl, rfl, rfl, rfl, rfl, rfl, rfl⟩

theorem failServiceStep_spares (status : Int) : system.Spares (system.failServiceStep status) := by
  have request := system.wakeRequest_spares
  have completion := system.wakeCompletion_spares
  simp only [failServiceStep]
  split
  · exact ⟨request.served, request.returned, request.issued, request.slotCount, request.slots, request.request,
      request.completion⟩
  · exact ⟨completion.served, completion.returned, completion.issued, completion.slotCount, completion.slots,
      completion.request, completion.completion⟩
  · split <;> exact ⟨rfl, rfl, rfl, rfl, rfl, rfl, rfl⟩

theorem Delivers.step (delivers : system.Delivers) (move : RingMove) : (system.step move).Delivers := by
  cases move with
  | client choice request =>
      obtain ⟨past, preparing | posted | ⟨call, done⟩⟩ := delivers
      · exact preparing.clientStep choice request
      · exact ⟨past, .inr (.inl (posted.clientStep choice request))⟩
      · exact done.clientStep choice request
  | worker choice stop reply =>
      obtain ⟨past, preparing | posted | ⟨call, done⟩⟩ := delivers
      · exact ⟨past, .inl (preparing.workerStep choice stop reply)⟩
      · exact posted.workerStep choice stop reply
      · exact ⟨past, .inr (.inr ⟨call, done.workerStep choice stop reply⟩)⟩
  | failClient status => exact delivers.failure (failClientStep_failure status) (failClientStep_spares status)
  | failService status => exact delivers.failure (failServiceStep_failure status) (failServiceStep_spares status)

theorem Delivers.run (delivers : system.Delivers) (moves : List RingMove) :
    (Runs.final RingSystem.step system moves).Delivers := by
  induction moves generalizing system with
  | nil => exact delivers
  | cons move rest ih => exact ih (delivers.step move)

/-- Requests are served once, in the order of their sequences, from the bytes
that were issued; returned are the responses of the calls completed with success;
and no check of the ring fails. -/
structure ExactlyOnce (system : RingSystem) : Prop where
  ordered : system.served.map ServedCall.sequence = (List.range system.served.length).map (· + 1)
  issued : system.served.map ServedCall.issue <+: system.issued
  returned : system.returned.map (fun call => (call.sequence, (0 : Int), call.response)) <+:
    system.served.map fun call => (call.sequence, call.status, call.response)
  client : ∀ how, system.client.point = .ended how → how.Expected
  worker : ∀ code, system.worker.point = .ended code → Errno.Expected code

theorem settled_answers (settled : Settled past) :
    (past.map ServedCall.answer).map (fun call => (call.sequence, (0 : Int), call.response)) =
      past.map fun call => (call.sequence, call.status, call.response) := by
  rw [List.map_map]
  apply List.map_congr_left
  intro call member
  simp only [Function.comp_apply, ServedCall.answer, settled.succeeded call member]

theorem Preparing.exactlyOnce (preparing : system.Preparing past) : system.ExactlyOnce := by
  have base := preparing.base
  have prepares := preparing.client
  have away := preparing.worker
  constructor
  · rw [preparing.served]
    exact base.settled.numbered
  · rw [preparing.served]
    cases stands : system.client.point with
    | idle =>
        rw [stands] at prepares
        exact ⟨[], by rw [List.append_nil, prepares.2.1]⟩
    | ended how =>
        rw [stands] at prepares
        exact prepares.2
    | clientStatus | serviceStatus | slotState | clearSlot | copyRequest | storeLength | storeSequence
    | storeRequested | storeRequestSequence =>
        rw [stands] at prepares
        rw [prepares.1.issued]
        exact List.prefix_append _ _
    | _ =>
        rw [stands] at prepares
        contradiction
  · exact ⟨[], by rw [List.append_nil, base.returned, preparing.served, settled_answers base.settled]⟩
  · intro how stands
    rw [stands] at prepares
    exact prepares.1
  · intro code stands
    rw [WorkerAway, stands] at away
    exact away

theorem Posted.exactlyOnce (posted : system.Posted past) : system.ExactlyOnce := by
  have base := posted.base
  have away := posted.client
  have serves := posted.worker
  -- the call is served or not, and its bytes are those of the client
  have log : system.served = past ∨
      ∃ call, system.served = past ++ [call] ∧ call.issue = ⟨past.length + 1, system.client.request⟩ := by
    cases stands : system.worker.point with
    | loop | checkSequence | checkState | checkLength | copyRequest =>
        rw [stands] at serves
        exact .inl serves.2.2
    | waiting | serve =>
        rw [stands] at serves
        exact .inl serves.1.2.2
    | loadWaitState | wake | advance =>
        rw [stands] at serves
        exact .inl serves.2.2
    | ended code =>
        rw [stands] at serves
        rcases serves.2 with same | ⟨status, response, same⟩
        · exact .inl same
        · exact .inr ⟨_, same, rfl⟩
    | completeSequence | completeState | storeStatus | storeLength | copyResponse | storeCompleted
    | storeCompletionSequence =>
        rw [stands] at serves
        exact .inr ⟨_, serves.1.2.1, rfl⟩
  have client : ∀ how, system.client.point = .ended how → how.Expected := by
    intro how stands
    rw [ClientAway, stands] at away
    exact away
  have worker : ∀ code, system.worker.point = .ended code → Errno.Expected code := by
    intro code stands
    rw [stands] at serves
    exact serves.1
  rcases log with same | ⟨call, same, issue⟩
  · refine ⟨?_, ?_, ?_, client, worker⟩
    · rw [same]
      exact base.settled.numbered
    · rw [same, posted.calling.issued]
      exact List.prefix_append _ _
    · exact ⟨[], by rw [List.append_nil, same, base.returned, settled_answers base.settled]⟩
  · refine ⟨?_, ?_, ?_, client, worker⟩
    · rw [same]
      exact ordered_append base.settled (congrArg IssuedCall.sequence issue)
    · exact ⟨[], by rw [List.append_nil, same, posted.calling.issued, List.map_append, List.map_singleton, issue]⟩
    · rw [same, base.returned, settled_answers base.settled, List.map_append]
      exact List.prefix_append _ _

theorem Served.exactlyOnce (done : system.Served past call) : system.ExactlyOnce := by
  have base := done.base
  have collects := done.client
  have away := done.worker
  constructor
  · rw [done.served]
    exact ordered_append base.settled (congrArg IssuedCall.sequence done.issue)
  · refine ⟨[], ?_⟩
    rw [List.append_nil, done.served, done.calling.issued, List.map_append, List.map_singleton, done.issue]
  · rw [done.served, base.returned, settled_answers base.settled, List.map_append]
    exact List.prefix_append _ _
  · intro how stands
    rw [stands] at collects
    exact collects
  · intro code stands
    rw [WorkerAway, stands] at away
    exact away

/-- The ring delivers exactly once and in agreement, over every interleaving. -/
theorem ring_delivers_exactly_once (slotCount : Nat) (moves : List RingMove) :
    (Runs.final step (initial slotCount) moves).ExactlyOnce := by
  obtain ⟨past, preparing | posted | ⟨call, done⟩⟩ := (initial_delivers slotCount).run moves
  · exact preparing.exactlyOnce
  · exact posted.exactlyOnce
  · exact done.exactlyOnce

end RingSystem

end VulkanBridge
