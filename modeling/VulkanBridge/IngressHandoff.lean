import Mathlib.Data.List.Nodup
import VulkanBridge.CheckedLoops
import VulkanBridge.VisibleIngress

/-!
The hand-over of batches over whole runs of the worker and the consumer: every
batch is returned at most once, while its worker waits, and the answer to its
request carries the status the consumer gave for it.
-/

namespace VulkanBridge

open ByteBuffer

namespace IngressEvent

def submittedTicket : IngressEvent → Option Nat
  | .submitted submission _ => some submission.ticket
  | _ => none

def returnedTicket : IngressEvent → Option Nat
  | .returned submission => some submission.ticket
  | _ => none

def completedTicket : IngressEvent → Option Nat
  | .completed ticket _ => some ticket
  | _ => none

end IngressEvent

def submittedTickets (log : List IngressEvent) : List Nat := log.filterMap IngressEvent.submittedTicket

def returnedTickets (log : List IngressEvent) : List Nat := log.filterMap IngressEvent.returnedTicket

def completedTickets (log : List IngressEvent) : List Nat := log.filterMap IngressEvent.completedTicket

/-- The ingress was stopped before the worker of this hand-over went on. -/
def StoppedBefore (ticket : Nat) (log : List IngressEvent) : Prop :=
  ∃ before after, log = before ++ .resumed ticket :: after ∧ .stopped ∈ before

/-- The status is the consumer's, or the ingress was stopped. -/
def Justified (log : List IngressEvent) (ticket : Nat) (status : Int) : Prop :=
  .completed ticket status ∈ log ∨ status = Errno.ecanceled.status ∧ StoppedBefore ticket log

inductive Held where
  | nothing
  | blocked (requestId : UInt32) (submission : Submission)
  | answering (requestId : UInt32) (submission : Submission) (result : Int)

def IngressWorker.held : IngressWorker → Held
  | .blocked request submission => .blocked request.requestId submission
  | .responding request (some submission) result => .answering request.requestId submission result
  | _ => .nothing

variable {log : List IngressEvent} {event : IngressEvent} {ticket : Nat} {status : Int}

@[simp] theorem submittedTickets_append (log : List IngressEvent) (event : IngressEvent) :
    submittedTickets (log ++ [event]) = submittedTickets log ++ event.submittedTicket.toList := by
  cases event <;> simp [submittedTickets, IngressEvent.submittedTicket]

@[simp] theorem returnedTickets_append (log : List IngressEvent) (event : IngressEvent) :
    returnedTickets (log ++ [event]) = returnedTickets log ++ event.returnedTicket.toList := by
  cases event <;> simp [returnedTickets, IngressEvent.returnedTicket]

@[simp] theorem completedTickets_append (log : List IngressEvent) (event : IngressEvent) :
    completedTickets (log ++ [event]) = completedTickets log ++ event.completedTicket.toList := by
  cases event <;> simp [completedTickets, IngressEvent.completedTicket]

theorem StoppedBefore.append (stopped : StoppedBefore ticket log) (event : IngressEvent) :
    StoppedBefore ticket (log ++ [event]) := by
  obtain ⟨before, after, rfl, member⟩ := stopped
  exact ⟨before, after ++ [event], by simp, member⟩

theorem Justified.append (justified : Justified log ticket status) (event : IngressEvent) :
    Justified (log ++ [event]) ticket status := by
  rcases justified with completed | ⟨canceled, stopped⟩
  · exact Or.inl (List.mem_append_left _ completed)
  · exact Or.inr ⟨canceled, stopped.append event⟩

/-- What the flags of the ingress say when the worker holds this. -/
def Coupled (ingress : VisibleIngress) (log : List IngressEvent) (tickets : Nat) : Held → Prop
  | .blocked requestId submission =>
      ingress.batchReady = true ∧ ingress.batch = some submission ∧ submission.ticket + 1 = tickets ∧
        .submitted submission requestId ∈ log ∧
        (ingress.batchClaimed = true ↔ submission.ticket ∈ returnedTickets log) ∧
        (ingress.batchCompleted = true ↔ submission.ticket ∈ completedTickets log) ∧
        (ingress.batchCompleted = true → .completed submission.ticket ingress.batchStatus ∈ log ∧
          ingress.batchStatus ≤ 0)
  | .answering requestId submission result =>
      ingress.batchReady = false ∧ .submitted submission requestId ∈ log ∧
        Justified log submission.ticket result ∧ result ≤ 0
  | .nothing => ingress.batchReady = false

/-- What a log says about the hand-overs. -/
structure HandedOver (log : List IngressEvent) : Prop where
  numbered : (submittedTickets log).Nodup
  once : (returnedTickets log).Nodup
  completedOnce : (completedTickets log).Nodup
  submitted : ∀ submission, .returned submission ∈ log → ∃ requestId, .submitted submission requestId ∈ log
  returnedFirst : ∀ ticket ∈ completedTickets log, ticket ∈ returnedTickets log
  truthful : ∀ ticket requestId status, .answered (some ticket) requestId status ∈ log →
    (∃ submission, submission.ticket = ticket ∧ .submitted submission requestId ∈ log) ∧
      Justified log ticket status

structure Orderly (system : IngressSystem) : Prop where
  coupled : Coupled system.ingress system.log system.tickets system.worker.held
  handed : HandedOver system.log
  known : ∀ ticket ∈ submittedTickets system.log, ticket < system.tickets
  stopped : system.ingress.stop = true ↔ .stopped ∈ system.log
  outstanding : ∀ submission, .returned submission ∈ system.log →
    submission.ticket ∈ completedTickets system.log ∨ system.ingress.stop = true ∨
      ∃ requestId, system.worker.held = .blocked requestId submission

theorem mem_submittedTickets {submission : Submission} {requestId : UInt32}
    (member : .submitted submission requestId ∈ log) : submission.ticket ∈ submittedTickets log :=
  List.mem_filterMap.mpr ⟨_, member, rfl⟩

theorem mem_returnedTickets {submission : Submission} (member : .returned submission ∈ log) :
    submission.ticket ∈ returnedTickets log :=
  List.mem_filterMap.mpr ⟨_, member, rfl⟩

theorem of_mem_returnedTickets (member : ticket ∈ returnedTickets log) :
    ∃ submission, submission.ticket = ticket ∧ .returned submission ∈ log := by
  obtain ⟨event, inside, isReturned⟩ := List.mem_filterMap.mp member
  cases event with
  | returned submission =>
      cases isReturned
      exact ⟨submission, rfl, inside⟩
  | _ => cases isReturned

theorem nodup_append_toList {tickets : List Nat} (nodup : tickets.Nodup) {extra : Option Nat}
    (fresh : ∀ ticket, extra = some ticket → ticket ∉ tickets) : (tickets ++ extra.toList).Nodup := by
  cases extra with
  | none => simpa using nodup
  | some ticket =>
      refine List.nodup_append.mpr ⟨nodup, List.nodup_singleton ticket, ?_⟩
      intro old member other isNew
      rw [List.mem_singleton.mp isNew]
      rintro rfl
      exact fresh old rfl member

theorem HandedOver.append (handed : HandedOver log) (event : IngressEvent)
    (numbered : ∀ ticket, event.submittedTicket = some ticket → ticket ∉ submittedTickets log)
    (once : ∀ ticket, event.returnedTicket = some ticket → ticket ∉ returnedTickets log)
    (completedOnce : ∀ ticket, event.completedTicket = some ticket →
      ticket ∉ completedTickets log ∧ ticket ∈ returnedTickets log)
    (submitted : ∀ submission, event = .returned submission → ∃ requestId, .submitted submission requestId ∈ log)
    (truthful : ∀ ticket requestId status, event = .answered (some ticket) requestId status →
      (∃ submission, submission.ticket = ticket ∧ .submitted submission requestId ∈ log) ∧
        Justified log ticket status) : HandedOver (log ++ [event]) := by
  constructor
  · rw [submittedTickets_append]
    exact nodup_append_toList handed.numbered numbered
  · rw [returnedTickets_append]
    exact nodup_append_toList handed.once once
  · rw [completedTickets_append]
    exact nodup_append_toList handed.completedOnce fun ticket isNew => (completedOnce ticket isNew).1
  · intro submission member
    rcases List.mem_append.mp member with old | new
    · obtain ⟨requestId, before⟩ := handed.submitted submission old
      exact ⟨requestId, List.mem_append_left _ before⟩
    · obtain ⟨requestId, before⟩ := submitted submission (List.mem_singleton.mp new).symm
      exact ⟨requestId, List.mem_append_left _ before⟩
  · rw [completedTickets_append, returnedTickets_append]
    intro ticket member
    rcases List.mem_append.mp member with old | new
    · exact List.mem_append_left _ (handed.returnedFirst ticket old)
    · exact List.mem_append_left _ (completedOnce ticket (Option.mem_toList.mp new)).2
  · intro ticket requestId status member
    rcases List.mem_append.mp member with old | new
    · obtain ⟨⟨submission, isTicket, before⟩, justified⟩ := handed.truthful ticket requestId status old
      exact ⟨⟨submission, isTicket, List.mem_append_left _ before⟩, justified.append event⟩
    · obtain ⟨⟨submission, isTicket, before⟩, justified⟩ :=
        truthful ticket requestId status (List.mem_singleton.mp new).symm
      exact ⟨⟨submission, isTicket, List.mem_append_left _ before⟩, justified.append event⟩

theorem HandedOver.append_plain (handed : HandedOver log) {event : IngressEvent}
    (submitted : event.submittedTicket = none) (returned : event.returnedTicket = none)
    (completed : event.completedTicket = none)
    (unanswered : ∀ ticket requestId status, event ≠ .answered (some ticket) requestId status) :
    HandedOver (log ++ [event]) := by
  refine handed.append event ?_ ?_ ?_ ?_ ?_
  · rw [submitted]
    intro ticket impossible
    cases impossible
  · rw [returned]
    intro ticket impossible
    cases impossible
  · rw [completed]
    intro ticket impossible
    cases impossible
  · rintro submission rfl
    cases returned
  · intro ticket requestId status same
    exact absurd same (unanswered ticket requestId status)

/-! ## Steps -/

structure SameHandoff (ingress next : VisibleIngress) : Prop where
  stop : next.stop = ingress.stop
  ready : next.batchReady = ingress.batchReady
  claimed : next.batchClaimed = ingress.batchClaimed
  completed : next.batchCompleted = ingress.batchCompleted
  status : next.batchStatus = ingress.batchStatus
  batch : next.batch = ingress.batch

variable {system next : IngressSystem}

theorem SameHandoff.coupled {ingress after : VisibleIngress} (same : SameHandoff ingress after) {tickets : Nat}
    {held : Held} (coupled : Coupled ingress log tickets held) : Coupled after log tickets held := by
  cases held with
  | nothing => exact same.ready.trans coupled
  | answering requestId submission result =>
      obtain ⟨ready, rest⟩ := coupled
      exact ⟨same.ready.trans ready, rest⟩
  | blocked requestId submission =>
      obtain ⟨ready, batch, ticket, submitted, claimed, completed, status⟩ := coupled
      refine ⟨same.ready.trans ready, same.batch.trans batch, ticket, submitted, ?_, ?_, ?_⟩
      · rw [same.claimed]
        exact claimed
      · rw [same.completed]
        exact completed
      · rw [same.completed, same.status]
        exact status

namespace Orderly

theorem of_frame (orderly : Orderly system) (log : next.log = system.log) (tickets : next.tickets = system.tickets)
    (held : next.worker.held = system.worker.held) (same : SameHandoff system.ingress next.ingress) :
    Orderly next := by
  constructor
  · rw [log, tickets, held]
    exact same.coupled orderly.coupled
  · rw [log]
    exact orderly.handed
  · rw [log, tickets]
    exact orderly.known
  · rw [log, same.stop]
    exact orderly.stopped
  · rw [log, same.stop, held]
    exact orderly.outstanding

theorem settled (orderly : Orderly system) (held : system.worker.held = .nothing ∨
    ∃ requestId submission result, system.worker.held = .answering requestId submission result)
    {submission : Submission} (member : .returned submission ∈ system.log) :
    submission.ticket ∈ completedTickets system.log ∨ system.ingress.stop = true := by
  rcases orderly.outstanding submission member with completed | stopped | ⟨requestId, blocked⟩
  · exact Or.inl completed
  · exact Or.inr stopped
  · rcases held with nothing | ⟨otherId, other, result, answering⟩
    · rw [nothing] at blocked
      cases blocked
    · rw [answering] at blocked
      cases blocked

theorem of_event (orderly : Orderly system) {event : IngressEvent} (handed : HandedOver (system.log ++ [event]))
    (submitted : event.submittedTicket = none) (completed : event.completedTicket = none)
    (log : next.log = system.log ++ [event]) (tickets : next.tickets = system.tickets)
    (coupled : Coupled next.ingress next.log next.tickets next.worker.held)
    (stopped : next.ingress.stop = true ↔ .stopped ∈ next.log)
    (outstanding : ∀ submission, .returned submission ∈ next.log →
      submission.ticket ∈ completedTickets system.log ∨ next.ingress.stop = true ∨
        ∃ requestId, next.worker.held = .blocked requestId submission) : Orderly next := by
  refine ⟨coupled, ?_, ?_, stopped, ?_⟩
  · rw [log]
    exact handed
  · rw [log, tickets, submittedTickets_append, submitted, Option.toList_none, List.append_nil]
    exact orderly.known
  · intro submission member
    rw [log, completedTickets_append, completed, Option.toList_none, List.append_nil]
    exact outstanding submission member

theorem submit (orderly : Orderly system) (nothing : system.worker.held = .nothing) (request : IngressRequest)
    (batch : VisibleBatch) : Orderly (system.submit request batch) := by
  unfold IngressSystem.submit
  dsimp only
  split
  · refine orderly.of_frame rfl rfl ?_ ⟨rfl, rfl, rfl, rfl, rfl, rfl⟩
    rw [nothing]
    rfl
  rename_i ingress submitted
  have unknown : system.tickets ∉ submittedTickets system.log :=
    fun member => Nat.lt_irrefl _ (orderly.known _ member)
  have unreturned : system.tickets ∉ returnedTickets system.log := by
    intro member
    obtain ⟨submission, isTicket, returned⟩ := of_mem_returnedTickets member
    obtain ⟨requestId, before⟩ := orderly.handed.submitted submission returned
    rw [← isTicket] at unknown
    exact unknown (mem_submittedTickets before)
  have uncompleted : system.tickets ∉ completedTickets system.log :=
    fun member => unreturned (orderly.handed.returnedFirst _ member)
  unfold VisibleIngress.submit at submitted
  split at submitted
  · cases submitted
  rename_i running
  split at submitted
  · cases submitted
  split at submitted
  · cases submitted
  cases submitted
  refine ⟨?_, ?_, ?_, ?_, ?_⟩
  · refine ⟨rfl, rfl, rfl, ?_, ?_, ?_, fun impossible => nomatch impossible⟩
    · exact List.mem_append_right _ (List.mem_singleton.mpr rfl)
    · simp [IngressEvent.returnedTicket, unreturned]
    · simp [IngressEvent.completedTicket, uncompleted]
  · refine orderly.handed.append _ ?_ ?_ ?_ ?_ ?_
    · rintro ticket ⟨⟩
      exact unknown
    · intro ticket impossible
      cases impossible
    · intro ticket impossible
      cases impossible
    · intro submission impossible
      cases impossible
    · intro ticket requestId status impossible
      cases impossible
  · rw [submittedTickets_append]
    intro ticket member
    rcases List.mem_append.mp member with old | new
    · exact Nat.lt_succ_of_lt (orderly.known ticket old)
    · cases Option.mem_toList.mp new
      exact Nat.lt_succ_self _
  · simpa using orderly.stopped
  · intro submission member
    rw [completedTickets_append]
    have old : .returned submission ∈ system.log := by simpa using member
    rcases orderly.settled (Or.inl nothing) old with completed | stopped
    · exact Or.inl (List.mem_append_left _ completed)
    · exact Or.inr (Or.inl stopped)

theorem wake (orderly : Orderly system) {request : IngressRequest} {submission : Submission}
    (blocked : system.worker.held = .blocked request.requestId submission) :
    Orderly (system.wake request submission) := by
  unfold IngressSystem.wake
  split
  · exact orderly
  rename_i awake
  have coupled := orderly.coupled
  rw [blocked] at coupled
  obtain ⟨ready, batch, ticket, submitted, claimed, completed, status⟩ := coupled
  have handed : HandedOver (system.log ++ [.resumed submission.ticket]) :=
    orderly.handed.append_plain rfl rfl rfl (fun _ _ _ impossible => nomatch impossible)
  refine orderly.of_event handed rfl rfl rfl rfl ?_ ?_ ?_
  · refine ⟨rfl, List.mem_append_left _ submitted, ?_, ?_⟩
    · dsimp only [VisibleIngress.resume]
      by_cases stopped : system.ingress.stop = true
      · rw [if_pos stopped]
        exact Or.inr ⟨rfl, system.log, [], rfl, orderly.stopped.mp stopped⟩
      · rw [if_neg stopped]
        have done : system.ingress.batchCompleted = true := by simpa [stopped] using awake
        exact Or.inl (List.mem_append_left _ (status done).1)
    · dsimp only [VisibleIngress.resume]
      split
      · decide
      · rename_i running
        have done : system.ingress.batchCompleted = true := by simpa [running] using awake
        exact (status done).2
  · simpa [VisibleIngress.resume] using orderly.stopped
  · intro other member
    have old : .returned other ∈ system.log := by simpa using member
    rcases orderly.outstanding other old with before | stopped | ⟨requestId, same⟩
    · exact Or.inl before
    · exact Or.inr (Or.inl stopped)
    · rw [blocked] at same
      cases same
      by_cases stopped : system.ingress.stop = true
      · exact Or.inr (Or.inl stopped)
      · have done : system.ingress.batchCompleted = true := by simpa [stopped] using awake
        exact Or.inl (completed.mp done)

theorem respond (orderly : Orderly system) {request : IngressRequest} {submission : Option Submission} {result : Int}
    (worker : system.worker = .responding request submission result) (sent : Bool) :
    Orderly (system.respond request submission result sent) := by
  have idle : (system.respond request submission result sent).worker.held = .nothing := by
    unfold IngressSystem.respond
    dsimp only
    split <;> rfl
  have ready : system.ingress.batchReady = false := by
    have coupled := orderly.coupled
    rw [worker] at coupled
    cases submission with
    | none => exact coupled
    | some submission => exact coupled.1
  have settled : ∀ other, .returned other ∈ system.log →
      other.ticket ∈ completedTickets system.log ∨ system.ingress.stop = true := by
    intro other member
    refine orderly.settled ?_ member
    rw [worker]
    cases submission with
    | none => exact Or.inl rfl
    | some submission => exact Or.inr ⟨_, _, _, rfl⟩
  by_cases answers : ((request.opcode == opcodeVisibleBatchInline || request.opcode == opcodeVisibleBatchExecute) &&
      sent) = true
  · have log : (system.respond request submission result sent).log = system.log ++
        [.answered (submission.map (·.ticket)) request.requestId
          (if result > 0 then Errno.eproto.status else result)] := by
      unfold IngressSystem.respond
      dsimp only
      rw [if_pos answers]
    have handed : HandedOver (system.log ++ [.answered (submission.map (·.ticket)) request.requestId
        (if result > 0 then Errno.eproto.status else result)]) := by
      refine orderly.handed.append _ ?_ ?_ ?_ ?_ ?_
      · intro ticket impossible
        cases impossible
      · intro ticket impossible
        cases impossible
      · intro ticket impossible
        cases impossible
      · intro submission impossible
        cases impossible
      · intro ticket requestId status isAnswer
        cases submission with
        | none => cases isAnswer
        | some submission =>
            have coupled := orderly.coupled
            rw [worker] at coupled
            obtain ⟨-, submitted, justified, negative⟩ := coupled
            cases isAnswer
            rw [if_neg (by omega)]
            exact ⟨⟨submission, rfl, submitted⟩, justified⟩
    refine orderly.of_event handed rfl rfl log rfl ?_ ?_ ?_
    · rw [idle]
      exact ready
    · rw [log]
      simpa [IngressSystem.respond] using orderly.stopped
    · intro other member
      rw [log] at member
      have old : .returned other ∈ system.log := by simpa using member
      rcases settled other old with completed | stopped
      · exact Or.inl completed
      · exact Or.inr (Or.inl stopped)
  · have log : (system.respond request submission result sent).log = system.log := by
      unfold IngressSystem.respond
      dsimp only
      rw [if_neg answers]
    refine ⟨?_, ?_, ?_, ?_, ?_⟩
    · rw [idle]
      exact ready
    · rw [log]
      exact orderly.handed
    · rw [log]
      exact orderly.known
    · rw [log]
      exact orderly.stopped
    · rw [log]
      intro other member
      rcases settled other member with completed | stopped
      · exact Or.inl completed
      · exact Or.inr (Or.inl stopped)

theorem ready_blocked (orderly : Orderly system) (ready : system.ingress.batchReady = true) :
    ∃ requestId submission, system.worker.held = .blocked requestId submission ∧
      system.ingress.batch = some submission := by
  have coupled := orderly.coupled
  cases held : system.worker.held with
  | nothing =>
      rw [held] at coupled
      rw [show system.ingress.batchReady = false from coupled] at ready
      cases ready
  | answering requestId submission result =>
      rw [held] at coupled
      rw [coupled.1] at ready
      cases ready
  | blocked requestId submission =>
      rw [held] at coupled
      exact ⟨requestId, submission, rfl, coupled.2.1⟩

theorem unclaimed (orderly : Orderly system) (running : system.ingress.stop = false) {requestId : UInt32}
    {submission : Submission} (blocked : system.worker.held = .blocked requestId submission)
    (free : system.ingress.batchClaimed = false) :
    submission.ticket ∉ returnedTickets system.log ∧
      ∀ ticket ∈ returnedTickets system.log, ticket ∈ completedTickets system.log := by
  have coupled := orderly.coupled
  rw [blocked] at coupled
  obtain ⟨-, -, -, -, claimed, -, -⟩ := coupled
  have unreturned : submission.ticket ∉ returnedTickets system.log := by
    intro member
    rw [claimed.mpr member] at free
    cases free
  refine ⟨unreturned, ?_⟩
  intro ticket member
  obtain ⟨other, isTicket, returned⟩ := of_mem_returnedTickets member
  rw [← isTicket] at member ⊢
  rcases orderly.outstanding other returned with completed | stopped | ⟨otherId, same⟩
  · exact completed
  · rw [running] at stopped
    cases stopped
  · rw [blocked] at same
    cases same
    exact absurd member unreturned

theorem waitReturn (orderly : Orderly system)
    (awake : ((!system.ingress.batchReady || system.ingress.batchClaimed) && !system.ingress.stop) = false) :
    Orderly system.waitReturn := by
  unfold IngressSystem.waitReturn
  split
  · exact orderly.of_frame rfl rfl rfl ⟨rfl, rfl, rfl, rfl, rfl, rfl⟩
  rename_i notStopped
  have running : system.ingress.stop = false := by simpa using notStopped
  have ready : system.ingress.batchReady = true ∧ system.ingress.batchClaimed = false := by
    simpa [running] using awake
  obtain ⟨requestId, submission, blocked, batch⟩ := orderly.ready_blocked ready.1
  obtain ⟨unreturned, done⟩ := orderly.unclaimed running blocked ready.2
  have coupled := orderly.coupled
  rw [blocked] at coupled
  obtain ⟨-, -, isTicket, submitted, -, completed, status⟩ := coupled
  rw [batch]
  have handed : HandedOver (system.log ++ [.returned submission]) := by
    refine orderly.handed.append _ ?_ ?_ ?_ ?_ ?_
    · intro ticket impossible
      cases impossible
    · rintro ticket ⟨⟩
      exact unreturned
    · intro ticket impossible
      cases impossible
    · rintro other ⟨⟩
      exact ⟨requestId, submitted⟩
    · intro ticket requestId status impossible
      cases impossible
  refine orderly.of_event handed rfl rfl rfl rfl ?_ ?_ ?_
  · dsimp only
    rw [blocked]
    refine ⟨ready.1, batch, isTicket, List.mem_append_left _ submitted, ?_, ?_, ?_⟩
    · simp [IngressEvent.returnedTicket]
    · simpa [IngressEvent.completedTicket] using completed
    · intro isDone
      obtain ⟨member, negative⟩ := status isDone
      exact ⟨List.mem_append_left _ member, negative⟩
  · simpa using orderly.stopped
  · intro other member
    rcases List.mem_append.mp member with old | new
    · exact Or.inl (done _ (mem_returnedTickets old))
    · cases List.mem_singleton.mp new
      exact Or.inr (Or.inr ⟨requestId, blocked⟩)

theorem waitTest (orderly : Orderly system) : Orderly system.waitTest := by
  unfold IngressSystem.waitTest
  split
  · exact orderly.of_frame rfl rfl rfl ⟨rfl, rfl, rfl, rfl, rfl, rfl⟩
  · rename_i awake
    exact orderly.waitReturn (by simpa using awake)

theorem complete (orderly : Orderly system) (status : Int) (acceptNext : Bool) :
    Orderly (system.complete status acceptNext) := by
  unfold IngressSystem.complete
  split
  · exact orderly
  rename_i ingress completes
  unfold VisibleIngress.complete at completes
  split at completes
  · cases completes
  rename_i negative
  split at completes
  · cases completes
  rename_i open_
  cases completes
  have flags : (system.ingress.batchReady = true ∧ system.ingress.batchClaimed = true) ∧
      system.ingress.batchCompleted = false := by
    simpa using open_
  obtain ⟨⟨ready, isClaimed⟩, fresh⟩ := flags
  obtain ⟨requestId, submission, blocked, batch⟩ := orderly.ready_blocked ready
  have coupled := orderly.coupled
  rw [blocked] at coupled
  obtain ⟨-, -, isTicket, submitted, claimed, completed, -⟩ := coupled
  have uncompleted : submission.ticket ∉ completedTickets system.log := by
    intro member
    rw [completed.mpr member] at fresh
    cases fresh
  have handed : HandedOver (system.log ++ [.completed submission.ticket status]) := by
    refine orderly.handed.append _ ?_ ?_ ?_ ?_ ?_
    · intro ticket impossible
      cases impossible
    · intro ticket impossible
      cases impossible
    · rintro ticket ⟨⟩
      exact ⟨uncompleted, claimed.mp isClaimed⟩
    · intro submission impossible
      cases impossible
    · intro ticket requestId status impossible
      cases impossible
  rw [batch]
  refine ⟨?_, handed, ?_, ?_, ?_⟩
  · dsimp only
    rw [blocked]
    refine ⟨ready, rfl, isTicket, List.mem_append_left _ submitted, ?_, ?_, fun _ => ⟨?_, Int.not_lt.mp negative⟩⟩
    · simpa [IngressEvent.returnedTicket] using claimed
    · simp [IngressEvent.completedTicket]
    · exact List.mem_append_right _ (List.mem_singleton.mpr rfl)
  · simpa [IngressEvent.submittedTicket] using orderly.known
  · simpa using orderly.stopped
  · intro other member
    have old : .returned other ∈ system.log := by simpa using member
    rcases orderly.outstanding other old with before | stopped | same
    · simp only [Option.map_some, Option.toList_some, completedTickets_append]
      exact Or.inl (List.mem_append_left _ before)
    · exact Or.inr (Or.inl stopped)
    · exact Or.inr (Or.inr same)

theorem halt (orderly : Orderly system) : Orderly system.halt := by
  have handed : HandedOver (system.log ++ [.stopped]) :=
    orderly.handed.append_plain rfl rfl rfl (fun _ _ _ impossible => nomatch impossible)
  refine orderly.of_event handed rfl rfl rfl rfl ?_ ?_ ?_
  · have coupled := orderly.coupled
    dsimp only [IngressSystem.halt]
    cases held : system.worker.held with
    | nothing =>
        rw [held] at coupled
        exact coupled
    | answering requestId submission result =>
        rw [held] at coupled
        obtain ⟨ready, submitted, justified, negative⟩ := coupled
        exact ⟨ready, List.mem_append_left _ submitted, justified.append _, negative⟩
    | blocked requestId submission =>
        rw [held] at coupled
        obtain ⟨ready, batch, isTicket, submitted, claimed, completed, status⟩ := coupled
        refine ⟨ready, batch, isTicket, List.mem_append_left _ submitted, ?_, ?_, ?_⟩
        · simpa [IngressEvent.returnedTicket] using claimed
        · simpa [IngressEvent.completedTicket] using completed
        · intro isDone
          obtain ⟨member, negative⟩ := status isDone
          exact ⟨List.mem_append_left _ member, negative⟩
  · simp [IngressSystem.halt]
  · intro other _
    exact Or.inr (Or.inl rfl)

theorem of_worker (orderly : Orderly system) (nothing : system.worker.held = .nothing) (log : next.log = system.log)
    (tickets : next.tickets = system.tickets) (held : next.worker.held = .nothing)
    (same : SameHandoff system.ingress next.ingress) : Orderly next :=
  orderly.of_frame log tickets (held.trans nothing.symm) same

theorem connect (orderly : Orderly system) (nothing : system.worker.held = .nothing) (configured : Bool) :
    Orderly (system.connect configured) := by
  unfold IngressSystem.connect
  split
  · exact orderly.of_worker nothing rfl rfl rfl ⟨rfl, rfl, rfl, rfl, rfl, rfl⟩
  split
  · exact orderly.of_worker nothing rfl rfl rfl ⟨rfl, rfl, rfl, rfl, rfl, rfl⟩
  · refine orderly.of_worker nothing rfl rfl ?_ ⟨rfl, rfl, rfl, rfl, rfl, rfl⟩
    dsimp only
    split <;> rfl

theorem loopbackBatch_handoff {request : IngressRequest} {batch : VisibleBatch} {ingress : VisibleIngress}
    (decoded : system.loopbackBatch request = .ok (batch, ingress)) : SameHandoff system.ingress ingress := by
  unfold IngressSystem.loopbackBatch at decoded
  split at decoded
  · split at decoded
    · cases decoded
    · obtain ⟨inner, -, same⟩ := CheckedLoops.map_eq_ok.mp decoded
      cases same
      exact ⟨rfl, rfl, rfl, rfl, rfl, rfl⟩
  split at decoded
  · split at decoded
    · cases decoded
    split at decoded
    · cases decoded
    · obtain ⟨inner, -, same⟩ := CheckedLoops.map_eq_ok.mp decoded
      cases same
      exact ⟨rfl, rfl, rfl, rfl, rfl, rfl⟩
  · cases decoded

theorem receive (orderly : Orderly system) (nothing : system.worker.held = .nothing)
    (request : Option IngressRequest) : Orderly (system.receive request) := by
  unfold IngressSystem.receive
  split
  · exact orderly.of_worker nothing rfl rfl rfl ⟨rfl, rfl, rfl, rfl, rfl, rfl⟩
  split
  · exact orderly.of_worker nothing rfl rfl rfl ⟨rfl, rfl, rfl, rfl, rfl, rfl⟩
  · rename_i batch ingress decoded
    exact orderly.of_worker nothing rfl rfl rfl (loopbackBatch_handoff decoded)

theorem receiveSetup (orderly : Orderly system) (nothing : system.worker.held = .nothing) (file : MemoryFile)
    (request : Option IngressRequest) : Orderly (system.receiveSetup file request) := by
  have moves : ∀ worker : IngressWorker, worker.held = .nothing → Orderly { system with worker := worker } :=
    fun worker held => orderly.of_worker nothing rfl rfl held ⟨rfl, rfl, rfl, rfl, rfl, rfl⟩
  unfold IngressSystem.receiveSetup
  split
  · exact moves _ rfl
  split
  · exact moves _ rfl
  split
  · refine moves _ ?_
    split <;> rfl
  split
  · exact moves _ rfl
  · exact moves _ rfl

theorem receiveExecute (orderly : Orderly system) (nothing : system.worker.held = .nothing)
    (region : VisibleBatchRegion) (memory : ByteBuffer.Buffer) (request : Option IngressRequest) :
    Orderly (system.receiveExecute region memory request) := by
  have moves : ∀ worker : IngressWorker, worker.held = .nothing → Orderly { system with worker := worker } :=
    fun worker held => orderly.of_worker nothing rfl rfl held ⟨rfl, rfl, rfl, rfl, rfl, rfl⟩
  unfold IngressSystem.receiveExecute
  split
  · exact moves _ rfl
  split
  · refine moves _ ?_
    split <;> rfl
  split
  · exact moves _ rfl
  · exact moves _ rfl

theorem install (orderly : Orderly system) (file : MemoryFile) (regionBytes generation : UInt64) :
    Orderly (system.install file regionBytes generation) := by
  unfold IngressSystem.install
  split
  · exact orderly
  rename_i ingress installed
  refine orderly.of_frame rfl rfl rfl ?_
  unfold VisibleIngress.installRegion at installed
  split at installed
  · cases installed
  split at installed
  · cases installed
  split at installed
  · cases installed
  split at installed
  · cases installed
  split at installed
  · cases installed
  · cases installed
    exact ⟨rfl, rfl, rfl, rfl, rfl, rfl⟩

end Orderly

theorem step_orderly (orderly : Orderly system) (input : IngressInput) : Orderly (system.step input) := by
  unfold IngressSystem.step
  split
  · rename_i configured worker
    exact orderly.connect (by rw [worker]; rfl) configured
  · rename_i request worker
    exact orderly.receive (by rw [worker]; rfl) request
  · rename_i request file worker
    exact orderly.receiveSetup (by rw [worker]; rfl) file request
  · rename_i sent region worker
    refine orderly.of_worker (by rw [worker]; rfl) rfl rfl ?_ ⟨rfl, rfl, rfl, rfl, rfl, rfl⟩
    cases region with
    | none => rfl
    | some region => cases sent <;> rfl
  · rename_i request memory region worker
    exact orderly.receiveExecute (by rw [worker]; rfl) region memory request
  · rename_i request batch worker
    exact orderly.submit (by rw [worker]; rfl) request batch
  · rename_i request submission worker
    exact orderly.wake (by rw [worker]; rfl)
  · rename_i sent request submission result worker
    exact orderly.respond worker sent
  · rename_i more worker
    refine orderly.of_worker (by rw [worker]; rfl) rfl rfl ?_ ⟨rfl, rfl, rfl, rfl, rfl, rfl⟩
    cases more <;> rfl
  · rename_i worker
    refine orderly.of_worker (by rw [worker]; rfl) rfl rfl ?_ ⟨rfl, rfl, rfl, rfl, rfl, rfl⟩
    dsimp only [IngressSystem.close]
    split <;> rfl
  · exact orderly.of_frame rfl rfl rfl ⟨rfl, rfl, rfl, rfl, rfl, rfl⟩
  · exact orderly.install _ _ _
  · refine Orderly.waitTest (orderly.of_frame rfl rfl rfl ?_)
    exact ⟨rfl, rfl, rfl, rfl, rfl, rfl⟩
  · rename_i how free
    cases how with
    | woken => exact orderly.waitTest
    | timedOut => exact orderly.of_frame rfl rfl rfl ⟨rfl, rfl, rfl, rfl, rfl, rfl⟩
    | failed => exact orderly.of_frame rfl rfl rfl ⟨rfl, rfl, rfl, rfl, rfl, rfl⟩
  · exact orderly.complete _ _
  · unfold IngressSystem.destroy
    split
    · exact orderly.of_frame rfl rfl rfl ⟨rfl, rfl, rfl, rfl, rfl, rfl⟩
    · exact orderly.halt
  · rename_i how free
    cases how with
    | woken =>
        dsimp only [IngressSystem.drainEnd]
        split
        · exact orderly
        · exact orderly.halt
    | timedOut => exact orderly.halt
    | failed => exact orderly.halt
  · exact orderly

/-! ## What a request asks for -/

/-- The batch of a request: the bytes behind its token, or a range of the region. -/
def IngressRequest.Asks (request : IngressRequest) (batch : VisibleBatch) : Prop :=
  if request.opcode = opcodeVisibleBatchInline then
    let length := request.payloadLength.toNat - lifecycleTokenSize
    let candidate := window request.payload lifecycleTokenSize length
    ∃ info, commandBatchValidate candidate length = .ok info ∧
      batch = ⟨.payload candidate, length, info.sequence⟩
  else
    ∃ token shared, decodeVisibleBatchExecute request.payload = .ok (token, shared) ∧
      batch = ⟨.region shared.offset.toNat, shared.length.toNat, shared.sequence⟩

def IngressWorker.Asked : IngressWorker → Prop
  | .submitting request batch => request.Asks batch
  | .blocked request submission => request.Asks submission.batch
  | _ => True

theorem execute_ok {region after : VisibleBatchRegion} {memory payload : Buffer} {payloadLength : Nat}
    {batch : VisibleBatch} (accepted : region.execute memory payload payloadLength = .ok (batch, after)) :
    ∃ token shared, decodeVisibleBatchExecute payload = .ok (token, shared) ∧
      batch = ⟨.region shared.offset.toNat, shared.length.toNat, shared.sequence⟩ ∧
      after = { region with lastSequence := shared.sequence } := by
  unfold VisibleBatchRegion.execute at accepted
  split at accepted
  · cases accepted
  split at accepted
  · cases accepted
  split at accepted
  · cases accepted
  rename_i token shared decoded
  split at accepted
  · cases accepted
  split at accepted
  · cases accepted
  split at accepted
  · cases accepted
  split at accepted
  · cases accepted
  split at accepted
  · cases accepted
  split at accepted
  · cases accepted
  cases accepted
  exact ⟨token, shared, decoded, rfl, rfl⟩

theorem visibleBatchInlineDecode_ok {token payload : Buffer} {payloadLength : Nat} {batch : VisibleBatch}
    (decoded : visibleBatchInlineDecode token payload payloadLength = .ok batch) :
    ∃ info, commandBatchValidate (window payload lifecycleTokenSize (payloadLength - lifecycleTokenSize))
        (payloadLength - lifecycleTokenSize) = .ok info ∧
      batch = ⟨.payload (window payload lifecycleTokenSize (payloadLength - lifecycleTokenSize)),
        payloadLength - lifecycleTokenSize, info.sequence⟩ := by
  unfold visibleBatchInlineDecode at decoded
  split at decoded
  · cases decoded
  split at decoded
  · cases decoded
  dsimp only at decoded
  split at decoded
  · cases decoded
  · rename_i info validated
    cases decoded
    exact ⟨info, validated, rfl⟩

theorem loopbackBatch_asks {request : IngressRequest} {batch : VisibleBatch} {ingress : VisibleIngress}
    (taken : system.loopbackBatch request = .ok (batch, ingress)) : request.Asks batch := by
  unfold IngressSystem.loopbackBatch at taken
  unfold IngressRequest.Asks
  split at taken
  · rename_i inline
    rw [if_pos inline]
    split at taken
    · cases taken
    cases decoded : visibleBatchInlineDecode system.ingress.token request.payload request.payloadLength.toNat with
    | error code =>
        rw [decoded] at taken
        cases taken
    | ok found =>
        rw [decoded] at taken
        cases taken
        exact visibleBatchInlineDecode_ok decoded
  · rename_i other
    rw [if_neg other]
    split at taken
    · split at taken
      · cases taken
      split at taken
      · cases taken
      cases executed : system.ingress.brokeredRegion.execute system.memory request.payload
          request.payloadLength.toNat with
      | error code =>
          rw [executed] at taken
          cases taken
      | ok found =>
          rw [executed] at taken
          cases taken
          obtain ⟨token, shared, decoded, same, -⟩ := execute_ok executed
          exact ⟨token, shared, decoded, same⟩
    · cases taken

theorem IngressRequest.check_opcode {request : IngressRequest} {opcode : UInt16} {payloadLength : Nat}
    (checked : request.check opcode payloadLength = .ok ()) : request.opcode = opcode := by
  unfold IngressRequest.check at checked
  split at checked
  · cases checked
  · rename_i matching
    simp only [not_or, not_not] at matching
    exact matching.2.2.1

theorem waitTest_worker (system : IngressSystem) : system.waitTest.worker = system.worker := by
  unfold IngressSystem.waitTest IngressSystem.waitReturn
  split
  · rfl
  · split <;> rfl

theorem step_asked (asked : system.worker.Asked) (input : IngressInput) : (system.step input).worker.Asked := by
  unfold IngressSystem.step
  split
  · unfold IngressSystem.connect
    split
    · trivial
    split
    · trivial
    · dsimp only
      split <;> trivial
  · unfold IngressSystem.receive
    split
    · trivial
    split
    · trivial
    · rename_i taken
      exact loopbackBatch_asks taken
  · unfold IngressSystem.receiveSetup
    split
    · trivial
    split
    · trivial
    split
    · dsimp only
      split <;> trivial
    · split <;> trivial
  · dsimp only
    split
    · trivial
    · split <;> trivial
  · unfold IngressSystem.receiveExecute
    split
    · trivial
    split
    · dsimp only
      split <;> trivial
    rename_i request checked
    split
    · trivial
    · rename_i executed
      obtain ⟨token, shared, decoded, same, -⟩ := execute_ok executed
      have opcode := IngressRequest.check_opcode checked
      simp only [IngressWorker.Asked, IngressRequest.Asks]
      rw [if_neg (by rw [opcode]; decide)]
      exact ⟨token, shared, decoded, same⟩
  · rename_i stands
    rw [stands] at asked
    unfold IngressSystem.submit
    dsimp only
    split
    · trivial
    · exact asked
  · unfold IngressSystem.wake
    split
    · exact asked
    · trivial
  · unfold IngressSystem.respond
    dsimp only
    split <;> trivial
  · unfold IngressSystem.clear
    dsimp only
    split <;> trivial
  · unfold IngressSystem.close
    dsimp only
    split <;> trivial
  · exact asked
  · unfold IngressSystem.install
    split <;> exact asked
  · exact (waitTest_worker _).symm ▸ asked
  · rename_i how free
    cases how with
    | woken => exact (waitTest_worker _).symm ▸ asked
    | timedOut => exact asked
    | failed => exact asked
  · unfold IngressSystem.complete
    split <;> exact asked
  · unfold IngressSystem.destroy
    split <;> exact asked
  · rename_i how free
    cases how with
    | woken =>
        dsimp only [IngressSystem.drainEnd]
        split <;> exact asked
    | timedOut => exact asked
    | failed => exact asked
  · exact asked

/-! ## Runs -/

/-- A step that returns a batch returns that of the worker that waits, which is
what its request asks for, and all that were returned before are completed. -/
def ReturnsInTurn (system : IngressSystem) (input : IngressInput) : Prop :=
  ∀ submission, (system.step input).log = system.log ++ [.returned submission] →
    (∃ request, system.worker = .blocked request submission ∧ request.Asks submission.batch ∧
        (system.step input).worker = system.worker ∧ .submitted submission request.requestId ∈ system.log) ∧
      ∀ ticket ∈ returnedTickets system.log, ticket ∈ completedTickets system.log

/-- A batch stays claimed from its return until it is completed or the ingress is stopped. -/
def StaysClaimed (system : IngressSystem) : Prop :=
  ∀ submission, .returned submission ∈ system.log → submission.ticket ∉ completedTickets system.log →
    .stopped ∉ system.log →
      system.ingress.batchClaimed = true ∧ system.ingress.batch = some submission ∧
        ∃ requestId, system.worker.held = .blocked requestId submission

theorem Orderly.staysClaimed (orderly : Orderly system) : StaysClaimed system := by
  intro submission member uncompleted running
  rcases orderly.outstanding submission member with completed | stopped | ⟨requestId, blocked⟩
  · exact absurd completed uncompleted
  · exact absurd (orderly.stopped.mp stopped) running
  · have coupled := orderly.coupled
    rw [blocked] at coupled
    obtain ⟨-, batch, -, -, claimed, -, -⟩ := coupled
    exact ⟨claimed.mpr (mem_returnedTickets member), batch, requestId, blocked⟩

theorem create_orderly (loopback : Bool) (token memory : ByteBuffer.Buffer) :
    Orderly (IngressSystem.create loopback token memory) := by
  refine ⟨rfl, ⟨List.nodup_nil, List.nodup_nil, List.nodup_nil, ?_, ?_, ?_⟩, ?_, ?_, ?_⟩
  · intro submission member
    cases member
  · intro ticket member
    cases member
  · intro ticket requestId status member
    cases member
  · intro ticket member
    cases member
  · constructor
    · intro impossible
      cases impossible
    · intro member
      cases member
  · intro submission member
    cases member

theorem ne_returned_of_same {other : List IngressEvent} (same : other = log) (submission : Submission) :
    other ≠ log ++ [.returned submission] := by
  rw [same]
  intro longer
  have lengths := congrArg List.length longer
  simp at lengths

theorem ne_returned_of_event {other : List IngressEvent} (grown : other = log ++ [event])
    (isOther : event.returnedTicket = none) (submission : Submission) : other ≠ log ++ [.returned submission] := by
  rw [grown]
  intro same
  have last := List.append_cancel_left same
  rw [List.singleton_inj.mp last] at isOther
  cases isOther

theorem IngressWorker.held_eq_blocked {worker : IngressWorker} {requestId : UInt32} {submission : Submission}
    (held : worker.held = .blocked requestId submission) :
    ∃ request, worker = .blocked request submission ∧ request.requestId = requestId := by
  unfold IngressWorker.held at held
  split at held
  · cases held
    exact ⟨_, rfl, rfl⟩
  · cases held
  · cases held

theorem waitTest_returned (orderly : Orderly system) (asked : system.worker.Asked) {submission : Submission}
    (returned : system.waitTest.log = system.log ++ [.returned submission]) :
    (∃ request, system.worker = .blocked request submission ∧ request.Asks submission.batch ∧
        system.waitTest.worker = system.worker ∧ .submitted submission request.requestId ∈ system.log) ∧
      ∀ ticket ∈ returnedTickets system.log, ticket ∈ completedTickets system.log := by
  unfold IngressSystem.waitTest at returned ⊢
  split at returned
  · exact absurd returned (ne_returned_of_same rfl submission)
  rename_i awake
  rw [if_neg awake]
  unfold IngressSystem.waitReturn at returned ⊢
  split at returned
  · exact absurd returned (ne_returned_of_same rfl submission)
  rename_i running
  rw [if_neg running]
  have notStopped : system.ingress.stop = false := by simpa using running
  have ready : system.ingress.batchReady = true ∧ system.ingress.batchClaimed = false := by
    simpa [notStopped] using awake
  obtain ⟨requestId, other, blocked, batch⟩ := orderly.ready_blocked ready.1
  dsimp only at returned
  rw [batch] at returned
  have isOther : other = submission := by
    have last := List.singleton_inj.mp (List.append_cancel_left returned)
    cases last
    rfl
  subst isOther
  have coupled := orderly.coupled
  rw [blocked] at coupled
  obtain ⟨-, -, -, submitted, -⟩ := coupled
  have unclaimed := (orderly.unclaimed notStopped blocked ready.2).2
  obtain ⟨request, stands, rfl⟩ := IngressWorker.held_eq_blocked blocked
  rw [stands] at asked
  exact ⟨⟨request, stands, asked, rfl, submitted⟩, unclaimed⟩

/-- A step adds nothing to the log, adds an event that returns nothing, or tests
whether the consumer may leave its loop. -/
theorem step_log (system : IngressSystem) (input : IngressInput) :
    (system.step input).log = system.log ∨
      (∃ event, event.returnedTicket = none ∧ (system.step input).log = system.log ++ [event]) ∨
      ∃ ingress, SameHandoff system.ingress ingress ∧
        system.step input = { system with ingress := ingress }.waitTest := by
  unfold IngressSystem.step
  split
  · unfold IngressSystem.connect
    split
    · exact Or.inl rfl
    · split <;> exact Or.inl rfl
  · unfold IngressSystem.receive
    split
    · exact Or.inl rfl
    · split <;> exact Or.inl rfl
  · unfold IngressSystem.receiveSetup
    split
    · exact Or.inl rfl
    split
    · exact Or.inl rfl
    split
    · exact Or.inl rfl
    · split <;> exact Or.inl rfl
  · exact Or.inl rfl
  · unfold IngressSystem.receiveExecute
    split
    · exact Or.inl rfl
    split
    · exact Or.inl rfl
    · split <;> exact Or.inl rfl
  · unfold IngressSystem.submit
    dsimp only
    split
    · exact Or.inl rfl
    · exact Or.inr (Or.inl ⟨_, rfl, rfl⟩)
  · unfold IngressSystem.wake
    split
    · exact Or.inl rfl
    · exact Or.inr (Or.inl ⟨_, rfl, rfl⟩)
  · unfold IngressSystem.respond
    dsimp only
    split
    · exact Or.inr (Or.inl ⟨_, rfl, rfl⟩)
    · exact Or.inl rfl
  · exact Or.inl rfl
  · exact Or.inl rfl
  · exact Or.inl rfl
  · unfold IngressSystem.install
    split <;> exact Or.inl rfl
  · exact Or.inr (Or.inr ⟨{ system.ingress with accepting := true }, ⟨rfl, rfl, rfl, rfl, rfl, rfl⟩, rfl⟩)
  · rename_i how free
    cases how with
    | woken => exact Or.inr (Or.inr ⟨system.ingress, ⟨rfl, rfl, rfl, rfl, rfl, rfl⟩, rfl⟩)
    | timedOut => exact Or.inl rfl
    | failed => exact Or.inl rfl
  · unfold IngressSystem.complete
    split
    · exact Or.inl rfl
    · cases system.ingress.batch with
      | none => exact Or.inl (List.append_nil _)
      | some submission => exact Or.inr (Or.inl ⟨_, rfl, rfl⟩)
  · unfold IngressSystem.destroy
    split
    · exact Or.inl rfl
    · exact Or.inr (Or.inl ⟨.stopped, rfl, rfl⟩)
  · rename_i how free
    cases how with
    | woken =>
        dsimp only [IngressSystem.drainEnd]
        split
        · exact Or.inl rfl
        · exact Or.inr (Or.inl ⟨.stopped, rfl, rfl⟩)
    | timedOut => exact Or.inr (Or.inl ⟨.stopped, rfl, rfl⟩)
    | failed => exact Or.inr (Or.inl ⟨.stopped, rfl, rfl⟩)
  · exact Or.inl rfl

theorem step_returnsInTurn (orderly : Orderly system) (asked : system.worker.Asked) (input : IngressInput) :
    ReturnsInTurn system input := by
  intro submission returned
  rcases step_log system input with same | ⟨event, isOther, grown⟩ | ⟨ingress, handoff, tested⟩
  · exact absurd returned (ne_returned_of_same same submission)
  · exact absurd returned (ne_returned_of_event grown isOther submission)
  · have before : Orderly { system with ingress := ingress } := orderly.of_frame rfl rfl rfl handoff
    rw [tested] at returned ⊢
    exact waitTest_returned before asked returned

/-- In every run each batch is returned at most once, with the batch of the
request whose worker waits; it stays claimed until it is completed, once, or the
ingress is stopped, and no other is returned before; and the answer to a request
carries the status its batch was completed with, or says that the ingress was
stopped before the worker went on. -/
theorem batches_handed_over_once (loopback : Bool) (token memory : ByteBuffer.Buffer) (inputs : List IngressInput) :
    Runs.EveryState IngressSystem.step (fun system => HandedOver system.log ∧ StaysClaimed system)
        (.create loopback token memory) inputs ∧
      Runs.EveryStep IngressSystem.step ReturnsInTurn (.create loopback token memory) inputs := by
  have states : Runs.EveryState IngressSystem.step (fun system => Orderly system ∧ system.worker.Asked)
      (.create loopback token memory) inputs :=
    Runs.everyState_of_step (fun _ input both => ⟨step_orderly both.1 input, step_asked both.2 input⟩) inputs _
      ⟨create_orderly loopback token memory, trivial⟩
  refine ⟨states.imp fun _ both => ⟨both.1.handed, both.1.staysClaimed⟩, ?_⟩
  exact states.everyStep (fun _ input both _ => step_returnsInTurn both.1 both.2 input)
    (Runs.everyStep_of_all (fun _ _ => trivial) inputs _)

end VulkanBridge
