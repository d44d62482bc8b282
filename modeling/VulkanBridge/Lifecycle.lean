import VulkanBridge.Bytes
import VulkanBridge.Handle
import VulkanBridge.Runs

/-!
Activity lifecycle ingress: records of `lifecycle.c`, the status machine of
`bridge_service.c` that applies them, and the status packet of `protocol.c`.
-/

namespace VulkanBridge

open ByteBuffer

inductive LifecycleEvent where
  | created
  | started
  | resumed
  | paused
  | stopped
  | destroyed
  | windowCreated
  | windowDestroyed
  | focusGained
  | focusLost
  | rendererReady
  | rendererFailed
  | nativeBinderStatus
  deriving DecidableEq, Repr

namespace LifecycleEvent

def code : LifecycleEvent → UInt16
  | created => 1
  | started => 2
  | resumed => 3
  | paused => 4
  | stopped => 5
  | destroyed => 6
  | windowCreated => 7
  | windowDestroyed => 8
  | focusGained => 9
  | focusLost => 10
  | rendererReady => 11
  | rendererFailed => 12
  | nativeBinderStatus => 13

def all : List LifecycleEvent :=
  [created, started, resumed, paused, stopped, destroyed, windowCreated, windowDestroyed, focusGained,
    focusLost, rendererReady, rendererFailed, nativeBinderStatus]

def ofCode (event : UInt16) : Option LifecycleEvent := all.find? fun known => known.code == event

theorem code_of_ofCode {event : UInt16} {known : LifecycleEvent} (found : ofCode event = some known) :
    known.code = event := by
  simpa using List.find?_some found

end LifecycleEvent

def activityCreated : UInt32 := 1
def activityStarted : UInt32 := 2
def activityResumed : UInt32 := 4
def activityWindowPresent : UInt32 := 8
def activityRendererReady : UInt32 := 16
def activityFocused : UInt32 := 32
def activityDestroyed : UInt32 := 64

structure LifecycleRecord where
  event : UInt16
  sequence : UInt32
  width : UInt32
  height : UInt32
  activityPid : UInt32
  monotonicNs : UInt64
  token : Buffer

structure ActivityStatus where
  ingressConfigured : UInt32
  authenticatedEventCount : UInt32
  rejectedEventCount : UInt32
  lastSequence : UInt32
  lastEvent : UInt32
  stateFlags : UInt32
  width : UInt32
  height : UInt32
  activityPid : UInt32
  lastEventMonotonicNs : UInt64
  lastEventReceivedNs : UInt64
  deriving DecidableEq, Repr

def lifecycleMagic : UInt32 := 0x314c5642
def lifecycleVersion : UInt16 := 1
def lifecycleTokenSize : Nat := 32

def lifecycleRecordIsValid (record : LifecycleRecord) : Bool :=
  !(record.event < LifecycleEvent.created.code || LifecycleEvent.nativeBinderStatus.code < record.event ||
      record.sequence == 0 || record.activityPid == 0 || record.monotonicNs == 0) &&
    !((record.event == LifecycleEvent.windowCreated.code ||
        record.event == LifecycleEvent.rendererReady.code ||
        record.event == LifecycleEvent.rendererFailed.code) &&
      (record.width == 0 || record.height == 0))

def lifecycleEncodeRecord (record : LifecycleRecord) : Except Errno Buffer :=
  if !lifecycleRecordIsValid record then .error .einval
  else
    let output := putU32 zeroed 0 lifecycleMagic
    let output := putU16 output 4 lifecycleVersion
    let output := putU16 output 6 record.event
    let output := putU32 output 8 record.sequence
    let output := putU32 output 12 record.width
    let output := putU32 output 16 record.height
    let output := putU32 output 20 record.activityPid
    let output := putU64 output 24 record.monotonicNs
    .ok (copyInto output 32 record.token lifecycleTokenSize)

def lifecycleDecodeRecord (input : Buffer) : Except Errno LifecycleRecord :=
  if getU32 input 0 ≠ lifecycleMagic ∨ getU16 input 4 ≠ lifecycleVersion then .error .eproto
  else
    let decoded : LifecycleRecord :=
      { event := getU16 input 6
        sequence := getU32 input 8
        width := getU32 input 12
        height := getU32 input 16
        activityPid := getU32 input 20
        monotonicNs := getU64 input 24
        token := window input 32 lifecycleTokenSize }
    if lifecycleRecordIsValid decoded then .ok decoded else .error .eproto

def tokenMatches (left right : Buffer) : Bool :=
  (List.range lifecycleTokenSize).foldl
    (fun difference index => difference ||| (left index ^^^ right index)) (0 : UInt8) == 0

def lifecycleTransition (status : ActivityStatus) (record : LifecycleRecord) :
    LifecycleEvent → ActivityStatus
  | .created => status
  | .started => { status with stateFlags := status.stateFlags ||| activityStarted }
  | .resumed => { status with stateFlags := status.stateFlags ||| activityResumed }
  | .paused => { status with stateFlags := status.stateFlags &&& ~~~(activityResumed ||| activityFocused) }
  | .stopped =>
      { status with
        stateFlags := status.stateFlags &&& ~~~(activityStarted ||| activityResumed ||| activityFocused) }
  | .destroyed => { status with stateFlags := activityDestroyed, width := 0, height := 0 }
  | .windowCreated =>
      { status with
        stateFlags := status.stateFlags ||| activityWindowPresent
        width := record.width
        height := record.height }
  | .windowDestroyed =>
      { status with
        stateFlags := status.stateFlags &&& ~~~(activityWindowPresent ||| activityRendererReady)
        width := 0
        height := 0 }
  | .focusGained => { status with stateFlags := status.stateFlags ||| activityFocused }
  | .focusLost => { status with stateFlags := status.stateFlags &&& ~~~activityFocused }
  | .rendererReady =>
      { status with
        stateFlags := status.stateFlags ||| (activityWindowPresent ||| activityRendererReady)
        width := record.width
        height := record.height }
  | .rendererFailed =>
      { status with
        stateFlags := (status.stateFlags &&& ~~~activityRendererReady) ||| activityWindowPresent
        width := record.width
        height := record.height }
  | .nativeBinderStatus => status

/-- The guard before the event switch: a creation starts a new activity with
sequence 1, any other event continues the activity with a larger sequence. -/
def lifecycleGuard (status : ActivityStatus) (record : LifecycleRecord) : Option ActivityStatus :=
  if record.event = LifecycleEvent.created.code then
    if record.sequence ≠ 1 then none
    else
      some { status with
        stateFlags := activityCreated, width := 0, height := 0, activityPid := record.activityPid }
  else if status.authenticatedEventCount = 0 ∨ status.activityPid ≠ record.activityPid ∨
      record.sequence ≤ status.lastSequence then none
  else some status

def applyLifecycleEvent (status : ActivityStatus) (record : LifecycleRecord) (receivedNs : UInt64) :
    Except Errno ActivityStatus :=
  match lifecycleGuard status record with
  | none => .error .eproto
  | some guarded =>
      match LifecycleEvent.ofCode record.event with
      | none => .error .eproto
      | some event =>
          let next := lifecycleTransition guarded record event
          .ok { next with
            authenticatedEventCount := next.authenticatedEventCount + 1
            lastSequence := record.sequence
            lastEvent := record.event.toUInt32
            lastEventMonotonicNs := record.monotonicNs
            lastEventReceivedNs := receivedNs }

/-- What one activity connection brings: the 64 record bytes unless the read
failed, and the clock when the record is applied. -/
structure ActivityInput where
  wire : Option Buffer
  receivedNs : UInt64

def ActivityStatus.reject (status : ActivityStatus) : ActivityStatus :=
  { status with rejectedEventCount := status.rejectedEventCount + 1 }

/-- The status after one activity connection. -/
def handleActivityConnection (token : Buffer) (status : ActivityStatus) (input : ActivityInput) :
    ActivityStatus :=
  match input.wire with
  | none => status.reject
  | some wire =>
      match lifecycleDecodeRecord wire with
      | .error _ => status.reject
      | .ok record =>
          if !tokenMatches record.token token then status.reject
          else
            match applyLifecycleEvent status record input.receivedNs with
            | .error _ => status.reject
            | .ok next => next

def ActivityStatus.initial (ingressConfigured : UInt32) : ActivityStatus :=
  ⟨ingressConfigured, 0, 0, 0, 0, 0, 0, 0, 0, 0, 0⟩

def protocolEncodeActivityStatus (status : ActivityStatus) : Except Errno Buffer :=
  if status.ingressConfigured > 1 then .error .einval
  else
    let output := putU32 zeroed 0 status.ingressConfigured
    let output := putU32 output 4 status.authenticatedEventCount
    let output := putU32 output 8 status.rejectedEventCount
    let output := putU32 output 12 status.lastSequence
    let output := putU32 output 16 status.lastEvent
    let output := putU32 output 20 status.stateFlags
    let output := putU32 output 24 status.width
    let output := putU32 output 28 status.height
    let output := putU32 output 32 status.activityPid
    let output := putU32 output 36 0
    let output := putU64 output 40 status.lastEventMonotonicNs
    .ok (putU64 output 48 status.lastEventReceivedNs)

def protocolDecodeActivityStatus (input : Buffer) : Except Errno ActivityStatus :=
  let decoded : ActivityStatus :=
    { ingressConfigured := getU32 input 0
      authenticatedEventCount := getU32 input 4
      rejectedEventCount := getU32 input 8
      lastSequence := getU32 input 12
      lastEvent := getU32 input 16
      stateFlags := getU32 input 20
      width := getU32 input 24
      height := getU32 input 28
      activityPid := getU32 input 32
      lastEventMonotonicNs := getU64 input 40
      lastEventReceivedNs := getU64 input 48 }
  if decoded.ingressConfigured > 1 ∨ getU32 input 36 ≠ 0 ∨
      decoded.lastEvent > LifecycleEvent.rendererFailed.code.toUInt32 then .error .eproto
  else .ok decoded

/-- The client reads the status back from the packet the service sends. -/
def ActivityStatus.Readable (status : ActivityStatus) : Prop :=
  ∃ packet, protocolEncodeActivityStatus status = .ok packet ∧
    protocolDecodeActivityStatus packet = .ok status

theorem readable_iff (status : ActivityStatus) :
    status.Readable ↔ status.ingressConfigured ≤ 1 ∧
      status.lastEvent ≤ LifecycleEvent.rendererFailed.code.toUInt32 := by
  simp only [ActivityStatus.Readable, protocolEncodeActivityStatus]
  by_cases configured : status.ingressConfigured > 1
  · simp [if_pos configured, UInt32.not_le.mpr configured]
  · have small := UInt32.not_lt.mp configured
    simp only [if_neg configured, Except.ok.injEq, exists_eq_left', small, true_and]
    simp [protocolDecodeActivityStatus, small]

/-- The connection brings an authentic native binder status record that the
status machine takes. -/
def AcceptsNativeBinderStatus (token : Buffer) (status : ActivityStatus) (input : ActivityInput) : Prop :=
  ∃ wire record, input.wire = some wire ∧ lifecycleDecodeRecord wire = .ok record ∧
    tokenMatches record.token token = true ∧ record.event = LifecycleEvent.nativeBinderStatus.code ∧
    (lifecycleGuard status record).isSome

instance (token : Buffer) (status : ActivityStatus) (input : ActivityInput) :
    Decidable (AcceptsNativeBinderStatus token status input) :=
  match received : input.wire with
  | none => .isFalse (by rintro ⟨_, _, some, _⟩; rw [received] at some; cases some)
  | some wire =>
      match decoded : lifecycleDecodeRecord wire with
      | .error _ =>
          .isFalse (by
            rintro ⟨_, _, same, taken, _⟩
            cases received.symm.trans same
            cases decoded.symm.trans taken)
      | .ok record =>
          if accepts : tokenMatches record.token token = true ∧
              record.event = LifecycleEvent.nativeBinderStatus.code ∧ (lifecycleGuard status record).isSome then
            .isTrue ⟨wire, record, received, decoded, accepts⟩
          else
            .isFalse (by
              rintro ⟨_, _, same, taken, other⟩
              cases received.symm.trans same
              cases decoded.symm.trans taken
              exact accepts other)

theorem lifecycleTransition_ingress (status : ActivityStatus) (record : LifecycleRecord)
    (event : LifecycleEvent) :
    (lifecycleTransition status record event).ingressConfigured = status.ingressConfigured := by
  cases event <;> rfl

theorem lifecycleGuard_ingress {status guarded : ActivityStatus} {record : LifecycleRecord}
    (passed : lifecycleGuard status record = some guarded) :
    guarded.ingressConfigured = status.ingressConfigured := by
  simp only [lifecycleGuard] at passed
  split at passed
  · split at passed
    · cases passed
    · cases passed
      rfl
  · split at passed
    · cases passed
    · cases passed
      rfl

theorem applyLifecycleEvent_ok {status next : ActivityStatus} {record : LifecycleRecord}
    {receivedNs : UInt64} (applied : applyLifecycleEvent status record receivedNs = .ok next) :
    (lifecycleGuard status record).isSome ∧ (∃ event, LifecycleEvent.ofCode record.event = some event) ∧
      next.ingressConfigured = status.ingressConfigured ∧ next.lastEvent = record.event.toUInt32 := by
  simp only [applyLifecycleEvent] at applied
  cases passed : lifecycleGuard status record with
  | none => simp [passed] at applied
  | some guarded =>
      cases known : LifecycleEvent.ofCode record.event with
      | none => simp [passed, known] at applied
      | some event =>
          simp only [passed, known, Except.ok.injEq] at applied
          subst applied
          refine ⟨rfl, ⟨event, rfl⟩, ?_, rfl⟩
          exact (lifecycleTransition_ingress guarded record event).trans (lifecycleGuard_ingress passed)

theorem LifecycleEvent.code_le_iff {event : LifecycleEvent} :
    event.code.toUInt32 ≤ LifecycleEvent.rendererFailed.code.toUInt32 ↔
      event.code ≠ LifecycleEvent.nativeBinderStatus.code := by
  cases event <;> decide

theorem reject_readable_iff (status : ActivityStatus) : status.reject.Readable ↔ status.Readable := by
  rw [readable_iff, readable_iff]
  rfl

theorem applied_readable_iff {status next : ActivityStatus} {record : LifecycleRecord}
    {receivedNs : UInt64} (readable : status.Readable)
    (applied : applyLifecycleEvent status record receivedNs = .ok next) :
    next.Readable ↔ record.event ≠ LifecycleEvent.nativeBinderStatus.code := by
  obtain ⟨_, ⟨event, known⟩, ingress, last⟩ := applyLifecycleEvent_ok applied
  have configured := ((readable_iff status).mp readable).1
  rw [readable_iff, ingress, last, ← LifecycleEvent.code_of_ofCode known, LifecycleEvent.code_le_iff]
  exact ⟨fun both => both.2, fun other => ⟨configured, other⟩⟩

theorem applyLifecycleEvent_binder {status : ActivityStatus} {record : LifecycleRecord}
    (receivedNs : UInt64) (event : record.event = LifecycleEvent.nativeBinderStatus.code)
    (passed : (lifecycleGuard status record).isSome) :
    ∃ next, applyLifecycleEvent status record receivedNs = .ok next := by
  obtain ⟨guarded, isGuarded⟩ := Option.isSome_iff_exists.mp passed
  have known : LifecycleEvent.ofCode record.event = some .nativeBinderStatus := by
    rw [event]
    decide
  simp [applyLifecycleEvent, isGuarded, known]

/-- One connection keeps the status readable unless it brings an accepted
native binder status. -/
theorem handleActivityConnection_readable_iff (token : Buffer) (status : ActivityStatus)
    (input : ActivityInput) (readable : status.Readable) :
    (handleActivityConnection token status input).Readable ↔
      ¬AcceptsNativeBinderStatus token status input := by
  have kept := (reject_readable_iff status).mpr readable
  simp only [handleActivityConnection, AcceptsNativeBinderStatus]
  cases received : input.wire with
  | none => simp [kept]
  | some wire =>
      cases decoded : lifecycleDecodeRecord wire with
      | error code => simp [kept, decoded]
      | ok record =>
          cases authentic : tokenMatches record.token token with
          | false => simp [kept, decoded, authentic]
          | true =>
              simp only [decoded, authentic, Bool.not_true, Bool.false_eq_true, if_false]
              cases applied : applyLifecycleEvent status record input.receivedNs with
              | error code =>
                  simp only [kept, true_iff]
                  rintro ⟨_, _, same, decodes, _, event, passed⟩
                  cases same
                  rw [decoded] at decodes
                  cases decodes
                  obtain ⟨next, accepted⟩ := applyLifecycleEvent_binder input.receivedNs event passed
                  rw [applied] at accepted
                  cases accepted
              | ok next =>
                  rw [applied_readable_iff readable applied]
                  constructor
                  · rintro other ⟨_, _, same, decodes, _, event, _⟩
                    cases same
                    rw [decoded] at decodes
                    cases decodes
                    exact other event
                  · intro refuses event
                    exact refuses ⟨wire, record, rfl, decoded, authentic, event,
                      (applyLifecycleEvent_ok applied).1⟩

theorem initial_readable {ingressConfigured : UInt32} (small : ingressConfigured ≤ 1) :
    (ActivityStatus.initial ingressConfigured).Readable := by
  rw [readable_iff]
  exact ⟨small, by simp only [ActivityStatus.initial]; decide⟩

/-- The client can read every status of a run exactly when no connection of the
run brings an accepted native binder status. -/
theorem activity_statuses_readable_iff (token : Buffer) (ingressConfigured : UInt32)
    (small : ingressConfigured ≤ 1) (inputs : List ActivityInput) :
    Runs.EveryState (handleActivityConnection token) ActivityStatus.Readable
        (ActivityStatus.initial ingressConfigured) inputs ↔
      Runs.EveryStep (handleActivityConnection token)
        (fun status input => ¬AcceptsNativeBinderStatus token status input)
        (ActivityStatus.initial ingressConfigured) inputs :=
  Runs.everyState_iff_everyStep (handleActivityConnection_readable_iff token) inputs _
    (initial_readable small)

/-- The connection that brings a record of the activity with pid 7. -/
def sampleInput (event : LifecycleEvent) (sequence : UInt32) : ActivityInput :=
  { wire := (lifecycleEncodeRecord ⟨event.code, sequence, 0, 0, 7, 1, zeroed⟩).toOption
    receivedNs := 2 }

/-- An activity that is started, resumed, shown and paused. -/
def shownInputs : List ActivityInput :=
  [sampleInput .created 1, sampleInput .started 2, sampleInput .resumed 3, sampleInput .windowCreated 4,
    sampleInput .paused 5]

theorem activity_statuses_readable_iff_shown :
    Runs.EveryState (handleActivityConnection zeroed) ActivityStatus.Readable (ActivityStatus.initial 1) shownInputs ∧
      (Runs.final (handleActivityConnection zeroed) (ActivityStatus.initial 1) shownInputs).lastSequence = 5 :=
  ⟨(activity_statuses_readable_iff zeroed 1 (by decide) shownInputs).mpr (by decide +kernel), by decide +kernel⟩

/-- A created activity that reports its binder status leaves a status that is
encoded and then refused by the decoder. -/
theorem native_binder_status_unreadable :
    (protocolEncodeActivityStatus (Runs.final (handleActivityConnection zeroed)
        (ActivityStatus.initial 1) [sampleInput .created 1, sampleInput .nativeBinderStatus 2])).isOk = true ∧
      ¬(Runs.final (handleActivityConnection zeroed) (ActivityStatus.initial 1)
        [sampleInput .created 1, sampleInput .nativeBinderStatus 2]).Readable := by
  refine ⟨by decide, ?_⟩
  rw [readable_iff]
  decide

end VulkanBridge
