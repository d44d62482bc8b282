import VulkanBridge.Lifecycle

/-!
The activity status over whole runs of connections: the flags, the window size
and the sequence numbers the service takes.
-/

namespace VulkanBridge

open ByteBuffer

namespace ActivityStatus

def hasFlag (status : ActivityStatus) (flag : UInt32) : Bool := status.stateFlags &&& flag != 0

/-- The window flag says that there is a size, and a renderer needs a window. -/
structure Coherent (status : ActivityStatus) : Prop where
  sized : status.hasFlag activityWindowPresent = true ↔ status.width ≠ 0 ∧ status.height ≠ 0
  windowed : status.hasFlag activityRendererReady = true → status.hasFlag activityWindowPresent = true

end ActivityStatus

/-- The record that a connection brings and the status machine takes. -/
def acceptedRecord (token : Buffer) (status : ActivityStatus) (input : ActivityInput) : Option LifecycleRecord :=
  match input.wire with
  | none => none
  | some wire =>
      match lifecycleDecodeRecord wire with
      | .error _ => none
      | .ok record =>
          if !tokenMatches record.token token then none
          else
            match applyLifecycleEvent status record input.receivedNs with
            | .error _ => none
            | .ok _ => some record

theorem flag_or (flags set flag : UInt32) :
    ((flags ||| set) &&& flag != 0) = ((flags &&& flag != 0) || (set &&& flag != 0)) := by
  have split : (flags ||| set) &&& flag = (flags &&& flag) ||| (set &&& flag) :=
    UInt32.toBitVec_inj.mp BitVec.and_or_distrib_right
  rw [split, Bool.eq_iff_iff]
  simp only [bne_iff_ne, ne_eq, UInt32.or_eq_zero_iff, Bool.or_eq_true]
  tauto

theorem flag_or_other {set flag : UInt32} (apart : set &&& flag = 0) (flags : UInt32) :
    ((flags ||| set) &&& flag != 0) = (flags &&& flag != 0) := by
  rw [flag_or, apart]
  simp

theorem flag_or_self {set flag : UInt32} (holds : (set &&& flag != 0) = true) (flags : UInt32) :
    ((flags ||| set) &&& flag != 0) = true := by
  rw [flag_or, holds, Bool.or_true]

theorem flag_and_not {mask flag : UInt32} (apart : ~~~mask &&& flag = flag) (flags : UInt32) :
    ((flags &&& ~~~mask) &&& flag != 0) = (flags &&& flag != 0) := by
  rw [UInt32.and_assoc, apart]

theorem flag_and_not_self {mask flag : UInt32} (cleared : ~~~mask &&& flag = 0) (flags : UInt32) :
    ((flags &&& ~~~mask) &&& flag != 0) = false := by
  rw [UInt32.and_assoc, cleared, UInt32.and_zero]
  rfl

namespace ActivityStatus

variable {status next : ActivityStatus}

theorem Coherent.of_same (coherent : status.Coherent)
    (window : next.hasFlag activityWindowPresent = status.hasFlag activityWindowPresent)
    (renderer : next.hasFlag activityRendererReady = status.hasFlag activityRendererReady)
    (width : next.width = status.width) (height : next.height = status.height) : next.Coherent := by
  constructor
  · rw [window, width, height]
    exact coherent.sized
  · rw [window, renderer]
    exact coherent.windowed

theorem Coherent.of_window (window : next.hasFlag activityWindowPresent = true) (wide : next.width ≠ 0)
    (high : next.height ≠ 0) : next.Coherent := by
  constructor
  · exact ⟨fun _ => ⟨wide, high⟩, fun _ => window⟩
  · exact fun _ => window

theorem Coherent.of_none (window : next.hasFlag activityWindowPresent = false)
    (renderer : next.hasFlag activityRendererReady = false) (width : next.width = 0) : next.Coherent := by
  constructor
  · rw [window, width]
    simp
  · rw [renderer]
    simp

end ActivityStatus

open ActivityStatus

theorem lifecycleRecordIsValid_size {record : LifecycleRecord} (valid : lifecycleRecordIsValid record = true)
    (sizes : record.event = LifecycleEvent.windowCreated.code ∨ record.event = LifecycleEvent.rendererReady.code ∨
      record.event = LifecycleEvent.rendererFailed.code) : record.width ≠ 0 ∧ record.height ≠ 0 := by
  simp only [lifecycleRecordIsValid, Bool.and_eq_true, Bool.not_eq_true', Bool.and_eq_false_iff,
    Bool.or_eq_false_iff, beq_eq_false_iff_ne] at valid
  rcases valid.2 with ⟨⟨notWindow, notReady⟩, notFailed⟩ | sized
  · rcases sizes with isWindow | isReady | isFailed
    · exact absurd isWindow notWindow
    · exact absurd isReady notReady
    · exact absurd isFailed notFailed
  · exact sized

theorem lifecycleDecodeRecord_valid {wire : Buffer} {record : LifecycleRecord}
    (decoded : lifecycleDecodeRecord wire = .ok record) : lifecycleRecordIsValid record = true := by
  simp only [lifecycleDecodeRecord] at decoded
  split at decoded
  · cases decoded
  split at decoded
  · rename_i valid
    cases decoded
    exact valid
  · cases decoded

theorem lifecycleTransition_coherent {status : ActivityStatus} (coherent : status.Coherent)
    {record : LifecycleRecord} (valid : lifecycleRecordIsValid record = true) {event : LifecycleEvent}
    (isEvent : event.code = record.event) : (lifecycleTransition status record event).Coherent := by
  cases event with
  | created => exact coherent
  | nativeBinderStatus => exact coherent
  | started | resumed | focusGained =>
      refine coherent.of_same ?_ ?_ rfl rfl
      · exact flag_or_other (by decide) status.stateFlags
      · exact flag_or_other (by decide) status.stateFlags
  | paused | stopped | focusLost =>
      refine coherent.of_same ?_ ?_ rfl rfl
      · exact flag_and_not (by decide) status.stateFlags
      · exact flag_and_not (by decide) status.stateFlags
  | destroyed =>
      refine Coherent.of_none ?_ ?_ rfl
      · change (activityDestroyed &&& activityWindowPresent != 0) = false
        decide
      · change (activityDestroyed &&& activityRendererReady != 0) = false
        decide
  | windowDestroyed =>
      refine Coherent.of_none ?_ ?_ rfl
      · exact flag_and_not_self (by decide) status.stateFlags
      · exact flag_and_not_self (by decide) status.stateFlags
  | windowCreated =>
      obtain ⟨wide, high⟩ := lifecycleRecordIsValid_size valid (Or.inl isEvent.symm)
      refine Coherent.of_window ?_ wide high
      exact flag_or_self (by decide) _
  | rendererReady =>
      obtain ⟨wide, high⟩ := lifecycleRecordIsValid_size valid (Or.inr (Or.inl isEvent.symm))
      refine Coherent.of_window ?_ wide high
      exact flag_or_self (by decide) _
  | rendererFailed =>
      obtain ⟨wide, high⟩ := lifecycleRecordIsValid_size valid (Or.inr (Or.inr isEvent.symm))
      refine Coherent.of_window ?_ wide high
      exact flag_or_self (by decide) _

theorem lifecycleGuard_coherent {status guarded : ActivityStatus} {record : LifecycleRecord}
    (coherent : status.Coherent) (passed : lifecycleGuard status record = some guarded) : guarded.Coherent := by
  simp only [lifecycleGuard] at passed
  split at passed
  · split at passed
    · cases passed
    · cases passed
      refine Coherent.of_none ?_ ?_ rfl
      · change (activityCreated &&& activityWindowPresent != 0) = false
        decide
      · change (activityCreated &&& activityRendererReady != 0) = false
        decide
  · split at passed
    · cases passed
    · cases passed
      exact coherent

theorem applyLifecycleEvent_cases {status next : ActivityStatus} {record : LifecycleRecord} {receivedNs : UInt64}
    (applied : applyLifecycleEvent status record receivedNs = .ok next) :
    ∃ guarded event, lifecycleGuard status record = some guarded ∧ event.code = record.event ∧
      next.lastSequence = record.sequence ∧
      next.stateFlags = (lifecycleTransition guarded record event).stateFlags ∧
      next.width = (lifecycleTransition guarded record event).width ∧
      next.height = (lifecycleTransition guarded record event).height := by
  simp only [applyLifecycleEvent] at applied
  split at applied
  · cases applied
  rename_i guarded passed
  split at applied
  · cases applied
  rename_i event known
  cases applied
  exact ⟨guarded, event, passed, LifecycleEvent.code_of_ofCode known, rfl, rfl, rfl, rfl⟩

theorem lifecycleGuard_sequence {status guarded : ActivityStatus} {record : LifecycleRecord}
    (passed : lifecycleGuard status record = some guarded) :
    record.event = LifecycleEvent.created.code ∨ status.lastSequence < record.sequence := by
  simp only [lifecycleGuard] at passed
  split at passed
  · rename_i created
    exact Or.inl created
  · split at passed
    · cases passed
    · rename_i refused
      push Not at refused
      exact Or.inr (UInt32.not_le.mp refused.2.2)

theorem handleActivityConnection_cases (token : Buffer) (status : ActivityStatus) (input : ActivityInput) :
    (acceptedRecord token status input = none ∧ handleActivityConnection token status input = status.reject) ∨
      ∃ record, acceptedRecord token status input = some record ∧ lifecycleRecordIsValid record = true ∧
        applyLifecycleEvent status record input.receivedNs = .ok (handleActivityConnection token status input) := by
  unfold acceptedRecord handleActivityConnection
  cases input.wire with
  | none => exact Or.inl ⟨rfl, rfl⟩
  | some wire =>
      cases decoded : lifecycleDecodeRecord wire with
      | error code => exact Or.inl ⟨by simp only [decoded], by simp only [decoded]⟩
      | ok record =>
          simp only [decoded]
          split
          · exact Or.inl ⟨rfl, rfl⟩
          cases applied : applyLifecycleEvent status record input.receivedNs with
          | error code => exact Or.inl ⟨rfl, rfl⟩
          | ok next => exact Or.inr ⟨record, rfl, lifecycleDecodeRecord_valid decoded, applied⟩

structure LifecycleHistory where
  status : ActivityStatus
  accepted : List UInt32

namespace LifecycleHistory

def start (ingressConfigured : UInt32) : LifecycleHistory := ⟨.initial ingressConfigured, []⟩

def record (history : LifecycleHistory) : Option LifecycleRecord → List UInt32
  | none => history.accepted
  | some record =>
      if record.event = LifecycleEvent.created.code then [record.sequence]
      else history.accepted ++ [record.sequence]

def step (token : Buffer) (history : LifecycleHistory) (input : ActivityInput) : LifecycleHistory :=
  ⟨handleActivityConnection token history.status input, history.record (acceptedRecord token history.status input)⟩

structure Orderly (history : LifecycleHistory) : Prop where
  coherent : history.status.Coherent
  increasing : history.accepted.Pairwise (· < ·)
  last : ∀ sequence ∈ history.accepted, sequence ≤ history.status.lastSequence

theorem step_orderly {history : LifecycleHistory} (orderly : history.Orderly) (token : Buffer)
    (input : ActivityInput) : (history.step token input).Orderly := by
  rcases handleActivityConnection_cases token history.status input with ⟨refused, rejected⟩ |
    ⟨record, taken, valid, applied⟩
  · simp only [step, refused, rejected]
    exact ⟨orderly.coherent.of_same rfl rfl rfl rfl, orderly.increasing, orderly.last⟩
  · obtain ⟨guarded, event, passed, isEvent, last, flags, width, height⟩ := applyLifecycleEvent_cases applied
    simp only [step, taken]
    refine ⟨?_, ?_, ?_⟩
    · have coherent := lifecycleTransition_coherent (lifecycleGuard_coherent orderly.coherent passed) valid isEvent
      exact coherent.of_same (by rw [hasFlag, flags]; rfl) (by rw [hasFlag, flags]; rfl) width height
    · simp only [LifecycleHistory.record]
      split
      · exact List.pairwise_singleton _ _
      · rename_i continues
        have above := (lifecycleGuard_sequence passed).resolve_left continues
        refine List.pairwise_append.mpr ⟨orderly.increasing, List.pairwise_singleton _ _, ?_⟩
        intro sequence member newest isNewest
        rw [List.mem_singleton.mp isNewest]
        exact UInt32.lt_of_le_of_lt (orderly.last sequence member) above
    · simp only [LifecycleHistory.record, last]
      split
      · intro sequence member
        exact UInt32.le_of_eq (List.mem_singleton.mp member)
      · rename_i continues
        have above := (lifecycleGuard_sequence passed).resolve_left continues
        intro sequence member
        rcases List.mem_append.mp member with old | new
        · exact UInt32.le_of_lt (UInt32.lt_of_le_of_lt (orderly.last sequence old) above)
        · exact UInt32.le_of_eq (List.mem_singleton.mp new)

theorem start_orderly (ingressConfigured : UInt32) : (start ingressConfigured).Orderly := by
  refine ⟨?_, List.Pairwise.nil, ?_⟩
  · refine Coherent.of_none ?_ ?_ rfl
    · change (0 &&& activityWindowPresent != 0) = false
      decide
    · change (0 &&& activityRendererReady != 0) = false
      decide
  · intro sequence member
    cases member

/-- In every status of a run the window flag stands for a window size and a
ready renderer has a window; a refused record only counts; and the sequence
numbers taken since a creation increase. -/
theorem lifecycle_stays_coherent (token : Buffer) (ingressConfigured : UInt32) (inputs : List ActivityInput) :
    Runs.EveryState (step token) (fun history => history.status.Coherent ∧ history.accepted.Pairwise (· < ·))
        (start ingressConfigured) inputs ∧
      Runs.EveryStep (step token)
        (fun history input => acceptedRecord token history.status input = none →
          (history.step token input).status =
            { history.status with rejectedEventCount := history.status.rejectedEventCount + 1 })
        (start ingressConfigured) inputs := by
  have states : Runs.EveryState (step token) Orderly (start ingressConfigured) inputs :=
    Runs.everyState_of_step (fun _ input orderly => step_orderly orderly token input) inputs _
      (start_orderly ingressConfigured)
  refine ⟨states.imp fun _ orderly => ⟨orderly.coherent, orderly.increasing⟩, ?_⟩
  refine Runs.everyStep_of_all ?_ inputs _
  intro history input refused
  rcases handleActivityConnection_cases token history.status input with ⟨-, rejected⟩ | ⟨record, taken, -⟩
  · exact rejected
  · rw [refused] at taken
    cases taken

end LifecycleHistory

end VulkanBridge
