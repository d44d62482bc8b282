import VulkanBridge.ActivityHost

/-!
The host and the service agree on the Activity: what every step makes of the resumed
flag and of the window, as both sides see them.
-/

namespace VulkanBridge

open ByteBuffer

namespace ActivityStatus

def resumed (status : ActivityStatus) : Bool := status.hasFlag activityResumed

def windowPresent (status : ActivityStatus) : Bool := status.hasFlag activityWindowPresent

end ActivityStatus

namespace LifecycleEvent

def resumedAfter (resumed : Bool) : LifecycleEvent → Bool
  | .resumed => true
  | .created | .paused | .stopped | .destroyed => false
  | _ => resumed

def windowAfter (window : Bool) : LifecycleEvent → Bool
  | .windowCreated | .rendererReady | .rendererFailed => true
  | .created | .windowDestroyed | .destroyed => false
  | _ => window

theorem code_injective {event other : LifecycleEvent} (same : event.code = other.code) : event = other := by
  cases event <;> cases other <;> first | rfl | exact absurd same (by decide)

end LifecycleEvent

theorem destroyed_flag {status : ActivityStatus} {record : LifecycleRecord} {flag : UInt32}
    (apart : activityDestroyed &&& flag = 0) :
    (lifecycleTransition status record .destroyed).hasFlag flag = false := by
  unfold ActivityStatus.hasFlag lifecycleTransition
  dsimp only
  rw [apart]
  rfl

theorem lifecycleTransition_resumed (status : ActivityStatus) (record : LifecycleRecord) (event : LifecycleEvent)
    (notCreated : event ≠ .created) :
    (lifecycleTransition status record event).hasFlag activityResumed =
      event.resumedAfter (status.hasFlag activityResumed) := by
  cases event with
  | created => exact absurd rfl notCreated
  | resumed => exact flag_or_self (by decide) _
  | paused => exact flag_and_not_self (by decide) _
  | stopped => exact flag_and_not_self (by decide) _
  | destroyed => exact destroyed_flag (by decide)
  | started => exact flag_or_other (by decide) _
  | windowCreated => exact flag_or_other (by decide) _
  | focusGained => exact flag_or_other (by decide) _
  | rendererReady => exact flag_or_other (by decide) _
  | windowDestroyed => exact flag_and_not (by decide) _
  | focusLost => exact flag_and_not (by decide) _
  | rendererFailed => exact (flag_or_other (by decide) _).trans (flag_and_not (by decide) _)
  | nativeBinderStatus => rfl

theorem lifecycleTransition_window (status : ActivityStatus) (record : LifecycleRecord) (event : LifecycleEvent)
    (notCreated : event ≠ .created) :
    (lifecycleTransition status record event).hasFlag activityWindowPresent =
      event.windowAfter (status.hasFlag activityWindowPresent) := by
  cases event with
  | created => exact absurd rfl notCreated
  | windowCreated => exact flag_or_self (by decide) _
  | rendererReady => exact flag_or_self (by decide) _
  | rendererFailed => exact flag_or_self (by decide) _
  | windowDestroyed => exact flag_and_not_self (by decide) _
  | destroyed => exact destroyed_flag (by decide)
  | started => exact flag_or_other (by decide) _
  | resumed => exact flag_or_other (by decide) _
  | focusGained => exact flag_or_other (by decide) _
  | paused => exact flag_and_not (by decide) _
  | stopped => exact flag_and_not (by decide) _
  | focusLost => exact flag_and_not (by decide) _
  | nativeBinderStatus => rfl

theorem applyLifecycleEvent_flags {status next : ActivityStatus} {record : LifecycleRecord} {receivedNs : UInt64}
    {event : LifecycleEvent} (isEvent : event.code = record.event)
    (applied : applyLifecycleEvent status record receivedNs = .ok next) :
    next.resumed = event.resumedAfter status.resumed ∧
      next.windowPresent = event.windowAfter status.windowPresent := by
  obtain ⟨guarded, other, passed, sameEvent, -, flags, -, -⟩ := applyLifecycleEvent_cases applied
  cases LifecycleEvent.code_injective (isEvent.trans sameEvent.symm)
  have resumed : next.resumed = (lifecycleTransition guarded record event).hasFlag activityResumed := by
    simp only [ActivityStatus.resumed, ActivityStatus.hasFlag, flags]
  have window : next.windowPresent = (lifecycleTransition guarded record event).hasFlag activityWindowPresent := by
    simp only [ActivityStatus.windowPresent, ActivityStatus.hasFlag, flags]
  rw [resumed, window]
  unfold lifecycleGuard at passed
  by_cases created : record.event = LifecycleEvent.created.code
  · cases LifecycleEvent.code_injective (isEvent.trans created)
    rw [if_pos created] at passed
    split at passed
    · cases passed
    · cases passed
      have resumed : activityCreated &&& activityResumed = 0 := by decide
      have window : activityCreated &&& activityWindowPresent = 0 := by decide
      unfold ActivityStatus.hasFlag lifecycleTransition
      dsimp only
      rw [resumed, window]
      exact ⟨rfl, rfl⟩
  · rw [if_neg created] at passed
    split at passed
    · cases passed
    · cases passed
      have notCreated : event ≠ .created := by
        rintro rfl
        exact created isEvent.symm
      exact ⟨lifecycleTransition_resumed _ _ _ notCreated, lifecycleTransition_window _ _ _ notCreated⟩

theorem lifecycleDecodeRecord_event {record decoded : LifecycleRecord} {wire : Buffer}
    (encoded : lifecycleEncodeRecord record = .ok wire) (read : lifecycleDecodeRecord wire = .ok decoded) :
    decoded.event = record.event := by
  unfold lifecycleEncodeRecord at encoded
  split at encoded
  · cases encoded
  cases encoded
  unfold lifecycleDecodeRecord at read
  split at read
  · cases read
  dsimp only at read
  split at read
  · cases read
    dsimp only
    rw [getU16_copyInto_apart _ _ _ _ (by omega)]
    simp
  · cases read

theorem acceptedRecord_decoded {token : Buffer} {status : ActivityStatus} {wire : Buffer} {receivedNs : UInt64}
    {record : LifecycleRecord} (taken : acceptedRecord token status ⟨some wire, receivedNs⟩ = some record) :
    lifecycleDecodeRecord wire = .ok record := by
  unfold acceptedRecord at taken
  dsimp only at taken
  split at taken
  · cases taken
  rename_i decoded read
  split at taken
  · cases taken
  split at taken
  · cases taken
  · cases taken
    exact read

namespace VisibleHost

variable {host : VisibleHost}

structure SameHost (host next : VisibleHost) : Prop where
  renderers : next.renderers = host.renderers
  actions : next.actions = host.actions
  resumed : next.activityResumed = host.activityResumed
  window : next.activityWindowPresent = host.activityWindowPresent
  called : next.called = host.called

theorem emitLifecycle_same (host : VisibleHost) (event : LifecycleEvent) (width height : UInt32)
    (choice : EmitChoice) : SameHost host (host.emitLifecycle event width height choice) := by
  unfold emitLifecycle
  split
  · exact ⟨rfl, rfl, rfl, rfl, rfl⟩
  split
  · exact ⟨rfl, rfl, rfl, rfl, rfl⟩
  split
  · exact ⟨rfl, rfl, rfl, rfl, rfl⟩
  dsimp only
  split <;> exact ⟨rfl, rfl, rfl, rfl, rfl⟩

theorem emitLifecycle_taken {event : LifecycleEvent} {width height : UInt32} {choice : EmitChoice}
    (configured : (host.emitLifecycle event width height choice).lifecycle.configured = true) :
    host.lifecycle.configured = true ∧
      (host.emitLifecycle event width height choice).service.resumed =
        event.resumedAfter host.service.resumed ∧
      (host.emitLifecycle event width height choice).service.windowPresent =
        event.windowAfter host.service.windowPresent := by
  unfold emitLifecycle at configured ⊢
  split at configured
  · rename_i off
    rw [configured] at off
    cases off
  rename_i on
  rw [if_neg on]
  have isOn : host.lifecycle.configured = true := by simpa using on
  refine ⟨isOn, ?_⟩
  split at configured
  · cases configured
  rename_i wire encoded
  split at configured
  · cases configured
  rename_i arrives
  rw [if_neg arrives]
  dsimp only at configured ⊢
  split at configured
  · cases configured
  rename_i taken
  rw [if_neg taken]
  obtain ⟨record, isRecord⟩ := Option.isSome_iff_exists.mp (by simpa [Option.isSome_iff_ne_none] using taken)
  rcases handleActivityConnection_cases host.serviceToken host.service ⟨some wire, choice.receivedNs⟩ with
    ⟨refused, -⟩ | ⟨accepted, isAccepted, -, applied⟩
  · rw [refused] at isRecord
    cases isRecord
  · have read := acceptedRecord_decoded isAccepted
    have isEvent := lifecycleDecodeRecord_event encoded read
    exact applyLifecycleEvent_flags isEvent.symm applied

end VisibleHost

namespace HostAction

def serviceResumed (resumed : Bool) : HostAction → Bool
  | emit event _ _ => event.resumedAfter resumed
  | _ => resumed

def serviceWindow (window : Bool) : HostAction → Bool
  | emit event _ _ => event.windowAfter window
  | _ => window

def hostResumed (resumed : Bool) : HostAction → Bool
  | storeResumed value => value
  | _ => resumed

def hostWindow (window : Bool) : HostAction → Bool
  | storeWindowPresent value => value
  | _ => window

def reports : HostAction → Bool
  | request (some _) => true
  | emit .rendererFailed _ _ => true
  | _ => false

def reportsDestroyed : HostAction → Bool
  | emit .windowDestroyed _ _ => true
  | _ => false

theorem serviceWindow_cases (action : HostAction) :
    (∀ window, action.serviceWindow window = window) ∨
      ∃ value, ∀ window, action.serviceWindow window = value := by
  cases action with
  | emit event width height =>
      cases event <;> first | exact Or.inl fun _ => rfl | exact Or.inr ⟨_, fun _ => rfl⟩
  | _ => exact Or.inl fun _ => rfl

theorem foldl_window_true (actions : List HostAction) : ∀ window,
    actions.foldl serviceWindow window = true → actions.foldl serviceWindow true = true := by
  induction actions with
  | nil =>
      intro window _
      rfl
  | cons action rest ih =>
      intro window settles
      rw [List.foldl_cons] at settles ⊢
      rcases serviceWindow_cases action with same | ⟨value, set⟩
      · rw [same]
        exact ih _ settles
      · rw [set] at settles ⊢
        exact settles

/-- Once the window is reported destroyed, the flag before does not matter. -/
theorem foldl_window_destroyed {actions : List HostAction} {action : HostAction} (pending : action ∈ actions)
    (destroyed : action.reportsDestroyed = true) : ∀ window other,
    actions.foldl serviceWindow window = actions.foldl serviceWindow other := by
  induction actions with
  | nil => cases pending
  | cons head rest ih =>
      intro window other
      rw [List.foldl_cons, List.foldl_cons]
      rcases List.mem_cons.mp pending with here | later
      · rw [← here]
        unfold reportsDestroyed at destroyed
        split at destroyed
        · rfl
        · cases destroyed
      · exact ih later _ _

end HostAction

theorem HostCallback.actions_report {callback : HostCallback} {retained : Bool}
    (reports : (callback.actions retained).any HostAction.reports = true) :
    ∃ window width height, callback = .windowCreated window width height := by
  cases callback with
  | windowCreated window width height => exact ⟨window, width, height, rfl⟩
  | windowDestroyed installed => cases retained <;> cases installed <;> cases reports
  | focusChanged hasFocus => cases hasFocus <;> cases reports
  | _ => cases reports

namespace VisibleHost

variable {host : VisibleHost}

def Follows (host : VisibleHost) : HostCallback → Prop
  | .resume => host.stageLast = some .start ∨ host.stageLast = some .pause
  | .stop => host.stageLast = some .pause
  | .windowCreated _ _ _ => host.windowLast = false
  | .windowDestroyed _ => host.windowLast = true
  | _ => True

def Legal (host : VisibleHost) : HostInput → Prop
  | .callback callback => host.actions = [] → host.Follows callback
  | _ => True

/-- The Activity is not paused while it has a window. -/
def PausesWithoutWindow (host : VisibleHost) : HostInput → Prop
  | .callback .pause => host.actions = [] → host.windowLast = false
  | _ => True

def ReportsInTime (host : VisibleHost) : HostInput → Prop
  | .work _ _ => host.renderers.worker.emission.isSome = true →
      host.windowLast = true ∨ ∃ action ∈ host.actions, action.reportsDestroyed = true
  | _ => True

/-- When no callback is under way and every record was taken, both views are the same. -/
def Agreed (host : VisibleHost) : Prop :=
  host.lifecycle.configured = true → host.actions = [] →
    host.service.resumed = host.activityResumed ∧ host.activityResumed = host.resumedLast ∧
      host.service.windowPresent = host.activityWindowPresent ∧ host.activityWindowPresent = host.windowLast

instance (host : VisibleHost) : (callback : HostCallback) → Decidable (host.Follows callback)
  | .resume => inferInstanceAs (Decidable (_ ∨ _))
  | .stop => inferInstanceAs (Decidable (_ = _))
  | .windowCreated _ _ _ => inferInstanceAs (Decidable (_ = _))
  | .windowDestroyed _ => inferInstanceAs (Decidable (_ = _))
  | .start | .pause | .focusChanged _ | .windowResized _ | .windowRedrawNeeded _ | .destroy => .isTrue trivial

instance (host : VisibleHost) : (input : HostInput) → Decidable (host.Legal input)
  | .callback callback => inferInstanceAs (Decidable (host.actions = [] → host.Follows callback))
  | .proceed _ | .work _ _ | .spurious => .isTrue trivial

instance (host : VisibleHost) : Decidable host.Agreed :=
  inferInstanceAs (Decidable (host.lifecycle.configured = true → host.actions = [] → _ ∧ _))

/-- The flags once the callback under way has ended. -/
structure Settled (host : VisibleHost) : Prop where
  serviceResumed : host.actions.foldl HostAction.serviceResumed host.service.resumed = host.resumedLast
  serviceWindow : host.actions.foldl HostAction.serviceWindow host.service.windowPresent = host.windowLast
  hostResumed : host.actions.foldl HostAction.hostResumed host.activityResumed = host.resumedLast
  hostWindow : host.actions.foldl HostAction.hostWindow host.activityWindowPresent = host.windowLast

structure Tracks (host : VisibleHost) : Prop where
  paused : host.stageLast = some .pause → host.resumedLast = false
  reports : ∀ action ∈ host.actions, action.reports = true → host.windowLast = true
  settled : host.lifecycle.configured = true → .disable ∉ host.actions → host.Settled

theorem create_tracks (visibleIngress retained : Bool) (token serviceToken : Buffer) (activityPid : UInt32)
    (service : ActivityStatus) (binderStatus : UInt32) :
    Tracks (create visibleIngress retained token serviceToken activityPid service binderStatus) := by
  constructor
  · intro stage
    cases stage
  · intro action member reports
    simp only [create, List.mem_cons, List.not_mem_nil, or_false] at member
    rcases member with rfl | rfl <;> cases reports
  · intro _ _
    exact ⟨rfl, rfl, rfl, rfl⟩

theorem Tracks.agreed (tracks : host.Tracks) : host.Agreed := by
  intro configured idle
  have settled := tracks.settled configured (by rw [idle]; exact List.not_mem_nil)
  have serviceResumed := settled.serviceResumed
  have serviceWindow := settled.serviceWindow
  have hostResumed := settled.hostResumed
  have hostWindow := settled.hostWindow
  rw [idle] at serviceResumed serviceWindow hostResumed hostWindow
  exact ⟨serviceResumed.trans hostResumed.symm, hostResumed, serviceWindow.trans hostWindow.symm, hostWindow⟩

theorem Tracks.rest {next : VisibleHost} (tracks : host.Tracks) (called : next.called = host.called)
    (kept : ∀ action ∈ next.actions, action.reports = true → host.windowLast = true)
    (settles : next.lifecycle.configured = true → .disable ∉ next.actions → next.Settled) : next.Tracks := by
  have sameResumed : next.resumedLast = host.resumedLast := by rw [resumedLast, called, resumedLast]
  have sameWindow : next.windowLast = host.windowLast := by rw [windowLast, called, windowLast]
  have sameStage : next.stageLast = host.stageLast := by rw [stageLast, called, stageLast]
  constructor
  · rw [sameStage, sameResumed]
    exact tracks.paused
  · rw [sameWindow]
    exact kept
  · exact settles

/-- The host when a callback begins. -/
def begun (host : VisibleHost) (callback : HostCallback) : VisibleHost :=
  { host with actions := callback.actions host.renderers.retained, called := host.called ++ [callback] }

theorem begun_resumedLast (host : VisibleHost) (callback : HostCallback) :
    (host.begun callback).resumedLast = callback.resumedAfter host.resumedLast :=
  List.foldl_append

theorem begun_windowLast (host : VisibleHost) (callback : HostCallback) :
    (host.begun callback).windowLast = callback.windowAfter host.windowLast :=
  List.foldl_append

theorem begun_stageLast (host : VisibleHost) (callback : HostCallback) :
    (host.begun callback).stageLast = callback.stageAfter host.stageLast :=
  List.foldl_append

theorem begun_settled {callback : HostCallback} (serviceResumed : host.service.resumed = host.resumedLast)
    (serviceWindow : host.service.windowPresent = host.windowLast)
    (hostResumed : host.activityResumed = host.resumedLast)
    (hostWindow : host.activityWindowPresent = host.windowLast)
    (paused : host.stageLast = some .pause → host.resumedLast = false)
    (follows : host.Follows callback) (pauses : callback = .pause → host.windowLast = false)
    (kept : .disable ∉ callback.actions host.renderers.retained) : (host.begun callback).Settled := by
  constructor
  · rw [begun_resumedLast, ← serviceResumed]
    cases callback with
    | stop =>
        rw [serviceResumed]
        exact (paused follows).symm
    | destroy => exact absurd (by simp [HostCallback.actions, scheduleActions]) kept
    | focusChanged hasFocus => cases hasFocus <;> rfl
    | windowDestroyed installed =>
        unfold begun HostCallback.actions
        dsimp only
        split <;> rfl
    | _ => rfl
  · rw [begun_windowLast, ← serviceWindow]
    cases callback with
    | destroy => exact absurd (by simp [HostCallback.actions, scheduleActions]) kept
    | focusChanged hasFocus => cases hasFocus <;> rfl
    | windowDestroyed installed =>
        unfold begun HostCallback.actions
        dsimp only
        split <;> rfl
    | _ => rfl
  · rw [begun_resumedLast, ← hostResumed]
    cases callback with
    | destroy => exact absurd (by simp [HostCallback.actions, scheduleActions]) kept
    | windowDestroyed installed =>
        unfold begun HostCallback.actions
        dsimp only
        split <;> rfl
    | _ => rfl
  · rw [begun_windowLast, ← hostWindow]
    cases callback with
    | pause =>
        rw [hostWindow]
        exact (pauses rfl).symm
    | destroy => exact absurd (by simp [HostCallback.actions, scheduleActions]) kept
    | windowDestroyed installed =>
        unfold begun HostCallback.actions
        dsimp only
        split <;> rfl
    | _ => rfl

theorem begun_tracks (tracks : host.Tracks) (idle : host.actions = []) {callback : HostCallback}
    (follows : host.Follows callback) (pauses : callback = .pause → host.windowLast = false) :
    (host.begun callback).Tracks := by
  constructor
  · rw [begun_stageLast, begun_resumedLast]
    cases callback with
    | start => exact nofun
    | resume => exact nofun
    | stop => exact nofun
    | pause => exact fun _ => rfl
    | _ => exact tracks.paused
  · intro action member reports
    rw [begun_windowLast]
    obtain ⟨window, width, height, rfl⟩ := HostCallback.actions_report (List.any_eq_true.mpr ⟨action, member, reports⟩)
    rfl
  · intro configured kept
    have settled := tracks.settled configured (by rw [idle]; exact List.not_mem_nil)
    have agreed := tracks.agreed configured idle
    obtain ⟨sameResumed, resumed, sameWindow, window⟩ := agreed
    exact begun_settled (sameResumed.trans resumed) (sameWindow.trans window) resumed window tracks.paused follows
      pauses kept

theorem emit_settled {next : VisibleHost} {event : LifecycleEvent} {width height : UInt32} {choice : EmitChoice}
    {rest : List HostAction} (settled : host.Settled) (actions : host.actions = .emit event width height :: rest)
    (emits : next = { host with actions := rest }.emitLifecycle event width height choice)
    (configured : next.lifecycle.configured = true) : next.Settled := by
  subst emits
  obtain ⟨-, resumed, window⟩ := emitLifecycle_taken configured
  have same := emitLifecycle_same { host with actions := rest } event width height choice
  have serviceResumed := settled.serviceResumed
  have serviceWindow := settled.serviceWindow
  have hostResumed := settled.hostResumed
  have hostWindow := settled.hostWindow
  rw [actions] at serviceResumed serviceWindow hostResumed hostWindow
  constructor
  · rw [same.actions, resumed, resumedLast, same.called]
    exact serviceResumed
  · rw [same.actions, window, windowLast, same.called]
    exact serviceWindow
  · rw [same.actions, same.resumed, resumedLast, same.called]
    exact hostResumed
  · rw [same.actions, same.window, windowLast, same.called]
    exact hostWindow

theorem emit_tracks (tracks : host.Tracks) {event : LifecycleEvent} {width height : UInt32} {choice : EmitChoice}
    {rest : List HostAction} (actions : host.actions = .emit event width height :: rest) :
    ({ host with actions := rest }.emitLifecycle event width height choice).Tracks := by
  have same := emitLifecycle_same { host with actions := rest } event width height choice
  refine tracks.rest same.called ?_ ?_
  · intro action member reports
    rw [same.actions] at member
    exact tracks.reports action (by rw [actions]; exact List.mem_cons_of_mem _ member) reports
  · intro configured kept
    rw [same.actions] at kept
    obtain ⟨wasConfigured, -, -⟩ := emitLifecycle_taken configured
    refine emit_settled (tracks.settled wasConfigured ?_) actions rfl configured
    rw [actions]
    intro member
    rcases List.mem_cons.mp member with here | later
    · cases here
    · exact kept later

theorem quiet_tracks (tracks : host.Tracks) {next : VisibleHost} {action : HostAction} {rest : List HostAction}
    (actions : host.actions = action :: rest) (nextActions : next.actions = rest) (called : next.called = host.called)
    (service : next.service = host.service) (lifecycle : next.lifecycle = host.lifecycle)
    (notDisable : action ≠ .disable) (silentResumed : ∀ resumed, action.serviceResumed resumed = resumed)
    (silentWindow : ∀ window, action.serviceWindow window = window)
    (resumed : next.activityResumed = action.hostResumed host.activityResumed)
    (window : next.activityWindowPresent = action.hostWindow host.activityWindowPresent) : next.Tracks := by
  refine tracks.rest called ?_ ?_
  · intro other member reports
    rw [nextActions] at member
    exact tracks.reports other (by rw [actions]; exact List.mem_cons_of_mem _ member) reports
  · intro configured kept
    rw [lifecycle] at configured
    have settled := tracks.settled configured (by
      rw [actions]
      intro member
      rcases List.mem_cons.mp member with here | later
      · exact notDisable here.symm
      · rw [nextActions] at kept
        exact kept later)
    have serviceResumed := settled.serviceResumed
    have serviceWindow := settled.serviceWindow
    have hostResumed := settled.hostResumed
    have hostWindow := settled.hostWindow
    rw [actions, List.foldl_cons] at serviceResumed serviceWindow hostResumed hostWindow
    constructor
    · rw [nextActions, service, resumedLast, called]
      rw [silentResumed] at serviceResumed
      exact serviceResumed
    · rw [nextActions, service, windowLast, called]
      rw [silentWindow] at serviceWindow
      exact serviceWindow
    · rw [nextActions, resumed, resumedLast, called]
      exact hostResumed
    · rw [nextActions, window, windowLast, called]
      exact hostWindow

theorem failureReport_cases (host : VisibleHost) (reported : Option (UInt32 × UInt32)) (created : Option Errno) :
    host.failureReport reported created = [] ∨
      ∃ width height, reported = some (width, height) ∧
        host.failureReport reported created = [.emit .rendererFailed width height] := by
  unfold failureReport
  split
  · rename_i width height _
    split
    · exact Or.inr ⟨width, height, rfl, rfl⟩
    · exact Or.inl rfl
  · exact Or.inl rfl

theorem request_tracks (tracks : host.Tracks) {reported : Option (UInt32 × UInt32)} {rest : List HostAction}
    (actions : host.actions = .request reported :: rest) (created : Option Errno) :
    { host with
      actions := rest ++ host.failureReport reported created
      renderers := host.renderers.enter 0 created }.Tracks := by
  have plain : { host with actions := rest, renderers := host.renderers.enter 0 created }.Tracks :=
    quiet_tracks tracks actions rfl rfl rfl rfl nofun (fun _ => rfl) (fun _ => rfl) rfl rfl
  rcases host.failureReport_cases reported created with none | ⟨width, height, rfl, report⟩
  · rw [none, List.append_nil]
    exact plain
  · have window : host.windowLast = true :=
      tracks.reports (.request (some (width, height))) (by rw [actions]; exact List.mem_cons_self) rfl
    rw [report]
    refine plain.rest rfl ?_ ?_
    · intro _ _ _
      exact window
    · intro configured kept
      have settled := plain.settled configured (fun member => kept (List.mem_append_left _ member))
      constructor
      · refine Eq.trans ?_ settled.serviceResumed
        exact List.foldl_append
      · refine Eq.trans ?_ window.symm
        exact List.foldl_append
      · refine Eq.trans ?_ settled.hostResumed
        exact List.foldl_append
      · refine Eq.trans ?_ settled.hostWindow
        exact List.foldl_append

theorem proceed_tracks (tracks : host.Tracks) (choice : HostChoice) : (host.proceed choice).Tracks := by
  unfold proceed
  split
  · exact tracks
  · rename_i value rest actions
    exact quiet_tracks tracks actions rfl rfl rfl rfl nofun (fun _ => rfl) (fun _ => rfl) rfl rfl
  · rename_i value rest actions
    exact quiet_tracks tracks actions rfl rfl rfl rfl nofun (fun _ => rfl) (fun _ => rfl) rfl rfl
  · rename_i event width height rest actions
    exact emit_tracks tracks actions
  · rename_i window force rest actions
    exact quiet_tracks tracks actions rfl rfl rfl rfl nofun (fun _ => rfl) (fun _ => rfl) rfl rfl
  · rename_i reported rest actions
    split
    · exact tracks
    · exact request_tracks tracks actions choice.created
  · rename_i rest actions
    exact quiet_tracks tracks actions rfl rfl rfl rfl nofun (fun _ => rfl) (fun _ => rfl) rfl rfl
  · rename_i rest actions
    refine tracks.rest rfl ?_ ?_
    · intro action member reports
      exact tracks.reports action (by rw [actions]; exact List.mem_cons_of_mem _ member) reports
    · intro configured
      cases configured

theorem emission_event {worker : RendererWorker} {event : LifecycleEvent} {width height : UInt32}
    (emits : worker.emission = some (event, width, height)) :
    event = .rendererReady ∨ event = .rendererFailed := by
  unfold RendererWorker.emission at emits
  split at emits
  · rename_i success
    cases success <;> cases emits
    · exact Or.inr rfl
    · exact Or.inl rfl
  · cases emits
    exact Or.inr rfl
  · cases emits

theorem work_tracks (tracks : host.Tracks) (choice : WorkerChoice) (emission : EmitChoice)
    (inTime : host.ReportsInTime (.work choice emission)) : (host.work choice emission).Tracks := by
  unfold work
  dsimp only
  split
  · exact tracks.rest rfl tracks.reports (fun configured kept =>
      have settled := tracks.settled configured kept
      ⟨settled.serviceResumed, settled.serviceWindow, settled.hostResumed, settled.hostWindow⟩)
  · rename_i event width height emits
    have same := emitLifecycle_same { host with renderers := host.renderers.work choice } event width height emission
    refine tracks.rest same.called ?_ ?_
    · rw [same.actions]
      exact tracks.reports
    · intro configured kept
      obtain ⟨wasConfigured, resumed, window⟩ := emitLifecycle_taken configured
      rw [same.actions] at kept
      have settled := tracks.settled wasConfigured kept
      have inTime := inTime (by rw [emits]; rfl)
      have event : event.resumedAfter host.service.resumed = host.service.resumed ∧
          event.windowAfter host.service.windowPresent = true := by
        rcases emission_event emits with rfl | rfl
        · exact ⟨rfl, rfl⟩
        · exact ⟨rfl, rfl⟩
      constructor
      · rw [same.actions, resumed, event.1, resumedLast, same.called]
        exact settled.serviceResumed
      · rw [same.actions, window, event.2, windowLast, same.called]
        refine Eq.trans ?_ settled.serviceWindow
        rcases inTime with created | ⟨action, pending, destroyed⟩
        · rw [settled.serviceWindow, created]
          exact HostAction.foldl_window_true _ _ (settled.serviceWindow.trans created)
        · exact HostAction.foldl_window_destroyed pending destroyed _ _
      · rw [same.actions, same.resumed, resumedLast, same.called]
        exact settled.hostResumed
      · rw [same.actions, same.window, windowLast, same.called]
        exact settled.hostWindow

theorem step_tracks (tracks : host.Tracks) (input : HostInput) (legal : host.Legal input)
    (pauses : host.PausesWithoutWindow input) (inTime : host.ReportsInTime input) : (host.step input).Tracks := by
  cases input with
  | callback callback =>
      unfold step
      dsimp only
      split
      · rename_i empty
        have idle : host.actions = [] := by simpa using empty
        refine begun_tracks tracks idle (legal idle) ?_
        rintro rfl
        exact pauses idle
      · exact tracks
  | proceed choice => exact proceed_tracks tracks choice
  | work choice emission => exact work_tracks tracks choice emission inTime
  | spurious =>
      exact tracks.rest rfl tracks.reports (fun configured kept =>
        have settled := tracks.settled configured kept
        ⟨settled.serviceResumed, settled.serviceWindow, settled.hostResumed, settled.hostWindow⟩)

end VisibleHost

end VulkanBridge
