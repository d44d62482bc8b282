import VulkanBridge.ActivityAgreement
import VulkanBridge.RendererRequests

/-!
When the records of the worker come in time: once nothing is owed on a destroyed
window, only a new window makes the worker report again.
-/

namespace VulkanBridge

open ByteBuffer

namespace HostAction

def shows : HostAction → Bool
  | acquire (some _) _ => true
  | _ => false

end HostAction

/-- Each request of the actions follows the call it is made for, where so many calls wait already. -/
def RequestsPaired : Nat → List HostAction → Prop
  | waiting, [] => waiting = 0
  | waiting, .acquire _ _ :: rest => waiting = 0 ∧ RequestsPaired 1 rest
  | waiting, .request _ :: rest => waiting = 1 ∧ RequestsPaired 0 rest
  | waiting, _ :: rest => RequestsPaired waiting rest

theorem RequestsPaired.report {width height : UInt32} : ∀ {actions : List HostAction} {waiting : Nat},
    RequestsPaired waiting actions → RequestsPaired waiting (actions ++ [.emit .rendererFailed width height]) := by
  intro actions
  induction actions with
  | nil =>
      intro waiting paired
      exact paired
  | cons action rest ih =>
      intro waiting paired
      cases action with
      | acquire window force => exact ⟨paired.1, ih paired.2⟩
      | request reported => exact ⟨paired.1, ih paired.2⟩
      | _ => exact ih paired

theorem Renderer.schedule_hidden {renderer : Renderer} {call : ScheduleCall} (none : call.window = none)
    (created : Option Errno) :
    (renderer.schedule call created).renderer = renderer ∨
      (renderer.schedule call created).renderer.window = Option.none := by
  unfold schedule
  split
  · unfold request
    split
    · exact Or.inl rfl
    · split
      · exact Or.inl rfl
      · exact Or.inr none
  · rw [none]
    exact Or.inl rfl

theorem Handling.pending {renderer : Renderer} {generation : UInt64} {window : Option WindowReference}
    (handling : Handling renderer generation window) : renderer.pending = true := by
  have unfinished := handling.unfinished
  have requested := handling.requested
  refine bne_iff_ne.mpr ?_
  intro same
  rw [same] at requested
  omega

def RendererWorker.beats : RendererWorker → Bool
  | heartbeat _ _ _ _ | rendering _ _ _ _ | heartbeatFailed _ _ _ _ => true
  | _ => false

/-- The worker is past the section that decides on a record, which it did not emit yet. -/
def RendererWorker.decided : RendererWorker → Bool
  | announcing _ _ _ _ _ => true
  | failureNoted _ _ _ _ current => current
  | _ => false

theorem RendererWorker.emission_isSome (worker : RendererWorker) : worker.emission.isSome = worker.decided := by
  cases worker with
  | failureNoted generation window width height current => cases current <;> rfl
  | _ => rfl

namespace RendererSystem

variable {system : RendererSystem}

/-- A record on the window of the renderer may still come: it is decided on, or the latest
request is not completed, or the worker draws on the window. -/
def owesReport (system : RendererSystem) : Bool :=
  system.worker.decided ||
    (system.renderer.window.isSome && (system.renderer.pending || system.worker.beats))

theorem owesReport_eq_false_iff : system.owesReport = false ↔
    system.worker.decided = false ∧
      (system.renderer.window.isSome = true → system.renderer.pending = false ∧ system.worker.beats = false) := by
  unfold owesReport
  cases system.worker.decided <;> cases system.renderer.window <;> simp

theorem owesReport_hidden (silent : system.worker.decided = false) (hidden : system.renderer.window = none) :
    system.owesReport = false := by
  refine owesReport_eq_false_iff.mpr ⟨silent, ?_⟩
  intro shown
  rw [hidden] at shown
  cases shown

/-- After a step of the worker that decides on nothing and does not beat no more is owed than before. -/
theorem owesReport_still {next : RendererSystem} (quiet : system.owesReport = false)
    (renderer : next.renderer = system.renderer) (silent : next.worker.decided = false)
    (rests : next.worker.beats = false) : next.owesReport = false := by
  obtain ⟨-, settled⟩ := owesReport_eq_false_iff.mp quiet
  refine owesReport_eq_false_iff.mpr ⟨silent, ?_⟩
  intro shown
  rw [renderer] at shown ⊢
  exact ⟨(settled shown).1, rests⟩

def BeatsOnWindow (system : RendererSystem) : Prop :=
  system.worker.beats = true → system.worker.reference.isSome = true

theorem afterCreation_beats {generation : UInt64} {window : Option WindowReference} {width height : UInt32}
    {success current : Bool} (shown : success = true → window.isSome = true) :
    (system.afterCreation generation window width height success current).beats = true →
      (system.afterCreation generation window width height success current).reference.isSome = true := by
  unfold afterCreation
  split
  · rename_i beats
    intro _
    simp only [Bool.and_eq_true] at beats
    exact shown beats.1.1.1
  · exact nofun

theorem work_beats (coherent : system.Coherent) (onWindow : system.BeatsOnWindow) (choice : WorkerChoice) :
    (system.work choice).BeatsOnWindow := by
  have facts := coherent.facts
  unfold BeatsOnWindow at onWindow ⊢
  unfold work
  cases stands : system.worker with
  | created generation window width height success =>
      rw [stands] at facts
      have shown : success = true → window.isSome = true := by
        intro succeeded
        obtain ⟨reference, rfl, -⟩ := facts.2 succeeded
        rfl
      dsimp only [complete]
      split
      · dsimp only
        split
        · exact nofun
        · exact afterCreation_beats shown
      · exact afterCreation_beats shown
  | announcing generation window width height success =>
      rw [stands] at facts
      exact afterCreation_beats fun _ => facts.2.2.2
  | heartbeat generation window width height =>
      rw [stands] at onWindow
      dsimp only
      split
      · exact onWindow
      · exact nofun
  | rendering generation window width height =>
      rw [stands] at onWindow
      dsimp only
      split <;> exact onWindow
  | entering handled =>
      dsimp only [take]
      split <;> exact nofun
  | cleared generation window => cases window <;> exact nofun
  | absent => exact fun beats => absurd (stands ▸ beats) nofun
  | waiting handled => exact fun beats => absurd (stands ▸ beats) nofun
  | _ => exact nofun

theorem afterCreation_silent {generation : UInt64} {window : Option WindowReference} {width height : UInt32}
    {success current : Bool} :
    (system.afterCreation generation window width height success current).decided = false := by
  unfold afterCreation
  split <;> rfl

theorem signalled_cases (system : RendererSystem) (renderer : Renderer) :
    system.signalled renderer = system.worker ∨
      ((system.signalled renderer).decided = false ∧ (system.signalled renderer).beats = false) := by
  unfold signalled
  split
  · rename_i stands
    split
    · exact Or.inr ⟨rfl, rfl⟩
    · exact Or.inl stands.symm
  · rename_i handled stands
    split
    · exact Or.inl stands.symm
    · exact Or.inr ⟨rfl, rfl⟩
  · exact Or.inl rfl

theorem enter_beats (onWindow : system.BeatsOnWindow) (index : Nat) (created : Option Errno) :
    (system.enter index created).BeatsOnWindow := by
  unfold enter
  split
  · exact onWindow
  split
  · exact onWindow
  · unfold BeatsOnWindow
    dsimp only
    rcases system.signalled_cases _ with same | ⟨-, rests⟩
    · rw [same]
      exact onWindow
    · rw [rests]
      exact nofun

theorem enter_quiet (quiet : system.owesReport = false) (hidden : ∀ call ∈ system.calls, call.window = none)
    (index : Nat) (created : Option Errno) : (system.enter index created).owesReport = false := by
  unfold enter
  split
  · exact quiet
  rename_i call found
  split
  · exact quiet
  obtain ⟨silent, settled⟩ := owesReport_eq_false_iff.mp quiet
  have undecided : (system.signalled (system.renderer.schedule call created).renderer).decided = false := by
    rcases system.signalled_cases (system.renderer.schedule call created).renderer with same | ⟨none, -⟩
    · rw [same]
      exact silent
    · exact none
  rcases system.renderer.schedule_hidden (hidden call (List.mem_of_getElem? found)) created with
    same | gone
  · refine owesReport_eq_false_iff.mpr ⟨undecided, ?_⟩
    dsimp only
    rw [same]
    intro shown
    refine ⟨(settled shown).1, ?_⟩
    rcases system.signalled_cases system.renderer with same | ⟨-, rests⟩
    · rw [same]
      exact (settled shown).2
    · exact rests
  · exact owesReport_hidden undecided gone

theorem work_calls (system : RendererSystem) (choice : WorkerChoice) : (system.work choice).calls = system.calls := by
  unfold work
  split
  · rfl
  · rfl
  · unfold take
    split <;> rfl
  · rfl
  · rfl
  · rfl
  · unfold complete
    dsimp only
    split <;> rfl
  · rfl
  · split <;> rfl
  · split <;> rfl
  · rfl
  · rfl
  · rfl
  · rfl
  · rfl

theorem work_quiet (coherent : system.Coherent) (onWindow : system.BeatsOnWindow) (quiet : system.owesReport = false)
    (choice : WorkerChoice) : (system.work choice).owesReport = false := by
  have facts := coherent.facts
  obtain ⟨silent, settled⟩ := owesReport_eq_false_iff.mp quiet
  have unshown : system.worker.beats = true ∨ system.renderer.pending = true → system.renderer.window = none := by
    intro busy
    cases window : system.renderer.window with
    | none => rfl
    | some reference =>
        obtain ⟨finished, rests⟩ := settled (by rw [window]; rfl)
        rw [finished, rests] at busy
        rcases busy with busy | busy <;> cases busy
  unfold work
  cases stands : system.worker with
  | entering handled =>
      rw [stands] at facts
      dsimp only [take]
      split
      · exact owesReport_still quiet rfl rfl rfl
      · rename_i other
        refine owesReport_hidden rfl (unshown (Or.inr (bne_iff_ne.mpr ?_)))
        rw [show system.renderer.completedGeneration = handled from facts]
        exact other
  | created generation window width height success =>
      rw [stands] at facts
      obtain ⟨handling, created⟩ := facts
      have hidden := unshown (Or.inr handling.pending)
      dsimp only [complete]
      split
      · rename_i isCurrent
        obtain ⟨-, same⟩ := current_true.mp isCurrent
        rw [hidden] at same
        have empty : window = none := by
          cases window with
          | none => rfl
          | some reference => cases same
        subst empty
        exact owesReport_hidden afterCreation_silent hidden
      · exact owesReport_hidden afterCreation_silent hidden
  | heartbeat generation window width height =>
      have hidden := unshown (Or.inl (by rw [stands]; rfl))
      dsimp only
      split <;> exact owesReport_hidden rfl hidden
  | rendering generation window width height =>
      have hidden := unshown (Or.inl (by rw [stands]; rfl))
      dsimp only
      split <;> exact owesReport_hidden rfl hidden
  | heartbeatFailed generation window width height =>
      have hidden := unshown (Or.inl (by rw [stands]; rfl))
      have isSome : window.isSome = true := by
        unfold BeatsOnWindow at onWindow
        rw [stands] at onWindow
        exact onWindow rfl
      have late : system.current generation window = false := by
        cases isCurrent : system.current generation window with
        | false => rfl
        | true =>
            obtain ⟨-, same⟩ := current_true.mp isCurrent
            rw [hidden] at same
            cases window with
            | none => cases isSome
            | some reference => cases same
      refine owesReport_hidden ?_ hidden
      dsimp only [noteFailure]
      rw [late]
      rfl
  | announcing generation window width height success =>
      rw [stands] at silent
      cases silent
  | cleared generation window => cases window <;> exact owesReport_still quiet rfl rfl rfl
  | absent => exact quiet
  | waiting handled => exact quiet
  | _ => exact owesReport_still quiet rfl rfl rfl

end RendererSystem

namespace VisibleHost

variable {host : VisibleHost}

/-- A window is resized or redrawn only while it is there. -/
def ResizesPresent (host : VisibleHost) : HostInput → Prop
  | .callback (.windowResized _) | .callback (.windowRedrawNeeded _) => host.actions = [] → host.windowLast = true
  | _ => True

/-- The window is reported destroyed only once the worker owes no record on it. -/
def SettlesDestroyed (host : VisibleHost) : HostInput → Prop
  | .proceed _ =>
      (host.actions.head?.any HostAction.reportsDestroyed) = true → host.renderers.owesReport = false
  | _ => True

/-- No window is on its way to the renderer, which owes no record unless the window is still to be
reported destroyed. -/
structure Gone (host : VisibleHost) : Prop where
  calls : ∀ call ∈ host.renderers.calls, call.window = none
  actions : ∀ action ∈ host.actions, action.shows = false
  quiet : host.renderers.owesReport = false ∨ host.actions.any HostAction.reportsDestroyed = true

structure Timely (host : VisibleHost) : Prop where
  coherent : host.renderers.Coherent
  onWindow : host.renderers.BeatsOnWindow
  paired : RequestsPaired host.renderers.calls.length host.actions
  gone : host.windowLast = false → host.Gone

theorem create_timely (visibleIngress retained : Bool) (token serviceToken : Buffer) (activityPid : UInt32)
    (service : ActivityStatus) (binderStatus : UInt32) :
    Timely (create visibleIngress retained token serviceToken activityPid service binderStatus) := by
  constructor
  · exact RendererSystem.create_coherent visibleIngress retained
  · exact nofun
  · rfl
  · intro _
    refine ⟨nofun, ?_, Or.inl rfl⟩
    intro action member
    simp only [create, List.mem_cons, List.not_mem_nil, or_false] at member
    rcases member with rfl | rfl <;> rfl

theorem Timely.of_same {next : VisibleHost} (timely : host.Timely) (same : SameHost host next) : next.Timely := by
  have window : next.windowLast = host.windowLast := by rw [windowLast, same.called, windowLast]
  constructor
  · rw [same.renderers]
    exact timely.coherent
  · rw [same.renderers]
    exact timely.onWindow
  · rw [same.renderers, same.actions]
    exact timely.paired
  · rw [window]
    intro isGone
    obtain ⟨calls, actions, quiet⟩ := timely.gone isGone
    constructor
    · rw [same.renderers]
      exact calls
    · rw [same.actions]
      exact actions
    · rw [same.renderers, same.actions]
      exact quiet

theorem callback_paired (callback : HostCallback) (retained : Bool) : RequestsPaired 0 (callback.actions retained) := by
  cases callback with
  | windowDestroyed installed =>
      cases retained <;> cases installed <;> simp [HostCallback.actions, scheduleActions, RequestsPaired]
  | _ => simp [HostCallback.actions, scheduleActions, RequestsPaired]

theorem Timely.no_calls (timely : host.Timely) (idle : host.actions = []) : host.renderers.calls = [] := by
  have paired := timely.paired
  rw [idle] at paired
  exact List.eq_nil_of_length_eq_zero paired

theorem begun_timely (timely : host.Timely) (idle : host.actions = []) {callback : HostCallback}
    (resizes : host.ResizesPresent (.callback callback)) : (host.begun callback).Timely := by
  have noCalls := timely.no_calls idle
  constructor
  · exact timely.coherent
  · exact timely.onWindow
  · show RequestsPaired host.renderers.calls.length _
    rw [noCalls]
    exact callback_paired callback host.renderers.retained
  · rw [begun_windowLast]
    intro isGone
    have calls : ∀ call ∈ host.renderers.calls, call.window = none := by
      rw [noCalls]
      exact nofun
    have still : host.windowLast = false →
        (∀ action ∈ callback.actions host.renderers.retained, action.shows = false) → (host.begun callback).Gone := by
      intro wasGone silent
      refine ⟨calls, silent, Or.inl ?_⟩
      rcases (timely.gone wasGone).quiet with quiet | pending
      · exact quiet
      · rw [idle] at pending
        cases pending
    cases callback with
    | windowCreated window width height => cases isGone
    | windowResized window =>
        rw [show host.windowLast = true from resizes idle] at isGone
        cases isGone
    | windowRedrawNeeded window =>
        rw [show host.windowLast = true from resizes idle] at isGone
        cases isGone
    | windowDestroyed installed =>
        refine ⟨calls, ?_, Or.inr ?_⟩
        · unfold begun HostCallback.actions
          dsimp only
          split <;> simp [scheduleActions, HostAction.shows]
        · unfold begun HostCallback.actions
          dsimp only
          rw [List.any_append]
          exact Bool.or_true _
    | focusChanged hasFocus => exact still isGone (by simp [HostCallback.actions, HostAction.shows])
    | start => exact still isGone (by simp [HostCallback.actions, HostAction.shows])
    | resume => exact still isGone (by simp [HostCallback.actions, HostAction.shows])
    | pause => exact still isGone (by simp [HostCallback.actions, HostAction.shows])
    | stop => exact still isGone (by simp [HostCallback.actions, HostAction.shows])
    | destroy => exact still isGone (by simp [HostCallback.actions, scheduleActions, HostAction.shows])

theorem quiet_timely {next : VisibleHost} (timely : host.Timely) {action : HostAction} {rest : List HostAction}
    (actions : host.actions = action :: rest) (nextActions : next.actions = rest) (called : next.called = host.called)
    (renderer : next.renderers.renderer = host.renderers.renderer)
    (worker : next.renderers.worker = host.renderers.worker) (calls : next.renderers.calls = host.renderers.calls)
    (coherent : next.renderers.Coherent)
    (pairs : ∀ waiting, RequestsPaired waiting (action :: rest) → RequestsPaired waiting rest)
    (settles : action.reportsDestroyed = true → host.renderers.owesReport = false) : next.Timely := by
  have window : next.windowLast = host.windowLast := by rw [windowLast, called, windowLast]
  have owes : next.renderers.owesReport = host.renderers.owesReport := by
    rw [RendererSystem.owesReport, renderer, worker, RendererSystem.owesReport]
  constructor
  · exact coherent
  · unfold RendererSystem.BeatsOnWindow
    rw [worker]
    exact timely.onWindow
  · rw [calls, nextActions]
    have paired := timely.paired
    rw [actions] at paired
    exact pairs _ paired
  · rw [window]
    intro isGone
    have gone := timely.gone isGone
    constructor
    · rw [calls]
      exact gone.calls
    · rw [nextActions]
      intro other member
      exact gone.actions other (by rw [actions]; exact List.mem_cons_of_mem _ member)
    · rw [owes, nextActions]
      have quiet := gone.quiet
      rw [actions, List.any_cons] at quiet
      cases destroyed : action.reportsDestroyed with
      | true => exact Or.inl (settles destroyed)
      | false =>
          rw [destroyed, Bool.false_or] at quiet
          exact quiet

theorem acquire_timely (timely : host.Timely) {window : Option Nat} {force : Bool} {rest : List HostAction}
    (actions : host.actions = .acquire window force :: rest) (width height : UInt32) :
    { host with actions := rest, renderers := host.renderers.call window width height force }.Timely := by
  have paired := timely.paired
  rw [actions] at paired
  obtain ⟨noCalls, pairs⟩ := paired
  constructor
  · exact RendererSystem.call_coherent timely.coherent _ _ _ _
  · exact timely.onWindow
  · have isEmpty := List.eq_nil_of_length_eq_zero noCalls
    simpa [RendererSystem.call, isEmpty] using pairs
  · intro isGone
    have gone := timely.gone isGone
    have silent := gone.actions (.acquire window force) (by rw [actions]; exact List.mem_cons_self)
    constructor
    · intro call member
      rcases List.mem_append.mp member with old | new
      · exact gone.calls call old
      · rw [List.mem_singleton.mp new]
        cases window with
        | none => rfl
        | some address => cases silent
    · intro other member
      exact gone.actions other (by rw [actions]; exact List.mem_cons_of_mem _ member)
    · have quiet := gone.quiet
      rw [actions, List.any_cons] at quiet
      exact quiet

theorem request_timely (timely : host.Timely) {reported : Option (UInt32 × UInt32)} {rest : List HostAction}
    (actions : host.actions = .request reported :: rest) (created : Option Errno)
    (free : host.renderers.worker.holdsMutex = false) :
    { host with
      actions := rest ++ host.failureReport reported created
      renderers := host.renderers.enter 0 created }.Timely := by
  have paired := timely.paired
  rw [actions] at paired
  obtain ⟨oneCall, pairs⟩ := paired
  obtain ⟨call, calls⟩ := List.length_eq_one_iff.mp oneCall
  have entered : (host.renderers.enter 0 created).calls = [] := by
    simp [RendererSystem.enter, calls, free]
  constructor
  · exact RendererSystem.enter_coherent timely.coherent 0 created
  · exact RendererSystem.enter_beats timely.onWindow 0 created
  · dsimp only
    rw [entered]
    rcases host.failureReport_cases reported created with none | ⟨width, height, -, report⟩
    · rw [none, List.append_nil]
      exact pairs
    · rw [report]
      exact pairs.report
  · intro isGone
    have gone := timely.gone isGone
    constructor
    · dsimp only
      rw [entered]
      exact nofun
    · intro action member
      rcases List.mem_append.mp member with old | new
      · exact gone.actions action (by rw [actions]; exact List.mem_cons_of_mem _ old)
      · rcases host.failureReport_cases reported created with none | ⟨width, height, -, report⟩
        · rw [none] at new
          cases new
        · rw [report] at new
          rw [List.mem_singleton.mp new]
          rfl
    · rcases gone.quiet with quiet | pending
      · exact Or.inl (RendererSystem.enter_quiet quiet gone.calls 0 created)
      · refine Or.inr ?_
        rw [actions, List.any_cons] at pending
        dsimp only
        rw [List.any_append, show rest.any HostAction.reportsDestroyed = true from pending, Bool.true_or]

theorem proceed_timely (timely : host.Timely) (choice : HostChoice)
    (settles : host.SettlesDestroyed (.proceed choice)) : (host.proceed choice).Timely := by
  cases actions : host.actions with
  | nil =>
      unfold proceed
      rw [actions]
      exact timely
  | cons action rest =>
      have settled : action.reportsDestroyed = true → host.renderers.owesReport = false := by
        intro destroyed
        refine settles ?_
        rw [actions]
        exact destroyed
      cases action with
      | acquire window force =>
          unfold proceed
          rw [actions]
          dsimp only
          split <;> exact acquire_timely timely actions _ _
      | request reported =>
          unfold proceed
          rw [actions]
          dsimp only
          split
          · exact timely
          · rename_i free
            exact request_timely timely actions choice.created (by simpa using free)
      | emit event width height =>
          unfold proceed
          rw [actions]
          dsimp only
          refine Timely.of_same ?_ (emitLifecycle_same _ event width height choice.emission)
          exact quiet_timely timely actions rfl rfl rfl rfl rfl timely.coherent (fun _ pairs => pairs) settled
      | release =>
          unfold proceed
          rw [actions]
          have left : ∀ index, (host.renderers.leave index).renderer = host.renderers.renderer ∧
              (host.renderers.leave index).worker = host.renderers.worker ∧
              (host.renderers.leave index).calls = host.renderers.calls := by
            intro index
            unfold RendererSystem.leave
            split <;> exact ⟨rfl, rfl, rfl⟩
          exact quiet_timely timely actions rfl rfl (left 0).1 (left 0).2.1 (left 0).2.2
            (RendererSystem.leave_coherent timely.coherent 0) (fun _ pairs => pairs) settled
      | _ =>
          unfold proceed
          rw [actions]
          exact quiet_timely timely actions rfl rfl rfl rfl rfl timely.coherent (fun _ pairs => pairs) settled

theorem renderers_timely (timely : host.Timely) {renderers : RendererSystem} (coherent : renderers.Coherent)
    (onWindow : renderers.BeatsOnWindow) (calls : renderers.calls = host.renderers.calls)
    (quiet : host.renderers.owesReport = false → renderers.owesReport = false) :
    { host with renderers := renderers }.Timely := by
  constructor
  · exact coherent
  · exact onWindow
  · dsimp only
    rw [calls]
    exact timely.paired
  · intro isGone
    have gone := timely.gone isGone
    refine ⟨?_, gone.actions, ?_⟩
    · dsimp only
      rw [calls]
      exact gone.calls
    · exact gone.quiet.imp_left quiet

theorem step_timely (timely : host.Timely) (input : HostInput) (resizes : host.ResizesPresent input)
    (settles : host.SettlesDestroyed input) : (host.step input).Timely := by
  cases input with
  | callback callback =>
      unfold step
      dsimp only
      split
      · rename_i empty
        have idle : host.actions = [] := by simpa using empty
        exact begun_timely timely idle resizes
      · exact timely
  | proceed choice => exact proceed_timely timely choice settles
  | work choice emission =>
      have moved := renderers_timely timely (RendererSystem.work_coherent timely.coherent choice)
        (RendererSystem.work_beats timely.coherent timely.onWindow choice) (host.renderers.work_calls choice)
        (fun quiet => RendererSystem.work_quiet timely.coherent timely.onWindow quiet choice)
      unfold step work
      dsimp only
      split
      · exact moved
      · rename_i event width height _
        exact moved.of_same (emitLifecycle_same _ event width height emission)
  | spurious =>
      have coherent := RendererSystem.step_coherent timely.coherent .spurious
      unfold step
      dsimp only
      unfold RendererSystem.step at coherent ⊢
      dsimp only at coherent ⊢
      split at coherent
      · exact renderers_timely timely coherent nofun rfl
          (fun quiet => RendererSystem.owesReport_still quiet rfl rfl rfl)
      · exact timely

theorem Timely.reportsInTime (timely : host.Timely) (input : HostInput) : host.ReportsInTime input := by
  cases input with
  | callback callback => exact trivial
  | proceed choice => exact trivial
  | spurious => exact trivial
  | work choice emission =>
      intro emits
      cases shown : host.windowLast with
      | true => exact Or.inl rfl
      | false =>
          rcases (timely.gone shown).quiet with quiet | pending
          · rw [RendererWorker.emission_isSome, (RendererSystem.owesReport_eq_false_iff.mp quiet).1] at emits
            cases emits
          · exact Or.inr (List.any_eq_true.mp pending)

/-- As long as the Activity is paused, resized and redrawn only as its window allows, and a window is
reported destroyed only once no record on it is owed, both views agree whenever no callback is under way. -/
theorem activity_views_agree (visibleIngress retained : Bool) (token serviceToken : Buffer) (activityPid : UInt32)
    (service : ActivityStatus) (binderStatus : UInt32) (inputs : List HostInput)
    (steps : Runs.EveryStep step
      (fun host input => host.Legal input ∧ host.PausesWithoutWindow input ∧ host.ResizesPresent input ∧
        host.SettlesDestroyed input)
      (create visibleIngress retained token serviceToken activityPid service binderStatus) inputs) :
    Runs.EveryState step Agreed
      (create visibleIngress retained token serviceToken activityPid service binderStatus) inputs := by
  have states : Runs.EveryState step (fun host => host.Timely ∧ host.Tracks)
      (create visibleIngress retained token serviceToken activityPid service binderStatus) inputs := by
    refine Runs.everyState_of_everyStep (fun host input invariant kept => ?_) inputs _
      ⟨create_timely visibleIngress retained token serviceToken activityPid service binderStatus,
        create_tracks visibleIngress retained token serviceToken activityPid service binderStatus⟩ steps
    obtain ⟨timely, tracks⟩ := invariant
    obtain ⟨legal, pauses, resizes, settles⟩ := kept
    exact ⟨step_timely timely input resizes settles,
      step_tracks tracks input legal pauses (timely.reportsInTime input)⟩
  exact states.imp fun host invariant => invariant.2.agreed

def plainEmission : EmitChoice := ⟨1, 1, true⟩

def plainChoice : HostChoice := ⟨none, 64, 64, plainEmission⟩

/-- The two records of the creation, a start, a resume, and a window whose renderer the worker creates. -/
def shownRun : List HostInput :=
  [.proceed plainChoice, .proceed plainChoice, .callback .start, .proceed plainChoice, .callback .resume,
    .proceed plainChoice, .proceed plainChoice, .callback (.windowCreated 5 64 64), .proceed plainChoice,
    .proceed plainChoice, .proceed plainChoice, .proceed plainChoice, .proceed plainChoice,
    .work ⟨64, 64, true⟩ plainEmission, .work ⟨64, 64, true⟩ plainEmission, .work ⟨64, 64, true⟩ plainEmission,
    .work ⟨64, 64, true⟩ plainEmission, .work ⟨64, 64, true⟩ plainEmission]

def plainHost : VisibleHost := create false true zeroed zeroed 7 (.initial 1) 0

instance (host : VisibleHost) : (input : HostInput) → Decidable (host.PausesWithoutWindow input)
  | .callback callback =>
      match callback with
      | .pause => inferInstanceAs (Decidable (host.actions = [] → host.windowLast = false))
      | .start | .resume | .stop | .focusChanged _ | .windowCreated _ _ _ | .windowResized _
      | .windowRedrawNeeded _ | .windowDestroyed _ | .destroy => .isTrue trivial
  | .proceed _ | .work _ _ | .spurious => .isTrue trivial

instance (host : VisibleHost) : (input : HostInput) → Decidable (host.ResizesPresent input)
  | .callback callback =>
      match callback with
      | .windowResized _ | .windowRedrawNeeded _ =>
          inferInstanceAs (Decidable (host.actions = [] → host.windowLast = true))
      | .start | .resume | .pause | .stop | .focusChanged _ | .windowCreated _ _ _ | .windowDestroyed _
      | .destroy => .isTrue trivial
  | .proceed _ | .work _ _ | .spurious => .isTrue trivial

instance (host : VisibleHost) : (input : HostInput) → Decidable (host.SettlesDestroyed input)
  | .proceed _ => inferInstanceAs (Decidable (_ = true → _ = false))
  | .callback _ | .work _ _ | .spurious => .isTrue trivial

/-- The window goes once its renderer is reported, and the Activity is paused without it. -/
def goneRun : List HostInput :=
  [.callback (.windowDestroyed true), .proceed plainChoice, .proceed plainChoice, .proceed plainChoice,
    .proceed plainChoice, .proceed plainChoice, .work ⟨0, 0, true⟩ plainEmission, .work ⟨0, 0, true⟩ plainEmission,
    .callback .pause, .proceed plainChoice, .proceed plainChoice, .proceed plainChoice]

theorem activity_views_agree_shown : Runs.EveryState step Agreed plainHost (shownRun ++ goneRun) :=
  activity_views_agree false true zeroed zeroed 7 (.initial 1) 0 (shownRun ++ goneRun) (by decide +kernel)

-- Without a transport the retained renderer keeps its request, and reports on the window that is gone.
example :
    let early := shownRun.take 13 ++ [.callback (.windowDestroyed false), .proceed plainChoice, .proceed plainChoice]
    Runs.EveryStep step (fun host input => host.Legal input ∧ host.PausesWithoutWindow input ∧
      host.ResizesPresent input)
        plainHost (early ++ shownRun.drop 13) ∧
      ¬ Runs.EveryState step Agreed plainHost (early ++ shownRun.drop 13) := by
  decide +kernel

/-- A window is there when the Activity is paused: the host forgets it and the service does not. -/
theorem paused_with_window_disagrees :
    Runs.EveryStep step Legal plainHost
        (shownRun ++ [.callback .pause, .proceed plainChoice, .proceed plainChoice, .proceed plainChoice]) ∧
      ¬ Runs.EveryState step Agreed plainHost
        (shownRun ++ [.callback .pause, .proceed plainChoice, .proceed plainChoice, .proceed plainChoice]) := by
  decide +kernel

end VisibleHost

end VulkanBridge
