import Mathlib.Data.List.Nodup
import Mathlib.Data.List.Perm.Basic
import VulkanBridge.RendererWorker
import VulkanBridge.CheckedLoops

/-!
The renderer that is reported ready is the one of the latest request, for every
order of the requests and the steps of the worker.
-/

namespace VulkanBridge

structure Renderer.Later (renderer next : Renderer) : Prop where
  completed : next.completedGeneration = renderer.completedGeneration
  grows : renderer.requestedGeneration.toNat ≤ next.requestedGeneration.toNat
  same : next.requestedGeneration = renderer.requestedGeneration →
    next.window = renderer.window ∧ next.ready = renderer.ready
  newer : next.requestedGeneration ≠ renderer.requestedGeneration → next.ready = false

namespace Renderer

variable {renderer : Renderer} {call : ScheduleCall} {created : Option Errno}

theorem next_generation {generation : UInt64} (bounded : generation ≠ 0xffffffffffffffff) :
    (generation + 1).toNat = generation.toNat + 1 := by
  have below : generation.toNat ≠ 18446744073709551615 := by
    intro equal
    apply bounded
    apply UInt64.toNat_inj.mp
    exact equal
  have small := generation.toNat_lt
  rw [UInt64.toNat_add]
  simp only [UInt64.reduceToNat]
  omega

theorem request_later (renderer : Renderer) (call : ScheduleCall) :
    Later renderer (renderer.request call).renderer := by
  unfold request
  split
  · exact ⟨rfl, Nat.le_refl _, fun _ => ⟨rfl, rfl⟩, fun other => absurd rfl other⟩
  · split
    · exact ⟨rfl, Nat.le_refl _, fun _ => ⟨rfl, rfl⟩, fun other => absurd rfl other⟩
    · rename_i bounded
      have grown := next_generation bounded
      constructor
      · rfl
      · dsimp only
        omega
      · intro same
        have equal := congrArg UInt64.toNat same
        dsimp only at equal
        omega
      · intro _
        rfl

theorem schedule_later (renderer : Renderer) (call : ScheduleCall) (created : Option Errno) :
    Later renderer (renderer.schedule call created).renderer := by
  unfold schedule
  split
  · exact request_later renderer call
  · split
    · exact ⟨rfl, Nat.le_refl _, fun _ => ⟨rfl, rfl⟩, fun other => absurd rfl other⟩
    · cases created with
      | some code => exact ⟨rfl, Nat.le_refl _, fun _ => ⟨rfl, rfl⟩, fun other => absurd rfl other⟩
      | none =>
          have later := request_later { renderer with threadStarted := true } call
          exact ⟨later.completed, later.grows, later.same, later.newer⟩

theorem request_count (renderer : Renderer) (call : ScheduleCall) (reference : WindowReference) :
    (renderer.request call).renderer.window.toList.count reference +
        (renderer.request call).leftover.toList.count reference =
      renderer.window.toList.count reference + call.window.toList.count reference := by
  unfold request
  split
  · rfl
  · split
    · rfl
    · exact Nat.add_comm _ _

theorem schedule_count (renderer : Renderer) (call : ScheduleCall) (created : Option Errno)
    (reference : WindowReference) :
    (renderer.schedule call created).renderer.window.toList.count reference +
        (renderer.schedule call created).leftover.toList.count reference =
      renderer.window.toList.count reference + call.window.toList.count reference := by
  unfold schedule
  split
  · exact request_count renderer call reference
  · split
    · rename_i empty
      have noWindow : call.window = none := by simpa using empty
      rw [noWindow]
    · cases created with
      | some code => rfl
      | none => exact request_count { renderer with threadStarted := true } call reference

end Renderer

theorem sameWindow_some {reference : WindowReference} {window : Option WindowReference}
    (same : sameWindow (some reference) window = true) :
    ∃ other, window = some other ∧ other.window = reference.window := by
  cases window with
  | none => cases same
  | some other =>
      have equal := eq_of_beq same
      exact ⟨other, rfl, (Option.some.inj equal).symm⟩

structure Handling (renderer : Renderer) (generation : UInt64) (window : Option WindowReference) : Prop where
  unfinished : renderer.completedGeneration.toNat < generation.toNat
  requested : generation.toNat ≤ renderer.requestedGeneration.toNat
  window : renderer.requestedGeneration = generation → sameWindow window renderer.window = true

structure Handled (renderer : Renderer) (generation : UInt64) (window : Option WindowReference) : Prop where
  completed : renderer.completedGeneration = generation
  requested : generation.toNat ≤ renderer.requestedGeneration.toNat
  window : renderer.requestedGeneration = generation → sameWindow window renderer.window = true

/-- The renderer on the device is the one of this request. -/
def CreatedFor (device : Option LiveRenderer) (generation : UInt64) (window : Option WindowReference) : Prop :=
  ∃ reference, window = some reference ∧ device = some ⟨reference.window, generation⟩

/-- What is so while the worker stands there. -/
def WorkerFacts (renderer : Renderer) (device : Option LiveRenderer) : RendererWorker → Prop
  | .absent => renderer.completedGeneration = 0 ∧ renderer.threadStarted = false
  | .entering handled => renderer.completedGeneration = handled
  | .waiting handled => renderer.completedGeneration = handled ∧ renderer.requestedGeneration = handled
  | .taken generation window | .cleared generation window => Handling renderer generation window
  | .created generation window _ _ success =>
      Handling renderer generation window ∧ (success = true → CreatedFor device generation window)
  | .announcing generation window _ _ success =>
      Handled renderer generation window ∧ renderer.requestedGeneration = generation ∧ renderer.ready = success ∧
        window.isSome = true
  | .heartbeat generation window _ _ | .rendering generation window _ _ | .heartbeatFailed generation window _ _
  | .releasing generation window => Handled renderer generation window
  | .failureNoted generation window _ _ _ | .tearingDown generation window =>
      Handled renderer generation window ∧ renderer.ready = false
  | .ending generation window success current =>
      Handled renderer generation window ∧
        (success = true → current = false → generation.toNat < renderer.requestedGeneration.toNat)

section Later

variable {renderer next : Renderer} {generation : UInt64} {window : Option WindowReference}

theorem Renderer.Later.requested_eq (later : renderer.Later next)
    (requested : generation.toNat ≤ renderer.requestedGeneration.toNat)
    (same : next.requestedGeneration = generation) : next.requestedGeneration = renderer.requestedGeneration := by
  have grows := later.grows
  apply UInt64.toNat_inj.mp
  rw [same] at grows ⊢
  omega

theorem Renderer.Later.not_ready (later : renderer.Later next) (notReady : renderer.ready = false) :
    next.ready = false := by
  by_cases stays : next.requestedGeneration = renderer.requestedGeneration
  · exact (later.same stays).2.trans notReady
  · exact later.newer stays

theorem Handling.later (handling : Handling renderer generation window) (later : renderer.Later next) :
    Handling next generation window := by
  constructor
  · rw [later.completed]
    exact handling.unfinished
  · exact Nat.le_trans handling.requested later.grows
  · intro same
    have stays := later.requested_eq handling.requested same
    rw [(later.same stays).1]
    exact handling.window (stays.symm.trans same)

theorem Handled.later (handled : Handled renderer generation window) (later : renderer.Later next) :
    Handled next generation window := by
  constructor
  · exact later.completed.trans handled.completed
  · exact Nat.le_trans handled.requested later.grows
  · intro same
    have stays := later.requested_eq handled.requested same
    rw [(later.same stays).1]
    exact handled.window (stays.symm.trans same)

theorem WorkerFacts.later {device : Option LiveRenderer} {worker : RendererWorker}
    (facts : WorkerFacts renderer device worker) (later : renderer.Later next) (free : worker.holdsMutex = false)
    (started : worker ≠ .absent) (notWaiting : ∀ handled, worker ≠ .waiting handled) :
    WorkerFacts next device worker := by
  cases worker with
  | absent => exact absurd rfl started
  | entering handled => exact later.completed.trans facts
  | waiting handled => exact absurd rfl (notWaiting handled)
  | taken generation window => exact Handling.later facts later
  | cleared generation window => exact Handling.later facts later
  | created generation window width height success => exact ⟨facts.1.later later, facts.2⟩
  | announcing => cases free
  | heartbeat => exact Handled.later facts later
  | rendering => exact Handled.later facts later
  | heartbeatFailed => exact Handled.later facts later
  | failureNoted => exact ⟨facts.1.later later, later.not_ready facts.2⟩
  | tearingDown => exact ⟨facts.1.later later, later.not_ready facts.2⟩
  | ending generation window success current =>
      refine ⟨facts.1.later later, ?_⟩
      intro succeeded superseded
      exact Nat.lt_of_lt_of_le (facts.2 succeeded superseded) later.grows
  | releasing => exact Handled.later facts later

end Later

namespace RendererSystem

variable {system : RendererSystem}

/-! ## The request and the renderer -/

structure Coherent (system : RendererSystem) : Prop where
  ordered : system.renderer.completedGeneration.toNat ≤ system.renderer.requestedGeneration.toNat
  ready : system.renderer.ready = true →
    system.renderer.completedGeneration = system.renderer.requestedGeneration ∧
      CreatedFor system.device system.renderer.requestedGeneration system.renderer.window
  facts : WorkerFacts system.renderer system.device system.worker

theorem create_coherent (visibleIngress retained : Bool) : Coherent (create visibleIngress retained) := by
  constructor
  · exact Nat.le_refl _
  · intro ready
    cases ready
  · exact ⟨rfl, rfl⟩

theorem call_coherent (coherent : Coherent system) (window : Option Nat) (width height : UInt32) (force : Bool) :
    Coherent (system.call window width height force) :=
  ⟨coherent.ordered, coherent.ready, coherent.facts⟩

theorem enter_coherent (coherent : Coherent system) (index : Nat) (created : Option Errno) :
    Coherent (system.enter index created) := by
  unfold enter
  split
  · exact coherent
  rename_i call _
  split
  · exact coherent
  rename_i free
  have later := Renderer.schedule_later system.renderer call created
  generalize system.renderer.schedule call created = outcome at later
  dsimp only
  constructor
  · have grows := later.grows
    have ordered := coherent.ordered
    dsimp only
    rw [later.completed]
    omega
  · intro ready
    dsimp only at ready ⊢
    by_cases stays : outcome.renderer.requestedGeneration = system.renderer.requestedGeneration
    · obtain ⟨sameWindow, sameReady⟩ := later.same stays
      obtain ⟨finished, live⟩ := coherent.ready (sameReady.symm.trans ready)
      rw [stays, sameWindow]
      exact ⟨later.completed.trans finished, live⟩
    · rw [later.newer stays] at ready
      cases ready
  · have facts := coherent.facts
    dsimp only [signalled]
    cases stands : system.worker with
    | absent =>
        rw [stands] at facts
        dsimp only
        split
        · exact later.completed.trans facts.1
        · rename_i unstarted
          exact ⟨later.completed.trans facts.1, by simpa using unstarted⟩
    | waiting handled =>
        rw [stands] at facts
        dsimp only
        split
        · rename_i stays
          exact ⟨later.completed.trans facts.1, stays.trans facts.2⟩
        · exact later.completed.trans facts.1
    | _ =>
        rw [stands] at facts free
        refine facts.later later (by simpa using free) ?_ ?_
        · simp
        · simp

theorem leave_coherent (coherent : Coherent system) (index : Nat) : Coherent (system.leave index) := by
  unfold leave
  split
  · exact coherent
  · exact ⟨coherent.ordered, coherent.ready, coherent.facts⟩

theorem Coherent.not_ready (coherent : Coherent system)
    (unfinished : system.renderer.completedGeneration.toNat < system.renderer.requestedGeneration.toNat) :
    system.renderer.ready = false := by
  cases ready : system.renderer.ready with
  | false => rfl
  | true =>
      have equal := congrArg UInt64.toNat (coherent.ready ready).1
      omega

theorem current_true {generation : UInt64} {window : Option WindowReference} :
    system.current generation window = true ↔
      generation = system.renderer.requestedGeneration ∧ sameWindow window system.renderer.window = true := by
  simp [current]

/-- A request whose window is the requested one is not the current one only once it is superseded. -/
theorem superseded {generation : UInt64} {window : Option WindowReference}
    (requested : generation.toNat ≤ system.renderer.requestedGeneration.toNat)
    (same : system.renderer.requestedGeneration = generation → sameWindow window system.renderer.window = true)
    (notCurrent : system.current generation window = false) :
    generation.toNat < system.renderer.requestedGeneration.toNat := by
  rcases Nat.lt_or_ge generation.toNat system.renderer.requestedGeneration.toNat with less | more
  · exact less
  · have equal : system.renderer.requestedGeneration = generation := by
      apply UInt64.toNat_inj.mp
      omega
    have isCurrent := current_true.mpr ⟨equal.symm, same equal⟩
    rw [notCurrent] at isCurrent
    cases isCurrent

theorem afterCreation_facts {renderer : Renderer} {device : Option LiveRenderer} {generation : UInt64}
    {window : Option WindowReference} (handled : Handled renderer generation window) (width height : UInt32)
    (success current : Bool)
    (late : current = false → generation.toNat < renderer.requestedGeneration.toNat) :
    WorkerFacts renderer device (system.afterCreation generation window width height success current) := by
  unfold afterCreation
  split
  · exact handled
  · exact ⟨handled, fun _ => late⟩

theorem take_coherent (coherent : Coherent system) {handled : UInt64} (stands : system.worker = .entering handled) :
    Coherent (system.take handled) := by
  have facts := coherent.facts
  rw [stands] at facts
  have finished : system.renderer.completedGeneration = handled := facts
  unfold take
  split
  · rename_i same
    exact ⟨coherent.ordered, coherent.ready, finished, same⟩
  · rename_i other
    refine ⟨coherent.ordered, coherent.ready, ?_⟩
    constructor
    · have ordered := coherent.ordered
      rcases Nat.lt_or_ge system.renderer.completedGeneration.toNat system.renderer.requestedGeneration.toNat with
        less | more
      · exact less
      · exfalso
        apply other
        rw [← finished]
        apply UInt64.toNat_inj.mp
        omega
    · exact Nat.le_refl _
    · intro _
      cases system.renderer.window <;> simp [sameWindow, WindowReferences.next]

theorem complete_coherent (coherent : Coherent system) {generation : UInt64} {window : Option WindowReference}
    {width height : UInt32} {success : Bool}
    (stands : system.worker = .created generation window width height success) :
    Coherent (system.complete generation window width height success) := by
  have facts := coherent.facts
  rw [stands] at facts
  obtain ⟨handling, created⟩ := facts
  unfold complete
  dsimp only
  split
  · rename_i isCurrent
    obtain ⟨rfl, same⟩ := current_true.mp isCurrent
    have handled : Handled { system.renderer with
        completedGeneration := system.renderer.requestedGeneration, ready := success }
        system.renderer.requestedGeneration window := ⟨rfl, Nat.le_refl _, fun _ => same⟩
    constructor
    · exact Nat.le_refl _
    · intro ready
      refine ⟨rfl, ?_⟩
      obtain ⟨reference, rfl, live⟩ := created ready
      obtain ⟨other, isSome, sameAddress⟩ := sameWindow_some same
      refine ⟨other, isSome, ?_⟩
      rw [sameAddress]
      exact live
    · dsimp only
      split
      · rename_i isSome
        exact ⟨handled, rfl, rfl, isSome⟩
      · exact afterCreation_facts handled _ _ _ _ (by simp)
  · rename_i notCurrent
    have late := superseded handling.requested handling.window (by simpa using notCurrent)
    have notReady := coherent.not_ready (Nat.lt_of_lt_of_le handling.unfinished handling.requested)
    constructor
    · exact handling.requested
    · intro ready
      have wasReady : system.renderer.ready = true := ready
      rw [notReady] at wasReady
      cases wasReady
    · exact afterCreation_facts ⟨rfl, handling.requested, handling.window⟩ _ _ _ _ (fun _ => late)

theorem noteFailure_coherent (coherent : Coherent system) {generation : UInt64} {window : Option WindowReference}
    {width height : UInt32} (stands : system.worker = .heartbeatFailed generation window width height) :
    Coherent (system.noteFailure generation window width height) := by
  have facts := coherent.facts
  rw [stands] at facts
  have handled : Handled system.renderer generation window := facts
  have unready : (system.renderer.ready && !system.current generation window) = false := by
    cases isCurrent : system.current generation window with
    | true => simp
    | false =>
        have late := superseded handled.requested handled.window isCurrent
        rw [← handled.completed] at late
        rw [coherent.not_ready late]
        rfl
  refine ⟨coherent.ordered, ?_, ?_⟩
  · intro ready
    have isReady : (system.renderer.ready && !system.current generation window) = true := ready
    rw [unready] at isReady
    cases isReady
  · exact ⟨⟨handled.completed, handled.requested, handled.window⟩, unready⟩

theorem Coherent.unready {next : RendererSystem} (ordered : next.renderer.completedGeneration.toNat ≤
    next.renderer.requestedGeneration.toNat) (notReady : next.renderer.ready = false)
    (facts : WorkerFacts next.renderer next.device next.worker) : Coherent next := by
  refine ⟨ordered, ?_, facts⟩
  intro ready
  rw [notReady] at ready
  cases ready

theorem work_coherent (coherent : Coherent system) (choice : WorkerChoice) : Coherent (system.work choice) := by
  have facts := coherent.facts
  unfold work
  split
  · exact coherent
  · exact coherent
  · rename_i handled stands
    exact take_coherent coherent stands
  · rename_i generation window stands
    rw [stands] at facts
    have handling : Handling system.renderer generation window := facts
    have notReady := coherent.not_ready (Nat.lt_of_lt_of_le handling.unfinished handling.requested)
    exact .unready coherent.ordered notReady handling
  · rename_i generation stands
    rw [stands] at facts
    refine ⟨coherent.ordered, coherent.ready, facts, ?_⟩
    intro success
    cases success
  · rename_i generation reference stands
    rw [stands] at facts
    have handling : Handling system.renderer generation (some reference) := facts
    have notReady := coherent.not_ready (Nat.lt_of_lt_of_le handling.unfinished handling.requested)
    refine .unready coherent.ordered notReady ⟨handling, ?_⟩
    intro success
    refine ⟨reference, rfl, ?_⟩
    dsimp only
    rw [if_pos success]
  · rename_i generation window width height success stands
    exact complete_coherent coherent stands
  · rename_i generation window width height success stands
    rw [stands] at facts
    refine ⟨coherent.ordered, coherent.ready, ?_⟩
    exact afterCreation_facts facts.1 _ _ _ _ (by simp)
  · rename_i generation window width height stands
    rw [stands] at facts
    have handled : Handled system.renderer generation window := facts
    split
    · exact ⟨coherent.ordered, coherent.ready, handled⟩
    · exact ⟨coherent.ordered, coherent.ready, handled, by simp⟩
  · rename_i generation window width height stands
    rw [stands] at facts
    have handled : Handled system.renderer generation window := facts
    split
    · exact ⟨coherent.ordered, coherent.ready, handled⟩
    · exact ⟨coherent.ordered, coherent.ready, handled⟩
  · rename_i generation window width height stands
    exact noteFailure_coherent coherent stands
  · rename_i generation window width height current stands
    rw [stands] at facts
    exact ⟨coherent.ordered, coherent.ready, facts⟩
  · rename_i generation window stands
    rw [stands] at facts
    exact .unready coherent.ordered facts.2 ⟨facts.1, by simp⟩
  · rename_i generation window success current stands
    rw [stands] at facts
    obtain ⟨handled, late⟩ := facts
    by_cases dropped : (success && !current) = true
    · simp only [Bool.and_eq_true, Bool.not_eq_true'] at dropped
      have unfinished := late dropped.1 dropped.2
      rw [← handled.completed] at unfinished
      exact .unready coherent.ordered (coherent.not_ready unfinished) handled
    · refine ⟨coherent.ordered, ?_, handled⟩
      dsimp only
      rw [if_neg dropped]
      exact coherent.ready
  · rename_i generation window stands
    rw [stands] at facts
    have handled : Handled system.renderer generation window := facts
    exact ⟨coherent.ordered, coherent.ready, handled.completed⟩

theorem step_coherent (coherent : Coherent system) (input : RendererInput) : Coherent (system.step input) := by
  cases input with
  | call window width height force => exact call_coherent coherent window width height force
  | enter index created => exact enter_coherent coherent index created
  | leave index => exact leave_coherent coherent index
  | spurious =>
      unfold step
      dsimp only
      split
      · rename_i handled stands
        have facts := coherent.facts
        rw [stands] at facts
        exact ⟨coherent.ordered, coherent.ready, facts.1⟩
      · exact coherent
  | work choice => exact work_coherent coherent choice

/-! ## The records of the worker -/

def readyGenerations (announced : List (LifecycleEvent × UInt64)) : List UInt64 :=
  announced.filterMap fun record => if record.1 = .rendererReady then some record.2 else none

theorem readyGenerations_append (announced later : List (LifecycleEvent × UInt64)) :
    readyGenerations (announced ++ later) = readyGenerations announced ++ readyGenerations later :=
  List.filterMap_append

structure AnnouncedOnce (system : RendererSystem) : Prop where
  once : (readyGenerations system.announced).Nodup
  past : ∀ generation ∈ readyGenerations system.announced,
    generation.toNat ≤ system.renderer.completedGeneration.toNat
  fresh : ∀ generation window width height success,
    system.worker = .announcing generation window width height success →
      ∀ earlier ∈ readyGenerations system.announced, earlier.toNat < generation.toNat

theorem create_announcedOnce (visibleIngress retained : Bool) : AnnouncedOnce (create visibleIngress retained) := by
  constructor
  · exact List.nodup_nil
  · intro generation member
    cases member
  · intro generation window width height success stands
    cases stands

theorem AnnouncedOnce.quiet {next : RendererSystem} (once : AnnouncedOnce system)
    (same : readyGenerations next.announced = readyGenerations system.announced)
    (completed : next.renderer.completedGeneration = system.renderer.completedGeneration)
    (free : next.worker.holdsMutex = false) : AnnouncedOnce next := by
  constructor
  · rw [same]
    exact once.once
  · rw [same, completed]
    exact once.past
  · intro generation window width height success stands
    rw [stands] at free
    cases free

theorem afterCreation_free (generation : UInt64) (window : Option WindowReference) (width height : UInt32)
    (success current : Bool) :
    (system.afterCreation generation window width height success current).holdsMutex = false := by
  unfold afterCreation
  split <;> rfl

theorem enter_announcedOnce (once : AnnouncedOnce system) (index : Nat) (created : Option Errno) :
    AnnouncedOnce (system.enter index created) := by
  unfold enter
  split
  · exact once
  rename_i call _
  split
  · exact once
  rename_i free
  have later := Renderer.schedule_later system.renderer call created
  refine once.quiet rfl later.completed ?_
  dsimp only [signalled]
  split
  · split <;> rfl
  · split <;> rfl
  · simpa using free

theorem complete_announcedOnce (coherent : Coherent system) (once : AnnouncedOnce system) {generation : UInt64}
    {window : Option WindowReference} {width height : UInt32} {success : Bool}
    (stands : system.worker = .created generation window width height success) :
    AnnouncedOnce (system.complete generation window width height success) := by
  have facts := coherent.facts
  rw [stands] at facts
  obtain ⟨handling, -⟩ := facts
  have earlier : ∀ past ∈ readyGenerations system.announced, past.toNat < generation.toNat := by
    intro past member
    exact Nat.lt_of_le_of_lt (once.past past member) handling.unfinished
  unfold complete
  dsimp only
  split
  · constructor
    · exact once.once
    · intro past member
      exact Nat.le_of_lt (earlier past member)
    · intro other otherWindow otherWidth otherHeight otherSuccess announces
      dsimp only at announces
      split at announces
      · cases announces
        exact earlier
      · have free := congrArg RendererWorker.holdsMutex announces
        rw [afterCreation_free] at free
        cases free
  · constructor
    · exact once.once
    · intro past member
      exact Nat.le_of_lt (earlier past member)
    · intro other otherWindow otherWidth otherHeight otherSuccess announces
      have free := congrArg RendererWorker.holdsMutex announces
      rw [afterCreation_free] at free
      cases free

theorem announce_announcedOnce (coherent : Coherent system) (once : AnnouncedOnce system) {generation : UInt64}
    {window : Option WindowReference} {width height : UInt32} {success : Bool}
    (stands : system.worker = .announcing generation window width height success) :
    AnnouncedOnce (system.announce generation window width height success) := by
  have facts := coherent.facts
  rw [stands] at facts
  obtain ⟨handled, -⟩ := facts
  have fresh := once.fresh _ _ _ _ _ stands
  unfold announce
  cases success with
  | false =>
      refine once.quiet ?_ rfl ?_
      · dsimp only
        rw [readyGenerations_append]
        exact List.append_nil _
      · dsimp only
        exact afterCreation_free _ _ _ _ _ _
  | true =>
      constructor
      · rw [readyGenerations_append, List.nodup_append]
        refine ⟨once.once, List.nodup_singleton _, ?_⟩
        intro earlier member other isNew equal
        have less := fresh earlier member
        rw [equal, List.mem_singleton.mp isNew] at less
        exact Nat.lt_irrefl _ less
      · intro earlier member
        rw [readyGenerations_append] at member
        rcases List.mem_append.mp member with old | new
        · exact once.past earlier old
        · rw [List.mem_singleton.mp new]
          exact Nat.le_of_eq (congrArg UInt64.toNat handled.completed.symm)
      · intro other otherWindow otherWidth otherHeight otherSuccess announces
        have free := congrArg RendererWorker.holdsMutex announces
        rw [afterCreation_free] at free
        cases free

theorem work_announcedOnce (coherent : Coherent system) (once : AnnouncedOnce system) (choice : WorkerChoice) :
    AnnouncedOnce (system.work choice) := by
  unfold work
  split
  · exact once
  · exact once
  · unfold take
    split <;> exact once.quiet rfl rfl rfl
  · exact once.quiet rfl rfl rfl
  · exact once.quiet rfl rfl rfl
  · exact once.quiet rfl rfl rfl
  · rename_i generation window width height success stands
    exact complete_announcedOnce coherent once stands
  · rename_i generation window width height success stands
    exact announce_announcedOnce coherent once stands
  · split <;> exact once.quiet rfl rfl rfl
  · split <;> exact once.quiet rfl rfl rfl
  · exact once.quiet rfl rfl rfl
  · rename_i generation window width height current stands
    refine once.quiet ?_ rfl rfl
    rw [readyGenerations_append]
    cases current <;> exact List.append_nil _
  · exact once.quiet rfl rfl rfl
  · exact once.quiet rfl rfl rfl
  · exact once.quiet rfl rfl rfl

theorem step_announcedOnce (coherent : Coherent system) (once : AnnouncedOnce system) (input : RendererInput) :
    AnnouncedOnce (system.step input) := by
  cases input with
  | call window width height force => exact ⟨once.once, once.past, once.fresh⟩
  | enter index created => exact enter_announcedOnce once index created
  | leave index =>
      unfold step leave
      dsimp only
      split
      · exact once
      · exact ⟨once.once, once.past, once.fresh⟩
  | spurious =>
      unfold step
      dsimp only
      split
      · exact once.quiet rfl rfl rfl
      · exact once
  | work choice => exact work_announcedOnce coherent once choice

/-- A step emits at most one record, and `RENDERER_READY` only for the requested generation. -/
def AnnouncesCurrent (system : RendererSystem) (input : RendererInput) : Prop :=
  (system.step input).announced = system.announced ∨
    ∃ event generation, (system.step input).announced = system.announced ++ [(event, generation)] ∧
      (event = .rendererReady →
        (system.step input).renderer.requestedGeneration = generation ∧
          (system.step input).renderer.ready = true)

theorem step_announcesCurrent (coherent : Coherent system) (input : RendererInput) :
    system.AnnouncesCurrent input := by
  unfold AnnouncesCurrent
  cases input with
  | call window width height force => exact Or.inl rfl
  | enter index created =>
      unfold step enter
      dsimp only
      split
      · exact Or.inl rfl
      · split <;> exact Or.inl rfl
  | leave index =>
      unfold step leave
      dsimp only
      split <;> exact Or.inl rfl
  | spurious =>
      unfold step
      dsimp only
      split <;> exact Or.inl rfl
  | work choice =>
      have facts := coherent.facts
      unfold step work
      dsimp only
      split
      · exact Or.inl rfl
      · exact Or.inl rfl
      · unfold take
        split <;> exact Or.inl rfl
      · exact Or.inl rfl
      · exact Or.inl rfl
      · exact Or.inl rfl
      · unfold complete
        dsimp only
        split <;> exact Or.inl rfl
      · rename_i generation window width height success stands
        rw [stands] at facts
        obtain ⟨-, requested, ready, -⟩ := facts
        refine Or.inr ⟨_, generation, rfl, ?_⟩
        intro isReady
        refine ⟨requested, ?_⟩
        cases success with
        | true => exact ready
        | false => cases isReady
      · split <;> exact Or.inl rfl
      · split <;> exact Or.inl rfl
      · exact Or.inl rfl
      · rename_i generation window width height current stands
        cases current with
        | true =>
            refine Or.inr ⟨_, generation, rfl, ?_⟩
            intro isReady
            cases isReady
        | false => exact Or.inl (List.append_nil _)
      · exact Or.inl rfl
      · exact Or.inl rfl
      · exact Or.inl rfl

/-! ## The references -/

def held (system : RendererSystem) : List WindowReference :=
  system.renderer.window.toList ++ system.calls.filterMap ScheduleCall.window ++ system.leftovers ++
    system.worker.reference.toList

structure Accounted (system : RendererSystem) : Prop where
  tickets : system.references.acquired.map WindowReference.ticket = List.range system.references.acquired.length
  balanced : ∀ reference, system.references.released.count reference + system.held.count reference =
    system.references.acquired.count reference

theorem count_held (system : RendererSystem) (reference : WindowReference) :
    system.held.count reference =
      system.renderer.window.toList.count reference +
        (system.calls.filterMap ScheduleCall.window).count reference + system.leftovers.count reference +
          system.worker.reference.toList.count reference := by
  simp only [held, List.count_append]

theorem acquire_tickets {references : WindowReferences}
    (tickets : references.acquired.map WindowReference.ticket = List.range references.acquired.length)
    (window : Option Nat) :
    (references.acquire window).acquired.map WindowReference.ticket =
      List.range (references.acquire window).acquired.length := by
  cases window with
  | none => simpa [WindowReferences.acquire] using tickets
  | some address => simp [WindowReferences.acquire, WindowReferences.next, tickets, List.range_succ]

theorem create_accounted (visibleIngress retained : Bool) : Accounted (create visibleIngress retained) := by
  constructor
  · rfl
  · intro reference
    rfl

theorem Accounted.steady {next : RendererSystem} (accounted : Accounted system)
    (references : next.references = system.references)
    (same : ∀ reference, next.held.count reference = system.held.count reference) : Accounted next := by
  constructor
  · rw [references]
    exact accounted.tickets
  · intro reference
    rw [references, same]
    exact accounted.balanced reference

theorem call_accounted (accounted : Accounted system) (window : Option Nat) (width height : UInt32) (force : Bool) :
    Accounted (system.call window width height force) := by
  constructor
  · exact acquire_tickets accounted.tickets window
  · intro reference
    have balanced := accounted.balanced reference
    rw [count_held] at balanced ⊢
    simp only [call, WindowReferences.acquire, List.filterMap_append, List.count_append]
    have own : ([(⟨window.map system.references.next, width, height, force⟩ : ScheduleCall)].filterMap
        ScheduleCall.window).count reference = (window.map system.references.next).toList.count reference := by
      cases window <;> rfl
    omega

theorem count_eraseIdx {calls : List ScheduleCall} {index : Nat} {call : ScheduleCall}
    (found : calls[index]? = some call) (reference : WindowReference) :
    (calls.filterMap ScheduleCall.window).count reference =
      ((calls.eraseIdx index).filterMap ScheduleCall.window).count reference +
        call.window.toList.count reference := by
  obtain ⟨bound, isCall⟩ := List.getElem?_eq_some_iff.mp found
  have split := (List.getElem_cons_eraseIdx_perm bound).filterMap ScheduleCall.window
  rw [← split.count_eq, isCall]
  cases isWindow : call.window with
  | none => simp [isWindow]
  | some window => simp [isWindow, List.count_cons]

theorem signalled_reference (system : RendererSystem) (renderer : Renderer) :
    (system.signalled renderer).reference = system.worker.reference := by
  unfold signalled
  split
  · rename_i stands
    rw [stands]
    split <;> rfl
  · rename_i stands
    rw [stands]
    split <;> rfl
  · rfl

theorem enter_accounted (accounted : Accounted system) (index : Nat) (created : Option Errno) :
    Accounted (system.enter index created) := by
  unfold enter
  split
  · exact accounted
  rename_i call found
  split
  · exact accounted
  refine accounted.steady rfl ?_
  intro reference
  have exchanged := Renderer.schedule_count system.renderer call created reference
  have erased := count_eraseIdx found reference
  rw [count_held, count_held]
  dsimp only
  rw [signalled_reference, List.count_append]
  omega

theorem leave_accounted (accounted : Accounted system) (index : Nat) : Accounted (system.leave index) := by
  unfold leave
  split
  · exact accounted
  rename_i reference found
  constructor
  · exact accounted.tickets
  · intro other
    have balanced := accounted.balanced other
    obtain ⟨bound, isReference⟩ := List.getElem?_eq_some_iff.mp found
    have erased := (List.getElem_cons_eraseIdx_perm bound).count_eq other
    rw [isReference, List.count_cons] at erased
    rw [count_held] at balanced ⊢
    simp only [WindowReferences.release, Option.toList_some, List.count_append, List.count_cons, List.count_nil]
    omega

theorem afterCreation_reference (generation : UInt64) (window : Option WindowReference) (width height : UInt32)
    (success current : Bool) :
    (system.afterCreation generation window width height success current).reference = window := by
  unfold afterCreation
  split <;> rfl

theorem Accounted.worker {next : RendererSystem} (accounted : Accounted system)
    (references : next.references = system.references) (window : next.renderer.window = system.renderer.window)
    (calls : next.calls = system.calls) (leftovers : next.leftovers = system.leftovers)
    (reference : next.worker.reference = system.worker.reference) : Accounted next := by
  refine accounted.steady references ?_
  intro other
  rw [count_held, count_held, window, calls, leftovers, reference]

theorem take_accounted (accounted : Accounted system) {handled : UInt64} (stands : system.worker = .entering handled) :
    Accounted (system.take handled) := by
  unfold take
  split
  · exact accounted.worker rfl rfl rfl rfl (by rw [stands]; rfl)
  · constructor
    · exact acquire_tickets accounted.tickets _
    · intro reference
      have balanced := accounted.balanced reference
      rw [count_held, stands] at balanced
      rw [count_held]
      simp only [RendererWorker.reference, Option.toList_none, List.count_nil] at balanced
      simp only [RendererWorker.reference, WindowReferences.acquire, List.count_append]
      omega

theorem work_accounted (accounted : Accounted system) (choice : WorkerChoice) : Accounted (system.work choice) := by
  unfold work
  split
  · exact accounted
  · exact accounted
  · rename_i handled stands
    exact take_accounted accounted stands
  · rename_i stands
    exact accounted.worker rfl rfl rfl rfl (by rw [stands]; rfl)
  · rename_i stands
    exact accounted.worker rfl rfl rfl rfl (by rw [stands]; rfl)
  · rename_i stands
    exact accounted.worker rfl rfl rfl rfl (by rw [stands]; rfl)
  · rename_i stands
    unfold complete
    dsimp only
    split
    · refine accounted.worker rfl rfl rfl rfl ?_
      rw [stands]
      dsimp only
      split
      · rfl
      · exact afterCreation_reference _ _ _ _ _ _
    · refine accounted.worker rfl rfl rfl rfl ?_
      rw [stands]
      exact afterCreation_reference _ _ _ _ _ _
  · rename_i stands
    refine accounted.worker rfl rfl rfl rfl ?_
    rw [stands]
    exact afterCreation_reference _ _ _ _ _ _
  · rename_i stands
    split <;> exact accounted.worker rfl rfl rfl rfl (by rw [stands]; rfl)
  · rename_i stands
    split <;> exact accounted.worker rfl rfl rfl rfl (by rw [stands]; rfl)
  · rename_i stands
    exact accounted.worker rfl rfl rfl rfl (by rw [stands]; rfl)
  · rename_i stands
    exact accounted.worker rfl rfl rfl rfl (by rw [stands]; rfl)
  · rename_i stands
    exact accounted.worker rfl rfl rfl rfl (by rw [stands]; rfl)
  · rename_i stands
    exact accounted.worker rfl rfl rfl rfl (by rw [stands]; rfl)
  · rename_i generation window stands
    constructor
    · exact accounted.tickets
    · intro reference
      have balanced := accounted.balanced reference
      rw [count_held, stands] at balanced
      rw [count_held]
      simp only [RendererWorker.reference] at balanced
      simp only [RendererWorker.reference, WindowReferences.release, List.count_append, Option.toList_none,
        List.count_nil]
      omega

theorem step_accounted (accounted : Accounted system) (input : RendererInput) : Accounted (system.step input) := by
  cases input with
  | call window width height force => exact call_accounted accounted window width height force
  | enter index created => exact enter_accounted accounted index created
  | leave index => exact leave_accounted accounted index
  | spurious =>
      unfold step
      dsimp only
      split
      · rename_i handled stands
        exact accounted.worker rfl rfl rfl rfl (by rw [stands]; rfl)
      · exact accounted
  | work choice => exact work_accounted accounted choice

theorem Accounted.once (accounted : Accounted system) (reference : WindowReference) :
    system.references.released.count reference + system.held.count reference =
      if reference ∈ system.references.acquired then 1 else 0 := by
  have nodup : system.references.acquired.Nodup := by
    apply List.Nodup.of_map WindowReference.ticket
    rw [accounted.tickets]
    exact List.nodup_range
  rw [accounted.balanced]
  split
  · rename_i member
    exact List.count_eq_one_of_mem nodup member
  · rename_i absent
    exact List.count_eq_zero_of_not_mem absent

/-- What holds in every state of a run. -/
structure AsRequested (system : RendererSystem) : Prop where
  completed : system.renderer.ready = true →
    system.renderer.completedGeneration = system.renderer.requestedGeneration
  live : system.renderer.ready = true → ∃ reference, system.renderer.window = some reference ∧
    system.device = some ⟨reference.window, system.renderer.requestedGeneration⟩
  parked : ∀ handled, system.worker = .waiting handled → handled = system.renderer.requestedGeneration ∧
    handled = system.renderer.completedGeneration
  readyOnce : (readyGenerations system.announced).Nodup
  references : ∀ reference, system.references.released.count reference + system.held.count reference =
    if reference ∈ system.references.acquired then 1 else 0
  released : system.calls = [] → system.leftovers = [] → system.worker.reference = none →
    ∀ reference ∈ system.references.acquired,
      system.references.released.count reference = if system.renderer.window = some reference then 0 else 1

theorem asRequested (coherent : Coherent system) (once : AnnouncedOnce system) (accounted : Accounted system) :
    AsRequested system := by
  constructor
  · intro ready
    exact (coherent.ready ready).1
  · intro ready
    exact (coherent.ready ready).2
  · intro handled waits
    have facts := coherent.facts
    rw [waits] at facts
    exact ⟨facts.2.symm, facts.1.symm⟩
  · exact once.once
  · exact accounted.once
  · intro noCalls noLeftovers noReference reference acquired
    have counted := accounted.once reference
    rw [count_held, noCalls, noLeftovers, noReference, if_pos acquired] at counted
    simp only [List.filterMap_nil, List.count_nil, Option.toList_none, Nat.add_zero] at counted
    split
    · rename_i isWindow
      rw [isWindow] at counted
      simp at counted
      omega
    · rename_i other
      have absent : system.renderer.window.toList.count reference = 0 := by
        apply List.count_eq_zero_of_not_mem
        simpa using other
      omega

/-- For every order of the requests and the steps of the worker, and every outcome of
the creations and the heartbeats: a ready renderer is the requested one, the worker
waits only when it has handled the latest request, a renderer is announced at most once
and only while it is requested, and each reference is released once. -/
theorem renderer_as_requested (visibleIngress retained : Bool) (inputs : List RendererInput) :
    Runs.EveryState step AsRequested (create visibleIngress retained) inputs ∧
      Runs.EveryStep step AnnouncesCurrent (create visibleIngress retained) inputs := by
  have invariant : Runs.EveryState step
      (fun system => Coherent system ∧ AnnouncedOnce system ∧ Accounted system) (create visibleIngress retained)
      inputs := by
    apply Runs.everyState_of_step
    · rintro system input ⟨coherent, once, accounted⟩
      exact ⟨step_coherent coherent input, step_announcedOnce coherent once input, step_accounted accounted input⟩
    · exact ⟨create_coherent visibleIngress retained, create_announcedOnce visibleIngress retained,
        create_accounted visibleIngress retained⟩
  constructor
  · refine invariant.imp ?_
    rintro system ⟨coherent, once, accounted⟩
    exact asRequested coherent once accounted
  · refine invariant.everyStep ?_ (Runs.everyStep_of_all (fun _ _ => trivial) inputs _)
    rintro system input ⟨coherent, -, -⟩ _
    exact step_announcesCurrent coherent input

end RendererSystem

end VulkanBridge
