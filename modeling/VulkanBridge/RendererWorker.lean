import VulkanBridge.Lifecycle

/-!
The renderer of the visible host (`native_main.c`): `schedule_renderer` replaces the
request under the mutex, and a worker handles the latest one. Each section under
the mutex is one step, and so is what the worker does between two of them.
-/

namespace VulkanBridge

structure WindowReference where
  window : Nat
  ticket : Nat
  deriving DecidableEq, Repr

structure WindowReferences where
  acquired : List WindowReference
  released : List WindowReference

namespace WindowReferences

def next (references : WindowReferences) (window : Nat) : WindowReference := ⟨window, references.acquired.length⟩

/-- `ANativeWindow_acquire` unless the window is null. -/
def acquire (references : WindowReferences) (window : Option Nat) : WindowReferences :=
  { references with acquired := references.acquired ++ (window.map references.next).toList }

/-- `ANativeWindow_release` unless the window is null. -/
def release (references : WindowReferences) (window : Option WindowReference) : WindowReferences :=
  { references with released := references.released ++ window.toList }

end WindowReferences

structure Renderer where
  window : Option WindowReference
  width : UInt32
  height : UInt32
  ready : Bool
  threadStarted : Bool
  requestedGeneration : UInt64
  completedGeneration : UInt64

/-- A call of `schedule_renderer` that waits for the mutex. -/
structure ScheduleCall where
  window : Option WindowReference
  width : UInt32
  height : UInt32
  force : Bool

/-- The renderer after the section, the result of the call, and the reference
that the call releases after the section. -/
structure ScheduleOutcome where
  renderer : Renderer
  failure : Option Errno
  leftover : Option WindowReference

def sameWindow (left right : Option WindowReference) : Bool :=
  left.map WindowReference.window == right.map WindowReference.window

namespace Renderer

def initial : Renderer := ⟨none, 0, 0, false, false, 0, 0⟩

def pending (renderer : Renderer) : Bool := renderer.requestedGeneration != renderer.completedGeneration

/-- The section once the worker is there. -/
def request (renderer : Renderer) (call : ScheduleCall) : ScheduleOutcome :=
  if !call.force && sameWindow renderer.window call.window && renderer.width == call.width &&
      renderer.height == call.height && (renderer.ready || renderer.pending) then
    ⟨renderer, none, call.window⟩
  else if renderer.requestedGeneration = 0xffffffffffffffff then ⟨renderer, some .eoverflow, call.window⟩
  else
    ⟨{ renderer with
        window := call.window
        width := call.width
        height := call.height
        ready := false
        requestedGeneration := renderer.requestedGeneration + 1 }, none, renderer.window⟩

/-- The section of `schedule_renderer`; `created` is the error of `pthread_create`. -/
def schedule (renderer : Renderer) (call : ScheduleCall) (created : Option Errno) : ScheduleOutcome :=
  if renderer.threadStarted then renderer.request call
  else if call.window.isNone then ⟨renderer, none, none⟩
  else
    match created with
    | some code => ⟨renderer, some code, call.window⟩
    | none => { renderer with threadStarted := true }.request call

end Renderer

/-- Where `renderer_worker_main` stands. -/
inductive RendererWorker where
  | absent
  | entering (handled : UInt64)
  | waiting (handled : UInt64)
  | taken (generation : UInt64) (window : Option WindowReference)
  | cleared (generation : UInt64) (window : Option WindowReference)
  | created (generation : UInt64) (window : Option WindowReference) (width height : UInt32) (success : Bool)
  | announcing (generation : UInt64) (window : Option WindowReference) (width height : UInt32) (success : Bool)
  | heartbeat (generation : UInt64) (window : Option WindowReference) (width height : UInt32)
  | rendering (generation : UInt64) (window : Option WindowReference) (width height : UInt32)
  | heartbeatFailed (generation : UInt64) (window : Option WindowReference) (width height : UInt32)
  | failureNoted (generation : UInt64) (window : Option WindowReference) (width height : UInt32) (current : Bool)
  | tearingDown (generation : UInt64) (window : Option WindowReference)
  | ending (generation : UInt64) (window : Option WindowReference) (success current : Bool)
  | releasing (generation : UInt64) (window : Option WindowReference)

namespace RendererWorker

def reference : RendererWorker → Option WindowReference
  | absent | entering _ | waiting _ => none
  | taken _ window | cleared _ window | created _ window _ _ _ | announcing _ window _ _ _
  | heartbeat _ window _ _ | rendering _ window _ _ | heartbeatFailed _ window _ _ | failureNoted _ window _ _ _
  | tearingDown _ window | ending _ window _ _ | releasing _ window => window

def holdsMutex : RendererWorker → Bool
  | announcing _ _ _ _ _ => true
  | _ => false

def emission : RendererWorker → Option (LifecycleEvent × UInt32 × UInt32)
  | announcing _ _ width height success =>
      some (if success then .rendererReady else .rendererFailed, width, height)
  | failureNoted _ _ width height true => some (.rendererFailed, width, height)
  | _ => none

/-- The generation that the worker handles. -/
def generation : RendererWorker → UInt64
  | absent => 0
  | entering handled | waiting handled => handled
  | taken generation _ | cleared generation _ | created generation _ _ _ _ | announcing generation _ _ _ _
  | heartbeat generation _ _ _ | rendering generation _ _ _ | heartbeatFailed generation _ _ _
  | failureNoted generation _ _ _ _ | tearingDown generation _ | ending generation _ _ _
  | releasing generation _ => generation

end RendererWorker

structure LiveRenderer where
  window : Nat
  generation : UInt64
  deriving DecidableEq, Repr

structure WorkerChoice where
  width : UInt32
  height : UInt32
  success : Bool
  deriving DecidableEq, Repr

structure RendererSystem where
  visibleIngress : Bool
  retained : Bool
  renderer : Renderer
  calls : List ScheduleCall
  leftovers : List WindowReference
  worker : RendererWorker
  device : Option LiveRenderer
  references : WindowReferences
  announced : List (LifecycleEvent × UInt64)

inductive RendererInput where
  | call (window : Option Nat) (width height : UInt32) (force : Bool)
  | enter (index : Nat) (created : Option Errno)
  | leave (index : Nat)
  | spurious
  | work (choice : WorkerChoice)
  deriving DecidableEq, Repr

namespace RendererSystem

def create (visibleIngress retained : Bool) : RendererSystem where
  visibleIngress := visibleIngress
  retained := retained
  renderer := .initial
  calls := []
  leftovers := []
  worker := .absent
  device := none
  references := ⟨[], []⟩
  announced := []

/-- `schedule_renderer` up to the mutex. -/
def call (system : RendererSystem) (window : Option Nat) (width height : UInt32) (force : Bool) : RendererSystem :=
  { system with
    calls := system.calls ++ [⟨window.map system.references.next, width, height, force⟩]
    references := system.references.acquire window }

def signalled (system : RendererSystem) (renderer : Renderer) : RendererWorker :=
  match system.worker with
  | .absent => if renderer.threadStarted then .entering 0 else .absent
  | .waiting handled =>
      if renderer.requestedGeneration = system.renderer.requestedGeneration then .waiting handled
      else .entering handled
  | worker => worker

/-- The section of `schedule_renderer`. -/
def enter (system : RendererSystem) (index : Nat) (created : Option Errno) : RendererSystem :=
  match system.calls[index]? with
  | none => system
  | some call =>
      if system.worker.holdsMutex then system
      else
        let outcome := system.renderer.schedule call created
        { system with
          renderer := outcome.renderer
          calls := system.calls.eraseIdx index
          leftovers := system.leftovers ++ outcome.leftover.toList
          worker := system.signalled outcome.renderer }

/-- `schedule_renderer` after the mutex. -/
def leave (system : RendererSystem) (index : Nat) : RendererSystem :=
  match system.leftovers[index]? with
  | none => system
  | some reference =>
      { system with
        leftovers := system.leftovers.eraseIdx index
        references := system.references.release (some reference) }

def current (system : RendererSystem) (generation : UInt64) (window : Option WindowReference) : Bool :=
  generation == system.renderer.requestedGeneration && sameWindow window system.renderer.window

/-- The loop head of the worker. -/
def take (system : RendererSystem) (handled : UInt64) : RendererSystem :=
  if system.renderer.requestedGeneration = handled then { system with worker := .waiting handled }
  else
    let window := system.renderer.window.map WindowReference.window
    { system with
      worker := .taken system.renderer.requestedGeneration (window.map system.references.next)
      references := system.references.acquire window }

def afterCreation (system : RendererSystem) (generation : UInt64) (window : Option WindowReference)
    (width height : UInt32) (success current : Bool) : RendererWorker :=
  if success && current && !system.visibleIngress && !system.retained then .heartbeat generation window width height
  else .ending generation window success current

/-- The section after a creation; where a record is emitted it is left by `announce`. -/
def complete (system : RendererSystem) (generation : UInt64) (window : Option WindowReference)
    (width height : UInt32) (success : Bool) : RendererSystem :=
  let current := system.current generation window
  let renderer := { system.renderer with completedGeneration := generation }
  if current then
    { system with
      renderer := { renderer with ready := success }
      worker :=
        if window.isSome then .announcing generation window width height success
        else system.afterCreation generation window width height success true }
  else { system with renderer := renderer, worker := system.afterCreation generation window width height success false }

def announce (system : RendererSystem) (generation : UInt64) (window : Option WindowReference)
    (width height : UInt32) (success : Bool) : RendererSystem :=
  { system with
    announced := system.announced ++ [(if success then .rendererReady else .rendererFailed, generation)]
    worker := system.afterCreation generation window width height success true }

def noteFailure (system : RendererSystem) (generation : UInt64) (window : Option WindowReference)
    (width height : UInt32) : RendererSystem :=
  let current := system.current generation window
  { system with
    renderer := { system.renderer with ready := system.renderer.ready && !current }
    worker := .failureNoted generation window width height current }

def work (system : RendererSystem) (choice : WorkerChoice) : RendererSystem :=
  match system.worker with
  | .absent | .waiting _ => system
  | .entering handled => system.take handled
  | .taken generation window => { system with device := none, worker := .cleared generation window }
  | .cleared generation none => { system with worker := .created generation none 0 0 false }
  | .cleared generation (some reference) =>
      { system with
        device := if choice.success then some ⟨reference.window, generation⟩ else none
        worker := .created generation (some reference) choice.width choice.height choice.success }
  | .created generation window width height success => system.complete generation window width height success
  | .announcing generation window width height success => system.announce generation window width height success
  | .heartbeat generation window width height =>
      if system.current generation window then { system with worker := .rendering generation window width height }
      else { system with worker := .ending generation window true true }
  | .rendering generation window width height =>
      if choice.success then { system with worker := .heartbeat generation window width height }
      else { system with worker := .heartbeatFailed generation window width height }
  | .heartbeatFailed generation window width height => system.noteFailure generation window width height
  | .failureNoted generation window _ _ current =>
      { system with
        announced := system.announced ++ if current then [(.rendererFailed, generation)] else []
        worker := .tearingDown generation window }
  | .tearingDown generation window => { system with device := none, worker := .ending generation window false true }
  | .ending generation window success current =>
      { system with
        device := if success && !current then none else system.device
        worker := .releasing generation window }
  | .releasing generation window =>
      { system with references := system.references.release window, worker := .entering generation }

def step (system : RendererSystem) : RendererInput → RendererSystem
  | .call window width height force => system.call window width height force
  | .enter index created => system.enter index created
  | .leave index => system.leave index
  | .spurious =>
      match system.worker with
      | .waiting handled => { system with worker := .entering handled }
      | _ => system
  | .work choice => system.work choice

end RendererSystem

end VulkanBridge
