import VulkanBridge.LifecycleHistory
import VulkanBridge.RendererWorker

/-!
The Activity callbacks of the visible host (`native_main.c`): each one stores its
flags, emits its lifecycle records and schedules the renderer, while the worker of
the renderer runs beside it. The service applies every record that is delivered.
-/

namespace VulkanBridge

open ByteBuffer

/-- A callback of the Activity. A destroyed window finds a game-frame transport installed or not. -/
inductive HostCallback where
  | start
  | resume
  | pause
  | stop
  | focusChanged (hasFocus : Bool)
  | windowCreated (window : Nat) (width height : UInt32)
  | windowResized (window : Nat)
  | windowRedrawNeeded (window : Nat)
  | windowDestroyed (installed : Bool)
  | destroy
  deriving DecidableEq, Repr

/-- What a callback still has to do, in order. `schedule_renderer` is three of these:
up to the mutex, the section under it, and what follows. -/
inductive HostAction where
  | storeResumed (value : Bool)
  | storeWindowPresent (value : Bool)
  | emit (event : LifecycleEvent) (width height : UInt32)
  | acquire (window : Option Nat) (force : Bool)
  | request (reported : Option (UInt32 × UInt32))
  | release
  | disable
  deriving DecidableEq, Repr

def scheduleActions (window : Option Nat) (force : Bool) (reported : Option (UInt32 × UInt32)) : List HostAction :=
  [.acquire window force, .request reported, .release]

namespace HostCallback

def actions (retained : Bool) : HostCallback → List HostAction
  | start => [.emit .started 0 0]
  | resume => [.storeResumed true, .emit .resumed 0 0]
  | pause => [.storeResumed false, .storeWindowPresent false, .emit .paused 0 0]
  | stop => [.emit .stopped 0 0]
  | focusChanged hasFocus => [.emit (if hasFocus then .focusGained else .focusLost) 0 0]
  | windowCreated window width height =>
      [.storeWindowPresent true, .emit .windowCreated width height] ++
        scheduleActions (some window) true (some (width, height))
  | windowResized window | windowRedrawNeeded window => scheduleActions (some window) false none
  | windowDestroyed installed =>
      [.storeWindowPresent false] ++ (if retained && !installed then [] else scheduleActions none true none) ++
        [.emit .windowDestroyed 0 0]
  | destroy => [.storeResumed false] ++ scheduleActions none true none ++ [.emit .destroyed 0 0, .disable]

def resumedAfter (resumed : Bool) : HostCallback → Bool
  | resume => true
  | pause => false
  | _ => resumed

def windowAfter (window : Bool) : HostCallback → Bool
  | windowCreated _ _ _ => true
  | windowDestroyed _ => false
  | _ => window

def stageAfter (stage : Option HostCallback) : HostCallback → Option HostCallback
  | start => some start
  | resume => some resume
  | pause => some pause
  | stop => some stop
  | _ => stage

end HostCallback

structure LifecycleClient where
  configured : Bool
  nextSequence : UInt32
  token : Buffer

structure EmitChoice where
  monotonicNs : UInt64
  receivedNs : UInt64
  delivered : Bool
  deriving DecidableEq, Repr

structure VisibleHost where
  renderers : RendererSystem
  actions : List HostAction
  activityResumed : Bool
  activityWindowPresent : Bool
  lifecycle : LifecycleClient
  activityPid : UInt32
  serviceToken : Buffer
  service : ActivityStatus
  called : List HostCallback

structure HostChoice where
  created : Option Errno
  width : UInt32
  height : UInt32
  emission : EmitChoice
  deriving DecidableEq, Repr

inductive HostInput where
  | callback (callback : HostCallback)
  | proceed (choice : HostChoice)
  | work (choice : WorkerChoice) (emission : EmitChoice)
  | spurious
  deriving DecidableEq, Repr

namespace VisibleHost

def resumedLast (host : VisibleHost) : Bool := host.called.foldl HostCallback.resumedAfter false

def windowLast (host : VisibleHost) : Bool := host.called.foldl HostCallback.windowAfter false

def stageLast (host : VisibleHost) : Option HostCallback := host.called.foldl HostCallback.stageAfter none

/-- `ANativeActivity_onCreate` has configured the lifecycle and is about to emit. -/
def create (visibleIngress retained : Bool) (token serviceToken : Buffer) (activityPid : UInt32)
    (service : ActivityStatus) (binderStatus : UInt32) : VisibleHost where
  renderers := .create visibleIngress retained
  actions := [.emit .created 0 0, .emit .nativeBinderStatus binderStatus 0xe040]
  activityResumed := false
  activityWindowPresent := false
  lifecycle := ⟨true, 1, token⟩
  activityPid := activityPid
  serviceToken := serviceToken
  service := service
  called := []

def disableLifecycle (host : VisibleHost) : VisibleHost := { host with lifecycle := ⟨false, 0, zeroed⟩ }

def emissionFailed (host : VisibleHost) : VisibleHost :=
  { host with lifecycle := { host.lifecycle with configured := false } }

def record (host : VisibleHost) (event : LifecycleEvent) (width height : UInt32) (monotonicNs : UInt64) :
    LifecycleRecord where
  event := event.code
  sequence := host.lifecycle.nextSequence
  width := width
  height := height
  activityPid := host.activityPid
  monotonicNs := monotonicNs
  token := host.lifecycle.token

/-- `emit_lifecycle`: the record is sent and the answer of the service is awaited. -/
def emitLifecycle (host : VisibleHost) (event : LifecycleEvent) (width height : UInt32) (choice : EmitChoice) :
    VisibleHost :=
  if !host.lifecycle.configured then host
  else
    match lifecycleEncodeRecord (host.record event width height choice.monotonicNs) with
    | .error _ => host.emissionFailed
    | .ok wire =>
        if !choice.delivered then host.emissionFailed
        else
          let input : ActivityInput := ⟨some wire, choice.receivedNs⟩
          let answered := { host with service := handleActivityConnection host.serviceToken host.service input }
          if (acceptedRecord host.serviceToken host.service input).isNone then answered.emissionFailed
          else
            { answered with
              lifecycle := { host.lifecycle with nextSequence := host.lifecycle.nextSequence + 1 } }

def failureReport (host : VisibleHost) (reported : Option (UInt32 × UInt32)) (created : Option Errno) :
    List HostAction :=
  match host.renderers.calls, reported with
  | call :: _, some (width, height) =>
      if (host.renderers.renderer.schedule call created).failure.isSome then [.emit .rendererFailed width height]
      else []
  | _, _ => []

/-- The next action of the callback. -/
def proceed (host : VisibleHost) (choice : HostChoice) : VisibleHost :=
  match host.actions with
  | [] => host
  | .storeResumed value :: rest => { host with actions := rest, activityResumed := value }
  | .storeWindowPresent value :: rest => { host with actions := rest, activityWindowPresent := value }
  | .emit event width height :: rest => { host with actions := rest }.emitLifecycle event width height choice.emission
  | .acquire window force :: rest =>
      { host with
        actions := rest
        renderers :=
          if window.isSome then host.renderers.call window choice.width choice.height force
          else host.renderers.call window 0 0 force }
  | .request reported :: rest =>
      if host.renderers.worker.holdsMutex then host
      else
        { host with
          actions := rest ++ host.failureReport reported choice.created
          renderers := host.renderers.enter 0 choice.created }
  | .release :: rest => { host with actions := rest, renderers := host.renderers.leave 0 }
  | .disable :: rest => { host with actions := rest }.disableLifecycle

def work (host : VisibleHost) (choice : WorkerChoice) (emission : EmitChoice) : VisibleHost :=
  let moved := { host with renderers := host.renderers.work choice }
  match host.renderers.worker.emission with
  | none => moved
  | some (event, width, height) => moved.emitLifecycle event width height emission

def step (host : VisibleHost) : HostInput → VisibleHost
  | .callback callback =>
      if host.actions.isEmpty then
        { host with actions := callback.actions host.renderers.retained, called := host.called ++ [callback] }
      else host
  | .proceed choice => host.proceed choice
  | .work choice emission => host.work choice emission
  | .spurious => { host with renderers := host.renderers.step .spurious }

end VisibleHost

end VulkanBridge
