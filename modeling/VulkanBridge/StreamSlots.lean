import VulkanBridge.CommandRecording
import VulkanBridge.QueueSubmit
import VulkanBridge.Runs

/-!
The command buffers of a client and the slots of its shared region under any
number of threads. A move is a critical section: begin, a section of a `vkCmd*`
call, end, a submit, and the reset and the release of one command buffer.
-/

namespace VulkanBridge

open ByteBuffer

/-- A `vkCmd*` call a thread is inside of, between two of its sections. -/
structure InsideCall where
  buffer : Nat
  phase : RecordPhase

/-- A `VkCommandBufferSubmitInfo`; `plain` says that type and chain are the expected. -/
structure CommandSubmitInfo where
  buffer : Nat
  deviceMask : UInt32
  plain : Bool

/-- The live command buffers by their addresses, the calls threads are inside of,
and the sequences handed out, the last one first. -/
structure StreamSystem where
  region : StreamRegion
  proxies : Nat → Option CommandBufferProxy
  calls : List InsideCall
  issued : List UInt64

inductive StreamMove where
  | allocates (buffer : Nat) (wireId parentPoolId deviceId : UInt64)
  | begins (buffer : Nat) (info : Option (Chained BeginInfo))
  | enters (buffer : Nat) (call : ClientCall)
  | proceeds (call : Nat) (diagnostics : Bool) (registry : ClientRegistry) (scratch : Buffer)
  | ends (buffer : Nat)
  | submits (deviceId : UInt64) (commands : List CommandSubmitInfo) (acknowledged : Bool)
  | resets (buffer : Nat)
  | frees (buffer : Nat)

def storeView (mapping : Buffer) (slot : UInt32) (view : Buffer) : Buffer := fun index =>
  if index < slot.toNat * commandStreamSlotBytes then mapping index
  else view (index - slot.toNat * commandStreamSlotBytes)

def CommandBufferProxy.attached (proxy : CommandBufferProxy) (mapping : Buffer) : CommandBufferProxy :=
  match proxy.builderSlot with
  | none => proxy
  | some slot => { proxy with streamBuilder := { proxy.streamBuilder with bytes := slotView mapping slot } }

def StreamRegion.written (region : StreamRegion) (proxy : CommandBufferProxy) : StreamRegion :=
  match proxy.builderSlot with
  | none => region
  | some slot => { region with mapping := storeView region.mapping slot proxy.streamBuilder.bytes }

/-- The record of a command buffer in `vkQueueSubmit2`. -/
def CommandBufferProxy.submitRecord (proxy : CommandBufferProxy) (generation : UInt64) (deviceMask : UInt32) :
    Except Errno SubmitCommandRecord :=
  let plain : SubmitCommandRecord := ⟨proxy.wireId, 0, 0, 0, 0, deviceMask, 0⟩
  if proxy.streamUploaded then .ok plain
  else if proxy.streamRecording || proxy.streamError || !proxy.streamSealed || proxy.streamLength == 0 ||
      proxy.streamSlot.toNat ≥ commandStreamSlotCount then .error .einval
  else
    .ok { plain with
      streamGeneration := generation
      streamSequence := proxy.streamSequence
      streamOffset := proxy.streamSlot * UInt32.ofNat commandStreamSlotBytes
      streamLength := proxy.streamLength
      streamFlags := submitSharedStream }

namespace StreamSystem

variable (system : StreamSystem)

def submitRecord (deviceId : UInt64) (info : CommandSubmitInfo) : Except Errno SubmitCommandRecord :=
  match system.proxies info.buffer with
  | none => .error .einval
  | some proxy =>
      if !info.plain || info.deviceMask != (0 : UInt32) || proxy.deviceId != deviceId then .error .einval
      else proxy.submitRecord system.region.generation info.deviceMask

def submitRecords (deviceId : UInt64) (commands : List CommandSubmitInfo) :
    Except Errno (List SubmitCommandRecord) :=
  commands.mapM (system.submitRecord deviceId)

def upload (buffer : Nat) (record : SubmitCommandRecord) : StreamSystem :=
  match system.proxies buffer with
  | none => system
  | some proxy =>
      if record.streamFlags = submitSharedStream ∧ proxy.streamSequence = record.streamSequence then
        let (region, proxy) := { proxy with streamUploaded := true }.releaseCommandStreamSlot system.region
        { system with region := region, proxies := Function.update system.proxies buffer (some proxy) }
      else system

def uploadAll (commands : List (CommandSubmitInfo × SubmitCommandRecord)) : StreamSystem :=
  commands.foldl (fun system (info, record) => system.upload info.buffer record) system

def close (buffer : Nat) (region : StreamRegion) (proxy : CommandBufferProxy) : StreamSystem :=
  { system with
    region := region.written proxy
    proxies := Function.update system.proxies buffer (some proxy)
    issued :=
      if region.nextSequence = system.region.nextSequence then system.issued
      else system.region.nextSequence :: system.issued }

/-- The command buffer with the memory its builder finds. -/
def found (buffer : Nat) : Option CommandBufferProxy :=
  (system.proxies buffer).map (·.attached system.region.mapping)

/-- The result of `vkEndCommandBuffer`. -/
def endResult (buffer : Nat) : Option VulkanResult :=
  (system.found buffer).map fun proxy => (proxy.endCommandBuffer system.region).1

def step : StreamMove → StreamSystem
  | .allocates buffer wireId parentPoolId deviceId =>
      match system.proxies buffer with
      | some _ => system
      | none =>
          { system with
            proxies := Function.update system.proxies buffer (some (.allocated wireId parentPoolId deviceId)) }
  | .begins buffer info =>
      match system.found buffer with
      | none => system
      | some proxy =>
          let (_, region, proxy) := proxy.beginCommandBuffer system.region info
          system.close buffer region proxy
  | .enters buffer call =>
      match system.proxies buffer with
      | none => system
      | some _ => { system with calls := ⟨buffer, call.phase⟩ :: system.calls }
  | .proceeds call diagnostics registry scratch =>
      match system.calls[call]? with
      | none => system
      | some inside =>
          match system.found inside.buffer with
          | none => system
          | some proxy =>
              let (proxy, next) := proxy.runSection diagnostics registry scratch inside.phase
              let calls :=
                match next with
                | none => system.calls.eraseIdx call
                | some phase => system.calls.set call ⟨inside.buffer, phase⟩
              { system.close inside.buffer system.region proxy with calls := calls }
  | .ends buffer =>
      match system.found buffer with
      | none => system
      | some proxy =>
          let (_, region, proxy) := proxy.endCommandBuffer system.region
          system.close buffer region proxy
  | .submits deviceId commands acknowledged =>
      match system.submitRecords deviceId commands with
      | .error _ => system
      | .ok records => if acknowledged then system.uploadAll (commands.zip records) else system
  | .resets buffer =>
      match system.proxies buffer with
      | none => system
      | some proxy =>
          let (region, proxy) := proxy.resetCommandStreamState system.region
          system.close buffer region proxy
  | .frees buffer =>
      match system.proxies buffer with
      | none => system
      | some proxy =>
          if system.calls.any fun inside => inside.buffer == buffer then system
          else
            { system with
              region := (proxy.releaseCommandStreamSlot system.region).1
              proxies := Function.update system.proxies buffer none }

/-- A region just set up, with no command buffer yet. -/
def initial (mapping : Buffer) (generation : UInt64) : StreamSystem :=
  { region := ⟨mapping, generation, 1, 0⟩
    proxies := fun _ => none
    calls := []
    issued := [] }

end StreamSystem

end VulkanBridge
