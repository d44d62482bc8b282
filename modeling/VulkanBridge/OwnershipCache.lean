import VulkanBridge.Recordings
import VulkanBridge.RegistryChanges
import VulkanBridge.Runs

/-!
The ownership cache of a command buffer under other threads. A lookup that misses
leaves the stream mutex for the registry search, and in between the recording may
end, be reset or begin again, and objects are made and destroyed.
-/

namespace VulkanBridge

inductive LookupStanding where
  | within
  | outside
  | disturbed
  deriving DecidableEq, Repr

/-- A lookup that has left the mutex; `found` is what the registry said. -/
structure OwnershipLookup where
  wireId : UInt64
  type : ObjectType
  sequence : UInt64
  standing : LookupStanding
  found : Option Bool

structure LookupAnswer where
  wireId : UInt64
  type : ObjectType
  standing : LookupStanding
  result : Bool
  direct : Bool
  deriving DecidableEq, Repr

/-- `lookedUp` has the objects looked up in the open recording. -/
structure OwnershipSystem where
  registry : ClientRegistry
  region : StreamRegion
  proxy : CommandBufferProxy
  pending : Nat → Option OwnershipLookup
  lookedUp : List (UInt64 × ObjectType)

/-- The critical sections. The lookups are those of any number of threads; `others`
are the sections of other command buffers that lease and give back slots. -/
inductive OwnershipMove where
  | starts (flags : UInt32)
  | ends
  | resets
  | records (diagnostics : Bool) (command : Command)
  | submits (diagnostics : Bool) (batch : ByteBuffer.Buffer) (length : Nat)
  | poisons (diagnostics : Bool)
  | othersStart (other : CommandBufferProxy) (flags : UInt32)
  | othersEnd (other : CommandBufferProxy)
  | othersReset (other : CommandBufferProxy)
  | changes (change : RegistryChange)
  | lookup (thread : Nat) (wireId : UInt64) (type : ObjectType)
  | reads (thread : Nat)
  | relocks (thread : Nat)

namespace OwnershipSystem

variable (system : OwnershipSystem)

def owned (wireId : UInt64) (type : ObjectType) : Bool :=
  system.registry.ownedByDevice wireId type system.proxy.deviceId

def standing : LookupStanding := if system.proxy.streamRecording then .within else .outside

def disturbed : Nat → Option OwnershipLookup :=
  fun thread => (system.pending thread).map fun lookup => { lookup with standing := .disturbed }

def step : OwnershipMove → OwnershipSystem
  | .starts flags =>
      let (_, region, proxy) := system.proxy.beginSection system.region flags
      { system with region := region, proxy := proxy, pending := system.disturbed, lookedUp := [] }
  | .ends =>
      let (_, region, proxy) := system.proxy.endCommandBuffer system.region
      { system with region := region, proxy := proxy, pending := system.disturbed }
  | .resets =>
      let (region, proxy) := system.proxy.resetCommandStreamState system.region
      { system with region := region, proxy := proxy, pending := system.disturbed }
  | .records diagnostics command => { system with proxy := system.proxy.appendDirect diagnostics command }
  | .submits diagnostics batch length =>
      { system with proxy := (system.proxy.submitSection diagnostics batch length).1 }
  | .poisons diagnostics => { system with proxy := system.proxy.poison diagnostics }
  | .othersStart other flags => { system with region := (other.beginSection system.region flags).2.1 }
  | .othersEnd other => { system with region := (other.endCommandBuffer system.region).2.1 }
  | .othersReset other => { system with region := (other.resetCommandStreamState system.region).1 }
  | .changes change => { system with registry := system.registry.apply change }
  | .lookup thread wireId type =>
      match system.pending thread with
      | some _ => system
      | none =>
          let lookedUp :=
            if system.proxy.streamRecording then (wireId, type) :: system.lookedUp else system.lookedUp
          match system.proxy.cachedOwnership wireId type with
          | some _ => { system with lookedUp := lookedUp }
          | none =>
              { system with
                lookedUp := lookedUp
                pending := Function.update system.pending thread
                  (some ⟨wireId, type, system.proxy.streamSequence, system.standing, none⟩) }
  | .reads thread =>
      match system.pending thread with
      | some ⟨wireId, type, sequence, standing, none⟩ =>
          { system with
            pending := Function.update system.pending thread
              (some ⟨wireId, type, sequence, standing, some (system.owned wireId type)⟩) }
      | _ => system
  | .relocks thread =>
      match system.pending thread with
      | some ⟨wireId, type, sequence, _, some owned⟩ =>
          { system with
            proxy := (system.proxy.relockedOwnership wireId type sequence owned).2
            pending := Function.update system.pending thread none }
      | _ => system

/-- The answer of a lookup that returns in this section. The direct search is the one
at a hit and the one of the registry read on a miss. -/
def answer : OwnershipMove → Option LookupAnswer
  | .lookup thread wireId type =>
      match system.pending thread with
      | some _ => none
      | none => (system.proxy.cachedOwnership wireId type).map fun result =>
          ⟨wireId, type, system.standing, result, system.owned wireId type⟩
  | .relocks thread =>
      match system.pending thread with
      | some ⟨wireId, type, sequence, standing, some owned⟩ =>
          some ⟨wireId, type, standing, (system.proxy.relockedOwnership wireId type sequence owned).1, owned⟩
      | _ => none
  | _ => none

/-- Ids of new objects are not in use, and what the open recording has looked up is
not destroyed. -/
def Permits : OwnershipMove → Prop
  | .changes change =>
      system.registry.Fresh change ∧
        (system.proxy.streamRecording = true → ∀ object ∈ system.lookedUp,
          system.registry.Listed object.1 object.2 → (system.registry.apply change).Listed object.1 object.2)
  | _ => True

/-- A command buffer just allocated. -/
def initial (registry : ClientRegistry) (region : StreamRegion) (wireId parentPoolId deviceId : UInt64) :
    OwnershipSystem :=
  { registry := registry
    region := region
    proxy := .allocated wireId parentPoolId deviceId
    pending := fun _ => none
    lookedUp := [] }

/-- The answer of a lookup as the direct search gives it. -/
structure Exact (move : OwnershipMove) (answer : LookupAnswer) : Prop where
  within : answer.standing = .within → CommandBufferProxy.ownershipTypes.contains answer.type = true →
    answer.result = answer.direct ∧ (answer.result = true → system.owned answer.wireId answer.type = true)
  others : CommandBufferProxy.ownershipTypes.contains answer.type = false → answer.result = false
  disturbed : answer.standing = .disturbed →
    answer.result = false ∧ (system.step move).proxy.ownershipCache = system.proxy.ownershipCache

end OwnershipSystem

namespace StreamRegion

/-- The sequence was given out before. A region that has given out all of them gives
out no more. -/
def Earlier (region : StreamRegion) (sequence : UInt64) : Prop :=
  region.nextSequence = 0 ∨ sequence < region.nextSequence

theorem earlier_zero (region : StreamRegion) : region.Earlier 0 := by
  by_cases exhausted : region.nextSequence = 0
  · exact .inl exhausted
  · exact .inr (UInt64.pos_iff_ne_zero.mpr exhausted)

variable {region next : StreamRegion} {sequence : UInt64}

def Advances (region next : StreamRegion) : Prop :=
  next.nextSequence = region.nextSequence ∨
    region.nextSequence ≠ 0 ∧ next.nextSequence = region.nextSequence + 1

theorem Advances.earlier (advances : region.Advances next) (earlier : region.Earlier sequence) :
    next.Earlier sequence := by
  rcases advances with same | ⟨nonzero, more⟩
  · rw [Earlier, same]
    exact earlier
  · rw [Earlier, more]
    rcases earlier with exhausted | below
    · exact absurd exhausted nonzero
    · by_cases wraps : region.nextSequence + 1 = 0
      · exact .inl wraps
      · refine .inr ?_
        have room : region.nextSequence.toNat + 1 < 2 ^ 64 := by
          have bound := region.nextSequence.toNat_lt
          have unwrapped : (region.nextSequence + 1).toNat ≠ 0 := fun zero => wraps (UInt64.toNat_inj.mp zero)
          rw [UInt64.toNat_add, UInt64.toNat_one] at unwrapped
          omega
        rw [UInt64.lt_iff_toNat_lt] at below ⊢
        rw [UInt64.toNat_add, UInt64.toNat_one, Nat.mod_eq_of_lt room]
        omega

theorem earlier_leased (more : next.nextSequence = region.nextSequence + 1) :
    next.Earlier region.nextSequence := by
  by_cases wraps : region.nextSequence + 1 = 0
  · exact .inl (more.trans wraps)
  · refine .inr ?_
    rw [more]
    have bound := region.nextSequence.toNat_lt
    have unwrapped : (region.nextSequence + 1).toNat ≠ 0 := fun zero => wraps (UInt64.toNat_inj.mp zero)
    rw [UInt64.toNat_add, UInt64.toNat_one] at unwrapped
    rw [UInt64.lt_iff_toNat_lt, UInt64.toNat_add, UInt64.toNat_one]
    omega

theorem Earlier.ne_leased (earlier : region.Earlier sequence) (nonzero : region.nextSequence ≠ 0) :
    sequence ≠ region.nextSequence := by
  rcases earlier with exhausted | below
  · exact absurd exhausted nonzero
  · exact UInt64.ne_of_lt below

end StreamRegion

/-! ## What the sections do to the cache -/

namespace CommandBufferProxy

variable {proxy : CommandBufferProxy} {region : StreamRegion} {diagnostics : Bool}

theorem releaseCommandStreamSlot_cache :
    (proxy.releaseCommandStreamSlot region).1.nextSequence = region.nextSequence ∧
      (proxy.releaseCommandStreamSlot region).2.ownershipCache = proxy.ownershipCache ∧
      (proxy.releaseCommandStreamSlot region).2.streamSequence = proxy.streamSequence := by
  simp only [releaseCommandStreamSlot]
  split <;> exact ⟨rfl, rfl, rfl⟩

theorem resetCommandStreamState_spec :
    (proxy.resetCommandStreamState region).1.nextSequence = region.nextSequence ∧
      (proxy.resetCommandStreamState region).2.deviceId = proxy.deviceId ∧
      (proxy.resetCommandStreamState region).2.ownershipCache = (fun _ => default) ∧
      (proxy.resetCommandStreamState region).2.streamSequence = 0 ∧
      (proxy.resetCommandStreamState region).2.streamRecording = false := by
  have kept : (proxy.releaseCommandStreamSlot region).1.nextSequence = region.nextSequence :=
    releaseCommandStreamSlot_cache.1
  have same : (proxy.releaseCommandStreamSlot region).2.deviceId = proxy.deviceId :=
    releaseCommandStreamSlot_identity.2
  exact ⟨kept, same, rfl, rfl, rfl⟩

theorem failBegin_spec :
    (proxy.failBegin region).2.1.nextSequence = region.nextSequence ∧
      (proxy.failBegin region).2.2.deviceId = proxy.deviceId ∧
      (proxy.failBegin region).2.2.ownershipCache = proxy.ownershipCache ∧
      (proxy.failBegin region).2.2.streamSequence = proxy.streamSequence := by
  simp only [failBegin, releaseCommandStreamSlot]
  split <;> exact ⟨rfl, rfl, rfl, rfl⟩

structure Begun (before : CommandBufferProxy) (region next : StreamRegion) (proxy : CommandBufferProxy) : Prop where
  deviceId : proxy.deviceId = before.deviceId
  advances : region.Advances next
  earlier : region.Earlier before.streamSequence → next.Earlier proxy.streamSequence
  recording : proxy.streamRecording = true → region.nextSequence ≠ 0 ∧
    proxy.streamSequence = region.nextSequence ∧ proxy.ownershipCache = fun _ => default

theorem Begun.of_failBegin {between : CommandBufferProxy} {middle : StreamRegion}
    (deviceId : between.deviceId = proxy.deviceId) (advances : region.Advances middle)
    (earlier : region.Earlier proxy.streamSequence → middle.Earlier between.streamSequence) :
    Begun proxy region (between.failBegin middle).2.1 (between.failBegin middle).2.2 := by
  obtain ⟨next, device, _, sequence⟩ : (between.failBegin middle).2.1.nextSequence = middle.nextSequence ∧
      (between.failBegin middle).2.2.deviceId = between.deviceId ∧
      (between.failBegin middle).2.2.ownershipCache = between.ownershipCache ∧
      (between.failBegin middle).2.2.streamSequence = between.streamSequence := failBegin_spec
  constructor
  · exact device.trans deviceId
  · rw [StreamRegion.Advances, next]
    exact advances
  · intro before
    rw [StreamRegion.Earlier, next, sequence]
    exact earlier before
  · intro recording
    have closed : (between.failBegin middle).2.2.streamRecording = false := failBegin_closed
    rw [closed] at recording
    contradiction

theorem beginSection_begun (flags : UInt32) :
    Begun proxy region (proxy.beginSection region flags).2.1 (proxy.beginSection region flags).2.2 := by
  have reset : (proxy.resetCommandStreamState region).1.nextSequence = region.nextSequence ∧
      (proxy.resetCommandStreamState region).2.deviceId = proxy.deviceId ∧
      (proxy.resetCommandStreamState region).2.ownershipCache = (fun _ => default) ∧
      (proxy.resetCommandStreamState region).2.streamSequence = 0 ∧
      (proxy.resetCommandStreamState region).2.streamRecording = false := resetCommandStreamState_spec
  unfold beginSection
  split
  · exact .of_failBegin rfl (.inl rfl) fun before => before
  rcases whole : proxy.resetCommandStreamState region with ⟨cleared, fresh⟩
  rw [whole] at reset
  obtain ⟨next, device, empty, zero, _⟩ := reset
  dsimp only at next device empty zero ⊢
  split
  · refine .of_failBegin device (.inl next) fun _ => ?_
    rw [zero]
    exact cleared.earlier_zero
  · rename_i leasedRegion leased lease
    obtain ⟨slot, _, nonzero, rfl, rfl⟩ := leaseCommandStreamSlot_eq_ok lease
    rw [next] at nonzero
    have moves : region.Advances
        { cleared with slots := cleared.slots ||| slotBit slot, nextSequence := cleared.nextSequence + 1 } :=
      .inr ⟨nonzero, congrArg (· + 1) next⟩
    have taken : StreamRegion.Earlier
        { cleared with slots := cleared.slots ||| slotBit slot, nextSequence := cleared.nextSequence + 1 }
        cleared.nextSequence := StreamRegion.earlier_leased rfl
    split
    · exact .of_failBegin device moves fun _ => taken
    · dsimp only
      split
      · exact .of_failBegin device moves fun _ => taken
      · exact ⟨device, moves, fun _ => taken, fun _ => ⟨nonzero, next, empty⟩⟩

theorem Begun.of_release {between : CommandBufferProxy} (deviceId : between.deviceId = proxy.deviceId)
    (sequence : between.streamSequence = proxy.streamSequence) :
    Begun proxy region (between.releaseCommandStreamSlot region).1
      { (between.releaseCommandStreamSlot region).2 with streamRecording := false } := by
  obtain ⟨next, _, kept⟩ : (between.releaseCommandStreamSlot region).1.nextSequence = region.nextSequence ∧
      (between.releaseCommandStreamSlot region).2.ownershipCache = between.ownershipCache ∧
      (between.releaseCommandStreamSlot region).2.streamSequence = between.streamSequence :=
    releaseCommandStreamSlot_cache
  have device : (between.releaseCommandStreamSlot region).2.deviceId = between.deviceId :=
    releaseCommandStreamSlot_identity.2
  refine ⟨device.trans deviceId, .inl next, fun before => ?_, fun recording => by contradiction⟩
  rw [StreamRegion.Earlier, next]
  exact (kept.trans sequence).symm ▸ before

theorem endCommandBuffer_begun :
    Begun proxy region (proxy.endCommandBuffer region).2.1 (proxy.endCommandBuffer region).2.2 := by
  simp only [endCommandBuffer]
  split
  · exact ⟨rfl, .inl rfl, fun before => before, fun recording => by contradiction⟩
  · exact .of_release rfl rfl

theorem resetCommandStreamState_begun :
    Begun proxy region (proxy.resetCommandStreamState region).1 (proxy.resetCommandStreamState region).2 := by
  obtain ⟨next, device, _, zero, closed⟩ : (proxy.resetCommandStreamState region).1.nextSequence = region.nextSequence ∧
      (proxy.resetCommandStreamState region).2.deviceId = proxy.deviceId ∧
      (proxy.resetCommandStreamState region).2.ownershipCache = (fun _ => default) ∧
      (proxy.resetCommandStreamState region).2.streamSequence = 0 ∧
      (proxy.resetCommandStreamState region).2.streamRecording = false := resetCommandStreamState_spec
  refine ⟨device, .inl next, fun _ => ?_, fun recording => ?_⟩
  · rw [zero]
    exact StreamRegion.earlier_zero _
  · rw [closed] at recording
    contradiction

structure SameCache (before after : CommandBufferProxy) : Prop where
  frame : after.frame = before.frame
  cache : after.ownershipCache = before.ownershipCache

theorem SameCache.of_poison : SameCache proxy (proxy.poison diagnostics) := ⟨rfl, rfl⟩

theorem SameCache.of_appendDirect (command : Command) : SameCache proxy (proxy.appendDirect diagnostics command) := by
  refine ⟨appendDirect_frame, ?_⟩
  simp only [appendDirect]
  split
  · split <;> rfl
  · rfl

theorem SameCache.of_submitSection (batch : ByteBuffer.Buffer) (length : Nat) :
    SameCache proxy (proxy.submitSection diagnostics batch length).1 := by
  refine ⟨submitSection_frame batch length, ?_⟩
  simp only [submitSection]
  split
  · rfl
  · split <;> rfl

theorem SameCache.fields {after : CommandBufferProxy} (same : SameCache proxy after) :
    after.deviceId = proxy.deviceId ∧ after.streamSequence = proxy.streamSequence ∧
      after.streamRecording = proxy.streamRecording :=
  ⟨congrArg StreamFrame.deviceId same.frame, congrArg StreamFrame.streamSequence same.frame,
    congrArg StreamFrame.streamRecording same.frame⟩

end CommandBufferProxy

namespace OwnershipSystem

variable {system : OwnershipSystem} {wireId : UInt64} {type : ObjectType}

/-! ## The invariant -/

def Known (system : OwnershipSystem) (wireId : UInt64) (type : ObjectType) : Prop :=
  (wireId, type) ∈ system.lookedUp ∧ system.owned wireId type = true

structure Waits (system : OwnershipSystem) (lookup : OwnershipLookup) : Prop where
  accepted : CommandBufferProxy.ownershipTypes.contains lookup.type = true
  earlier : system.region.Earlier lookup.sequence
  within : lookup.standing = .within → system.proxy.streamRecording = true ∧
    lookup.sequence = system.proxy.streamSequence ∧ (lookup.wireId, lookup.type) ∈ system.lookedUp ∧
    (lookup.found = some true → system.owned lookup.wireId lookup.type = true)
  outside : lookup.standing = .outside → system.proxy.streamRecording = false
  disturbed : lookup.standing = .disturbed → system.proxy.streamRecording = true →
    lookup.sequence ≠ system.proxy.streamSequence

structure CacheSound (system : OwnershipSystem) : Prop where
  distinct : system.registry.Distinct
  entries : system.proxy.streamRecording = true → ∀ index, system.proxy.ownershipCache index = default ∨
    system.Known (system.proxy.ownershipCache index).wireId (system.proxy.ownershipCache index).type
  sequence : system.region.Earlier system.proxy.streamSequence
  pending : ∀ thread lookup, system.pending thread = some lookup → system.Waits lookup

theorem initial_cacheSound {registry : ClientRegistry} (distinct : registry.Distinct) (region : StreamRegion)
    (wireId parentPoolId deviceId : UInt64) : (initial registry region wireId parentPoolId deviceId).CacheSound := by
  refine ⟨distinct, ?_, region.earlier_zero, ?_⟩
  · intro recording
    contradiction
  · intro thread lookup waiting
    contradiction

theorem CacheSound.begun {region : StreamRegion} {proxy : CommandBufferProxy} (sound : system.CacheSound)
    (begun : CommandBufferProxy.Begun system.proxy system.region region proxy) (lookedUp : List (UInt64 × ObjectType)) :
    CacheSound { system with region := region, proxy := proxy, pending := system.disturbed, lookedUp := lookedUp } := by
  refine ⟨sound.distinct, ?_, begun.earlier sound.sequence, ?_⟩
  · intro recording index
    obtain ⟨_, _, empty⟩ := begun.recording recording
    exact .inl (congrFun empty index)
  · intro thread lookup waiting
    obtain ⟨before, waited, rfl⟩ := Option.map_eq_some_iff.mp waiting
    have waits := sound.pending thread before waited
    refine ⟨waits.accepted, begun.advances.earlier waits.earlier, fun wrong => by contradiction,
      fun wrong => by contradiction, ?_⟩
    intro _ recording
    obtain ⟨nonzero, fresh, _⟩ := begun.recording recording
    rw [fresh]
    exact waits.earlier.ne_leased nonzero

theorem CacheSound.recorded {proxy : CommandBufferProxy} (sound : system.CacheSound)
    (same : CommandBufferProxy.SameCache system.proxy proxy) : CacheSound { system with proxy := proxy } := by
  obtain ⟨device, sequence, recording⟩ := same.fields
  have owned : ∀ wireId type, owned { system with proxy := proxy } wireId type = system.owned wireId type := by
    intro wireId type
    simp only [OwnershipSystem.owned, device]
  refine ⟨sound.distinct, ?_, ?_, ?_⟩
  · intro stillRecording index
    dsimp only at stillRecording ⊢
    rw [recording] at stillRecording
    rw [same.cache, Known, owned]
    exact sound.entries stillRecording index
  · dsimp only
    rw [sequence]
    exact sound.sequence
  · intro thread lookup waiting
    have waits := sound.pending thread lookup waiting
    refine ⟨waits.accepted, waits.earlier, ?_, ?_, ?_⟩
    · intro within
      rw [owned]
      dsimp only
      rw [recording, sequence]
      exact waits.within within
    · intro outside
      dsimp only
      rw [recording]
      exact waits.outside outside
    · intro disturbed
      dsimp only
      rw [recording, sequence]
      exact waits.disturbed disturbed

theorem CacheSound.others {region : StreamRegion} (sound : system.CacheSound)
    (advances : system.region.Advances region) : CacheSound { system with region := region } := by
  refine ⟨sound.distinct, sound.entries, advances.earlier sound.sequence, ?_⟩
  intro thread lookup waiting
  have waits := sound.pending thread lookup waiting
  exact ⟨waits.accepted, advances.earlier waits.earlier, waits.within, waits.outside, waits.disturbed⟩

theorem CacheSound.changed {change : RegistryChange} (sound : system.CacheSound)
    (permits : system.Permits (.changes change)) :
    CacheSound { system with registry := system.registry.apply change } := by
  obtain ⟨fresh, kept⟩ := permits
  have owned : system.proxy.streamRecording = true → ∀ wireId type, (wireId, type) ∈ system.lookedUp →
      system.owned wireId type = true →
      owned { system with registry := system.registry.apply change } wireId type = true := by
    intro recording wireId type known owned
    exact ClientRegistry.ownedByDevice_apply sound.distinct fresh owned (kept recording (wireId, type) known)
  refine ⟨ClientRegistry.apply_distinct sound.distinct fresh, ?_, sound.sequence, ?_⟩
  · intro recording index
    rcases sound.entries recording index with empty | ⟨known, isOwned⟩
    · exact .inl empty
    · exact .inr ⟨known, owned recording _ _ known isOwned⟩
  · intro thread lookup waiting
    have waits := sound.pending thread lookup waiting
    refine ⟨waits.accepted, waits.earlier, ?_, waits.outside, waits.disturbed⟩
    intro within
    obtain ⟨recording, sequence, known, found⟩ := waits.within within
    exact ⟨recording, sequence, known, fun isFound => owned recording _ _ known (found isFound)⟩

theorem CacheSound.listed (sound : system.CacheSound) (object : UInt64 × ObjectType) :
    CacheSound { system with
      lookedUp := if system.proxy.streamRecording then object :: system.lookedUp else system.lookedUp } := by
  have more : ∀ other ∈ system.lookedUp,
      other ∈ (if system.proxy.streamRecording then object :: system.lookedUp else system.lookedUp) := by
    intro other member
    split
    · exact List.mem_cons_of_mem _ member
    · exact member
  refine ⟨sound.distinct, ?_, sound.sequence, ?_⟩
  · intro recording index
    rcases sound.entries recording index with empty | ⟨known, isOwned⟩
    · exact .inl empty
    · exact .inr ⟨more _ known, isOwned⟩
  · intro thread lookup waiting
    have waits := sound.pending thread lookup waiting
    refine ⟨waits.accepted, waits.earlier, ?_, waits.outside, waits.disturbed⟩
    intro within
    obtain ⟨recording, sequence, known, found⟩ := waits.within within
    exact ⟨recording, sequence, more _ known, found⟩

theorem CacheSound.waiting {lookup : OwnershipLookup} (sound : system.CacheSound) (thread : Nat)
    (waits : system.Waits lookup) :
    CacheSound { system with pending := Function.update system.pending thread (some lookup) } := by
  refine ⟨sound.distinct, sound.entries, sound.sequence, ?_⟩
  intro other found waiting
  dsimp only at waiting
  by_cases same : other = thread
  · rw [same, Function.update_self, Option.some.injEq] at waiting
    rw [← waiting]
    exact ⟨waits.accepted, waits.earlier, waits.within, waits.outside, waits.disturbed⟩
  · rw [Function.update_of_ne same] at waiting
    have before := sound.pending other found waiting
    exact ⟨before.accepted, before.earlier, before.within, before.outside, before.disturbed⟩

theorem CacheSound.done (sound : system.CacheSound) (thread : Nat) :
    CacheSound { system with pending := Function.update system.pending thread none } := by
  refine ⟨sound.distinct, sound.entries, sound.sequence, ?_⟩
  intro other found waiting
  dsimp only at waiting
  by_cases same : other = thread
  · rw [same, Function.update_self] at waiting
    contradiction
  · rw [Function.update_of_ne same] at waiting
    have before := sound.pending other found waiting
    exact ⟨before.accepted, before.earlier, before.within, before.outside, before.disturbed⟩

theorem cachedOwnership_eq_none {proxy : CommandBufferProxy} (missed : proxy.cachedOwnership wireId type = none) :
    CommandBufferProxy.ownershipTypes.contains type = true := by
  by_cases accepted : CommandBufferProxy.ownershipTypes.contains type = true
  · exact accepted
  · simp only [CommandBufferProxy.cachedOwnership, accepted, Bool.not_false, Bool.true_or, if_true] at missed
    contradiction

theorem cachedOwnership_eq_some {proxy : CommandBufferProxy} {result : Bool}
    (answered : proxy.cachedOwnership wireId type = some result) :
    result = false ∧ (CommandBufferProxy.ownershipTypes.contains type = false ∨ handleExpect wireId type = false) ∨
      result = true ∧ CommandBufferProxy.ownershipTypes.contains type = true ∧
        proxy.ownershipCache (CommandBufferProxy.ownershipCacheIndex wireId type) = ⟨wireId, type⟩ := by
  simp only [CommandBufferProxy.cachedOwnership] at answered
  split at answered
  · rename_i refused
    simp only [Bool.or_eq_true, Bool.not_eq_true'] at refused
    exact .inl ⟨(Option.some.inj answered).symm, refused⟩
  · rename_i accepted
    simp only [Bool.or_eq_true, Bool.not_eq_true', not_or, Bool.not_eq_false] at accepted
    split at answered
    · rename_i hit
      exact .inr ⟨(Option.some.inj answered).symm, accepted.1, eq_of_beq hit⟩
    · contradiction

theorem default_refused : CommandBufferProxy.ownershipTypes.contains (default : OwnershipCacheEntry).type = false := rfl

theorem CacheSound.cachedOwnership_exact (sound : system.CacheSound) {result : Bool}
    (recording : system.proxy.streamRecording = true)
    (accepted : CommandBufferProxy.ownershipTypes.contains type = true)
    (answered : system.proxy.cachedOwnership wireId type = some result) : result = system.owned wireId type := by
  rcases cachedOwnership_eq_some answered with ⟨rfl, unknown | foreign⟩ | ⟨rfl, _, hit⟩
  · rw [accepted] at unknown
    contradiction
  · by_cases owned : system.owned wireId type = true
    · have handle := ((ClientRegistry.ownedByDevice_iff sound.distinct).mp owned).1
      rw [foreign] at handle
      contradiction
    · exact (Bool.eq_false_of_not_eq_true owned).symm
  · rcases sound.entries recording (CommandBufferProxy.ownershipCacheIndex wireId type) with empty | ⟨_, owned⟩
    · rw [hit] at empty
      have unset : type = (default : OwnershipCacheEntry).type := congrArg OwnershipCacheEntry.type empty
      rw [unset, default_refused] at accepted
      contradiction
    · rw [hit] at owned
      exact owned.symm

theorem relockedOwnership_spec (proxy : CommandBufferProxy) (wireId : UInt64) (type : ObjectType) (sequence : UInt64)
    (owned : Bool) :
    (proxy.streamRecording = true ∧ proxy.streamSequence = sequence ∧ owned = true ∧
        (proxy.relockedOwnership wireId type sequence owned).1 = true ∧
        (proxy.relockedOwnership wireId type sequence owned).2.ownershipCache =
          Function.update proxy.ownershipCache (CommandBufferProxy.ownershipCacheIndex wireId type) ⟨wireId, type⟩) ∨
      (¬ (proxy.streamRecording = true ∧ proxy.streamSequence = sequence ∧ owned = true) ∧
        (proxy.relockedOwnership wireId type sequence owned).1 = false ∧
        (proxy.relockedOwnership wireId type sequence owned).2.ownershipCache = proxy.ownershipCache) := by
  simp only [CommandBufferProxy.relockedOwnership]
  split
  · rename_i moved
    refine .inr ⟨?_, rfl, rfl⟩
    rintro ⟨recording, same, _⟩
    simp [recording, same] at moved
  · rename_i stayed
    simp only [Bool.or_eq_true, bne_iff_ne, ne_eq, Bool.not_eq_true', not_or, not_not, Bool.not_eq_false] at stayed
    split
    · rename_i isOwned
      exact .inl ⟨stayed.2, stayed.1, isOwned, rfl, rfl⟩
    · rename_i foreign
      refine .inr ⟨?_, rfl, rfl⟩
      rintro ⟨_, _, isOwned⟩
      exact foreign isOwned

theorem Waits.within_of_sequence {lookup : OwnershipLookup} (waits : system.Waits lookup)
    (recording : system.proxy.streamRecording = true) (same : system.proxy.streamSequence = lookup.sequence) :
    lookup.standing = .within := by
  cases place : lookup.standing with
  | within => rfl
  | outside =>
      rw [waits.outside place] at recording
      contradiction
  | disturbed => exact absurd same.symm (waits.disturbed place recording)

theorem CacheSound.relocked {lookup : OwnershipLookup} {owned : Bool} (sound : system.CacheSound)
    (waits : system.Waits lookup) (found : lookup.found = some owned) :
    CacheSound { system with
      proxy := (system.proxy.relockedOwnership lookup.wireId lookup.type lookup.sequence owned).2 } := by
  have frame : (system.proxy.relockedOwnership lookup.wireId lookup.type lookup.sequence owned).2.frame =
      system.proxy.frame := CommandBufferProxy.relockedOwnership_frame _ _ _ _
  rcases relockedOwnership_spec system.proxy lookup.wireId lookup.type lookup.sequence owned with
    ⟨recording, same, rfl, _, updated⟩ | ⟨_, _, kept⟩
  · obtain ⟨_, _, listed, isOwned⟩ := waits.within (waits.within_of_sequence recording same)
    have rest : CacheSound { system with proxy :=
        { (system.proxy.relockedOwnership lookup.wireId lookup.type lookup.sequence true).2 with
          ownershipCache := system.proxy.ownershipCache } } := sound.recorded ⟨frame, rfl⟩
    have device : (system.proxy.relockedOwnership lookup.wireId lookup.type lookup.sequence true).2.deviceId =
        system.proxy.deviceId := congrArg StreamFrame.deviceId frame
    refine ⟨rest.distinct, ?_, rest.sequence, fun thread other waiting => ?_⟩
    · intro stillRecording index
      dsimp only
      rw [updated]
      by_cases place : index = CommandBufferProxy.ownershipCacheIndex lookup.wireId lookup.type
      · rw [place, Function.update_self]
        refine .inr ⟨listed, ?_⟩
        simp only [OwnershipSystem.owned, device]
        exact isOwned found
      · rw [Function.update_of_ne place]
        exact rest.entries stillRecording index
    · have before := rest.pending thread other waiting
      exact ⟨before.accepted, before.earlier, before.within, before.outside, before.disturbed⟩
  · exact sound.recorded ⟨frame, kept⟩

theorem CacheSound.step {move : OwnershipMove} (sound : system.CacheSound) (permits : system.Permits move) :
    (system.step move).CacheSound := by
  cases move with
  | starts flags => exact sound.begun (CommandBufferProxy.beginSection_begun flags) []
  | ends => exact sound.begun CommandBufferProxy.endCommandBuffer_begun system.lookedUp
  | resets => exact sound.begun CommandBufferProxy.resetCommandStreamState_begun system.lookedUp
  | records diagnostics command => exact sound.recorded (.of_appendDirect command)
  | submits diagnostics batch length => exact sound.recorded (.of_submitSection batch length)
  | poisons diagnostics => exact sound.recorded .of_poison
  | othersStart other flags =>
      have begun : CommandBufferProxy.Begun other system.region (other.beginSection system.region flags).2.1
          (other.beginSection system.region flags).2.2 := CommandBufferProxy.beginSection_begun flags
      exact sound.others begun.advances
  | othersEnd other =>
      have begun : CommandBufferProxy.Begun other system.region (other.endCommandBuffer system.region).2.1
          (other.endCommandBuffer system.region).2.2 := CommandBufferProxy.endCommandBuffer_begun
      exact sound.others begun.advances
  | othersReset other =>
      have begun : CommandBufferProxy.Begun other system.region (other.resetCommandStreamState system.region).1
          (other.resetCommandStreamState system.region).2 := CommandBufferProxy.resetCommandStreamState_begun
      exact sound.others begun.advances
  | changes change => exact sound.changed permits
  | lookup thread wireId type =>
      have listed := sound.listed (wireId, type)
      simp only [OwnershipSystem.step]
      split
      · exact sound
      · split
        · exact listed
        · rename_i missed
          refine listed.waiting thread ⟨cachedOwnership_eq_none missed, sound.sequence, ?_, ?_, ?_⟩
          · intro within
            have recording : system.proxy.streamRecording = true := by
              by_cases recording : system.proxy.streamRecording = true
              · exact recording
              · simp only [standing, recording] at within
                contradiction
            refine ⟨recording, rfl, ?_, fun wrong => by contradiction⟩
            simp only [recording, if_true, List.mem_cons, true_or]
          · intro outside
            by_cases recording : system.proxy.streamRecording = true
            · simp only [standing, recording] at outside
              contradiction
            · exact Bool.eq_false_of_not_eq_true recording
          · intro disturbed
            simp only [standing] at disturbed
            split at disturbed <;> contradiction
  | reads thread =>
      simp only [OwnershipSystem.step]
      split
      · rename_i wireId type sequence standing waiting
        have waits := sound.pending thread _ waiting
        refine sound.waiting thread ⟨waits.accepted, waits.earlier, ?_, waits.outside, waits.disturbed⟩
        intro within
        obtain ⟨recording, same, known, _⟩ := waits.within within
        exact ⟨recording, same, known, fun owned => Option.some.inj owned⟩
      · exact sound
  | relocks thread =>
      simp only [OwnershipSystem.step]
      split
      · rename_i waiting
        exact (sound.relocked (sound.pending thread _ waiting) rfl).done thread
      · exact sound

theorem CacheSound.answer_exact {move : OwnershipMove} {answer : LookupAnswer} (sound : system.CacheSound)
    (answered : system.answer move = some answer) : system.Exact move answer := by
  cases move with
  | lookup thread wireId type =>
      simp only [OwnershipSystem.answer] at answered
      split at answered
      · contradiction
      obtain ⟨result, cached, rfl⟩ := Option.map_eq_some_iff.mp answered
      constructor
      · intro within accepted
        have recording : system.proxy.streamRecording = true := by
          by_cases recording : system.proxy.streamRecording = true
          · exact recording
          · simp only [standing, recording] at within
            contradiction
        have exact := sound.cachedOwnership_exact recording accepted cached
        exact ⟨exact, fun positive => exact.symm.trans positive⟩
      · intro unknown
        rcases cachedOwnership_eq_some cached with ⟨rfl, _⟩ | ⟨_, accepted, _⟩
        · rfl
        · rw [unknown] at accepted
          contradiction
      · intro disturbed
        simp only [standing] at disturbed
        split at disturbed <;> contradiction
  | relocks thread =>
      simp only [OwnershipSystem.answer] at answered
      split at answered
      · rename_i wireId type sequence standing owned waiting
        obtain rfl := Option.some.inj answered
        have waits := sound.pending thread _ waiting
        have spec := relockedOwnership_spec system.proxy wireId type sequence owned
        constructor
        · intro within _
          obtain ⟨recording, same, _, isOwned⟩ := waits.within within
          rcases spec with ⟨_, _, rfl, positive, _⟩ | ⟨other, negative, _⟩
          · exact ⟨positive, fun _ => isOwned rfl⟩
          · have foreign : owned = false := by
              by_cases wrong : owned = true
              · exact absurd ⟨recording, same.symm, wrong⟩ other
              · exact Bool.eq_false_of_not_eq_true wrong
            refine ⟨negative.trans foreign.symm, fun positive => ?_⟩
            rw [negative] at positive
            contradiction
        · intro unknown
          have accepted : CommandBufferProxy.ownershipTypes.contains type = true := waits.accepted
          rw [unknown] at accepted
          contradiction
        · intro disturbed
          rcases spec with ⟨recording, same, _⟩ | ⟨_, negative, kept⟩
          · exact absurd same.symm (waits.disturbed disturbed recording)
          · refine ⟨negative, ?_⟩
            simp only [OwnershipSystem.step, waiting]
            exact kept
      · contradiction
  | _ => contradiction

theorem run_cacheSound {registry : ClientRegistry} (distinct : registry.Distinct) (region : StreamRegion)
    (wireId parentPoolId deviceId : UInt64) (moves : List OwnershipMove)
    (permitted : Runs.EveryStep step Permits (initial registry region wireId parentPoolId deviceId) moves) :
    Runs.EveryState step CacheSound (initial registry region wireId parentPoolId deviceId) moves :=
  Runs.everyState_of_everyStep (fun _ _ sound permits => sound.step permits) moves _
    (initial_cacheSound distinct region wireId parentPoolId deviceId) permitted

/-- In every interleaving the cache changes no answer: a lookup of a type the function
accepts, made in a recording that stays open, returns what the direct search finds, and
a lookup whose recording ended, was reset or began again returns 0 and caches nothing. -/
theorem ownership_cache_exact {registry : ClientRegistry} (distinct : registry.Distinct) (region : StreamRegion)
    (wireId parentPoolId deviceId : UInt64) (moves : List OwnershipMove)
    (permitted : Runs.EveryStep step Permits (initial registry region wireId parentPoolId deviceId) moves) :
    Runs.EveryStep step (fun system move => ∀ answer, system.answer move = some answer → system.Exact move answer)
      (initial registry region wireId parentPoolId deviceId) moves :=
  (run_cacheSound distinct region wireId parentPoolId deviceId moves permitted).everyStep
    (fun _ _ sound _ _ => sound.answer_exact) permitted

def emptyRegion : StreamRegion := ⟨ByteBuffer.zeroed, 1, 1, 0⟩

/-- A device with a buffer and a sampler. -/
def smallRegistry : ClientRegistry :=
  { resources :=
      [⟨handleId .buffer 1, .buffer, handleId .device 1⟩, ⟨handleId .sampler 1, .sampler, handleId .device 1⟩]
    swapchains := [] }

theorem smallRegistry_distinct : smallRegistry.Distinct :=
  ⟨by decide, fun _ member => absurd member List.not_mem_nil, fun _ _ _ member => absurd member List.not_mem_nil⟩

/-- The recording begins again between a lookup's search and its return, after the
buffer has gone. -/
def rerecorded : List OwnershipMove :=
  [.starts 0, .lookup 0 (handleId .buffer 1) .buffer, .reads 0, .ends, .resets,
    .changes (.destroyResource (handleId .buffer 1) .buffer), .starts 0, .relocks 0]

theorem ownership_cache_exact_rerecorded :
    Runs.EveryStep step (fun system move => ∀ answer, system.answer move = some answer → system.Exact move answer)
      (initial smallRegistry emptyRegion (handleId .commandBuffer 1) (handleId .commandPool 1) (handleId .device 1))
      rerecorded := by
  refine ownership_cache_exact smallRegistry_distinct emptyRegion _ _ _ rerecorded ?_
  refine ⟨trivial, trivial, trivial, trivial, trivial, ⟨trivial, ?_⟩, trivial, trivial, trivial⟩
  intro recording
  contradiction

/-- The device owns the sampler, and the lookup says no. -/
theorem sampler_lookup_refused :
    ∃ moves answer,
      Runs.EveryStep step Permits (initial smallRegistry emptyRegion (handleId .commandBuffer 1)
        (handleId .commandPool 1) (handleId .device 1)) moves ∧
      (Runs.final step (initial smallRegistry emptyRegion (handleId .commandBuffer 1) (handleId .commandPool 1)
        (handleId .device 1)) moves).answer (.lookup 0 (handleId .sampler 1) .sampler) = some answer ∧
      answer.standing = .within ∧ answer.result = false ∧ answer.direct = true :=
  ⟨[.starts 0], ⟨handleId .sampler 1, .sampler, .within, false, true⟩, ⟨trivial, trivial⟩, by decide, rfl, rfl, rfl⟩

end OwnershipSystem

end VulkanBridge
