import VulkanBridge.StreamGenerations
import VulkanBridge.Runs

/-!
The generation table over whole runs: no command stream is accepted twice, however
the batches repeat their ids and however the entries of dead command buffers are
taken back.
-/

namespace VulkanBridge

open StreamGenerations

/-- A generation table beside the updates it has accepted, the ids reported live so
far, and those reported dead after they were live. -/
structure GenerationHistory where
  generations : List StreamGeneration
  accepted : List GenerationUpdate
  wasLive : UInt64 → Bool
  died : UInt64 → Bool

namespace GenerationHistory

variable {history : GenerationHistory} {call : GenerationCall}

def zeroed (count : Nat) : GenerationHistory :=
  { generations := List.replicate count .zero
    accepted := []
    wasLive := fun _ => false
    died := fun _ => false }

def step (history : GenerationHistory) (call : GenerationCall) : GenerationHistory :=
  let outcome := generationsApply history.generations call
  { generations := outcome.generations
    accepted := if outcome.status = none then history.accepted ++ call.updates else history.accepted
    wasLive := fun id => history.wasLive id || call.isLive id
    died := fun id => history.died id || history.wasLive id && !call.isLive id }

/-- The liveness function revives no dead id and reports the updated ids live. -/
def Truthful (history : GenerationHistory) (call : GenerationCall) : Prop :=
  (∀ id, history.died id = true → call.isLive id = false) ∧
    ∀ update ∈ call.updates, call.isLive update.commandBufferId = true

/-- No stream is accepted again. -/
structure ReplayProof (history : GenerationHistory) : Prop where
  increasing : ∀ id, (sequencesOf id history.accepted).Pairwise (· < ·)
  once : history.accepted.Nodup
  unique : UniqueIds history.generations

/-- A refused call changes nothing, and a call with memory and well-formed ids succeeds
exactly when the table takes its updates. -/
structure Exact (history : GenerationHistory) (call : GenerationCall) : Prop where
  refused : (generationsApply history.generations call).status ≠ none →
    (generationsApply history.generations call).generations = history.generations
  succeeds : call.hasMemory = true →
    (∀ update ∈ call.updates, handleExpect update.commandBufferId .commandBuffer = true) →
    ((generationsApply history.generations call).status = none ↔
      TakesAll call.isLive history.generations call.updates)

def Sized (generations : List StreamGeneration) : Prop :=
  0 < generations.length ∧ generations.length ≤ (2 ^ 64 - 1) / 16

theorem generationsApply_cases (sized : Sized history.generations) :
    (generationsApply history.generations call).generations = history.generations ∧
        (generationsApply history.generations call).status ≠ none ∨
      call.updates = [] ∧ generationsApply history.generations call = ⟨none, history.generations, 0⟩ ∨
      ∃ later : GenerationShadow,
        call.updates.foldlM (GenerationShadow.update call.isLive) ⟨history.generations, 0, false⟩ = .ok later ∧
        generationsApply history.generations call = ⟨none, later.entries, later.reclaimed⟩ := by
  have valid : ¬(history.generations.length = 0 ∨ history.generations.length > (2 ^ 64 - 1) / 16) := by
    obtain ⟨positive, small⟩ := sized
    omega
  rw [generationsApply, if_neg valid]
  split
  · rename_i none
    exact .inr (.inl ⟨List.length_eq_zero_iff.mp none, rfl⟩)
  · split
    · exact .inl ⟨rfl, nofun⟩
    · split
      · exact .inl ⟨rfl, nofun⟩
      · rename_i later done
        exact .inr (.inr ⟨later, done, rfl⟩)

theorem sound_of_tidy (sized : Sized history.generations) (tidy : Tidy history.generations)
    (isLive : UInt64 → Bool) : Sound isLive ⟨history.generations, 0, false⟩ :=
  ⟨tidy, List.ne_nil_of_length_pos sized.1, nofun⟩

theorem exact_of_tidy (sized : Sized history.generations) (tidy : Tidy history.generations)
    (truthful : history.Truthful call) : history.Exact call := by
  constructor
  · intro refused
    rcases generationsApply_cases sized with ⟨same, -⟩ | ⟨-, done⟩ | ⟨later, -, done⟩
    · exact same
    · rw [done] at refused
      exact absurd rfl refused
    · rw [done] at refused
      exact absurd rfl refused
  · intro memory formed
    have fit : Fit call.isLive call.updates :=
      fun update member => ⟨formed update member, truthful.2 update member⟩
    rw [← updates_ok_iff (sound_of_tidy sized tidy call.isLive) fit]
    have valid : ¬(history.generations.length = 0 ∨ history.generations.length > (2 ^ 64 - 1) / 16) := by
      obtain ⟨positive, small⟩ := sized
      omega
    rw [generationsApply, if_neg valid]
    by_cases empty : call.updates.length = 0
    · rw [if_pos empty, List.length_eq_zero_iff.mp empty]
      exact iff_of_true rfl ⟨_, rfl⟩
    · rw [if_neg empty, memory]
      simp only [Bool.not_true, Bool.false_eq_true, if_false]
      split
      · rename_i code failed
        simp [failed]
      · rename_i later done
        simp [done]

/-- What the table remembers of the accepted updates: their command buffers have an
entry at or above them, or have died. -/
structure Remembers (history : GenerationHistory) : Prop where
  sized : Sized history.generations
  tidy : Tidy history.generations
  covered : ∀ update ∈ history.accepted, update.commandBufferId ≠ 0 ∧
    history.wasLive update.commandBufferId = true ∧
    (Present history.generations update.commandBufferId ∧
        update.sequence ≤ stored history.generations update.commandBufferId ∨
      history.died update.commandBufferId = true)
  increasing : ∀ id, (sequencesOf id history.accepted).Pairwise (· < ·)

theorem mem_sequencesOf {id sequence : UInt64} {updates : List GenerationUpdate} :
    sequence ∈ sequencesOf id updates ↔ ⟨id, sequence⟩ ∈ updates := by
  simp only [sequencesOf, List.mem_map, List.mem_filter, beq_iff_eq]
  constructor
  · rintro ⟨update, ⟨member, rfl⟩, rfl⟩
    exact member
  · intro member
    exact ⟨_, ⟨member, rfl⟩, rfl⟩

theorem nodup_of_increasing : ∀ {updates : List GenerationUpdate},
    (∀ id, (sequencesOf id updates).Pairwise (· < ·)) → updates.Nodup := by
  intro updates
  induction updates with
  | nil => exact fun _ => List.nodup_nil
  | cons update rest ih =>
      intro increasing
      refine List.nodup_cons.mpr ⟨?_, ih fun id => ?_⟩
      · intro again
        have own := increasing update.commandBufferId
        rw [sequencesOf_cons, if_pos rfl, List.pairwise_cons] at own
        exact UInt64.lt_irrefl _ (own.1 update.sequence (mem_sequencesOf.mpr again))
      · have own := increasing id
        rw [sequencesOf_cons] at own
        split at own
        · exact (List.pairwise_cons.mp own).2
        · exact own

theorem Remembers.replayProof (remembers : history.Remembers) : history.ReplayProof :=
  ⟨remembers.increasing, nodup_of_increasing remembers.increasing, remembers.tidy.unique⟩

theorem zeroed_remembers {count : Nat} (positive : 0 < count) (small : count ≤ (2 ^ 64 - 1) / 16) :
    (zeroed count).Remembers := by
  refine ⟨⟨?_, ?_⟩, ⟨?_, ?_⟩, nofun, fun _ => List.Pairwise.nil⟩
  · simpa [zeroed] using positive
  · simpa [zeroed] using small
  · intro first second one other found _ _ named
    have blank := List.eq_of_mem_replicate (List.mem_of_getElem? found)
    exact absurd (by rw [blank]; rfl) named
  · intro entry member _
    rw [List.eq_of_mem_replicate member]
    rfl

theorem Remembers.unchanged (remembers : history.Remembers)
    (same : (generationsApply history.generations call).generations = history.generations)
    (accepted : (history.step call).accepted = history.accepted) : (history.step call).Remembers := by
  have generations : (history.step call).generations = history.generations := same
  refine ⟨generations ▸ remembers.sized, generations ▸ remembers.tidy, ?_, accepted ▸ remembers.increasing⟩
  rw [generations, accepted]
  intro update member
  obtain ⟨named, live, remembered⟩ := remembers.covered update member
  refine ⟨named, by simp [step, live], remembered.imp id fun died => by simp [step, died]⟩

theorem step_remembers (remembers : history.Remembers) (truthful : history.Truthful call) :
    (history.step call).Remembers := by
  rcases generationsApply_cases remembers.sized with ⟨same, refused⟩ | ⟨empty, done⟩ | ⟨later, loop, done⟩
  · exact remembers.unchanged same (by simp [step, refused])
  · exact remembers.unchanged (by rw [done]) (by simp [step, done, empty])
  · obtain ⟨formed, length⟩ := updates_accepted loop
    have fit : Fit call.isLive call.updates :=
      fun update member => ⟨formed update member, truthful.2 update member⟩
    have sound := sound_of_tidy remembers.sized remembers.tidy call.isLive
    have takes := (updates_ok_iff sound fit).mp ⟨later, loop⟩
    have advanced := updates_advanced sound fit loop
    have generations : (history.step call).generations = later.entries := by simp [step, done]
    have accepted : (history.step call).accepted = history.accepted ++ call.updates := by simp [step, done]
    refine ⟨?_, generations ▸ advanced.tidy, ?_, ?_⟩
    · rw [generations, Sized, length]
      exact remembers.sized
    · rw [generations, accepted]
      intro update member
      rcases List.mem_append.mp member with before | now
      · obtain ⟨named, live, remembered⟩ := remembers.covered update before
        refine ⟨named, by simp [step, live], ?_⟩
        rcases remembered with ⟨present, above⟩ | died
        · by_cases alive : call.isLive update.commandBufferId = true
          · obtain ⟨stays, higher⟩ := advanced.kept _ named alive present
            exact .inl ⟨stays, UInt64.le_trans above higher⟩
          · exact .inr (by simp [step, live, alive])
        · exact .inr (by simp [step, died])
      · obtain ⟨present, above⟩ := advanced.updated update now
        exact ⟨handleExpect_ne_zero (formed update now), by simp [step, truthful.2 update now],
          .inl ⟨present, above⟩⟩
    · rw [accepted]
      intro id
      have climbs := List.isChain_iff_pairwise.mp (takes.1 id)
      rw [List.pairwise_cons] at climbs
      have split : sequencesOf id (history.accepted ++ call.updates) =
          sequencesOf id history.accepted ++ sequencesOf id call.updates := by simp [sequencesOf]
      rw [split, List.pairwise_append]
      refine ⟨remembers.increasing id, climbs.2, ?_⟩
      intro earlier memberEarlier sequence memberNow
      have now := mem_sequencesOf.mp memberNow
      obtain ⟨-, -, remembered⟩ := remembers.covered _ (mem_sequencesOf.mp memberEarlier)
      rcases remembered with ⟨-, above⟩ | died
      · exact UInt64.lt_of_le_of_lt above (climbs.1 sequence memberNow)
      · have dead := truthful.1 id died
        have live := truthful.2 _ now
        simp [dead] at live

/-- Over every run of calls with a truthful liveness function, each command buffer's
accepted sequences climb, the ids of the table stay unique, a refused call changes
nothing, and a call succeeds exactly when the table takes its updates. -/
theorem streams_accepted_once {count : Nat} (positive : 0 < count) (small : count ≤ (2 ^ 64 - 1) / 16)
    (calls : List GenerationCall) (truthful : Runs.EveryStep step Truthful (zeroed count) calls) :
    Runs.EveryState step ReplayProof (zeroed count) calls ∧ Runs.EveryStep step Exact (zeroed count) calls := by
  have remembers : Runs.EveryState step Remembers (zeroed count) calls :=
    Runs.everyState_of_everyStep (fun _ _ remembers meets => step_remembers remembers meets) calls _
      (zeroed_remembers positive small) truthful
  constructor
  · exact remembers.imp fun _ => Remembers.replayProof
  · exact remembers.everyStep (fun _ _ state meets => exact_of_tidy state.sized state.tidy meets) truthful

/-- A table of one entry: the command buffer that held it is dead when the second
call needs the entry. -/
def recycledCalls : List GenerationCall :=
  [⟨[⟨handleId .commandBuffer 1, 5⟩], fun id => id == handleId .commandBuffer 1, true⟩,
    ⟨[⟨handleId .commandBuffer 2, 1⟩, ⟨handleId .commandBuffer 2, 3⟩], fun id => id == handleId .commandBuffer 2, true⟩]

theorem streams_accepted_once_recycled :
    Runs.EveryState step ReplayProof (zeroed 1) recycledCalls ∧
      Runs.EveryStep step Exact (zeroed 1) recycledCalls ∧
      (Runs.final step (zeroed 1) recycledCalls).accepted.length = 3 := by
  have truthful : Runs.EveryStep step Truthful (zeroed 1) recycledCalls := by
    refine ⟨⟨nofun, by decide⟩, ⟨?_, by decide⟩, trivial⟩
    intro id died
    simp [step, zeroed] at died
  obtain ⟨states, calls⟩ := streams_accepted_once (by decide) (by decide) recycledCalls truthful
  exact ⟨states, calls, by decide +kernel⟩

end GenerationHistory

end VulkanBridge
