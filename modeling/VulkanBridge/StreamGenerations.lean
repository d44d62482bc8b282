import VulkanBridge.Handle
import VulkanBridge.CheckedLoops
import Mathlib.Algebra.Group.Nat.Defs
import Mathlib.Data.Finset.Card
import Mathlib.Data.List.Count

/-!
The generation table of the command streams: for each command buffer the last
sequence accepted. A batch of updates is tried on a copy of the table, which gives
up its dead entries once, when it is full.
-/

namespace VulkanBridge

structure StreamGeneration where
  commandBufferId : UInt64
  lastSequence : UInt64
  deriving DecidableEq, Repr

structure GenerationUpdate where
  commandBufferId : UInt64
  sequence : UInt64
  deriving DecidableEq, Repr

def StreamGeneration.zero : StreamGeneration := ⟨0, 0⟩

/-- The scan of `bvb_command_stream_generation_check` with the first empty entry seen. -/
def generationScan (commandBufferId sequence : UInt64) :
    List StreamGeneration → Nat → Option Nat → Except Errno Nat
  | [], _, none => .error .enospc
  | [], _, some empty => .ok empty
  | entry :: rest, index, empty =>
      if entry.commandBufferId = commandBufferId then
        if sequence ≤ entry.lastSequence then .error .estale else .ok index
      else
        generationScan commandBufferId sequence rest (index + 1)
          (if empty = none ∧ entry.commandBufferId = 0 then some index else empty)

def generationCheck (generations : List StreamGeneration) (commandBufferId sequence : UInt64) :
    Except Errno Nat :=
  if generations.length = 0 ∨ sequence = 0 ∨ handleExpect commandBufferId .commandBuffer = false then
    .error .einval
  else generationScan commandBufferId sequence generations 0 none

def generationCommit (generations : List StreamGeneration) (index : Nat)
    (commandBufferId sequence : UInt64) : Except Errno (List StreamGeneration) :=
  match generations[index]? with
  | none => .error .einval
  | some entry =>
      if sequence = 0 ∨ handleExpect commandBufferId .commandBuffer = false ∨
          (entry.commandBufferId ≠ 0 ∧ entry.commandBufferId ≠ commandBufferId) ∨
          sequence ≤ entry.lastSequence then
        .error .einval
      else .ok (generations.set index ⟨commandBufferId, sequence⟩)

def StreamGeneration.isDead (isLive : UInt64 → Bool) (entry : StreamGeneration) : Bool :=
  entry.commandBufferId != 0 && !isLive entry.commandBufferId

structure GenerationShadow where
  entries : List StreamGeneration
  reclaimed : Nat
  attempted : Bool

def GenerationShadow.reclaim (shadow : GenerationShadow) (isLive : UInt64 → Bool) : GenerationShadow :=
  { entries := shadow.entries.map fun entry => if entry.isDead isLive then .zero else entry
    reclaimed := shadow.reclaimed + shadow.entries.countP (·.isDead isLive)
    attempted := true }

/-- One round of the loop over the updates. -/
def GenerationShadow.update (isLive : UInt64 → Bool) (shadow : GenerationShadow)
    (update : GenerationUpdate) : Except Errno GenerationShadow :=
  let commit (shadow : GenerationShadow) (index : Nat) : Except Errno GenerationShadow := do
    let entries ← generationCommit shadow.entries index update.commandBufferId update.sequence
    return { shadow with entries }
  match generationCheck shadow.entries update.commandBufferId update.sequence with
  | .ok index => commit shadow index
  | .error .enospc =>
      if shadow.attempted then .error .enospc
      else do
        let reclaimed := shadow.reclaim isLive
        let index ← generationCheck reclaimed.entries update.commandBufferId update.sequence
        commit reclaimed index
  | .error code => .error code

/-- A call of `bvb_command_stream_generations_apply`, and whether it gets its memory. A
NULL liveness function is one that calls every id live. -/
structure GenerationCall where
  updates : List GenerationUpdate
  isLive : UInt64 → Bool
  hasMemory : Bool

structure GenerationOutcome where
  status : Option Errno
  generations : List StreamGeneration
  reclaimed : Nat

def generationsApply (generations : List StreamGeneration) (call : GenerationCall) : GenerationOutcome :=
  if generations.length = 0 ∨ generations.length > (2 ^ 64 - 1) / 16 then ⟨some .einval, generations, 0⟩
  else if call.updates.length = 0 then ⟨none, generations, 0⟩
  else if !call.hasMemory then ⟨some .enomem, generations, 0⟩
  else
    match call.updates.foldlM (GenerationShadow.update call.isLive) ⟨generations, 0, false⟩ with
    | .error code => ⟨some code, generations, 0⟩
    | .ok shadow => ⟨none, shadow.entries, shadow.reclaimed⟩

namespace StreamGenerations

variable {entries : List StreamGeneration} {isLive : UInt64 → Bool}

def Present (entries : List StreamGeneration) (id : UInt64) : Prop :=
  ∃ entry ∈ entries, entry.commandBufferId = id

instance (id : UInt64) : Decidable (Present entries id) :=
  inferInstanceAs (Decidable (∃ entry ∈ entries, entry.commandBufferId = id))

def stored (entries : List StreamGeneration) (id : UInt64) : UInt64 :=
  ((entries.find? (·.commandBufferId == id)).map (·.lastSequence)).getD 0

def emptyCount (entries : List StreamGeneration) : Nat := entries.countP (·.commandBufferId == 0)

def deadCount (isLive : UInt64 → Bool) (entries : List StreamGeneration) : Nat :=
  entries.countP (·.isDead isLive)

def UniqueIds (entries : List StreamGeneration) : Prop :=
  ∀ (first second : Nat) (one other : StreamGeneration), entries[first]? = some one →
    entries[second]? = some other → one.commandBufferId = other.commandBufferId →
    one.commandBufferId ≠ 0 → first = second

structure Tidy (entries : List StreamGeneration) : Prop where
  unique : UniqueIds entries
  blank : ∀ entry ∈ entries, entry.commandBufferId = 0 → entry.lastSequence = 0

theorem stored_of_absent {id : UInt64} (absent : ¬Present entries id) : stored entries id = 0 := by
  have missing : entries.find? (·.commandBufferId == id) = none := by
    rw [List.find?_eq_none]
    intro entry member same
    exact absent ⟨entry, member, beq_iff_eq.mp same⟩
  simp [stored, missing]

theorem stored_of_entry {index : Nat} {entry : StreamGeneration} (tidy : Tidy entries)
    (found : entries[index]? = some entry) (named : entry.commandBufferId ≠ 0) :
    stored entries entry.commandBufferId = entry.lastSequence := by
  cases search : entries.find? (·.commandBufferId == entry.commandBufferId) with
  | none =>
      rw [List.find?_eq_none] at search
      exact absurd (beq_self_eq_true _) (search entry (List.mem_of_getElem? found))
  | some other =>
      have same : other.commandBufferId = entry.commandBufferId := by
        simpa using List.find?_some search
      obtain ⟨second, found'⟩ := List.mem_iff_getElem?.mp (List.mem_of_find?_eq_some search)
      have := tidy.unique index second entry other found found' same.symm named
      subst this
      obtain rfl := Option.some.inj (found.symm.trans found')
      simp [stored, search]

theorem generationScan_named {id sequence : UInt64} {entry : StreamGeneration} :
    ∀ {entries : List StreamGeneration} {index : Nat} (base : Nat) (empty : Option Nat),
      entries.findIdx? (·.commandBufferId == id) = some index → entries[index]? = some entry →
      generationScan id sequence entries base empty =
        if sequence ≤ entry.lastSequence then .error .estale else .ok (base + index) := by
  intro entries
  induction entries with
  | nil => simp
  | cons first rest ih =>
      intro index base empty found at_
      rw [List.findIdx?_cons] at found
      simp only [generationScan]
      by_cases same : first.commandBufferId = id
      · simp only [same, beq_self_eq_true, if_true, Option.some.injEq] at found
        subst found
        rw [if_pos same, ← Option.some.inj at_]
        rfl
      · rw [if_neg (by simpa using same)] at found
        obtain ⟨before, search, rfl⟩ := Option.map_eq_some_iff.mp found
        rw [if_neg same, ih (base + 1) _ search at_, Nat.add_right_comm, Nat.add_assoc]

theorem generationScan_absent {id sequence : UInt64} :
    ∀ {entries : List StreamGeneration} (base : Nat) (empty : Option Nat), ¬Present entries id →
      generationScan id sequence entries base empty =
        match empty <|> (entries.findIdx? (·.commandBufferId == 0)).map (base + ·) with
        | some index => .ok index
        | none => .error .enospc := by
  intro entries
  induction entries with
  | nil =>
      intro base empty absent
      cases empty <;> rfl
  | cons first rest ih =>
      intro base empty absent
      have apart : first.commandBufferId ≠ id := fun same => absent ⟨first, List.mem_cons_self, same⟩
      have absentLater : ¬Present rest id :=
        fun ⟨entry, member, same⟩ => absent ⟨entry, List.mem_cons_of_mem _ member, same⟩
      simp only [generationScan]
      rw [if_neg apart, ih (base + 1) _ absentLater, List.findIdx?_cons]
      cases empty with
      | some index => simp
      | none =>
          by_cases unnamed : first.commandBufferId = 0
          · simp [unnamed]
          · have shifted : ∀ found : Option Nat,
                (found.map (· + 1)).map (base + ·) = found.map (base + 1 + ·) := by
              intro found
              cases found with
              | none => rfl
              | some index => simp; omega
            simp [unnamed, shifted]

theorem generationCheck_cases {id sequence : UInt64} (positive : entries ≠ [])
    (formed : handleExpect id .commandBuffer = true) (nonzero : sequence ≠ 0) :
    (∃ (index : Nat) (entry : StreamGeneration), entries[index]? = some entry ∧ entry.commandBufferId = id ∧
        generationCheck entries id sequence =
          if sequence ≤ entry.lastSequence then .error .estale else .ok index) ∨
      (¬Present entries id ∧ ∃ (index : Nat) (entry : StreamGeneration), entries[index]? = some entry ∧
        entry.commandBufferId = 0 ∧ generationCheck entries id sequence = .ok index) ∨
      ¬Present entries id ∧ emptyCount entries = 0 ∧ generationCheck entries id sequence = .error .enospc := by
  have checked : generationCheck entries id sequence = generationScan id sequence entries 0 none := by
    rw [generationCheck, if_neg]
    simp [positive, formed, nonzero]
  rw [checked]
  by_cases present : Present entries id
  · left
    cases search : entries.findIdx? (·.commandBufferId == id) with
    | none =>
        obtain ⟨entry, member, same⟩ := present
        have missing := List.findIdx?_eq_none_iff.mp search entry member
        simp [same] at missing
    | some index =>
        obtain ⟨inside, named, -⟩ := List.findIdx?_eq_some_iff_getElem.mp search
        have found := List.getElem?_eq_getElem inside
        refine ⟨index, entries[index], found, beq_iff_eq.mp named, ?_⟩
        rw [generationScan_named 0 none search found, Nat.zero_add]
  · right
    rw [generationScan_absent 0 none present]
    cases search : entries.findIdx? (·.commandBufferId == 0) with
    | none =>
        refine .inr ⟨present, ?_, rfl⟩
        rw [emptyCount, List.countP_eq_zero]
        intro entry member
        simpa using List.findIdx?_eq_none_iff.mp search entry member
    | some index =>
        obtain ⟨inside, unnamed, -⟩ := List.findIdx?_eq_some_iff_getElem.mp search
        refine .inl ⟨present, index, entries[index], List.getElem?_eq_getElem inside, beq_iff_eq.mp unnamed, ?_⟩
        simp

/-! ## What a commit and a reclamation change -/

theorem present_iff {id : UInt64} :
    Present entries id ↔ ∃ (index : Nat) (entry : StreamGeneration),
      entries[index]? = some entry ∧ entry.commandBufferId = id := by
  constructor
  · rintro ⟨entry, member, named⟩
    obtain ⟨index, found⟩ := List.mem_iff_getElem?.mp member
    exact ⟨index, entry, found, named⟩
  · rintro ⟨index, entry, found, named⟩
    exact ⟨entry, List.mem_of_getElem? found, named⟩

theorem stored_congr {later : List StreamGeneration} {id : UInt64} (tidy : Tidy entries) (tidyLater : Tidy later)
    (named : id ≠ 0)
    (same : ∀ entry : StreamGeneration, entry.commandBufferId = id →
      ((∃ index : Nat, later[index]? = some entry) ↔ ∃ index : Nat, entries[index]? = some entry)) :
    (Present later id ↔ Present entries id) ∧ stored later id = stored entries id := by
  have present : Present later id ↔ Present entries id := by
    rw [present_iff, present_iff]
    constructor
    · rintro ⟨index, entry, found, rfl⟩
      obtain ⟨other, found⟩ := (same entry rfl).mp ⟨index, found⟩
      exact ⟨other, entry, found, rfl⟩
    · rintro ⟨index, entry, found, rfl⟩
      obtain ⟨other, found⟩ := (same entry rfl).mpr ⟨index, found⟩
      exact ⟨other, entry, found, rfl⟩
  refine ⟨present, ?_⟩
  by_cases has : Present entries id
  · obtain ⟨index, entry, found, rfl⟩ := present_iff.mp has
    obtain ⟨other, foundLater⟩ := (same entry rfl).mpr ⟨index, found⟩
    rw [stored_of_entry tidy found named, stored_of_entry tidyLater foundLater named]
  · rw [stored_of_absent has, stored_of_absent (fun later => has (present.mp later))]

structure Committed (entries later : List StreamGeneration) (id sequence : UInt64) : Prop where
  tidy : Tidy later
  present : Present later id
  sequence : stored later id = sequence
  others : ∀ other, other ≠ id → other ≠ 0 →
    (Present later other ↔ Present entries other) ∧ stored later other = stored entries other

theorem set_committed {index : Nat} {entry : StreamGeneration} {id : UInt64} (sequence : UInt64) (tidy : Tidy entries)
    (found : entries[index]? = some entry) (named : id ≠ 0)
    (fits : entry.commandBufferId = id ∨ entry.commandBufferId = 0 ∧ ¬Present entries id) :
    Committed entries (entries.set index ⟨id, sequence⟩) id sequence := by
  have inside : index < entries.length := (List.getElem?_eq_some_iff.mp found).1
  have self : (entries.set index ⟨id, sequence⟩)[index]? = some ⟨id, sequence⟩ := by
    rw [List.getElem?_set_self inside]
  have away : ∀ place : Nat, place ≠ index →
      (entries.set index (⟨id, sequence⟩ : StreamGeneration))[place]? = entries[place]? := by
    intro place apart
    rw [List.getElem?_set_ne (Ne.symm apart)]
  -- an id met elsewhere is not the committed one
  have elsewhere : ∀ (place : Nat) (other : StreamGeneration), place ≠ index → entries[place]? = some other →
      other.commandBufferId ≠ id := by
    rintro place other apart foundOther rfl
    rcases fits with same | ⟨-, absent⟩
    · exact apart (tidy.unique place index other entry foundOther found same.symm named)
    · exact absent (present_iff.mpr ⟨place, other, foundOther, rfl⟩)
  have tidyLater : Tidy (entries.set index ⟨id, sequence⟩) := by
    constructor
    · intro first second one other foundOne foundOther same unnamed
      by_cases atFirst : first = index
      · subst atFirst
        obtain rfl := Option.some.inj (self.symm.trans foundOne)
        by_cases atSecond : second = first
        · exact atSecond.symm
        · rw [away second atSecond] at foundOther
          exact absurd same.symm (elsewhere second other atSecond foundOther)
      · rw [away first atFirst] at foundOne
        by_cases atSecond : second = index
        · subst atSecond
          obtain rfl := Option.some.inj (self.symm.trans foundOther)
          exact absurd same (elsewhere first one atFirst foundOne)
        · rw [away second atSecond] at foundOther
          exact tidy.unique first second one other foundOne foundOther same unnamed
    · intro other member unnamed
      obtain ⟨place, foundOther⟩ := List.mem_iff_getElem?.mp member
      by_cases here : place = index
      · subst here
        obtain rfl := Option.some.inj (self.symm.trans foundOther)
        exact absurd unnamed named
      · rw [away place here] at foundOther
        exact tidy.blank other (List.mem_of_getElem? foundOther) unnamed
  refine ⟨tidyLater, present_iff.mpr ⟨index, _, self, rfl⟩, stored_of_entry tidyLater self named, ?_⟩
  intro other apart nonzero
  refine stored_congr tidy tidyLater nonzero ?_
  intro entry' namedOther
  constructor
  · rintro ⟨place, foundOther⟩
    by_cases here : place = index
    · subst here
      obtain rfl := Option.some.inj (self.symm.trans foundOther)
      exact absurd namedOther.symm apart
    · rw [away place here] at foundOther
      exact ⟨place, foundOther⟩
  · rintro ⟨place, foundOther⟩
    have here : place ≠ index := by
      rintro rfl
      obtain rfl := Option.some.inj (found.symm.trans foundOther)
      rcases fits with same | ⟨unnamed, -⟩
      · exact apart (namedOther.symm.trans same)
      · exact nonzero (namedOther.symm.trans unnamed)
    exact ⟨place, (away place here).trans foundOther⟩

theorem generationCommit_ok {index : Nat} {entry : StreamGeneration} {id sequence : UInt64}
    (found : entries[index]? = some entry) (formed : handleExpect id .commandBuffer = true)
    (nonzero : sequence ≠ 0) (fits : entry.commandBufferId = id ∨ entry.commandBufferId = 0)
    (newer : ¬sequence ≤ entry.lastSequence) :
    generationCommit entries index id sequence = .ok (entries.set index ⟨id, sequence⟩) := by
  have fit : ¬(entry.commandBufferId ≠ 0 ∧ entry.commandBufferId ≠ id) := by
    rintro ⟨named, apart⟩
    exact fits.elim apart named
  simp only [generationCommit, found]
  rw [if_neg]
  rintro (zero | refused | misfit | older)
  · exact nonzero zero
  · simp [formed] at refused
  · exact fit misfit
  · exact newer older

theorem emptyCount_set {index : Nat} {entry : StreamGeneration} {id : UInt64} (sequence : UInt64)
    (found : entries[index]? = some entry) (named : id ≠ 0) :
    emptyCount (entries.set index ⟨id, sequence⟩) + (if entry.commandBufferId = 0 then 1 else 0) =
      emptyCount entries := by
  obtain ⟨inside, rfl⟩ := List.getElem?_eq_some_iff.mp found
  have counted : entries[index].commandBufferId = 0 → 0 < emptyCount entries := by
    intro unnamed
    rw [emptyCount, List.countP_pos_iff]
    exact ⟨entries[index], List.getElem_mem inside, by simpa using unnamed⟩
  simp only [emptyCount] at counted ⊢
  rw [List.countP_set inside]
  by_cases unnamed : entries[index].commandBufferId = 0
  · have := counted unnamed
    simp [unnamed, named]
    omega
  · simp [unnamed, named]

theorem deadCount_set {index : Nat} {entry : StreamGeneration} {id : UInt64} (sequence : UInt64)
    (found : entries[index]? = some entry) (alive : entry.isDead isLive = false) (live : isLive id = true) :
    deadCount isLive (entries.set index ⟨id, sequence⟩) = deadCount isLive entries := by
  obtain ⟨inside, rfl⟩ := List.getElem?_eq_some_iff.mp found
  have stillAlive : (⟨id, sequence⟩ : StreamGeneration).isDead isLive = false := by
    simp [StreamGeneration.isDead, live]
  rw [deadCount, deadCount, List.countP_set inside]
  simp [alive, stillAlive]

def reclaimed (isLive : UInt64 → Bool) (entries : List StreamGeneration) : List StreamGeneration :=
  entries.map fun entry => if entry.isDead isLive then .zero else entry

theorem getElem?_reclaimed {index : Nat} {entry : StreamGeneration} (named : entry.commandBufferId ≠ 0) :
    (reclaimed isLive entries)[index]? = some entry ↔
      entries[index]? = some entry ∧ isLive entry.commandBufferId = true := by
  rw [reclaimed, List.getElem?_map, Option.map_eq_some_iff]
  constructor
  · rintro ⟨before, found, same⟩
    by_cases dead : before.isDead isLive
    · rw [if_pos dead] at same
      subst same
      exact absurd rfl named
    · rw [if_neg dead] at same
      subst same
      exact ⟨found, by simpa [StreamGeneration.isDead, named] using dead⟩
  · rintro ⟨found, live⟩
    exact ⟨entry, found, by simp [StreamGeneration.isDead, live]⟩

theorem reclaimed_tidy (tidy : Tidy entries) : Tidy (reclaimed isLive entries) := by
  constructor
  · intro first second one other foundOne foundOther same named
    have foundOne := ((getElem?_reclaimed named).mp foundOne).1
    have foundOther := ((getElem?_reclaimed (same ▸ named)).mp foundOther).1
    exact tidy.unique first second one other foundOne foundOther same named
  · intro entry member unnamed
    obtain ⟨before, memberBefore, same⟩ := List.mem_map.mp member
    by_cases dead : before.isDead isLive
    · rw [if_pos dead] at same
      subst same
      rfl
    · rw [if_neg dead] at same
      subst same
      exact tidy.blank before memberBefore unnamed

theorem reclaimed_kept {id : UInt64} (tidy : Tidy entries) (named : id ≠ 0) (live : isLive id = true) :
    (Present (reclaimed isLive entries) id ↔ Present entries id) ∧
      stored (reclaimed isLive entries) id = stored entries id := by
  refine stored_congr tidy (reclaimed_tidy tidy) named ?_
  rintro entry rfl
  simp only [getElem?_reclaimed named, live, and_true]

theorem emptyCount_reclaimed :
    emptyCount (reclaimed isLive entries) = emptyCount entries + deadCount isLive entries := by
  induction entries with
  | nil => rfl
  | cons first rest ih =>
      simp only [emptyCount, deadCount, reclaimed, List.map_cons, List.countP_cons] at ih ⊢
      by_cases dead : first.isDead isLive
      · have named : first.commandBufferId ≠ 0 := by
          intro unnamed
          simp [StreamGeneration.isDead, unnamed] at dead
        have blank : StreamGeneration.zero.commandBufferId = 0 := rfl
        simp only [dead, if_true, blank, beq_self_eq_true, beq_iff_eq, named, if_false]
        omega
      · simp only [dead, if_false, Bool.false_eq_true]
        omega

theorem deadCount_reclaimed : deadCount isLive (reclaimed isLive entries) = 0 := by
  rw [deadCount, List.countP_eq_zero]
  intro entry member
  obtain ⟨before, -, same⟩ := List.mem_map.mp member
  by_cases dead : before.isDead isLive
  · rw [if_pos dead] at same
    subst same
    simp [StreamGeneration.isDead, StreamGeneration.zero]
  · rw [if_neg dead] at same
    subst same
    exact dead

/-! ## One update -/

structure Sound (isLive : UInt64 → Bool) (shadow : GenerationShadow) : Prop where
  tidy : Tidy shadow.entries
  nonempty : shadow.entries ≠ []
  spent : shadow.attempted = true → deadCount isLive shadow.entries = 0

/-- What an accepted update makes of the table: a reclamation may have taken the
entries of dead command buffers. -/
structure Updated (isLive : UInt64 → Bool) (entries later : List StreamGeneration) (update : GenerationUpdate) :
    Prop where
  present : Present later update.commandBufferId
  sequence : stored later update.commandBufferId = update.sequence
  kept : ∀ other, other ≠ update.commandBufferId → other ≠ 0 → isLive other = true →
    (Present later other ↔ Present entries other) ∧ stored later other = stored entries other
  room : emptyCount later + deadCount isLive later + (if Present entries update.commandBufferId then 0 else 1) =
    emptyCount entries + deadCount isLive entries

def Takes (isLive : UInt64 → Bool) (entries : List StreamGeneration) (update : GenerationUpdate) : Prop :=
  stored entries update.commandBufferId < update.sequence ∧
    (Present entries update.commandBufferId ∨ 0 < emptyCount entries + deadCount isLive entries)

variable {shadow : GenerationShadow} {update : GenerationUpdate}

theorem commit_updated {index : Nat} {entry : StreamGeneration} (tidy : Tidy entries)
    (found : entries[index]? = some entry) (named : update.commandBufferId ≠ 0)
    (live : isLive update.commandBufferId = true)
    (fits : entry.commandBufferId = update.commandBufferId ∨
      entry.commandBufferId = 0 ∧ ¬Present entries update.commandBufferId) :
    Tidy (entries.set index ⟨update.commandBufferId, update.sequence⟩) ∧
      Updated isLive entries (entries.set index ⟨update.commandBufferId, update.sequence⟩) update ∧
      deadCount isLive (entries.set index ⟨update.commandBufferId, update.sequence⟩) =
        deadCount isLive entries := by
  have committed := set_committed update.sequence tidy found named fits
  have empties := emptyCount_set update.sequence found named
  have alive : entry.isDead isLive = false := by
    rcases fits with same | ⟨unnamed, -⟩
    · simp [StreamGeneration.isDead, same, live]
    · simp [StreamGeneration.isDead, unnamed]
  have dead := deadCount_set update.sequence found alive live
  refine ⟨committed.tidy, ⟨committed.present, committed.sequence, ?_, ?_⟩, dead⟩
  · exact fun other apart nonzero _ => committed.others other apart nonzero
  · rw [dead]
    rcases fits with same | ⟨unnamed, absent⟩
    · have present : Present entries update.commandBufferId := present_iff.mpr ⟨index, entry, found, same⟩
      rw [if_neg (same ▸ named)] at empties
      rw [if_pos present]
      omega
    · rw [if_pos unnamed] at empties
      rw [if_neg absent]
      omega

theorem Takes.nonzero (takes : Takes isLive entries update) : update.sequence ≠ 0 :=
  UInt64.pos_iff_ne_zero.mp (UInt64.lt_of_le_of_lt UInt64.zero_le takes.1)

theorem generationCommit_takes {index : Nat} {entry : StreamGeneration} (tidy : Tidy entries)
    (found : entries[index]? = some entry) (formed : handleExpect update.commandBufferId .commandBuffer = true)
    (fits : entry.commandBufferId = update.commandBufferId ∨
      entry.commandBufferId = 0 ∧ ¬Present entries update.commandBufferId)
    (takes : Takes isLive entries update) :
    generationCommit entries index update.commandBufferId update.sequence =
      .ok (entries.set index ⟨update.commandBufferId, update.sequence⟩) := by
  have named := handleExpect_ne_zero formed
  refine generationCommit_ok found formed takes.nonzero (fits.imp id And.left) ?_
  have newer := takes.1
  rw [UInt64.not_le]
  rcases fits with same | ⟨unnamed, absent⟩
  · rwa [← same, stored_of_entry tidy found (same ▸ named)] at newer
  · rwa [tidy.blank entry (List.mem_of_getElem? found) unnamed, ← stored_of_absent absent]

theorem takes_reclaimed (tidy : Tidy entries) (named : update.commandBufferId ≠ 0)
    (live : isLive update.commandBufferId = true) :
    Takes isLive (reclaimed isLive entries) update ↔ Takes isLive entries update := by
  obtain ⟨present, value⟩ := reclaimed_kept tidy named live
  rw [Takes, Takes, present, value, emptyCount_reclaimed, deadCount_reclaimed, Nat.add_zero]

/-- What holds after the dead entries were taken back and an update was made holds as
well when the update is seen from the table before. -/
theorem Updated.of_reclaimed {later : List StreamGeneration} (tidy : Tidy entries)
    (named : update.commandBufferId ≠ 0) (live : isLive update.commandBufferId = true)
    (updated : Updated isLive (reclaimed isLive entries) later update) :
    Updated isLive entries later update where
  present := updated.present
  sequence := updated.sequence
  kept := by
    intro other apart nonzero alive
    obtain ⟨present, value⟩ := updated.kept other apart nonzero alive
    obtain ⟨before, valueBefore⟩ := reclaimed_kept tidy nonzero alive
    exact ⟨present.trans before, value.trans valueBefore⟩
  room := by
    have room := updated.room
    rw [emptyCount_reclaimed, deadCount_reclaimed, Nat.add_zero] at room
    simpa only [(reclaimed_kept tidy named live).1] using room

theorem update_direct {index : Nat} {entry : StreamGeneration} (sound : Sound isLive shadow)
    (found : shadow.entries[index]? = some entry)
    (formed : handleExpect update.commandBufferId .commandBuffer = true)
    (live : isLive update.commandBufferId = true)
    (fits : entry.commandBufferId = update.commandBufferId ∨
      entry.commandBufferId = 0 ∧ ¬Present shadow.entries update.commandBufferId)
    (takes : Takes isLive shadow.entries update) :
    ∃ later : GenerationShadow, (do
        let entries ← generationCommit shadow.entries index update.commandBufferId update.sequence
        return { shadow with entries }) = Except.ok later ∧
      Sound isLive later ∧ Updated isLive shadow.entries later.entries update := by
  obtain ⟨tidy, updated, dead⟩ :=
    commit_updated sound.tidy found (handleExpect_ne_zero formed) live fits
  refine ⟨⟨_, shadow.reclaimed, shadow.attempted⟩, ?_, ⟨tidy, ?_, ?_⟩, updated⟩
  · rw [generationCommit_takes sound.tidy found formed fits takes]
    rfl
  · exact List.ne_nil_of_length_pos (by simpa using List.length_pos_of_ne_nil sound.nonempty)
  · intro attempted
    exact dead.trans (sound.spent attempted)

theorem update_of_takes (sound : Sound isLive shadow)
    (formed : handleExpect update.commandBufferId .commandBuffer = true)
    (live : isLive update.commandBufferId = true) (takes : Takes isLive shadow.entries update) :
    ∃ later, shadow.update isLive update = .ok later ∧ Sound isLive later ∧
      Updated isLive shadow.entries later.entries update := by
  have named := handleExpect_ne_zero formed
  rcases generationCheck_cases sound.nonempty formed takes.nonzero with
    ⟨index, entry, found, same, checked⟩ | ⟨absent, index, entry, found, unnamed, checked⟩ |
    ⟨absent, full, checked⟩
  · have newer : ¬update.sequence ≤ entry.lastSequence := by
      rw [UInt64.not_le, ← stored_of_entry sound.tidy found (same ▸ named), same]
      exact takes.1
    rw [if_neg newer] at checked
    simp only [GenerationShadow.update, checked]
    exact update_direct sound found formed live (.inl same) takes
  · simp only [GenerationShadow.update, checked]
    exact update_direct sound found formed live (.inr ⟨unnamed, absent⟩) takes
  · have dead : 0 < deadCount isLive shadow.entries := by
      rcases takes.2 with present | room
      · exact absurd present absent
      · omega
    have fresh : shadow.attempted = false := by
      cases attempted : shadow.attempted with
      | false => rfl
      | true => exact absurd (sound.spent attempted) (by omega)
    have soundLater : Sound isLive (shadow.reclaim isLive) := by
      refine ⟨reclaimed_tidy sound.tidy, ?_, fun _ => deadCount_reclaimed⟩
      simpa [GenerationShadow.reclaim] using sound.nonempty
    have takesLater : Takes isLive (shadow.reclaim isLive).entries update :=
      (takes_reclaimed sound.tidy named live).mpr takes
    have absentLater : ¬Present (shadow.reclaim isLive).entries update.commandBufferId :=
      fun present => absent ((reclaimed_kept sound.tidy named live).1.mp present)
    have emptied : emptyCount (shadow.reclaim isLive).entries ≠ 0 := by
      have counted : emptyCount (shadow.reclaim isLive).entries = _ := emptyCount_reclaimed
      omega
    simp only [GenerationShadow.update, checked, fresh, Bool.false_eq_true, if_false]
    rcases generationCheck_cases soundLater.nonempty formed takes.nonzero with
      ⟨index, entry, found, same, -⟩ | ⟨-, index, entry, found, unnamed, checkedLater⟩ | ⟨-, none, -⟩
    · exact absurd (present_iff.mpr ⟨index, entry, found, same⟩) absentLater
    · obtain ⟨later, done, soundAfter, updated⟩ :=
        update_direct soundLater found formed live (.inr ⟨unnamed, absentLater⟩) takesLater
      refine ⟨later, ?_, soundAfter, updated.of_reclaimed sound.tidy named live⟩
      rw [checkedLater]
      exact done
    · exact absurd none emptied

theorem emptyCount_pos {index : Nat} {entry : StreamGeneration} (found : entries[index]? = some entry)
    (unnamed : entry.commandBufferId = 0) : 0 < emptyCount entries := by
  rw [emptyCount, List.countP_pos_iff]
  exact ⟨entry, List.mem_of_getElem? found, by simpa using unnamed⟩

theorem takes_of_update {later : GenerationShadow} (sound : Sound isLive shadow)
    (formed : handleExpect update.commandBufferId .commandBuffer = true)
    (live : isLive update.commandBufferId = true)
    (done : shadow.update isLive update = .ok later) : Takes isLive shadow.entries update := by
  have named := handleExpect_ne_zero formed
  have nonzero : update.sequence ≠ 0 := by
    intro zero
    have refused : generationCheck shadow.entries update.commandBufferId update.sequence = .error .einval := by
      rw [generationCheck, if_pos (.inr (.inl zero))]
    simp [GenerationShadow.update, refused] at done
  have above : ¬Present shadow.entries update.commandBufferId →
      stored shadow.entries update.commandBufferId < update.sequence := by
    intro absent
    rw [stored_of_absent absent]
    exact UInt64.pos_iff_ne_zero.mpr nonzero
  rcases generationCheck_cases sound.nonempty formed nonzero with
    ⟨index, entry, found, same, checked⟩ | ⟨absent, index, entry, found, unnamed, checked⟩ |
    ⟨absent, full, checked⟩
  · refine ⟨?_, .inl (present_iff.mpr ⟨index, entry, found, same⟩)⟩
    rw [← same, stored_of_entry sound.tidy found (same ▸ named), ← UInt64.not_le]
    intro older
    rw [if_pos older] at checked
    simp [GenerationShadow.update, checked] at done
  · have := emptyCount_pos found unnamed
    exact ⟨above absent, .inr (by omega)⟩
  · refine ⟨above absent, .inr ?_⟩
    simp only [GenerationShadow.update, checked] at done
    split at done
    · cases done
    · obtain ⟨index, checkedLater, -⟩ := CheckedLoops.bind_eq_ok.mp done
      have nonempty : (shadow.reclaim isLive).entries ≠ [] := by
        simpa [GenerationShadow.reclaim] using sound.nonempty
      have counted : emptyCount (shadow.reclaim isLive).entries = _ := emptyCount_reclaimed
      rcases generationCheck_cases nonempty formed nonzero with
        ⟨place, entry, found, same, -⟩ | ⟨-, place, entry, found, unnamed, -⟩ | ⟨-, -, refused⟩
      · have present := present_iff.mpr ⟨place, entry, found, same⟩
        exact absurd ((reclaimed_kept sound.tidy named live).1.mp present) absent
      · have := emptyCount_pos found unnamed
        omega
      · rw [refused] at checkedLater
        cases checkedLater

/-! ## A batch of updates -/

def sequencesOf (id : UInt64) (updates : List GenerationUpdate) : List UInt64 :=
  (updates.filter (·.commandBufferId == id)).map (·.sequence)

def absentIds (entries : List StreamGeneration) (updates : List GenerationUpdate) : Finset UInt64 :=
  (updates.map (·.commandBufferId)).toFinset.filter fun id => ¬Present entries id

/-- For each command buffer the sequences climb from the stored one, and the new
command buffers find room. -/
def TakesAll (isLive : UInt64 → Bool) (entries : List StreamGeneration) (updates : List GenerationUpdate) : Prop :=
  (∀ id, (stored entries id :: sequencesOf id updates).IsChain (· < ·)) ∧
    (absentIds entries updates).card ≤ emptyCount entries + deadCount isLive entries

theorem sequencesOf_cons (id : UInt64) (update : GenerationUpdate) (rest : List GenerationUpdate) :
    sequencesOf id (update :: rest) =
      if update.commandBufferId = id then update.sequence :: sequencesOf id rest else sequencesOf id rest := by
  by_cases same : update.commandBufferId = id
  · simp [sequencesOf, same]
  · simp [sequencesOf, same]

theorem sequencesOf_of_not_mem {id : UInt64} {updates : List GenerationUpdate}
    (other : ∀ update ∈ updates, update.commandBufferId ≠ id) : sequencesOf id updates = [] := by
  rw [sequencesOf, List.filter_eq_nil_iff.mpr, List.map_nil]
  intro update member same
  exact other update member (beq_iff_eq.mp same)

theorem mem_absentIds {id : UInt64} {updates : List GenerationUpdate} :
    id ∈ absentIds entries updates ↔
      (∃ update ∈ updates, update.commandBufferId = id) ∧ ¬Present entries id := by
  simp [absentIds]

def Fit (isLive : UInt64 → Bool) (updates : List GenerationUpdate) : Prop :=
  ∀ update ∈ updates, handleExpect update.commandBufferId .commandBuffer = true ∧
    isLive update.commandBufferId = true

theorem absentIds_updated {later : List StreamGeneration} {rest : List GenerationUpdate}
    (fit : Fit isLive rest) (updated : Updated isLive entries later update) :
    (absentIds later rest).card + (if Present entries update.commandBufferId then 0 else 1) =
      (absentIds entries (update :: rest)).card := by
  have erased : absentIds later rest = (absentIds entries (update :: rest)).erase update.commandBufferId := by
    ext id
    rw [Finset.mem_erase, mem_absentIds, mem_absentIds]
    by_cases same : id = update.commandBufferId
    · subst same
      simp [updated.present]
    · constructor
      · rintro ⟨⟨other, member, rfl⟩, absent⟩
        obtain ⟨formed, live⟩ := fit other member
        have present := (updated.kept _ same (handleExpect_ne_zero formed) live).1
        exact ⟨same, ⟨other, List.mem_cons_of_mem _ member, rfl⟩, fun before => absent (present.mpr before)⟩
      · rintro ⟨-, ⟨other, member, rfl⟩, absent⟩
        rcases List.mem_cons.mp member with rfl | member
        · exact absurd rfl same
        · obtain ⟨formed, live⟩ := fit other member
          have present := (updated.kept _ same (handleExpect_ne_zero formed) live).1
          exact ⟨⟨other, member, rfl⟩, fun after => absent (present.mp after)⟩
  rw [erased]
  by_cases present : Present entries update.commandBufferId
  · have outside : update.commandBufferId ∉ absentIds entries (update :: rest) :=
      fun member => (mem_absentIds.mp member).2 present
    rw [if_pos present, Finset.erase_eq_of_notMem outside, Nat.add_zero]
  · have inside : update.commandBufferId ∈ absentIds entries (update :: rest) :=
      mem_absentIds.mpr ⟨⟨update, List.mem_cons_self, rfl⟩, present⟩
    rw [if_neg present, Finset.card_erase_add_one inside]

theorem TakesAll.first {rest : List GenerationUpdate} (takes : TakesAll isLive entries (update :: rest)) :
    Takes isLive entries update := by
  obtain ⟨climbs, room⟩ := takes
  constructor
  · have chain := climbs update.commandBufferId
    rw [sequencesOf_cons, if_pos rfl, List.isChain_cons_cons] at chain
    exact chain.1
  · by_cases present : Present entries update.commandBufferId
    · exact .inl present
    · right
      have inside : update.commandBufferId ∈ absentIds entries (update :: rest) :=
        mem_absentIds.mpr ⟨⟨update, List.mem_cons_self, rfl⟩, present⟩
      have := Finset.card_pos.mpr ⟨_, inside⟩
      omega

theorem takesAll_cons {later : List StreamGeneration} {rest : List GenerationUpdate}
    (fit : Fit isLive rest) (takes : Takes isLive entries update)
    (updated : Updated isLive entries later update) :
    TakesAll isLive entries (update :: rest) ↔ TakesAll isLive later rest := by
  have counted := absentIds_updated fit updated
  have room := updated.room
  have climbs : ∀ id, (stored entries id :: sequencesOf id (update :: rest)).IsChain (· < ·) ↔
      (stored later id :: sequencesOf id rest).IsChain (· < ·) := by
    intro id
    rw [sequencesOf_cons]
    by_cases same : update.commandBufferId = id
    · subst same
      rw [if_pos rfl, List.isChain_cons_cons, updated.sequence]
      exact and_iff_right takes.1
    · rw [if_neg same]
      by_cases later : ∃ other ∈ rest, other.commandBufferId = id
      · obtain ⟨other, member, rfl⟩ := later
        obtain ⟨formed, live⟩ := fit other member
        rw [(updated.kept _ (Ne.symm same) (handleExpect_ne_zero formed) live).2]
      · rw [sequencesOf_of_not_mem fun other member named => later ⟨other, member, named⟩]
        simp
  rw [TakesAll, TakesAll, forall_congr' climbs]
  refine and_congr_right fun _ => ?_
  constructor
  · intro fits
    omega
  · intro fits
    omega

theorem updates_ok_iff : ∀ {updates : List GenerationUpdate} {shadow : GenerationShadow},
    Sound isLive shadow → Fit isLive updates →
      ((∃ later, updates.foldlM (GenerationShadow.update isLive) shadow = .ok later) ↔
        TakesAll isLive shadow.entries updates) := by
  intro updates
  induction updates with
  | nil =>
      intro shadow _ _
      simp [TakesAll, absentIds, sequencesOf, pure, Except.pure]
  | cons update rest ih =>
      intro shadow sound fit
      obtain ⟨formed, live⟩ := fit update List.mem_cons_self
      have fitRest : Fit isLive rest := fun other member => fit other (List.mem_cons_of_mem _ member)
      simp only [List.foldlM_cons]
      by_cases takes : Takes isLive shadow.entries update
      · obtain ⟨next, done, soundNext, updated⟩ := update_of_takes sound formed live takes
        rw [done, takesAll_cons fitRest takes updated]
        exact ih soundNext fitRest
      · constructor
        · rintro ⟨later, done⟩
          obtain ⟨next, first, -⟩ := CheckedLoops.bind_eq_ok.mp done
          exact absurd (takes_of_update sound formed live first) takes
        · intro all
          exact absurd all.first takes

/-- What a successful loop leaves: the entries of the updated command buffers at or
above their sequences, and of the others those it had, less dead ones. -/
structure Advanced (isLive : UInt64 → Bool) (entries later : List StreamGeneration)
    (updates : List GenerationUpdate) : Prop where
  tidy : Tidy later
  updated : ∀ update ∈ updates, Present later update.commandBufferId ∧
    update.sequence ≤ stored later update.commandBufferId
  kept : ∀ id, id ≠ 0 → isLive id = true → Present entries id →
    Present later id ∧ stored entries id ≤ stored later id

theorem updates_advanced : ∀ {updates : List GenerationUpdate} {shadow later : GenerationShadow},
    Sound isLive shadow → Fit isLive updates →
      updates.foldlM (GenerationShadow.update isLive) shadow = .ok later →
      Advanced isLive shadow.entries later.entries updates := by
  intro updates
  induction updates with
  | nil =>
      intro shadow later sound _ done
      obtain rfl := CheckedLoops.pure_eq_ok.mp done
      exact ⟨sound.tidy, nofun, fun id _ _ present => ⟨present, UInt64.le_refl _⟩⟩
  | cons update rest ih =>
      intro shadow later sound fit done
      obtain ⟨formed, live⟩ := fit update List.mem_cons_self
      have fitRest : Fit isLive rest := fun other member => fit other (List.mem_cons_of_mem _ member)
      have named := handleExpect_ne_zero formed
      simp only [List.foldlM_cons] at done
      obtain ⟨next, first, others⟩ := CheckedLoops.bind_eq_ok.mp done
      have takes := takes_of_update sound formed live first
      obtain ⟨same, again, soundNext, updated⟩ := update_of_takes sound formed live takes
      obtain rfl := Except.ok.inj (first.symm.trans again)
      obtain ⟨tidy, updatedRest, kept⟩ := ih soundNext fitRest others
      refine ⟨tidy, ?_, ?_⟩
      · intro other member
        rcases List.mem_cons.mp member with rfl | member
        · obtain ⟨present, above⟩ := kept _ named live updated.present
          rw [updated.sequence] at above
          exact ⟨present, above⟩
        · exact updatedRest other member
      · intro id nonzero alive present
        by_cases here : id = update.commandBufferId
        · subst here
          obtain ⟨present, above⟩ := kept _ named live updated.present
          rw [updated.sequence] at above
          exact ⟨present, UInt64.le_of_lt (UInt64.lt_of_lt_of_le takes.1 above)⟩
        · obtain ⟨stays, value⟩ := updated.kept id here nonzero alive
          obtain ⟨present, above⟩ := kept id nonzero alive (stays.mpr present)
          rw [value] at above
          exact ⟨present, above⟩

theorem generationCommit_length {index : Nat} {id sequence : UInt64} {later : List StreamGeneration}
    (done : generationCommit entries index id sequence = .ok later) : later.length = entries.length := by
  simp only [generationCommit] at done
  split at done
  · cases done
  · split at done
    · cases done
    · obtain rfl := Except.ok.inj done
      exact List.length_set

theorem generationCheck_formed {id sequence : UInt64} (malformed : handleExpect id .commandBuffer = false) :
    generationCheck entries id sequence = .error .einval := by
  rw [generationCheck, if_pos (.inr (.inr malformed))]

theorem update_accepted {later : GenerationShadow} (done : shadow.update isLive update = .ok later) :
    handleExpect update.commandBufferId .commandBuffer = true ∧
      later.entries.length = shadow.entries.length := by
  constructor
  · by_contra malformed
    rw [Bool.not_eq_true] at malformed
    simp [GenerationShadow.update, generationCheck_formed malformed] at done
  · simp only [GenerationShadow.update] at done
    split at done
    · obtain ⟨entries, committed, same⟩ := CheckedLoops.bind_eq_ok.mp done
      obtain rfl := CheckedLoops.pure_eq_ok.mp same
      exact generationCommit_length committed
    · split at done
      · cases done
      · obtain ⟨index, -, rest⟩ := CheckedLoops.bind_eq_ok.mp done
        obtain ⟨entries, committed, same⟩ := CheckedLoops.bind_eq_ok.mp rest
        obtain rfl := CheckedLoops.pure_eq_ok.mp same
        rw [generationCommit_length committed]
        exact List.length_map _
    · cases done

theorem updates_accepted : ∀ {updates : List GenerationUpdate} {shadow later : GenerationShadow},
    updates.foldlM (GenerationShadow.update isLive) shadow = .ok later →
      (∀ update ∈ updates, handleExpect update.commandBufferId .commandBuffer = true) ∧
        later.entries.length = shadow.entries.length := by
  intro updates
  induction updates with
  | nil =>
      intro shadow later done
      obtain rfl := CheckedLoops.pure_eq_ok.mp done
      exact ⟨nofun, rfl⟩
  | cons update rest ih =>
      intro shadow later done
      simp only [List.foldlM_cons] at done
      obtain ⟨next, first, others⟩ := CheckedLoops.bind_eq_ok.mp done
      obtain ⟨formed, length⟩ := update_accepted first
      obtain ⟨formedRest, lengthRest⟩ := ih others
      refine ⟨?_, lengthRest.trans length⟩
      intro other member
      rcases List.mem_cons.mp member with rfl | member
      · exact formed
      · exact formedRest other member

end StreamGenerations

end VulkanBridge
