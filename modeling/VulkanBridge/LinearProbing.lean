import Mathlib.Data.Set.Card

/-!
Open addressing with linear probing and tombstones, over any key and value
type. Searches stop at the first empty slot, so the invariant is that no probe
chain of a stored key has a gap before the key.
-/

namespace LinearProbing

inductive Slot (K V : Type) where
  | empty
  | occupied (key : K) (value : V)
  | tombstone

def Slot.key {K V : Type} : Slot K V → Option K
  | .occupied key _ => some key
  | _ => none

variable {K V : Type}

/-- The position probed after `step` misses. -/
def place (capacity home step : Nat) : Nat := (home + step) % capacity

theorem place_lt {capacity : Nat} (home step : Nat) (positive : 0 < capacity) :
    place capacity home step < capacity :=
  Nat.mod_lt _ positive

theorem place_zero {capacity home : Nat} (bound : home < capacity) : place capacity home 0 = home := by
  simp [place, Nat.mod_eq_of_lt bound]

theorem place_next (capacity home step : Nat) :
    (place capacity home step + 1) % capacity = place capacity home (step + 1) := by
  simp [place, Nat.add_assoc]

theorem place_surjective {capacity home position : Nat} (homeBound : home < capacity)
    (bound : position < capacity) : ∃ step, step < capacity ∧ place capacity home step = position := by
  by_cases ahead : home ≤ position
  · refine ⟨position - home, by omega, ?_⟩
    rw [place, Nat.mod_eq_of_lt (by omega)]
    omega
  · refine ⟨position + capacity - home, by omega, ?_⟩
    rw [place, show home + (position + capacity - home) = position + capacity by omega,
      Nat.add_mod_right, Nat.mod_eq_of_lt bound]

section Algorithms

variable [DecidableEq K] (slots : Nat → Slot K V) (capacity : Nat) (key : K)

def find : Nat → Nat → Option Nat
  | 0, _ => none
  | probes + 1, index =>
      match slots index with
      | .empty => none
      | .occupied other _ => if other = key then some index else find probes ((index + 1) % capacity)
      | .tombstone => find probes ((index + 1) % capacity)

inductive Claim where
  | present
  | position (index : Nat)
  | full

/-- The slot an insertion takes: the first tombstone of the chain when there is
one, else the empty slot that ends it. -/
def claim : Nat → Nat → Option Nat → Claim
  | 0, _, none => .full
  | 0, _, some spare => .position spare
  | probes + 1, index, spare =>
      match slots index with
      | .empty => .position (spare.getD index)
      | .occupied other _ =>
          if other = key then .present else claim probes ((index + 1) % capacity) spare
      | .tombstone => claim probes ((index + 1) % capacity) (some (spare.getD index))

end Algorithms

/-- Every stored key is reached from its home before an empty slot, and is
stored once. -/
structure Chained (slots : Nat → Slot K V) (capacity : Nat) (home : K → Nat) : Prop where
  reached : ∀ position key value, position < capacity → slots position = .occupied key value →
    ∃ step, step < capacity ∧ place capacity (home key) step = position ∧
      ∀ earlier, earlier < step → slots (place capacity (home key) earlier) ≠ .empty
  unique : ∀ left right key first second, left < capacity → right < capacity →
    slots left = .occupied key first → slots right = .occupied key second → left = right

variable {slots : Nat → Slot K V} {capacity : Nat} {home : K → Nat}

section Search

variable [DecidableEq K]

theorem find_sound (key : K) (positive : 0 < capacity) :
    ∀ probes index found, index < capacity → find slots capacity key probes index = some found →
      found < capacity ∧ ∃ value, slots found = .occupied key value := by
  intro probes
  induction probes with
  | zero => intro index found _ result; cases result
  | succ probes ih =>
      intro index found bound result
      have nextBound : (index + 1) % capacity < capacity := Nat.mod_lt _ positive
      rw [find] at result
      split at result
      · cases result
      · rename_i other value same
        by_cases match' : other = key
        · rw [if_pos match'] at result
          cases result
          exact ⟨bound, value, match' ▸ same⟩
        · rw [if_neg match'] at result
          exact ih _ _ nextBound result
      · exact ih _ _ nextBound result

theorem find_reaches (key : K) (start target : Nat) (value : V)
    (hit : slots (place capacity start target) = .occupied key value) :
    ∀ probes step, step ≤ target → target < step + probes →
      (∀ earlier, step ≤ earlier → earlier < target → slots (place capacity start earlier) ≠ .empty) →
      find slots capacity key probes (place capacity start step) ≠ none := by
  intro probes
  induction probes with
  | zero => intro step lower upper _; omega
  | succ probes ih =>
      intro step lower upper chain
      rw [find]
      by_cases arrived : step = target
      · subst arrived
        simp [hit]
      · have onward : find slots capacity key probes ((place capacity start step + 1) % capacity) ≠ none := by
          rw [place_next]
          exact ih (step + 1) (by omega) (by omega) fun earlier above below =>
            chain earlier (by omega) below
        split
        · rename_i gap
          exact absurd gap (chain step (Nat.le_refl step) (by omega))
        · split
          · simp
          · exact onward
        · exact onward

theorem find_none (chained : Chained slots capacity home) (key : K) (homeBound : home key < capacity)
    (missing : find slots capacity key capacity (home key) = none) (position : Nat) (value : V)
    (bound : position < capacity) : slots position ≠ .occupied key value := by
  intro stored
  obtain ⟨step, stepBound, arrives, chain⟩ := chained.reached position key value bound stored
  apply find_reaches key (home key) step value (arrives ▸ stored) capacity 0 (by omega) (by omega)
    (fun earlier _ below => chain earlier below)
  rw [place_zero homeBound]
  exact missing

end Search

/-- What an insertion may do at `position`: the slot is free, its chain has no
gap before it, and the key was not met before the chain ended. -/
structure Fits (slots : Nat → Slot K V) (capacity start : Nat) (key : K) (position : Nat) : Prop where
  free : ∀ other value, slots position ≠ .occupied other value
  chain : ∃ step, step < capacity ∧ place capacity start step = position ∧
    ∀ earlier, earlier < step → slots (place capacity start earlier) ≠ .empty
  ended : ∃ stop, stop ≤ capacity ∧ (stop = capacity ∨ slots (place capacity start stop) = .empty) ∧
    ∀ earlier value, earlier < stop → slots (place capacity start earlier) ≠ .occupied key value

/-- The insertion loop after `step` probes. -/
structure Probed (slots : Nat → Slot K V) (capacity start : Nat) (key : K) (step : Nat)
    (spare : Option Nat) : Prop where
  filled : ∀ earlier, earlier < step → slots (place capacity start earlier) ≠ .empty
  unmatched : ∀ earlier value, earlier < step → slots (place capacity start earlier) ≠ .occupied key value
  noSpare : spare = none → ∀ earlier, earlier < step → slots (place capacity start earlier) ≠ .tombstone
  spareSlot : ∀ position, spare = some position →
    ∃ earlier, earlier < step ∧ place capacity start earlier = position ∧ slots position = .tombstone

theorem Probed.start (slots : Nat → Slot K V) (capacity start : Nat) (key : K) :
    Probed slots capacity start key 0 none := by
  constructor <;> simp

theorem Probed.pass {start step : Nat} {key : K} {spare : Option Nat} {other : K} {value : V}
    (probed : Probed slots capacity start key step spare)
    (here : slots (place capacity start step) = .occupied other value) (different : other ≠ key) :
    Probed slots capacity start key (step + 1) spare := by
  have split : ∀ earlier, earlier < step + 1 → earlier < step ∨ earlier = step := by omega
  constructor
  · intro earlier bound
    rcases split earlier bound with before | rfl
    · exact probed.filled earlier before
    · simp [here]
  · intro earlier stored bound
    rcases split earlier bound with before | rfl
    · exact probed.unmatched earlier stored before
    · simp [here, different]
  · intro none earlier bound
    rcases split earlier bound with before | rfl
    · exact probed.noSpare none earlier before
    · simp [here]
  · intro position some
    obtain ⟨earlier, before, rest⟩ := probed.spareSlot position some
    exact ⟨earlier, by omega, rest⟩

theorem Probed.skip {start step : Nat} {key : K} {spare : Option Nat}
    (probed : Probed slots capacity start key step spare)
    (here : slots (place capacity start step) = .tombstone) :
    Probed slots capacity start key (step + 1) (some (spare.getD (place capacity start step))) := by
  have split : ∀ earlier, earlier < step + 1 → earlier < step ∨ earlier = step := by omega
  constructor
  · intro earlier bound
    rcases split earlier bound with before | rfl
    · exact probed.filled earlier before
    · simp [here]
  · intro earlier stored bound
    rcases split earlier bound with before | rfl
    · exact probed.unmatched earlier stored before
    · simp [here]
  · simp
  · intro position some
    cases spare with
    | none =>
        simp only [Option.getD_none, Option.some.injEq] at some
        exact ⟨step, by omega, some, some ▸ here⟩
    | some first =>
        simp only [Option.getD_some, Option.some.injEq] at some
        subst some
        obtain ⟨earlier, before, rest⟩ := probed.spareSlot first rfl
        exact ⟨earlier, by omega, rest⟩

theorem Probed.fits_spare {start step position : Nat} {key : K} {spare : Option Nat}
    (probed : Probed slots capacity start key step spare) (some : spare = some position)
    (bound : step ≤ capacity) (ended : step = capacity ∨ slots (place capacity start step) = .empty) :
    Fits slots capacity start key position := by
  obtain ⟨earlier, before, arrives, buried⟩ := probed.spareSlot position some
  refine ⟨by simp [buried], ⟨earlier, by omega, arrives, ?_⟩, ⟨step, bound, ended, ?_⟩⟩
  · intro prior smaller
    exact probed.filled prior (by omega)
  · exact probed.unmatched

theorem Probed.fits_empty {start step : Nat} {key : K} {spare : Option Nat}
    (probed : Probed slots capacity start key step spare) (bound : step < capacity)
    (gap : slots (place capacity start step) = .empty) :
    Fits slots capacity start key (place capacity start step) :=
  ⟨by simp [gap], ⟨step, bound, rfl, probed.filled⟩, ⟨step, by omega, Or.inr gap, probed.unmatched⟩⟩

def ClaimMeans (slots : Nat → Slot K V) (capacity start : Nat) (key : K) : Claim → Prop
  | .present => ∃ position value, position < capacity ∧ slots position = .occupied key value
  | .position position => Fits slots capacity start key position
  | .full => ∀ step, step < capacity → ∃ other value,
      slots (place capacity start step) = .occupied other value

theorem claim_means [DecidableEq K] (key : K) (start : Nat) (positive : 0 < capacity) :
    ∀ probes step spare, step + probes = capacity → Probed slots capacity start key step spare →
      ClaimMeans slots capacity start key
        (claim slots capacity key probes (place capacity start step) spare) := by
  intro probes
  induction probes with
  | zero =>
      intro step spare total probed
      cases spare with
      | none =>
          intro other bound
          have filled := probed.filled other (by omega)
          have alive := probed.noSpare rfl other (by omega)
          cases state : slots (place capacity start other) with
          | empty => exact absurd state filled
          | tombstone => exact absurd state alive
          | occupied stored value => exact ⟨stored, value, rfl⟩
      | some position => exact probed.fits_spare rfl (by omega) (Or.inl (by omega))
  | succ probes ih =>
      intro step spare total probed
      rw [claim]
      split
      · rename_i gap
        cases spare with
        | none => exact probed.fits_empty (by omega) gap
        | some position => exact probed.fits_spare rfl (by omega) (Or.inr gap)
      · rename_i other value here
        by_cases same : other = key
        · rw [if_pos same]
          exact ⟨place capacity start step, value, place_lt _ _ positive, same ▸ here⟩
        · rw [if_neg same, place_next]
          exact ih (step + 1) spare (by omega) (probed.pass here same)
      · rename_i here
        rw [place_next]
        exact ih (step + 1) _ (by omega) (probed.skip here)

theorem Fits.absent {start position : Nat} {key : K} (chained : Chained slots capacity home)
    (homeStart : home key = start) (fits : Fits slots capacity start key position) (other : Nat)
    (value : V) (bound : other < capacity) : slots other ≠ .occupied key value := by
  subst homeStart
  intro stored
  obtain ⟨step, stepBound, arrives, chain⟩ := chained.reached other key value bound stored
  obtain ⟨stop, _, ended, unmatched⟩ := fits.ended
  have late : ¬step < stop := by
    intro early
    exact unmatched step value early (arrives ▸ stored)
  rcases ended with full | gap
  · omega
  · by_cases exactly : step = stop
    · rw [← exactly, arrives, stored] at gap
      cases gap
    · exact chain stop (by omega) gap

/-! Writing one slot. -/

def store (slots : Nat → Slot K V) (position : Nat) (slot : Slot K V) : Nat → Slot K V :=
  fun index => if index = position then slot else slots index

theorem store_same (slots : Nat → Slot K V) (position : Nat) (slot : Slot K V) :
    store slots position slot position = slot := by
  simp [store]

theorem store_other (slots : Nat → Slot K V) (position index : Nat) (slot : Slot K V)
    (different : index ≠ position) : store slots position slot index = slots index := by
  simp [store, different]

theorem store_filled {slots : Nat → Slot K V} {position index : Nat} {slot : Slot K V}
    (nonempty : slot ≠ .empty) (filled : slots index ≠ .empty) :
    store slots position slot index ≠ .empty := by
  by_cases same : index = position
  · rw [same, store_same]
    exact nonempty
  · rw [store_other _ _ _ _ same]
    exact filled

theorem Chained.insert (chained : Chained slots capacity home) {position : Nat} {key : K} (value : V)
    (fits : Fits slots capacity (home key) key position) :
    Chained (store slots position (.occupied key value)) capacity home := by
  have filled : (Slot.occupied key value) ≠ .empty := by simp
  have fresh : ∀ other stored, other < capacity → other ≠ position →
      store slots position (.occupied key value) other ≠ .occupied key stored := by
    intro other stored bound different
    rw [store_other _ _ _ _ different]
    exact fits.absent chained rfl other stored bound
  constructor
  · intro other stored kept bound holds
    by_cases here : other = position
    · rw [here, store_same] at holds
      cases holds
      obtain ⟨step, stepBound, arrives, chain⟩ := fits.chain
      exact ⟨step, stepBound, arrives.trans here.symm, fun earlier below =>
        store_filled filled (chain earlier below)⟩
    · rw [store_other _ _ _ _ here] at holds
      obtain ⟨step, stepBound, arrives, chain⟩ := chained.reached other stored kept bound holds
      exact ⟨step, stepBound, arrives, fun earlier below => store_filled filled (chain earlier below)⟩
  · intro left right stored first second leftBound rightBound atLeft atRight
    by_cases leftHere : left = position
    · by_cases rightHere : right = position
      · rw [leftHere, rightHere]
      · rw [leftHere, store_same] at atLeft
        cases atLeft
        exact absurd atRight (fresh right second rightBound rightHere)
    · by_cases rightHere : right = position
      · rw [rightHere, store_same] at atRight
        cases atRight
        exact absurd atLeft (fresh left first leftBound leftHere)
      · rw [store_other _ _ _ _ leftHere] at atLeft
        rw [store_other _ _ _ _ rightHere] at atRight
        exact chained.unique left right stored first second leftBound rightBound atLeft atRight

theorem Chained.bury (chained : Chained slots capacity home) (position : Nat) :
    Chained (store slots position .tombstone) capacity home := by
  have filled : (Slot.tombstone : Slot K V) ≠ .empty := by simp
  have kept : ∀ other key value, store slots position .tombstone other = .occupied key value →
      slots other = .occupied key value := by
    intro other key value holds
    by_cases here : other = position
    · rw [here, store_same] at holds
      cases holds
    · rwa [store_other _ _ _ _ here] at holds
  constructor
  · intro other key value bound holds
    obtain ⟨step, stepBound, arrives, chain⟩ := chained.reached other key value bound (kept _ _ _ holds)
    exact ⟨step, stepBound, arrives, fun earlier below => store_filled filled (chain earlier below)⟩
  · intro left right key first second leftBound rightBound atLeft atRight
    exact chained.unique left right key first second leftBound rightBound (kept _ _ _ atLeft)
      (kept _ _ _ atRight)

theorem Chained.blank (capacity : Nat) (home : K → Nat) :
    Chained (fun _ => (.empty : Slot K V)) capacity home := by
  constructor <;> simp

/-! The partial map a table stands for. -/

def Represents (slots : Nat → Slot K V) (capacity : Nat) (map : K → Option V) : Prop :=
  ∀ key value, map key = some value ↔ ∃ position, position < capacity ∧ slots position = .occupied key value

def support (map : K → Option V) : Set K := {key | map key ≠ none}

def occupiedPositions (slots : Nat → Slot K V) (capacity : Nat) : Finset Nat :=
  (Finset.range capacity).filter fun position => (slots position).key.isSome

variable {map : K → Option V}

theorem mem_occupiedPositions (slots : Nat → Slot K V) (capacity position : Nat) :
    position ∈ occupiedPositions slots capacity ↔
      position < capacity ∧ ∃ key value, slots position = .occupied key value := by
  simp only [occupiedPositions, Finset.mem_filter, Finset.mem_range]
  cases slots position <;> simp [Slot.key]

theorem Represents.card (represents : Represents slots capacity map)
    (chained : Chained slots capacity home) :
    (support map).ncard = (occupiedPositions slots capacity).card := by
  have image : (fun position => (slots position).key) '' (occupiedPositions slots capacity : Set Nat) =
      some '' support map := by
    ext stored
    simp only [Set.mem_image, Finset.mem_coe, mem_occupiedPositions]
    constructor
    · rintro ⟨position, ⟨bound, key, value, holds⟩, rfl⟩
      have present := (represents key value).mpr ⟨position, bound, holds⟩
      exact ⟨key, by simp [support, present], by simp [holds, Slot.key]⟩
    · rintro ⟨key, present, rfl⟩
      obtain ⟨value, isValue⟩ := Option.ne_none_iff_exists'.mp present
      obtain ⟨position, bound, holds⟩ := (represents key value).mp isValue
      exact ⟨position, ⟨bound, key, value, holds⟩, by simp [holds, Slot.key]⟩
  have injective : Set.InjOn (fun position => (slots position).key)
      (occupiedPositions slots capacity : Set Nat) := by
    intro left atLeft right atRight same
    obtain ⟨leftBound, key, first, leftHolds⟩ := (mem_occupiedPositions _ _ _).mp atLeft
    obtain ⟨rightBound, other, second, rightHolds⟩ := (mem_occupiedPositions _ _ _).mp atRight
    simp only [leftHolds, rightHolds, Slot.key, Option.some.injEq] at same
    subst same
    exact chained.unique left right key first second leftBound rightBound leftHolds rightHolds
  rw [← Set.ncard_image_of_injective (support map) (Option.some_injective K), ← image,
    Set.InjOn.ncard_image injective, Set.ncard_coe_finset]

theorem occupiedPositions_insert {position : Nat} {key : K} {value : V} (bound : position < capacity)
    (free : ∀ other stored, slots position ≠ .occupied other stored) :
    (occupiedPositions (store slots position (.occupied key value)) capacity).card =
      (occupiedPositions slots capacity).card + 1 := by
  have fresh : position ∉ occupiedPositions slots capacity := by
    rw [mem_occupiedPositions]
    rintro ⟨_, other, stored, holds⟩
    exact free other stored holds
  rw [← Finset.card_insert_of_notMem fresh]
  congr 1
  ext index
  rw [Finset.mem_insert, mem_occupiedPositions, mem_occupiedPositions]
  by_cases here : index = position
  · simp [here, store_same, bound]
  · simp [here, store_other]

theorem occupiedPositions_bury {position : Nat} {key : K} {value : V} (bound : position < capacity)
    (holds : slots position = .occupied key value) :
    (occupiedPositions (store slots position .tombstone) capacity).card + 1 =
      (occupiedPositions slots capacity).card := by
  have member : position ∈ occupiedPositions slots capacity := by
    rw [mem_occupiedPositions]
    exact ⟨bound, key, value, holds⟩
  have erased : occupiedPositions (store slots position .tombstone) capacity =
      (occupiedPositions slots capacity).erase position := by
    ext index
    rw [Finset.mem_erase, mem_occupiedPositions, mem_occupiedPositions]
    by_cases here : index = position
    · simp [here, store_same]
    · simp [here, store_other]
  rw [erased, Finset.card_erase_add_one member]

theorem occupiedPositions_full {start : Nat} (startBound : start < capacity)
    (full : ∀ step, step < capacity → ∃ key value, slots (place capacity start step) = .occupied key value) :
    (occupiedPositions slots capacity).card = capacity := by
  have everything : occupiedPositions slots capacity = Finset.range capacity := by
    ext position
    rw [mem_occupiedPositions, Finset.mem_range]
    constructor
    · exact fun holds => holds.1
    · intro bound
      obtain ⟨step, stepBound, arrives⟩ := place_surjective startBound bound
      exact ⟨bound, arrives ▸ full step stepBound⟩
  rw [everything, Finset.card_range]

theorem occupiedPositions_le (slots : Nat → Slot K V) (capacity : Nat) :
    (occupiedPositions slots capacity).card ≤ capacity := by
  have bound := Finset.card_filter_le (Finset.range capacity) fun position => (slots position).key.isSome
  rwa [Finset.card_range] at bound

section Updates

variable [DecidableEq K]

def insertMap (map : K → Option V) (key : K) (value : V) : K → Option V :=
  fun other => if other = key then some value else map other

def eraseMap (map : K → Option V) (key : K) : K → Option V :=
  fun other => if other = key then none else map other

theorem Represents.insert (represents : Represents slots capacity map) {position : Nat} {key : K}
    (value : V) (bound : position < capacity)
    (free : ∀ other stored, slots position ≠ .occupied other stored)
    (absent : ∀ other stored, other < capacity → slots other ≠ .occupied key stored) :
    Represents (store slots position (.occupied key value)) capacity (insertMap map key value) := by
  intro other stored
  by_cases same : other = key
  · subst same
    simp only [insertMap, if_true, Option.some.injEq]
    constructor
    · rintro rfl
      exact ⟨position, bound, store_same _ _ _⟩
    · rintro ⟨found, foundBound, holds⟩
      by_cases here : found = position
      · rw [here, store_same] at holds
        cases holds
        rfl
      · rw [store_other _ _ _ _ here] at holds
        exact absurd holds (absent found stored foundBound)
  · simp only [insertMap, if_neg same]
    rw [represents other stored]
    constructor
    · rintro ⟨found, foundBound, holds⟩
      have here : found ≠ position := fun equal => free other stored (equal ▸ holds)
      exact ⟨found, foundBound, by rwa [store_other _ _ _ _ here]⟩
    · rintro ⟨found, foundBound, holds⟩
      by_cases here : found = position
      · rw [here, store_same] at holds
        cases holds
        exact absurd rfl same
      · rw [store_other _ _ _ _ here] at holds
        exact ⟨found, foundBound, holds⟩

theorem Represents.bury (represents : Represents slots capacity map)
    (chained : Chained slots capacity home) {position : Nat} {key : K} {value : V}
    (bound : position < capacity) (holds : slots position = .occupied key value) :
    Represents (store slots position .tombstone) capacity (eraseMap map key) := by
  intro other stored
  by_cases same : other = key
  · subst same
    simp only [eraseMap, if_true, reduceCtorEq, false_iff]
    rintro ⟨found, foundBound, kept⟩
    by_cases here : found = position
    · rw [here, store_same] at kept
      cases kept
    · rw [store_other _ _ _ _ here] at kept
      exact here (chained.unique found position other stored value foundBound bound kept holds)
  · simp only [eraseMap, if_neg same]
    rw [represents other stored]
    constructor
    · rintro ⟨found, foundBound, kept⟩
      have here : found ≠ position := by
        rintro rfl
        rw [holds] at kept
        cases kept
        exact same rfl
      exact ⟨found, foundBound, by rwa [store_other _ _ _ _ here]⟩
    · rintro ⟨found, foundBound, kept⟩
      by_cases here : found = position
      · rw [here, store_same] at kept
        cases kept
      · rw [store_other _ _ _ _ here] at kept
        exact ⟨found, foundBound, kept⟩

end Updates

end LinearProbing
