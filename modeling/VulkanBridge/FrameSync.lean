import Mathlib.Logic.Function.Basic
import VulkanBridge.Handle
import VulkanBridge.Runs

/-!
The frame sync region of `frame_sync.c`: a producer and a consumer that publish
sequences in turn. Every load and store of a shared word is a step of its own;
what a party has read from a word or written to it is recorded beside it.
-/

namespace VulkanBridge

def frameSyncMaxFrames : UInt32 := 1048576

structure FrameSyncControl where
  frameCount : UInt32
  producerSequence : UInt32
  consumerSequence : UInt32
  producerStatus : Int32
  consumerStatus : Int32
  deriving DecidableEq, Repr

inductive SyncParty where
  | producer
  | consumer
  deriving DecidableEq, Repr

inductive SyncWord where
  | producerSequence
  | consumerSequence
  deriving DecidableEq, Repr

def SyncParty.ownWord : SyncParty → SyncWord
  | .producer => .producerSequence
  | .consumer => .consumerSequence

inductive SyncCall where
  | publish (sequence : UInt32)
  | wait (word : SyncWord) (afterSequence timeoutMs : UInt32)
  | fail (status : Int32)
  deriving DecidableEq, Repr

inductive SyncReturn where
  | done
  | observed (sequence : UInt32)
  | peerFailed (status : Int32)
  | refused (code : Errno)
  deriving DecidableEq, Repr

inductive WaitError where
  | eio
  | eoverflow
  | etimedout
  | einval
  | enosys
  deriving DecidableEq, Repr

def WaitError.code : WaitError → Errno
  | .eio => .eio
  | .eoverflow => .eoverflow
  | .etimedout => .etimedout
  | .einval => .einval
  | .enosys => .enosys

/-- Where a party stands; `idle` holds how its last call returned. -/
inductive SyncPoint where
  | idle (last : Option SyncReturn)
  | publishProducerStatus (sequence : UInt32)
  | publishConsumerStatus (sequence : UInt32)
  | loadProducerSequence (sequence : UInt32)
  | loadConsumerSequence (sequence produced : UInt32)
  | storeSequence (sequence : UInt32)
  | waitClock (word : SyncWord) (afterSequence : UInt32)
  | waitProducerStatus (word : SyncWord) (afterSequence : UInt32)
  | waitConsumerStatus (word : SyncWord) (afterSequence : UInt32)
  | loadWord (word : SyncWord) (afterSequence : UInt32)
  | futexWait (word : SyncWord) (afterSequence : UInt32)
  | storeStatus (status : Int32)
  deriving DecidableEq, Repr

inductive SyncMove where
  | call (call : SyncCall)
  | next
  | interrupted (error : WaitError)
  deriving DecidableEq, Repr

/-- `known` lists the values a party has loaded from a word or stored to it, after
the zero of the initialization. -/
structure FrameSync where
  control : FrameSyncControl
  point : SyncParty → SyncPoint
  known : SyncParty → SyncWord → List UInt32
  published : SyncParty → List UInt32

namespace FrameSyncControl

/-- `bvb_frame_sync_validate`; the magic and the sizes never change. -/
def isValid (control : FrameSyncControl) : Bool :=
  control.frameCount != 0 && decide (control.frameCount ≤ frameSyncMaxFrames)

def sequenceOf (control : FrameSyncControl) : SyncWord → UInt32
  | .producerSequence => control.producerSequence
  | .consumerSequence => control.consumerSequence

def storeSequence (control : FrameSyncControl) (word : SyncWord) (sequence : UInt32) : FrameSyncControl :=
  match word with
  | .producerSequence => { control with producerSequence := sequence }
  | .consumerSequence => { control with consumerSequence := sequence }

def storeStatus (control : FrameSyncControl) (party : SyncParty) (status : Int32) : FrameSyncControl :=
  match party with
  | .producer => { control with producerStatus := status }
  | .consumer => { control with consumerStatus := status }

end FrameSyncControl

namespace FrameSync

/-- What `bvb_frame_sync_initialize` leaves, before any call. -/
def initial (frameCount : UInt32) : FrameSync where
  control := ⟨frameCount, 0, 0, 0, 0⟩
  point := fun _ => .idle none
  known := fun _ _ => [0]
  published := fun _ => []

variable (system : FrameSync) (party : SyncParty)

def goTo (point : SyncPoint) : FrameSync :=
  { system with point := Function.update system.point party point }

def finish (outcome : SyncReturn) : FrameSync := system.goTo party (.idle (some outcome))

def learn (word : SyncWord) (value : UInt32) : FrameSync :=
  { system with
    known := Function.update system.known party
      (Function.update (system.known party) word (value :: system.known party word)) }

/-- The checks that come before the first load of a shared word that changes. -/
def start (call : SyncCall) : FrameSync :=
  if !system.control.isValid then system.finish party (.refused .einval)
  else
    match call with
    | .publish sequence => system.goTo party (.publishProducerStatus sequence)
    | .wait word afterSequence timeoutMs =>
        if timeoutMs = 0 ∨ system.control.frameCount < afterSequence then
          system.finish party (.refused .einval)
        else system.goTo party (.waitClock word afterSequence)
    | .fail status =>
        if 0 ≤ status then system.finish party (.refused .einval) else system.goTo party (.storeStatus status)

/-- The checks of a publication; each party compares the sequence with its own word
and asks the other one's word for its turn. -/
def publishCheck (sequence produced consumed : UInt32) : Except Errno Unit :=
  let current := match party with
    | .producer => produced
    | .consumer => consumed
  if sequence = 0 ∨ system.control.frameCount < sequence ∨ current = 0xffffffff ∨ sequence ≠ current + 1 then
    .error .erange
  else
    match party with
    | .producer => if consumed ≠ current then .error .ebusy else .ok ()
    | .consumer => if produced ≠ sequence then .error .ebusy else .ok ()

/-- One load or store. The wakes have no effect of their own: a parked wait may
return at any time. -/
def advance : FrameSync :=
  let control := system.control
  match system.point party with
  | .idle _ => system
  | .publishProducerStatus sequence =>
      if control.producerStatus < 0 then system.finish party (.peerFailed control.producerStatus)
      else system.goTo party (.publishConsumerStatus sequence)
  | .publishConsumerStatus sequence =>
      if control.consumerStatus < 0 then system.finish party (.peerFailed control.consumerStatus)
      else system.goTo party (.loadProducerSequence sequence)
  | .loadProducerSequence sequence =>
      (system.learn party .producerSequence control.producerSequence).goTo party
        (.loadConsumerSequence sequence control.producerSequence)
  | .loadConsumerSequence sequence produced =>
      let learned := system.learn party .consumerSequence control.consumerSequence
      match system.publishCheck party sequence produced control.consumerSequence with
      | .error code => learned.finish party (.refused code)
      | .ok _ => learned.goTo party (.storeSequence sequence)
  | .storeSequence sequence =>
      let stored := { system with
        control := control.storeSequence party.ownWord sequence
        published := Function.update system.published party (sequence :: system.published party) }
      (stored.learn party party.ownWord sequence).finish party .done
  | .waitClock word afterSequence => system.goTo party (.waitProducerStatus word afterSequence)
  | .waitProducerStatus word afterSequence =>
      if control.producerStatus < 0 then system.finish party (.peerFailed control.producerStatus)
      else system.goTo party (.waitConsumerStatus word afterSequence)
  | .waitConsumerStatus word afterSequence =>
      if control.consumerStatus < 0 then system.finish party (.peerFailed control.consumerStatus)
      else system.goTo party (.loadWord word afterSequence)
  | .loadWord word afterSequence =>
      let current := control.sequenceOf word
      let learned := system.learn party word current
      if afterSequence < current then learned.finish party (.observed current)
      else if current < afterSequence then learned.finish party (.refused .eproto)
      else learned.goTo party (.futexWait word afterSequence)
  | .futexWait word afterSequence => system.goTo party (.waitProducerStatus word afterSequence)
  | .storeStatus status =>
      ({ system with control := control.storeStatus party status }).finish party .done

/-- A move that does not fit where the party stands changes nothing. -/
def step (input : SyncParty × SyncMove) : FrameSync :=
  match input.2, system.point input.1 with
  | .call call, .idle _ => system.start input.1 call
  | .next, _ => system.advance input.1
  | .interrupted error, .waitClock _ _ => system.finish input.1 (.refused error.code)
  | .interrupted error, .futexWait _ _ => system.finish input.1 (.refused error.code)
  | _, _ => system

variable {system} {party}

@[simp] theorem goTo_known (point : SyncPoint) : (system.goTo party point).known = system.known := rfl

@[simp] theorem goTo_published (point : SyncPoint) : (system.goTo party point).published = system.published := rfl

@[simp] theorem learn_control (word : SyncWord) (value : UInt32) :
    (system.learn party word value).control = system.control := rfl

@[simp] theorem learn_point (word : SyncWord) (value : UInt32) :
    (system.learn party word value).point = system.point := rfl

@[simp] theorem learn_published (word : SyncWord) (value : UInt32) :
    (system.learn party word value).published = system.published := rfl

theorem goTo_point_self (point : SyncPoint) : (system.goTo party point).point party = point :=
  Function.update_self _ _ _

theorem goTo_point_other {other : SyncParty} (different : other ≠ party) (point : SyncPoint) :
    (system.goTo party point).point other = system.point other :=
  Function.update_of_ne different _ _

theorem mem_learn {word inWord : SyncWord} {value known : UInt32} {other : SyncParty} :
    known ∈ (system.learn party word value).known other inWord ↔
      known ∈ system.known other inWord ∨ (other = party ∧ inWord = word ∧ known = value) := by
  simp only [learn]
  by_cases same : other = party
  · subst same
    rw [Function.update_self]
    by_cases here : inWord = word
    · subst here
      rw [Function.update_self, List.mem_cons]
      tauto
    · rw [Function.update_of_ne here]
      tauto
  · rw [Function.update_of_ne same]
    tauto

/-- The producer and the consumer take turns: the words are at most one apart, and
a party that is about to store its word has the turn. -/
structure Coupled (system : FrameSync) : Prop where
  ordered : system.control.consumerSequence.toNat ≤ system.control.producerSequence.toNat
  close : system.control.producerSequence.toNat ≤ system.control.consumerSequence.toNat + 1
  bounded : system.control.producerSequence.toNat ≤ system.control.frameCount.toNat
  producerLoaded : ∀ sequence produced,
    system.point .producer = .loadConsumerSequence sequence produced →
    produced = system.control.producerSequence
  consumerLoaded : ∀ sequence produced,
    system.point .consumer = .loadConsumerSequence sequence produced →
    produced ∈ system.known .consumer .producerSequence
  producerTurn : ∀ sequence, system.point .producer = .storeSequence sequence →
    sequence.toNat = system.control.producerSequence.toNat + 1 ∧
      system.control.consumerSequence = system.control.producerSequence ∧
      sequence.toNat ≤ system.control.frameCount.toNat
  consumerTurn : ∀ sequence, system.point .consumer = .storeSequence sequence →
    sequence.toNat = system.control.consumerSequence.toNat + 1 ∧
      system.control.producerSequence = sequence ∧ sequence ∈ system.known .consumer .producerSequence
  known : ∀ party word value, value ∈ system.known party word →
    value.toNat ≤ (system.control.sequenceOf word).toNat
  consumed : ∀ sequence ∈ system.published .consumer, ∀ word, sequence ∈ system.known .consumer word

def IsPlain (point : SyncPoint) : Prop :=
  (∀ sequence produced, point ≠ .loadConsumerSequence sequence produced) ∧
    ∀ sequence, point ≠ .storeSequence sequence

theorem Coupled.goTo (coupled : system.Coupled) {point : SyncPoint} (plain : IsPlain point) :
    (system.goTo party point).Coupled := by
  have elsewhere : ∀ other stands, ¬ IsPlain stands → (system.goTo party point).point other = stands →
      system.point other = stands := by
    intro other stands special here
    by_cases same : other = party
    · subst same
      rw [goTo_point_self] at here
      rw [here] at plain
      exact absurd plain special
    · rwa [goTo_point_other same] at here
  refine ⟨coupled.ordered, coupled.close, coupled.bounded, ?_, ?_, ?_, ?_, coupled.known, coupled.consumed⟩
  · intro sequence produced here
    exact coupled.producerLoaded sequence produced (elsewhere _ _ (fun all => all.1 _ _ rfl) here)
  · intro sequence produced here
    exact coupled.consumerLoaded sequence produced (elsewhere _ _ (fun all => all.1 _ _ rfl) here)
  · intro sequence here
    exact coupled.producerTurn sequence (elsewhere _ _ (fun all => all.2 _ rfl) here)
  · intro sequence here
    exact coupled.consumerTurn sequence (elsewhere _ _ (fun all => all.2 _ rfl) here)

theorem Coupled.learn (coupled : system.Coupled) (word : SyncWord) :
    (system.learn party word (system.control.sequenceOf word)).Coupled := by
  refine ⟨coupled.ordered, coupled.close, coupled.bounded, coupled.producerLoaded, ?_,
    coupled.producerTurn, ?_, ?_, ?_⟩
  · intro sequence produced here
    exact mem_learn.mpr (Or.inl (coupled.consumerLoaded sequence produced here))
  · intro sequence here
    obtain ⟨next, turn, known⟩ := coupled.consumerTurn sequence here
    exact ⟨next, turn, mem_learn.mpr (Or.inl known)⟩
  · intro other inWord value member
    rcases mem_learn.mp member with old | ⟨_, sameWord, sameValue⟩
    · exact coupled.known other inWord value old
    · rw [sameWord, sameValue]
      exact Nat.le_refl _
  · intro sequence member inWord
    exact mem_learn.mpr (Or.inl (coupled.consumed sequence member inWord))

theorem successor_toNat {current sequence : UInt32} (last : current ≠ 0xffffffff)
    (next : sequence = current + 1) : sequence.toNat = current.toNat + 1 := by
  have bound := current.toNat_lt
  have below : current.toNat ≠ 4294967295 := fun same => last (UInt32.toNat_inj.mp same)
  rw [next, UInt32.toNat_add]
  exact Nat.mod_eq_of_lt (by simp; omega)

theorem publishCheck_producer {sequence produced consumed : UInt32} {done : Unit}
    (passed : system.publishCheck .producer sequence produced consumed = .ok done) :
    sequence.toNat = produced.toNat + 1 ∧ sequence.toNat ≤ system.control.frameCount.toNat ∧
      consumed = produced := by
  simp only [publishCheck] at passed
  split at passed
  · cases passed
  rename_i inRange
  split at passed
  · cases passed
  rename_i turn
  simp only [not_or, not_not] at inRange turn
  obtain ⟨_, bounded, last, next⟩ := inRange
  rw [UInt32.not_lt, UInt32.le_iff_toNat_le] at bounded
  exact ⟨successor_toNat last next, bounded, turn⟩

theorem publishCheck_consumer {sequence produced consumed : UInt32} {done : Unit}
    (passed : system.publishCheck .consumer sequence produced consumed = .ok done) :
    sequence.toNat = consumed.toNat + 1 ∧ produced = sequence := by
  simp only [publishCheck] at passed
  split at passed
  · cases passed
  rename_i inRange
  split at passed
  · cases passed
  rename_i turn
  simp only [not_or, not_not] at inRange turn
  obtain ⟨_, _, last, next⟩ := inRange
  exact ⟨successor_toNat last next, turn⟩

theorem plain_idle (last : Option SyncReturn) : IsPlain (.idle last) :=
  ⟨fun _ _ same => SyncPoint.noConfusion same, fun _ same => SyncPoint.noConfusion same⟩

theorem Coupled.takeTurn (coupled : system.Coupled) {sequence produced : UInt32} {done : Unit}
    (here : system.point party = .loadConsumerSequence sequence produced)
    (passed : system.publishCheck party sequence produced system.control.consumerSequence = .ok done) :
    (system.goTo party (.storeSequence sequence)).Coupled := by
  cases party with
  | producer =>
      obtain ⟨next, bounded, turn⟩ := publishCheck_producer passed
      have loaded := coupled.producerLoaded sequence produced here
      rw [loaded] at next turn
      refine ⟨coupled.ordered, coupled.close, coupled.bounded, ?_, ?_, ?_, ?_, coupled.known, coupled.consumed⟩
      · intro other value stands
        rw [goTo_point_self] at stands
        cases stands
      · intro other value stands
        rw [goTo_point_other (by decide)] at stands
        exact coupled.consumerLoaded other value stands
      · intro other stands
        rw [goTo_point_self] at stands
        cases stands
        exact ⟨next, turn, bounded⟩
      · intro other stands
        rw [goTo_point_other (by decide)] at stands
        exact coupled.consumerTurn other stands
  | consumer =>
      obtain ⟨next, turn⟩ := publishCheck_consumer passed
      have loaded := coupled.consumerLoaded sequence produced here
      rw [turn] at loaded
      refine ⟨coupled.ordered, coupled.close, coupled.bounded, ?_, ?_, ?_, ?_, coupled.known, coupled.consumed⟩
      · intro other value stands
        rw [goTo_point_other (by decide)] at stands
        exact coupled.producerLoaded other value stands
      · intro other value stands
        rw [goTo_point_self] at stands
        cases stands
      · intro other stands
        rw [goTo_point_other (by decide)] at stands
        exact coupled.producerTurn other stands
      · intro other stands
        rw [goTo_point_self] at stands
        cases stands
        have reached := coupled.known .consumer .producerSequence sequence loaded
        have close := coupled.close
        simp only [FrameSyncControl.sequenceOf] at reached
        refine ⟨next, UInt32.toNat_inj.mp ?_, loaded⟩
        show system.control.producerSequence.toNat = sequence.toNat
        omega

def publish (system : FrameSync) (party : SyncParty) (sequence : UInt32) : FrameSync :=
  ({ system with
      control := system.control.storeSequence party.ownWord sequence
      published := Function.update system.published party (sequence :: system.published party) } : FrameSync).learn
    party party.ownWord sequence

theorem mem_published {sequence other : UInt32} {reader : SyncParty} :
    other ∈ (system.publish party sequence).published reader ↔
      other ∈ system.published reader ∨ (reader = party ∧ other = sequence) := by
  simp only [publish, learn_published]
  by_cases same : reader = party
  · subst same
    rw [Function.update_self, List.mem_cons]
    tauto
  · rw [Function.update_of_ne same]
    tauto

theorem publish_known {sequence value : UInt32} {reader : SyncParty} {word : SyncWord} :
    value ∈ (system.publish party sequence).known reader word ↔
      value ∈ system.known reader word ∨ (reader = party ∧ word = party.ownWord ∧ value = sequence) :=
  mem_learn

theorem Coupled.stored (coupled : system.Coupled) {sequence : UInt32}
    (here : system.point party = .storeSequence sequence) (word : SyncWord) :
    ((system.publish party sequence).control.sequenceOf word).toNat =
      if word = party.ownWord then (system.control.sequenceOf word).toNat + 1
      else (system.control.sequenceOf word).toNat := by
  cases party with
  | producer =>
      obtain ⟨next, -, -⟩ := coupled.producerTurn sequence here
      cases word with
      | producerSequence => exact next
      | consumerSequence => rfl
  | consumer =>
      obtain ⟨next, -, -⟩ := coupled.consumerTurn sequence here
      cases word with
      | producerSequence => rfl
      | consumerSequence => exact next

theorem Coupled.publish (coupled : system.Coupled) {sequence : UInt32}
    (here : system.point party = .storeSequence sequence) (last : Option SyncReturn) :
    ((system.publish party sequence).goTo party (.idle last)).Coupled := by
  have grown : ∀ reader word value, value ∈ (system.publish party sequence).known reader word →
      value.toNat ≤ ((system.publish party sequence).control.sequenceOf word).toNat := by
    intro reader word value member
    have stored := coupled.stored here word
    rcases publish_known.mp member with old | ⟨_, ownWord, same⟩
    · have before := coupled.known reader word value old
      rw [stored]
      split
      · omega
      · exact before
    · rw [ownWord, same]
      cases party with
      | producer => exact Nat.le_refl _
      | consumer => exact Nat.le_refl _
  have ordered := coupled.ordered
  have close := coupled.close
  cases party with
  | producer =>
      obtain ⟨next, turn, bounded⟩ := coupled.producerTurn sequence here
      have same : system.control.consumerSequence.toNat = system.control.producerSequence.toNat :=
        congrArg UInt32.toNat turn
      refine ⟨?_, ?_, bounded, ?_, ?_, ?_, ?_, grown, ?_⟩
      · show system.control.consumerSequence.toNat ≤ sequence.toNat
        omega
      · show sequence.toNat ≤ system.control.consumerSequence.toNat + 1
        omega
      · intro other value stands
        rw [goTo_point_self] at stands
        cases stands
      · intro other value stands
        rw [goTo_point_other (by decide)] at stands
        rw [goTo_known]
        exact publish_known.mpr (Or.inl (coupled.consumerLoaded other value stands))
      · intro other stands
        rw [goTo_point_self] at stands
        cases stands
      · -- The consumer is not about to store: the producer had the turn.
        intro other stands
        rw [goTo_point_other (by decide)] at stands
        obtain ⟨after, current, -⟩ := coupled.consumerTurn other stands
        rw [← current] at after
        omega
      · intro other member word
        rw [goTo_published] at member
        rw [goTo_known]
        rcases mem_published.mp member with old | ⟨wrong, _⟩
        · exact publish_known.mpr (Or.inl (coupled.consumed other old word))
        · cases wrong
  | consumer =>
      obtain ⟨next, turn, known⟩ := coupled.consumerTurn sequence here
      have same : system.control.producerSequence.toNat = sequence.toNat := congrArg UInt32.toNat turn
      refine ⟨?_, ?_, coupled.bounded, ?_, ?_, ?_, ?_, grown, ?_⟩
      · show sequence.toNat ≤ system.control.producerSequence.toNat
        omega
      · show system.control.producerSequence.toNat ≤ sequence.toNat + 1
        omega
      · intro other value stands
        rw [goTo_point_other (by decide)] at stands
        exact coupled.producerLoaded other value stands
      · intro other value stands
        rw [goTo_point_self] at stands
        cases stands
      · -- The producer is not about to store: the consumer had the turn.
        intro other stands
        rw [goTo_point_other (by decide)] at stands
        obtain ⟨-, idle, -⟩ := coupled.producerTurn other stands
        have equal := congrArg UInt32.toNat idle
        omega
      · intro other stands
        rw [goTo_point_self] at stands
        cases stands
      · intro other member word
        rw [goTo_published] at member
        rw [goTo_known]
        rcases mem_published.mp member with old | ⟨_, isSequence⟩
        · exact publish_known.mpr (Or.inl (coupled.consumed other old word))
        · rw [isSequence]
          cases word with
          | producerSequence => exact publish_known.mpr (Or.inl known)
          | consumerSequence => exact publish_known.mpr (Or.inr ⟨rfl, rfl, rfl⟩)

theorem Coupled.storeStatus (coupled : system.Coupled) (status : Int32) :
    Coupled { system with control := system.control.storeStatus party status } := by
  cases party with
  | producer =>
      exact ⟨coupled.ordered, coupled.close, coupled.bounded, coupled.producerLoaded, coupled.consumerLoaded,
        coupled.producerTurn, coupled.consumerTurn, coupled.known, coupled.consumed⟩
  | consumer =>
      exact ⟨coupled.ordered, coupled.close, coupled.bounded, coupled.producerLoaded, coupled.consumerLoaded,
        coupled.producerTurn, coupled.consumerTurn, coupled.known, coupled.consumed⟩

theorem Coupled.loadProduced (coupled : system.Coupled) (party : SyncParty) (sequence : UInt32) :
    ((system.learn party .producerSequence system.control.producerSequence).goTo party
      (.loadConsumerSequence sequence system.control.producerSequence)).Coupled := by
  have learned : (system.learn party .producerSequence system.control.producerSequence).Coupled :=
    coupled.learn .producerSequence
  refine ⟨learned.ordered, learned.close, learned.bounded, ?_, ?_, ?_, ?_, learned.known, learned.consumed⟩
  · intro other value stands
    cases party with
    | producer =>
        rw [goTo_point_self] at stands
        cases stands
        rfl
    | consumer =>
        rw [goTo_point_other (by decide)] at stands
        exact learned.producerLoaded other value stands
  · intro other value stands
    rw [goTo_known]
    cases party with
    | producer =>
        rw [goTo_point_other (by decide)] at stands
        exact learned.consumerLoaded other value stands
    | consumer =>
        rw [goTo_point_self] at stands
        cases stands
        exact mem_learn.mpr (Or.inr ⟨rfl, rfl, rfl⟩)
  · intro other stands
    cases party with
    | producer =>
        rw [goTo_point_self] at stands
        cases stands
    | consumer =>
        rw [goTo_point_other (by decide)] at stands
        exact learned.producerTurn other stands
  · intro other stands
    cases party with
    | producer =>
        rw [goTo_point_other (by decide)] at stands
        exact learned.consumerTurn other stands
    | consumer =>
        rw [goTo_point_self] at stands
        cases stands

theorem Coupled.advance (coupled : system.Coupled) (party : SyncParty) : (system.advance party).Coupled := by
  have plain : ∀ point, (∀ sequence produced, point ≠ SyncPoint.loadConsumerSequence sequence produced) →
      (∀ sequence, point ≠ SyncPoint.storeSequence sequence) → IsPlain point :=
    fun point first second => ⟨first, second⟩
  unfold FrameSync.advance
  dsimp only
  cases here : system.point party with
  | idle last => exact coupled
  | publishProducerStatus sequence =>
      dsimp only
      split
      · exact coupled.goTo (plain_idle _)
      · exact coupled.goTo (plain _ (by simp) (by simp))
  | publishConsumerStatus sequence =>
      dsimp only
      split
      · exact coupled.goTo (plain_idle _)
      · exact coupled.goTo (plain _ (by simp) (by simp))
  | loadProducerSequence sequence => exact coupled.loadProduced party sequence
  | loadConsumerSequence sequence produced =>
      dsimp only
      have learned : (system.learn party .consumerSequence system.control.consumerSequence).Coupled :=
        coupled.learn .consumerSequence
      split
      · exact learned.goTo (plain_idle _)
      · rename_i done passed
        exact learned.takeTurn here passed
  | storeSequence sequence => exact coupled.publish here _
  | waitClock word afterSequence => exact coupled.goTo (plain _ (by simp) (by simp))
  | waitProducerStatus word afterSequence =>
      dsimp only
      split
      · exact coupled.goTo (plain_idle _)
      · exact coupled.goTo (plain _ (by simp) (by simp))
  | waitConsumerStatus word afterSequence =>
      dsimp only
      split
      · exact coupled.goTo (plain_idle _)
      · exact coupled.goTo (plain _ (by simp) (by simp))
  | loadWord word afterSequence =>
      dsimp only
      have learned : (system.learn party word (system.control.sequenceOf word)).Coupled := coupled.learn word
      split
      · exact learned.goTo (plain_idle _)
      split
      · exact learned.goTo (plain_idle _)
      · exact learned.goTo (plain _ (by simp) (by simp))
  | futexWait word afterSequence => exact coupled.goTo (plain _ (by simp) (by simp))
  | storeStatus status => exact (coupled.storeStatus status).goTo (plain_idle _)

theorem start_control (party : SyncParty) (call : SyncCall) :
    (system.start party call).control = system.control := by
  unfold start
  split
  · rfl
  cases call with
  | publish sequence => rfl
  | wait word afterSequence timeoutMs =>
      dsimp only
      split
      · rfl
      · rfl
  | fail status =>
      dsimp only
      split
      · rfl
      · rfl

theorem Coupled.start (coupled : system.Coupled) (party : SyncParty) (call : SyncCall) :
    (system.start party call).Coupled := by
  unfold FrameSync.start
  split
  · exact coupled.goTo (plain_idle _)
  cases call with
  | publish sequence => exact coupled.goTo ⟨by simp, by simp⟩
  | wait word afterSequence timeoutMs =>
      dsimp only
      split
      · exact coupled.goTo (plain_idle _)
      · exact coupled.goTo ⟨by simp, by simp⟩
  | fail status =>
      dsimp only
      split
      · exact coupled.goTo (plain_idle _)
      · exact coupled.goTo ⟨by simp, by simp⟩

theorem Coupled.step (coupled : system.Coupled) (input : SyncParty × SyncMove) :
    (system.step input).Coupled := by
  unfold FrameSync.step
  split
  · exact coupled.start _ _
  · exact coupled.advance _
  · exact coupled.goTo (plain_idle _)
  · exact coupled.goTo (plain_idle _)
  · exact coupled

theorem initial_coupled (frameCount : UInt32) : (initial frameCount).Coupled := by
  refine ⟨Nat.le_refl _, Nat.le_succ _, Nat.zero_le _, ?_, ?_, ?_, ?_, ?_, ?_⟩
  · intro sequence produced stands
    cases stands
  · intro sequence produced stands
    cases stands
  · intro sequence stands
    cases stands
  · intro sequence stands
    cases stands
  · intro party word value member
    rw [List.mem_singleton.mp member]
    exact Nat.zero_le _
  · intro sequence member
    cases member

/-- What the counters promise: the consumer is at most one behind and never ahead,
and no sequence passes the frame count. -/
structure InStep (system : FrameSync) : Prop where
  ordered : system.control.consumerSequence.toNat ≤ system.control.producerSequence.toNat
  close : system.control.producerSequence.toNat ≤ system.control.consumerSequence.toNat + 1
  bounded : system.control.producerSequence.toNat ≤ system.control.frameCount.toNat

/-- A step leaves a word as it is or counts it up. -/
def Grows (before after : FrameSync) : Prop :=
  ∀ word, after.control.sequenceOf word = before.control.sequenceOf word ∨
    (after.control.sequenceOf word).toNat = (before.control.sequenceOf word).toNat + 1

theorem Grows.of_control {after : FrameSync} (same : after.control = system.control) : Grows system after :=
  fun word => Or.inl (by rw [same])

theorem storeStatus_sequenceOf (control : FrameSyncControl) (party : SyncParty) (status : Int32) (word : SyncWord) :
    (control.storeStatus party status).sequenceOf word = control.sequenceOf word := by
  cases party with
  | producer => cases word <;> rfl
  | consumer => cases word <;> rfl

theorem Coupled.publish_grows (coupled : system.Coupled) {sequence : UInt32}
    (here : system.point party = .storeSequence sequence) : Grows system (system.publish party sequence) := by
  intro word
  have stored := coupled.stored here word
  by_cases own : word = party.ownWord
  · rw [if_pos own] at stored
    exact Or.inr stored
  · rw [if_neg own] at stored
    exact Or.inl (UInt32.toNat_inj.mp stored)

theorem Coupled.advance_grows (coupled : system.Coupled) (party : SyncParty) :
    Grows system (system.advance party) := by
  unfold FrameSync.advance
  dsimp only
  cases here : system.point party with
  | storeSequence sequence => exact coupled.publish_grows here
  | storeStatus status => exact fun word => Or.inl (storeStatus_sequenceOf _ _ _ _)
  | idle last => exact Grows.of_control rfl
  | loadProducerSequence sequence => exact Grows.of_control rfl
  | waitClock word afterSequence => exact Grows.of_control rfl
  | futexWait word afterSequence => exact Grows.of_control rfl
  | loadConsumerSequence sequence produced =>
      dsimp only
      split
      · exact Grows.of_control rfl
      · exact Grows.of_control rfl
  | loadWord word afterSequence =>
      dsimp only
      split
      · exact Grows.of_control rfl
      split
      · exact Grows.of_control rfl
      · exact Grows.of_control rfl
  | publishProducerStatus | publishConsumerStatus | waitProducerStatus | waitConsumerStatus =>
      dsimp only
      split
      · exact Grows.of_control rfl
      · exact Grows.of_control rfl

theorem Coupled.step_grows (coupled : system.Coupled) (input : SyncParty × SyncMove) :
    Grows system (system.step input) := by
  unfold FrameSync.step
  split
  · exact Grows.of_control (start_control _ _)
  · exact coupled.advance_grows _
  · exact Grows.of_control rfl
  · exact Grows.of_control rfl
  · exact Grows.of_control rfl

def waitsFor : SyncPoint → Option (SyncWord × UInt32)
  | .waitClock word afterSequence | .waitProducerStatus word afterSequence
  | .waitConsumerStatus word afterSequence | .loadWord word afterSequence
  | .futexWait word afterSequence => some (word, afterSequence)
  | _ => none

/-- No wait is ahead of its word, and none has ended with `-EPROTO`. -/
structure Patient (system : FrameSync) : Prop where
  reached : ∀ party word afterSequence, waitsFor (system.point party) = some (word, afterSequence) →
    afterSequence.toNat ≤ (system.control.sequenceOf word).toNat
  agreed : ∀ party, system.point party ≠ .idle (some (.refused .eproto))

def Continues (control : FrameSyncControl) (point : SyncPoint) : Prop :=
  (∀ word afterSequence, waitsFor point = some (word, afterSequence) →
    afterSequence.toNat ≤ (control.sequenceOf word).toNat) ∧ point ≠ .idle (some (.refused .eproto))

theorem Patient.grow (patient : system.Patient) {next : FrameSync} (points : next.point = system.point)
    (grows : Grows system next) : next.Patient := by
  constructor
  · intro party word afterSequence waits
    rw [points] at waits
    have before := patient.reached party word afterSequence waits
    rcases grows word with kept | counted
    · rw [kept]
      exact before
    · omega
  · intro party ended
    rw [points] at ended
    exact patient.agreed party ended

theorem Patient.learn (patient : system.Patient) (party : SyncParty) (word : SyncWord) (value : UInt32) :
    (system.learn party word value).Patient :=
  ⟨patient.reached, patient.agreed⟩

theorem Patient.goTo (patient : system.Patient) {point : SyncPoint}
    (continues : Continues system.control point) : (system.goTo party point).Patient := by
  constructor
  · intro other word afterSequence waits
    by_cases same : other = party
    · subst same
      rw [goTo_point_self] at waits
      exact continues.1 word afterSequence waits
    · rw [goTo_point_other same] at waits
      exact patient.reached other word afterSequence waits
  · intro other ended
    by_cases same : other = party
    · subst same
      rw [goTo_point_self] at ended
      exact continues.2 ended
    · rw [goTo_point_other same] at ended
      exact patient.agreed other ended

theorem continues_plain {control : FrameSyncControl} {point : SyncPoint} (plain : waitsFor point = none)
    (agreed : point ≠ .idle (some (.refused .eproto))) : Continues control point := by
  refine ⟨?_, agreed⟩
  intro word afterSequence waits
  rw [plain] at waits
  cases waits

theorem Patient.continues (patient : system.Patient) (party : SyncParty) {point : SyncPoint}
    (same : waitsFor point = waitsFor (system.point party)) (busy : waitsFor point ≠ none) :
    Continues system.control point := by
  constructor
  · intro word afterSequence waits
    exact patient.reached party word afterSequence (same.symm.trans waits)
  · intro idle
    rw [idle] at busy
    exact busy rfl

theorem publishCheck_agreed {sequence produced consumed : UInt32} {code : Errno}
    (refused : system.publishCheck party sequence produced consumed = .error code) : code ≠ .eproto := by
  unfold publishCheck at refused
  dsimp only at refused
  cases party with
  | producer =>
      dsimp only at refused
      split at refused
      · cases refused
        decide
      split at refused
      · cases refused
        decide
      · cases refused
  | consumer =>
      dsimp only at refused
      split at refused
      · cases refused
        decide
      split at refused
      · cases refused
        decide
      · cases refused

theorem Patient.advance (patient : system.Patient) (coupled : system.Coupled) (party : SyncParty) :
    (system.advance party).Patient := by
  unfold FrameSync.advance
  dsimp only
  cases here : system.point party with
  | idle last => exact patient
  | publishProducerStatus sequence =>
      dsimp only
      split
      · exact patient.goTo (continues_plain rfl (by simp))
      · exact patient.goTo (continues_plain rfl (by simp))
  | publishConsumerStatus sequence =>
      dsimp only
      split
      · exact patient.goTo (continues_plain rfl (by simp))
      · exact patient.goTo (continues_plain rfl (by simp))
  | loadProducerSequence sequence =>
      exact (patient.learn party _ _).goTo (continues_plain rfl (by simp))
  | loadConsumerSequence sequence produced =>
      dsimp only
      split
      · rename_i code refused
        have agreed := publishCheck_agreed refused
        exact (patient.learn party _ _).goTo (continues_plain rfl (by simpa using agreed))
      · exact (patient.learn party _ _).goTo (continues_plain rfl (by simp))
  | storeSequence sequence =>
      have published : (system.publish party sequence).Patient :=
        patient.grow rfl (coupled.publish_grows here)
      exact published.goTo (continues_plain rfl (by simp))
  | waitClock word afterSequence =>
      exact patient.goTo (patient.continues party (by rw [here]; rfl) (by simp [waitsFor]))
  | waitProducerStatus word afterSequence =>
      dsimp only
      split
      · exact patient.goTo (continues_plain rfl (by simp))
      · exact patient.goTo
          (patient.continues party (by rw [here]; rfl) (by simp [waitsFor]))
  | waitConsumerStatus word afterSequence =>
      dsimp only
      split
      · exact patient.goTo (continues_plain rfl (by simp))
      · exact patient.goTo
          (patient.continues party (by rw [here]; rfl) (by simp [waitsFor]))
  | loadWord word afterSequence =>
      dsimp only
      have reached := patient.reached party word afterSequence (by rw [here]; rfl)
      split
      · exact (patient.learn party _ _).goTo (continues_plain rfl (by simp))
      split
      · rename_i behind
        rw [UInt32.lt_iff_toNat_lt] at behind
        omega
      · exact (patient.learn party _ _).goTo
          (patient.continues party (by rw [here]; rfl) (by simp [waitsFor]))
  | futexWait word afterSequence =>
      exact patient.goTo (patient.continues party (by rw [here]; rfl) (by simp [waitsFor]))
  | storeStatus status =>
      have stored : Patient { system with control := system.control.storeStatus party status } :=
        patient.grow rfl fun word => Or.inl (storeStatus_sequenceOf _ _ _ _)
      exact stored.goTo (continues_plain rfl (by simp))

/-- A wait is after a sequence its party has loaded from the word or stored to it;
the consumer may also wait after a sequence it has published. -/
def WaitsAfterKnown (system : FrameSync) (input : SyncParty × SyncMove) : Prop :=
  match input.2 with
  | .call (.wait word afterSequence _) =>
      afterSequence ∈ system.known input.1 word ∨
        (input.1 = .consumer ∧ afterSequence ∈ system.published .consumer)
  | _ => True

theorem Coupled.waits_reached (coupled : system.Coupled) {word : SyncWord} {afterSequence timeoutMs : UInt32}
    (waits : system.WaitsAfterKnown (party, .call (.wait word afterSequence timeoutMs))) :
    afterSequence.toNat ≤ (system.control.sequenceOf word).toNat := by
  rcases waits with known | ⟨isConsumer, published⟩
  · exact coupled.known party word afterSequence known
  · exact coupled.known .consumer word afterSequence (coupled.consumed afterSequence published word)

theorem Patient.start (patient : system.Patient) (coupled : system.Coupled) {call : SyncCall}
    (waits : system.WaitsAfterKnown (party, .call call)) : (system.start party call).Patient := by
  have refused : (system.finish party (.refused .einval)).Patient :=
    patient.goTo (continues_plain rfl (by simp))
  unfold FrameSync.start
  split
  · exact refused
  cases call with
  | publish sequence => exact patient.goTo (continues_plain rfl (by simp))
  | wait word afterSequence timeoutMs =>
      dsimp only
      split
      · exact refused
      · refine patient.goTo ⟨?_, by simp⟩
        intro other sequence same
        cases same
        exact coupled.waits_reached waits
  | fail status =>
      dsimp only
      split
      · exact refused
      · exact patient.goTo (continues_plain rfl (by simp))

theorem Patient.step (patient : system.Patient) (coupled : system.Coupled) {input : SyncParty × SyncMove}
    (waits : system.WaitsAfterKnown input) : (system.step input).Patient := by
  have interrupted : ∀ party (error : WaitError), (system.finish party (.refused error.code)).Patient := by
    intro party error
    refine patient.goTo (continues_plain rfl ?_)
    cases error <;> simp [WaitError.code]
  obtain ⟨party, move⟩ := input
  unfold FrameSync.step
  split
  · rename_i call last isCall idle
    dsimp only at isCall
    subst isCall
    exact patient.start coupled waits
  · exact patient.advance coupled _
  · exact interrupted _ _
  · exact interrupted _ _
  · exact patient

theorem initial_patient (frameCount : UInt32) : (initial frameCount).Patient := by
  constructor
  · intro party word afterSequence waits
    cases waits
  · intro party ended
    cases ended

theorem run_coupled (frameCount : UInt32) (inputs : List (SyncParty × SyncMove)) :
    Runs.EveryState step Coupled (initial frameCount) inputs :=
  Runs.everyState_of_step (fun _ input coupled => coupled.step input) inputs _ (initial_coupled frameCount)

theorem run_patient (frameCount : UInt32) (inputs : List (SyncParty × SyncMove))
    (waits : Runs.EveryStep step WaitsAfterKnown (initial frameCount) inputs) :
    Runs.EveryState step (fun system => system.Coupled ∧ system.Patient) (initial frameCount) inputs := by
  refine Runs.everyState_of_everyStep ?_ inputs _ ⟨initial_coupled frameCount, initial_patient frameCount⟩ waits
  intro system input both meets
  exact ⟨both.1.step input, both.2.step both.1 meets⟩

/-- In every interleaving the counters stay in step and only count up by one; and
when no party waits on a word after a sequence it does not know from that word,
no wait finds its word behind. -/
theorem counters_never_drift (frameCount : UInt32) (inputs : List (SyncParty × SyncMove)) :
    Runs.EveryState step InStep (initial frameCount) inputs ∧
      Runs.EveryStep step (fun system input => Grows system (system.step input)) (initial frameCount) inputs ∧
      (Runs.EveryStep step WaitsAfterKnown (initial frameCount) inputs →
        Runs.EveryState step (fun system => ∀ party, system.point party ≠ .idle (some (.refused .eproto)))
          (initial frameCount) inputs) := by
  have coupled := run_coupled frameCount inputs
  refine ⟨?_, ?_, ?_⟩
  · exact coupled.imp fun system coupled => ⟨coupled.ordered, coupled.close, coupled.bounded⟩
  · have always : Runs.EveryStep step (fun _ _ => True) (initial frameCount) inputs :=
      Runs.everyStep_of_all (fun _ _ => trivial) _ _
    exact coupled.everyStep (fun system input coupled _ => coupled.step_grows input) always
  · intro waits
    exact (run_patient frameCount inputs waits).imp fun system both => both.2.agreed

instance (system : FrameSync) (input : SyncParty × SyncMove) : Decidable (system.WaitsAfterKnown input) := by
  unfold WaitsAfterKnown
  split
  · infer_instance
  · infer_instance

/-- The producer publishes the first frame, and the consumer waits for it. -/
def firstFrame : List (SyncParty × SyncMove) :=
  [(.consumer, .call (.wait .producerSequence 0 1000)), (.producer, .call (.publish 1)),
    (.consumer, .next), (.producer, .next), (.producer, .next), (.producer, .next), (.producer, .next),
    (.producer, .next), (.consumer, .next), (.consumer, .next), (.consumer, .next)]

theorem counters_never_drift_firstFrame :
    Runs.EveryState step (fun system => ∀ party, system.point party ≠ .idle (some (.refused .eproto)))
      (initial 2) firstFrame := by
  refine (counters_never_drift 2 firstFrame).2.2 ?_
  simp only [firstFrame, Runs.EveryStep]
  decide

/-- A producer that waits for the consumer after the sequence it has just published
is told that the peer broke the protocol. -/
theorem producer_wait_after_published_refused :
    ∃ (inputs : List (SyncParty × SyncMove)) (timeoutMs : UInt32),
      1 ∈ (Runs.final step (initial 2) inputs).published .producer ∧
        (Runs.final step (initial 2) (inputs ++ [(.producer, .call (.wait .consumerSequence 1 timeoutMs)),
          (.producer, .next), (.producer, .next), (.producer, .next), (.producer, .next)])).point .producer =
          .idle (some (.refused .eproto)) := by
  refine ⟨[(.producer, .call (.publish 1)), (.producer, .next), (.producer, .next), (.producer, .next),
    (.producer, .next), (.producer, .next)], 1000, by decide, by decide⟩

end FrameSync

end VulkanBridge
