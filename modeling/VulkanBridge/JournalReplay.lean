import VulkanBridge.DescriptorJournal
import VulkanBridge.TemplateUpdates

/-!
The client's journal of template updates, and the replay of what it holds.
-/

namespace VulkanBridge

open ByteBuffer
open Watched (Safe)

/-- The record that `append_descriptor_journal_locked` writes. -/
def writeJournalRecord (mapping : Buffer) (length : UInt32) (payload : Buffer) (payloadLength : UInt32) : Buffer :=
  let record := length.toNat
  let unaligned := 8 + payloadLength
  let recordLength := (unaligned + 7) &&& ~~~7
  let mapping := putU32 mapping record payloadLength
  let mapping := putU32 mapping (record + 4) 0
  let mapping := copyInto mapping (record + 8) payload payloadLength.toNat
  copyInto mapping (record + unaligned.toNat) zeroed (recordLength - unaligned).toNat

variable {snapshot : Buffer} {length offset next last : UInt32} {request : DescriptorTemplateUpdateRequest}
  {requests : List DescriptorTemplateUpdateRequest}

theorem JournalRecord.payload_inside (record : JournalRecord snapshot length offset request next) :
    offset.toNat + 8 + (getU32 snapshot offset.toNat).toNat ≤ next.toNat := by
  have size := journalRecordLength_toNat record.small
  have ends := record.ends
  omega

theorem JournalRecord.next_eq (record : JournalRecord snapshot length offset request next) :
    offset + journalRecordLength (getU32 snapshot offset.toNat) = next := by
  have ends := record.ends
  have bound := next.toNat_lt
  rw [← UInt32.toNat_inj, UInt32.toNat_add, Nat.mod_eq_of_lt (by omega), ends]

inductive Replays (update : Nat → DescriptorTemplateUpdateRequest → Except Errno Unit) (index : Nat)
    (requests : List DescriptorTemplateUpdateRequest) (last length : UInt32) (replay : JournalReplay) : Prop where
  | all (made : ∀ (position : Nat) request, requests[position]? = some request →
        update (index + position) request = .ok ())
      (updates : replay.updates = requests) (offset : replay.offset = last)
      (stop : replay.stop = if last = length then .finished else .leftover)
  | some (position : Nat) (request : DescriptorTemplateUpdateRequest) (code : Errno)
      (failing : requests[position]? = Option.some request) (failed : update (index + position) request = .error code)
      (updates : replay.updates = requests.take (position + 1)) (stop : replay.stop = .updateFailed code)

theorem replayJournalRecords_spec (update : Nat → DescriptorTemplateUpdateRequest → Except Errno Unit)
    (records : JournalRecords snapshot length offset requests last) : ∀ index,
      (∀ read ∈ (replayJournalRecords update snapshot length requests.length index offset).reads,
        read.1 + read.2 ≤ length.toNat) ∧
      Replays update index requests last length
        (replayJournalRecords update snapshot length requests.length index offset) := by
  induction records with
  | none offset =>
      intro index
      refine ⟨fun read member => absurd member List.not_mem_nil, .all ?_ rfl rfl rfl⟩
      intro position request impossible
      simp at impossible
  | cons record rest ih =>
      rename_i here following last first others
      intro index
      have payload := record.payload_inside
      have inside := record.inside
      have here : ∀ read ∈ (here.toNat, 4) :: journalPayloadReads snapshot here (getU32 snapshot here.toNat),
          read.1 + read.2 ≤ length.toNat := by
        refine List.forall_mem_cons.mpr ⟨?_, journalPayloadReads_inside (by omega)⟩
        have header := record.header
        dsimp only
        omega
      simp only [List.length_cons, replayJournalRecords, record.decoded]
      rcases answer : update index first with code | ⟨⟩
      · exact ⟨here, .some 0 first code rfl answer rfl rfl⟩
      · obtain ⟨reads, replays⟩ := ih (index + 1)
        rw [record.next_eq]
        refine ⟨?_, ?_⟩
        · intro read member
          rcases List.mem_append.mp member with earlier | later
          · exact here read earlier
          · exact reads read later
        · cases replays with
          | all made updates offset stop =>
              refine .all ?_ (congrArg (first :: ·) updates) offset stop
              intro position request present
              cases position with
              | zero =>
                  cases present
                  exact answer
              | succ position =>
                  have later := made position request present
                  rwa [show index + 1 + position = index + (position + 1) by omega] at later
          | some position request code failing failed updates stop =>
              refine .some (position + 1) request code failing ?_ (congrArg (first :: ·) updates) stop
              rwa [show index + 1 + position = index + (position + 1) by omega] at failed

/-- On every snapshot the validation reads inside it and wraps nowhere. The replay of an accepted
snapshot reads inside it too, fails only where an update fails, and if none does makes as many
updates as there are records and ends with the snapshot. -/
theorem journal_replay_stays_inside (snapshot : Buffer) (length recordCount : UInt32) :
    Safe length.toNat (validateDescriptorJournalSnapshot snapshot length recordCount) ∧
      ((validateDescriptorJournalSnapshot snapshot length recordCount).value = .ok () →
        ∀ update : Nat → DescriptorTemplateUpdateRequest → Except Errno Unit,
          let replay := replayDescriptorJournalSnapshot update snapshot length recordCount
          (∀ read ∈ replay.reads, read.1 + read.2 ≤ length.toNat) ∧
            ((replay.updates.length = recordCount.toNat ∧ replay.offset = length ∧ replay.stop = .finished) ∨
              ∃ position request code, replay.updates.length = position + 1 ∧ position < recordCount.toNat ∧
                replay.updates[position]? = some request ∧ update position request = .error code ∧
                replay.stop = .updateFailed code)) := by
  refine ⟨validateDescriptorJournalSnapshot_safe snapshot length recordCount, ?_⟩
  intro accepted update
  obtain ⟨_, requests, counted, records⟩ := validateDescriptorJournalSnapshot_eq_ok.mp accepted
  obtain ⟨reads, replays⟩ := replayJournalRecords_spec update records 0
  rw [counted] at reads replays
  refine ⟨reads, ?_⟩
  cases replays with
  | all made updates offset stop =>
      rw [if_pos rfl] at stop
      exact .inl ⟨by rw [replayDescriptorJournalSnapshot, updates, counted], offset, stop⟩
  | some position request code failing failed updates stop =>
      obtain ⟨bound, _⟩ := List.getElem?_eq_some_iff.mp failing
      rw [Nat.zero_add] at failed
      refine .inr ⟨position, request, code, ?_, by omega, ?_, failed, stop⟩
      · rw [replayDescriptorJournalSnapshot, updates, List.length_take]
        omega
      · rw [replayDescriptorJournalSnapshot, updates, List.getElem?_take, if_pos (Nat.lt_succ_self _)]
        exact failing

/-- An update of a single storage buffer. -/
def oneBufferUpdate : DescriptorTemplateUpdateRequest :=
  ⟨handleId .device 1, handleId .descriptorSet 2, handleId .descriptorUpdateTemplate 3, 1,
    fun index => if index = 0 then ⟨7, 0, handleId .buffer 4, 0, 0, 256⟩ else default⟩

/-- The same update twice. -/
def twoUpdates : Buffer :=
  let first := writeJournalRecord zeroed 0 oneBufferUpdate.payload 72
  writeJournalRecord first 80 oneBufferUpdate.payload 72

/-- The answers of a service whose context knows no object. -/
def unknownAnswers (_ : Nat) (request : DescriptorTemplateUpdateRequest) : Except Errno Unit :=
  ((TemplateContext.empty 16 true fun _ => ⟨0, 0, fun _ => default⟩).updateDescriptorSetWithTemplate
    ⟨⟨fun _ _ => true, fun _ _ => true, fun _ => none, fun _ => none⟩, fun _ => true, true, 0⟩ request).reply

/-- An accepted snapshot of two records, whose replay makes one update. -/
theorem two_updates_one_replayed :
    (validateDescriptorJournalSnapshot twoUpdates 160 2).value = .ok () ∧
      (replayDescriptorJournalSnapshot unknownAnswers twoUpdates 160 2).updates.length = 1 ∧
      (replayDescriptorJournalSnapshot unknownAnswers twoUpdates 160 2).offset = 0 ∧
      (replayDescriptorJournalSnapshot unknownAnswers twoUpdates 160 2).stop = .updateFailed .enoent := by
  decide +kernel

theorem two_updates_stay_inside :
    ∀ read ∈ (replayDescriptorJournalSnapshot (fun _ _ => .ok ()) twoUpdates 160 2).reads, read.1 + read.2 ≤ 160 :=
  ((journal_replay_stays_inside twoUpdates 160 2).2 (by decide +kernel) fun _ _ => .ok ()).1

end VulkanBridge
