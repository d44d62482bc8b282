import VulkanBridge.JournalReplay
import VulkanBridge.Runs

/-!
The descriptor journal between the client and the service: updates are appended to the
shared region, and published by a flush or by an allocation transaction.
-/

namespace VulkanBridge

open ByteBuffer

/-- What the service does, in its order: an update, or the answer to an exchange or an
allocation. -/
inductive JournalEvent where
  | update (request : DescriptorTemplateUpdateRequest)
  | served

structure JournalClient where
  mapping : Buffer
  length : UInt32
  recordCount : UInt32
  nextSequence : UInt64
  poisoned : Bool

structure JournalService where
  lastSequence : UInt64
  handled : List JournalEvent

/-- `issued` are the events in the order of the client's calls and `published` the
sequences of its publications. -/
structure JournalSystem where
  client : JournalClient
  service : JournalService
  issued : List JournalEvent
  published : List UInt64

/-- What a publication meets: whether it reaches the service, whether the service has
memory for the snapshot, what the updates answer, and whether the answer comes back. -/
structure JournalAnswers where
  delivered : Bool
  memory : Bool
  update : Nat → DescriptorTemplateUpdateRequest → Except Errno Unit
  answered : Bool

namespace JournalService

variable (service : JournalService)

def isNext (sequence : UInt64) : Bool :=
  !(service.lastSequence == 0xffffffffffffffff || sequence != service.lastSequence + 1)

def replaySnapshot (answers : JournalAnswers) (mapping : Buffer) (length recordCount : UInt32) :
    Except Errno Unit × JournalService :=
  if !answers.memory then (.error .enomem, service)
  else
    let snapshot := window mapping 0 length.toNat
    match (validateDescriptorJournalSnapshot snapshot length recordCount).value with
    | .error code => (.error code, service)
    | .ok _ =>
        let replay := replayDescriptorJournalSnapshot answers.update snapshot length recordCount
        (replay.stop.reply, { service with handled := service.handled ++ replay.updates.map .update })

/-- `answer_vulkan_descriptor_journal_flush` -/
def flush (answers : JournalAnswers) (mapping : Buffer) (sequence : UInt64) (length recordCount : UInt32) :
    Except Errno Unit × JournalService :=
  if !service.isNext sequence then (.error .estale, service)
  else if length.toNat > journalRegionBytes then (.error .erange, service)
  else
    match service.replaySnapshot answers mapping length recordCount with
    | (.error code, next) => (.error code, next)
    | (.ok _, next) => (.ok (), { next with lastSequence := sequence })

/-- The body of the loop of `descriptor_transaction_worker_main`. `allocated` is the answer
of the allocation. -/
def transaction (answers : JournalAnswers) (allocated : Except Errno Unit) (mapping : Buffer) (sequence : UInt64)
    (length recordCount : UInt32) : Except Errno Unit × JournalService :=
  if !service.isNext sequence then (.error .estale, service)
  else if length.toNat > journalRegionBytes then (.error .erange, service)
  else
    match if length = 0 then (.ok (), service) else service.replaySnapshot answers mapping length recordCount with
    | (.error code, next) => (.error code, next)
    | (.ok _, next) =>
        let served := { next with handled := next.handled ++ [.served] }
        match allocated with
        | .error code => (.error code, served)
        | .ok _ => (.ok (), { served with lastSequence := sequence })

end JournalService

namespace JournalClient

variable (client : JournalClient)

def flushFits : Bool :=
  !(client.nextSequence == 0 || client.length == 0 || decide (client.length.toNat > journalRegionBytes) ||
    client.recordCount == 0 || decide (client.recordCount > journalMaxRecords))

def transactionFits : Bool :=
  !(client.nextSequence == 0 || decide (client.length.toNat > journalRegionBytes) ||
    decide (client.recordCount > journalMaxRecords) || (client.length == 0) != (client.recordCount == 0))

def emptied : JournalClient :=
  { client with length := 0, recordCount := 0, nextSequence := client.nextSequence + 1 }

end JournalClient

namespace JournalSystem

variable (system : JournalSystem)

def poison : JournalSystem := { system with client := { system.client with poisoned := true } }

def publish (service : JournalService) : JournalSystem :=
  { system with service := service, published := system.published ++ [system.client.nextSequence] }

def settle : Except Errno Unit × JournalSystem :=
  if system.client.nextSequence + 1 = 0 then (.error .eoverflow, { system with client := system.client.emptied }.poison)
  else (.ok (), { system with client := system.client.emptied })

/-- `flush_descriptor_journal_locked` -/
def flush (answers : JournalAnswers) : Except Errno Unit × JournalSystem :=
  let client := system.client
  if client.length = 0 then (.ok (), system)
  else if client.poisoned || client.nextSequence == 0 then (.error .epipe, system.poison)
  else if !client.flushFits then (.error .einval, system.poison)
  else if !answers.delivered then (.error .epipe, system.poison)
  else
    match system.service.flush answers client.mapping client.nextSequence client.length client.recordCount with
    | (.error code, service) => (.error code, (system.publish service).poison)
    | (.ok _, service) =>
        if !answers.answered then (.error .epipe, (system.publish service).poison) else (system.publish service).settle

/-- `append_descriptor_journal_locked` -/
def appendDescriptorJournal (answers : JournalAnswers) (payload : Buffer) (payloadLength : UInt32) :
    Except Errno Unit × JournalSystem :=
  if payloadLength = 0 ∨ payloadLength > UInt32.ofNat protocolMaxPayload then (.error .einval, system)
  else
    let recordLength := (8 + payloadLength + 7) &&& ~~~7
    if recordLength.toNat > journalRegionBytes then (.error .e2big, system)
    else
      let (reply, next) :=
        if system.client.recordCount = journalMaxRecords ∨
            recordLength.toNat > journalRegionBytes - system.client.length.toNat then system.flush answers
        else (.ok (), system)
      match reply with
      | .error code => (.error code, next)
      | .ok _ =>
          (.ok (),
            { next with
              client :=
                { next.client with
                  mapping := writeJournalRecord next.client.mapping next.client.length payload payloadLength
                  length := next.client.length + recordLength
                  recordCount := next.client.recordCount + 1 } })

/-- `bvb_bridge_vkUpdateDescriptorSetWithTemplate` from its request on. -/
def update (answers : JournalAnswers) (request : DescriptorTemplateUpdateRequest) : JournalSystem :=
  match encodeDescriptorTemplateUpdateRequest request with
  | .error _ => system.poison
  | .ok (payload, length) =>
      if system.client.poisoned then system
      else
        match system.appendDescriptorJournal answers payload (UInt32.ofNat length) with
        | (.error _, next) => next.poison
        | (.ok _, next) => { next with issued := next.issued ++ [.update request.cleared] }

/-- An event of the client's that the service has answered. -/
def serve : JournalSystem :=
  { system with
    issued := system.issued ++ [.served]
    service := { system.service with handled := system.service.handled ++ [.served] } }

/-- `exchange_locked` and its two siblings. `sent` says whether the request reaches the service. -/
def exchange (answers : JournalAnswers) (sent : Bool) : JournalSystem :=
  if system.client.poisoned then system
  else
    match system.flush answers with
    | (.error _, next) => next
    | (.ok _, next) => if sent then next.serve else next

/-- `unmap_memory_mirror_locked`, which sends its request by itself. -/
def unmapMemoryMirror (sent answered : Bool) : JournalSystem :=
  if system.client.poisoned then system
  else if !sent then system.poison
  else if !answered then system.serve.poison
  else system.serve

/-- `bvb_descriptor_transaction_ring_call` and what follows it. -/
def callTransaction (answers : JournalAnswers) (allocated : Except Errno Unit) : JournalSystem :=
  let client := system.client
  if !answers.delivered then system.poison
  else
    match system.service.transaction answers allocated client.mapping client.nextSequence client.length
        client.recordCount with
    | (.error _, service) => (system.publish service).poison
    | (.ok _, service) =>
        if !answers.answered then (system.publish service).poison
        else { (system.publish service).settle.2 with issued := system.issued ++ [.served] }

/-- The allocation of `bvb_bridge_vkAllocateDescriptorSets`, given whether the ring could be
set up and what a claim of leases and the service's allocation answer. -/
def allocate (answers : JournalAnswers) (ready : Bool) (lease : Except Errno Bool) (allocated : Except Errno Unit) :
    JournalSystem :=
  if system.client.poisoned then system
  else if !system.client.transactionFits || !ready then system.poison
  else if system.client.length = 0 ∧ system.client.recordCount = 0 then
    match lease with
    | .error _ => system.poison
    | .ok true => system
    | .ok false => system.callTransaction answers allocated
  else system.callTransaction answers allocated

end JournalSystem

/-! ## Records in the region -/

section Records

variable {snapshot other : Buffer} {length limit offset next last : UInt32} {request : DescriptorTemplateUpdateRequest}
  {requests : List DescriptorTemplateUpdateRequest}

theorem JournalRecord.congr (record : JournalRecord snapshot length offset request next)
    (grows : length.toNat ≤ limit.toNat)
    (same : ∀ index, index < next.toNat → other index = snapshot index) :
    JournalRecord other limit offset request next := by
  have inside := record.payload_inside
  have size : getU32 other offset.toNat = getU32 snapshot offset.toNat :=
    getU32_reads offset.toNat other snapshot fun index _ upper => same index (by omega)
  have reserved : getU32 other (offset.toNat + 4) = getU32 snapshot (offset.toNat + 4) :=
    getU32_reads (offset.toNat + 4) other snapshot fun index _ upper => same index (by omega)
  have payload : journalPayload other offset (getU32 other offset.toNat) =
      journalPayload snapshot offset (getU32 snapshot offset.toNat) := by
    rw [size]
    exact window_congr _ _ _ _ fun index _ upper => same index (by omega)
  refine ⟨?_, reserved.trans record.reserved, ?_, ?_, ?_, ?_, ?_, record.inside.trans grows⟩
  · exact record.header.trans grows
  · rw [size]
    exact record.used
  · rw [size]
    exact record.small
  · rw [decodeJournalRecord, payload, size]
    exact record.decoded
  · intro index lower upper
    rw [size] at lower
    rw [same index upper]
    exact record.blank index lower upper
  · rw [size]
    exact record.ends

theorem JournalRecords.ordered (records : JournalRecords snapshot length offset requests last) :
    offset.toNat ≤ last.toNat := by
  induction records with
  | none offset => exact Nat.le_refl _
  | cons record _ ih =>
      have inside := record.payload_inside
      omega

theorem JournalRecords.congr (records : JournalRecords snapshot length offset requests last)
    (grows : length.toNat ≤ limit.toNat) (same : ∀ index, index < last.toNat → other index = snapshot index) :
    JournalRecords other limit offset requests last := by
  induction records with
  | none offset => exact .none offset
  | cons record rest ih =>
      refine .cons (record.congr grows fun index upper => same index ?_) (ih same)
      exact Nat.lt_of_lt_of_le upper rest.ordered

theorem JournalRecords.snoc (records : JournalRecords snapshot length offset requests last)
    (record : JournalRecord snapshot length last request next) :
    JournalRecords snapshot length offset (requests ++ [request]) next := by
  induction records with
  | none offset => exact .cons record (.none _)
  | cons first _ ih => exact .cons first (ih record)

theorem JournalRecords.empty_iff (records : JournalRecords snapshot length offset requests last) :
    last = offset ↔ requests = [] := by
  cases records with
  | none => simp
  | cons record rest =>
      have inside := record.payload_inside
      have ordered := rest.ordered
      simp only [reduceCtorEq, iff_false]
      rintro rfl
      omega

namespace DescriptorTemplateUpdateRequest

theorem size_small (encodable : request.isEncodable = true) : 32 < request.size ∧ request.size ≤ 2592 := by
  simp only [isEncodable, Bool.and_eq_true, Bool.not_eq_true', Bool.or_eq_false_iff, decide_eq_false_iff_not,
    beq_eq_false_iff_ne] at encodable
  obtain ⟨⟨⟨_, used⟩, few⟩, _⟩ := encodable
  rw [gt_iff_lt, UInt32.lt_iff_toNat_lt, Nat.not_lt] at few
  have most : (64 : UInt32).toNat = 64 := rfl
  have some : request.valueCount.toNat ≠ 0 := fun zero => used (UInt32.toNat_inj.mp zero)
  simp only [size]
  omega

end DescriptorTemplateUpdateRequest

theorem requestRecordLength (encodable : request.isEncodable = true) :
    (UInt32.ofNat request.size).toNat = request.size ∧
      (8 + UInt32.ofNat request.size + 7) &&& ~~~7 = journalRecordLength (UInt32.ofNat request.size) ∧
      (journalRecordLength (UInt32.ofNat request.size)).toNat = (8 + request.size + 7) / 2 ^ 3 * 2 ^ 3 := by
  obtain ⟨_, small⟩ := DescriptorTemplateUpdateRequest.size_small encodable
  have size : (UInt32.ofNat request.size).toNat = request.size :=
    UInt32.toNat_ofNat_of_lt' (by simp only [UInt32.size]; omega)
  have length := journalRecordLength_toNat (show (UInt32.ofNat request.size).toNat ≤ 4096 by omega)
  rw [size] at length
  refine ⟨size, ?_, length⟩
  have fits : ¬ UInt32.ofNat request.size > 0xffffffff - 8 - 7 := by
    have bound : (0xffffffff - 8 - 7 : UInt32).toNat = 4294967280 := by decide
    rw [gt_iff_lt, UInt32.lt_iff_toNat_lt, bound, size]
    omega
  rw [journalRecordLength, if_neg fits]

theorem writeJournalRecord_before {mapping payload : Buffer} {payloadLength : UInt32} {index : Nat}
    (before : index < length.toNat) :
    writeJournalRecord mapping length payload payloadLength index = mapping index := by
  unfold writeJournalRecord
  simp (disch := omega) only [copyInto_apart, putU32_apart]

theorem writeJournalRecord_record {mapping : Buffer} (encodable : request.isEncodable = true)
    (room : length.toNat + (journalRecordLength (UInt32.ofNat request.size)).toNat ≤ journalRegionBytes)
    (inside : length.toNat + (journalRecordLength (UInt32.ofNat request.size)).toNat ≤ limit.toNat) :
    JournalRecord (writeJournalRecord mapping length request.payload (UInt32.ofNat request.size)) limit length
      request.cleared (length + journalRecordLength (UInt32.ofNat request.size)) := by
  obtain ⟨size, rounded, recordSize⟩ := requestRecordLength encodable
  obtain ⟨large, small⟩ := DescriptorTemplateUpdateRequest.size_small encodable
  have region : journalRegionBytes = 16777216 := rfl
  have ends : (length + journalRecordLength (UInt32.ofNat request.size)).toNat =
      length.toNat + (journalRecordLength (UInt32.ofNat request.size)).toNat := by
    rw [UInt32.toNat_add, Nat.mod_eq_of_lt (by omega)]
  have unaligned : (8 + UInt32.ofNat request.size).toNat = 8 + request.size := by
    rw [UInt32.toNat_add, size]
    exact Nat.mod_eq_of_lt (by show 8 + request.size < 2 ^ 32; omega)
  have tail : (journalRecordLength (UInt32.ofNat request.size) - (8 + UInt32.ofNat request.size)).toNat =
      (journalRecordLength (UInt32.ofNat request.size)).toNat - (8 + request.size) := by
    rw [UInt32.toNat_sub_of_le _ _ (UInt32.le_iff_toNat_le.mpr (by omega)), unaligned]
  have header : getU32 (writeJournalRecord mapping length request.payload (UInt32.ofNat request.size)) length.toNat =
      UInt32.ofNat request.size := by
    unfold writeJournalRecord
    dsimp only
    simp (disch := omega) only [getU32_copyInto_apart, getU32_putU32_apart, getU32_putU32]
  have reserved : getU32 (writeJournalRecord mapping length request.payload (UInt32.ofNat request.size))
      (length.toNat + 4) = 0 := by
    unfold writeJournalRecord
    dsimp only
    simp (disch := omega) only [getU32_copyInto_apart, getU32_putU32]
  have payload : journalPayload (writeJournalRecord mapping length request.payload (UInt32.ofNat request.size)) length
      (UInt32.ofNat request.size) = bufferOf (bytesOf request.payload request.size) := by
    rw [bufferOf_bytesOf request.payload_ends, journalPayload, size]
    unfold writeJournalRecord
    dsimp only
    rw [unaligned, size]
    refine (window_congr _ _ _ _ fun index _ upper => copyInto_apart _ _ _ _ (.inl (by omega))).trans ?_
    exact window_copyInto _ _ _ _ request.payload_ends
  refine ⟨by omega, reserved, ?_, ?_, ?_, ?_, ?_, by omega⟩
  · rw [header, ← UInt32.toNat_inj.ne, size]
    show _ ≠ 0
    omega
  · rw [header]
    omega
  · rw [header, decodeJournalRecord, payload, size]
    exact DescriptorTemplateUpdateRequest.exactInverse.decodes _ _ _
      ((DescriptorTemplateUpdateRequest.encode_eq_ok _ _).mpr ⟨encodable, rfl⟩)
  · intro index lower upper
    rw [header, size] at lower
    unfold writeJournalRecord
    rw [rounded, unaligned, tail, copyInto, if_pos ⟨by omega, by omega⟩]
    rfl
  · rw [header]
    exact ends

end Records

/-! ## Runs -/

namespace JournalSystem

variable {system : JournalSystem} {pending : List DescriptorTemplateUpdateRequest} {answers : JournalAnswers}

/-- What is appended and not yet published are the records in the region. The service has handled
everything else, in the client's order. -/
structure Pends (system : JournalSystem) (pending : List DescriptorTemplateUpdateRequest) : Prop where
  records : JournalRecords system.client.mapping system.client.length 0 pending system.client.length
  counted : system.client.recordCount.toNat = pending.length
  few : pending.length ≤ journalMaxRecords.toNat
  bounded : system.client.length.toNat ≤ journalRegionBytes
  order : system.issued = system.service.handled ++ pending.map .update
  next : system.client.nextSequence.toNat = system.published.length + 1
  last : system.service.lastSequence.toNat = system.published.length
  sequences : system.published = (List.range system.published.length).map fun index => UInt64.ofNat (index + 1)

/-- The snapshot a publication hands to the service. -/
def snapshot (system : JournalSystem) : Buffer := window system.client.mapping 0 system.client.length.toNat

namespace Pends

theorem empty_iff (pends : system.Pends pending) : system.client.length = 0 ↔ pending = [] :=
  pends.records.empty_iff

theorem snapshot_records (pends : system.Pends pending) :
    JournalRecords system.snapshot system.client.length 0 pending system.client.length := by
  refine pends.records.congr (Nat.le_refl _) fun index inside => ?_
  simp only [snapshot, window, if_pos inside, Nat.zero_add]

theorem validates (pends : system.Pends pending) (used : pending ≠ []) :
    (validateDescriptorJournalSnapshot system.snapshot system.client.length system.client.recordCount).value =
      .ok () := by
  refine validateDescriptorJournalSnapshot_eq_ok.mpr ⟨⟨?_, ?_, ?_⟩, pending, pends.counted.symm, pends.snapshot_records⟩
  · exact fun zero => used (pends.empty_iff.mp zero)
  · intro zero
    have counted := pends.counted
    rw [zero] at counted
    exact used (List.length_eq_zero_iff.mp counted.symm)
  · rw [gt_iff_lt, UInt32.lt_iff_toNat_lt, pends.counted]
    exact Nat.not_lt.mpr pends.few

theorem replays (pends : system.Pends pending) (used : pending ≠ []) {service : JournalService}
    (done : system.service.replaySnapshot answers system.client.mapping system.client.length system.client.recordCount =
      (.ok (), service)) :
    service = { system.service with handled := system.service.handled ++ pending.map .update } := by
  have validates := pends.validates used
  obtain ⟨_, replays⟩ := replayJournalRecords_spec answers.update pends.snapshot_records 0
  rw [← pends.counted] at replays
  unfold JournalService.replaySnapshot at done
  split at done
  · cases done
  simp only [snapshot] at validates replays
  simp only [validates, replayDescriptorJournalSnapshot] at done
  cases replays with
  | all made updates offset stop =>
      rw [updates] at done
      exact (Prod.mk.inj done).2.symm
  | some position request code failing failed updates stop =>
      rw [stop] at done
      cases (Prod.mk.inj done).1

end Pends

theorem settle_cases (system : JournalSystem) :
    system.settle = (.error .eoverflow, { system with client := system.client.emptied }.poison) ∨
      (system.client.nextSequence + 1 ≠ 0 ∧
        system.settle = (.ok (), { system with client := system.client.emptied })) := by
  unfold settle
  by_cases exhausted : system.client.nextSequence + 1 = 0
  · rw [if_pos exhausted]
    exact .inl rfl
  · rw [if_neg exhausted]
    exact .inr ⟨exhausted, rfl⟩

theorem successor_toNat {sequence : UInt64} (fits : sequence + 1 ≠ 0) : (sequence + 1).toNat = sequence.toNat + 1 := by
  have bound := sequence.toNat_lt
  have small : sequence.toNat + 1 ≠ 2 ^ 64 := by
    intro wraps
    apply fits
    rw [← UInt64.toNat_inj, UInt64.toNat_add]
    show (sequence.toNat + 1) % 2 ^ 64 = 0
    rw [wraps, Nat.mod_self]
  rw [UInt64.toNat_add]
  exact Nat.mod_eq_of_lt (by show sequence.toNat + 1 < 2 ^ 64; omega)

theorem Pends.settled (pends : system.Pends pending) (fits : system.client.nextSequence + 1 ≠ 0)
    (events : List JournalEvent) :
    Pends ⟨system.client.emptied, ⟨system.client.nextSequence, events⟩, events,
      system.published ++ [system.client.nextSequence]⟩ [] := by
  refine ⟨.none _, rfl, Nat.zero_le _, Nat.zero_le _, (List.append_nil _).symm, ?_, ?_, ?_⟩
  · simp only [JournalClient.emptied, List.length_append, List.length_singleton]
    rw [successor_toNat fits, pends.next]
  · simp only [List.length_append, List.length_singleton]
    exact pends.next
  · simp only [List.length_append, List.length_singleton, List.range_succ, List.map_append, List.map_cons, List.map_nil]
    rw [← pends.sequences, ← pends.next, UInt64.ofNat_toNat]

theorem Pends.flushed (pends : system.Pends pending) (used : pending ≠ []) {service : JournalService}
    (done : system.service.flush answers system.client.mapping system.client.nextSequence system.client.length
      system.client.recordCount = (.ok (), service)) :
    service = ⟨system.client.nextSequence, system.issued⟩ := by
  unfold JournalService.flush at done
  split at done
  · cases done
  split at done
  · cases done
  split at done
  · cases done
  · rename_i next replayed
    rw [pends.replays used replayed] at done
    rw [pends.order]
    exact (Prod.mk.inj done).2.symm

theorem Pends.flush (pends : system.Pends pending) (alive : system.client.poisoned = false) (answers : JournalAnswers) :
    ((∃ code, (system.flush answers).1 = .error code) ∧ (system.flush answers).2.client.poisoned = true) ∨
      ((system.flush answers).1 = .ok () ∧ (system.flush answers).2.client.poisoned = false ∧
        (system.flush answers).2.Pends [] ∧ (system.flush answers).2.issued = system.issued) := by
  unfold JournalSystem.flush
  dsimp only
  split
  · rename_i empty
    have none := pends.empty_iff.mp empty
    subst none
    exact .inr ⟨rfl, alive, pends, rfl⟩
  rename_i used
  have some : pending ≠ [] := fun none => used (pends.empty_iff.mpr none)
  split
  · exact .inl ⟨⟨_, rfl⟩, rfl⟩
  split
  · exact .inl ⟨⟨_, rfl⟩, rfl⟩
  split
  · exact .inl ⟨⟨_, rfl⟩, rfl⟩
  split
  · exact .inl ⟨⟨_, rfl⟩, rfl⟩
  · rename_i service flushed
    split
    · exact .inl ⟨⟨_, rfl⟩, rfl⟩
    · rw [pends.flushed some flushed]
      rcases settle_cases (system.publish ⟨system.client.nextSequence, system.issued⟩) with exhausted | ⟨fits, settled⟩
      · rw [exhausted]
        exact .inl ⟨⟨_, rfl⟩, rfl⟩
      · rw [settled]
        exact .inr ⟨rfl, alive, pends.settled fits system.issued, rfl⟩

/-- The service has handled what the client has issued, but for the records in the region; each
publication of these is accepted. -/
def Transparent (system : JournalSystem) : Prop :=
  system.client.poisoned = false → ∃ pending, system.Pends pending ∧
    (pending ≠ [] → (validateDescriptorJournalSnapshot system.snapshot system.client.length
      system.client.recordCount).value = .ok ())

theorem transparent_iff : system.Transparent ↔ (system.client.poisoned = false → ∃ pending, system.Pends pending) := by
  constructor
  · intro transparent alive
    obtain ⟨pending, pends, _⟩ := transparent alive
    exact ⟨pending, pends⟩
  · intro keeps alive
    obtain ⟨pending, pends⟩ := keeps alive
    exact ⟨pending, pends, pends.validates⟩

theorem transparent_of_poisoned (poisoned : system.client.poisoned = true) : system.Transparent := by
  intro alive
  rw [poisoned] at alive
  cases alive

theorem Pends.transparent (pends : system.Pends pending) : system.Transparent :=
  transparent_iff.mpr fun _ => ⟨pending, pends⟩

theorem Pends.written (pends : system.Pends pending) {request : DescriptorTemplateUpdateRequest}
    (encodable : request.isEncodable = true) (counted : system.client.recordCount ≠ journalMaxRecords)
    (room : ¬ (journalRecordLength (UInt32.ofNat request.size)).toNat >
      journalRegionBytes - system.client.length.toNat) :
    Pends
      { system with
        client :=
          { system.client with
            mapping := writeJournalRecord system.client.mapping system.client.length request.payload
              (UInt32.ofNat request.size)
            length := system.client.length + journalRecordLength (UInt32.ofNat request.size)
            recordCount := system.client.recordCount + 1 }
        issued := system.issued ++ [.update request.cleared] }
      (pending ++ [request.cleared]) := by
  have region : journalRegionBytes = 16777216 := rfl
  have most : journalMaxRecords.toNat = 65536 := by decide
  have bounded := pends.bounded
  have few := pends.few
  have count := pends.counted
  have fits : system.client.length.toNat + (journalRecordLength (UInt32.ofNat request.size)).toNat ≤
    journalRegionBytes := by
    omega
  have ends : (system.client.length + journalRecordLength (UInt32.ofNat request.size)).toNat =
      system.client.length.toNat + (journalRecordLength (UInt32.ofNat request.size)).toNat := by
    rw [UInt32.toNat_add, Nat.mod_eq_of_lt (by omega)]
  have below : pending.length < 65536 := by
    refine Nat.lt_of_le_of_ne (most ▸ few) fun full => counted ?_
    rw [← UInt32.toNat_inj, count, full, most]
  refine ⟨?_, ?_, ?_, ?_, ?_, pends.next, pends.last, pends.sequences⟩
  · have before : JournalRecords (writeJournalRecord system.client.mapping system.client.length request.payload
        (UInt32.ofNat request.size)) (system.client.length + journalRecordLength (UInt32.ofNat request.size)) 0 pending
        system.client.length :=
      pends.records.congr (by omega) fun index inside => writeJournalRecord_before inside
    exact before.snoc (writeJournalRecord_record encodable fits (by omega))
  · simp only [List.length_append, List.length_singleton]
    rw [UInt32.toNat_add, count]
    exact Nat.mod_eq_of_lt (by show pending.length + 1 < 2 ^ 32; omega)
  · simp only [List.length_append, List.length_singleton]
    omega
  · simp only [ends]
    exact fits
  · simp only [List.map_append, List.map_cons, List.map_nil]
    rw [pends.order, List.append_assoc]

theorem Pends.append (pends : system.Pends pending) (alive : system.client.poisoned = false) (answers : JournalAnswers)
    {request : DescriptorTemplateUpdateRequest} (encodable : request.isEncodable = true) :
    let appended := system.appendDescriptorJournal answers request.payload (UInt32.ofNat request.size)
    ((∃ code, appended.1 = .error code)) ∨
      (appended.1 = .ok () ∧ ∃ written, appended.2.client.poisoned = false ∧
        Pends { appended.2 with issued := appended.2.issued ++ [.update request.cleared] }
          (written ++ [request.cleared])) := by
  obtain ⟨size, rounded, recordSize⟩ := requestRecordLength encodable
  obtain ⟨large, small⟩ := DescriptorTemplateUpdateRequest.size_small encodable
  have region : journalRegionBytes = 16777216 := rfl
  have payload : ¬ (UInt32.ofNat request.size = 0 ∨ UInt32.ofNat request.size > UInt32.ofNat protocolMaxPayload) := by
    have most : (UInt32.ofNat protocolMaxPayload).toNat = 4096 := rfl
    rw [gt_iff_lt, UInt32.lt_iff_toNat_lt, ← UInt32.toNat_inj, size, most]
    show ¬ (request.size = 0 ∨ _)
    omega
  have fits : ¬ (journalRecordLength (UInt32.ofNat request.size)).toNat > journalRegionBytes := by omega
  unfold appendDescriptorJournal
  simp only [if_neg payload, rounded, if_neg fits]
  by_cases full : system.client.recordCount = journalMaxRecords ∨
      (journalRecordLength (UInt32.ofNat request.size)).toNat > journalRegionBytes - system.client.length.toNat
  · simp only [if_pos full]
    rcases pends.flush alive answers with ⟨⟨code, failed⟩, poisoned⟩ | ⟨flushed, alive, empty, issued⟩
    · rw [failed]
      exact .inl ⟨code, rfl⟩
    · rw [flushed]
      have length : (system.flush answers).2.client.length = 0 := empty.empty_iff.mpr rfl
      refine .inr ⟨rfl, [], alive, empty.written encodable ?_ ?_⟩
      · intro most
        have counted := empty.counted
        rw [most] at counted
        cases counted
      · rw [length]
        show ¬ _ > journalRegionBytes - 0
        omega
  · simp only [if_neg full]
    rw [not_or] at full
    exact .inr ⟨trivial, pending, alive, pends.written encodable full.1 full.2⟩

theorem Transparent.update (keeps : system.Transparent) (answers : JournalAnswers)
    (request : DescriptorTemplateUpdateRequest) : (system.update answers request).Transparent := by
  unfold JournalSystem.update
  rcases encoded : encodeDescriptorTemplateUpdateRequest request with code | ⟨payload, length⟩
  · exact transparent_of_poisoned rfl
  · obtain ⟨encodable, written⟩ := (DescriptorTemplateUpdateRequest.encode_eq_ok _ _).mp encoded
    cases written
    by_cases poisoned : system.client.poisoned = true
    · simp only [if_pos poisoned]
      exact keeps
    · simp only [if_neg poisoned]
      have alive := Bool.eq_false_iff.mpr poisoned
      obtain ⟨pending, pends⟩ := transparent_iff.mp keeps alive
      rcases pends.append alive answers encodable with ⟨code, failed⟩ | ⟨appended, before, _, next⟩
      · rw [show system.appendDescriptorJournal answers request.payload (UInt32.ofNat request.size) =
          (.error code, _) from Prod.ext failed rfl]
        exact transparent_of_poisoned rfl
      · rw [show system.appendDescriptorJournal answers request.payload (UInt32.ofNat request.size) =
          (.ok (), _) from Prod.ext appended rfl]
        exact next.transparent

theorem Pends.served (pends : system.Pends []) : system.serve.Pends [] := by
  refine ⟨pends.records, pends.counted, pends.few, pends.bounded, ?_, pends.next, pends.last, pends.sequences⟩
  have order := pends.order
  simp only [List.map_nil, List.append_nil] at order
  simp only [serve, List.map_nil, List.append_nil, order]

theorem Transparent.exchange (keeps : system.Transparent) (answers : JournalAnswers) (sent : Bool) :
    (system.exchange answers sent).Transparent := by
  unfold JournalSystem.exchange
  by_cases poisoned : system.client.poisoned = true
  · rw [if_pos poisoned]
    exact keeps
  · rw [if_neg poisoned]
    have alive := Bool.eq_false_iff.mpr poisoned
    obtain ⟨pending, pends⟩ := transparent_iff.mp keeps alive
    rcases pends.flush alive answers with ⟨⟨code, failed⟩, poisoned⟩ | ⟨flushed, _, empty, _⟩
    · rw [show system.flush answers = (.error code, (system.flush answers).2) from Prod.ext failed rfl]
      exact transparent_of_poisoned poisoned
    · rw [show system.flush answers = (.ok (), (system.flush answers).2) from Prod.ext flushed rfl]
      dsimp only
      split
      · exact empty.served.transparent
      · exact empty.transparent

theorem Transparent.flush (keeps : system.Transparent) (answers : JournalAnswers)
    (alive : system.client.poisoned = false) : (system.flush answers).2.Transparent := by
  obtain ⟨pending, pends⟩ := transparent_iff.mp keeps alive
  rcases pends.flush alive answers with ⟨_, poisoned⟩ | ⟨_, _, empty, _⟩
  · exact transparent_of_poisoned poisoned
  · exact empty.transparent

theorem Transparent.unmapMemoryMirror (keeps : system.Transparent) (empty : system.client.length = 0)
    (sent answered : Bool) : (system.unmapMemoryMirror sent answered).Transparent := by
  unfold JournalSystem.unmapMemoryMirror
  by_cases poisoned : system.client.poisoned = true
  · rw [if_pos poisoned]
    exact keeps
  · rw [if_neg poisoned]
    obtain ⟨pending, pends⟩ := transparent_iff.mp keeps (Bool.eq_false_iff.mpr poisoned)
    have none := pends.empty_iff.mp empty
    subst none
    split
    · exact transparent_of_poisoned rfl
    split
    · exact transparent_of_poisoned rfl
    · exact pends.served.transparent

theorem Pends.transacted (pends : system.Pends pending) {allocated : Except Errno Unit} {service : JournalService}
    (done : system.service.transaction answers allocated system.client.mapping system.client.nextSequence
      system.client.length system.client.recordCount = (.ok (), service)) :
    service = ⟨system.client.nextSequence, system.issued ++ [.served]⟩ := by
  unfold JournalService.transaction at done
  split at done
  · cases done
  split at done
  · cases done
  split at done
  · cases done
  · rename_i next replayed
    have handled : next.handled = system.issued := by
      by_cases empty : system.client.length = 0
      · rw [if_pos empty] at replayed
        rw [← (Prod.mk.inj replayed).2, pends.order, pends.empty_iff.mp empty, List.map_nil, List.append_nil]
      · rw [if_neg empty] at replayed
        rw [pends.replays (fun none => empty (pends.empty_iff.mpr none)) replayed, pends.order]
    cases allocated with
    | error code => cases done
    | ok =>
        rw [← handled]
        exact (Prod.mk.inj done).2.symm

theorem Pends.callTransaction (pends : system.Pends pending) (answers : JournalAnswers)
    (allocated : Except Errno Unit) : (system.callTransaction answers allocated).Transparent := by
  unfold JournalSystem.callTransaction
  dsimp only
  split
  · exact transparent_of_poisoned rfl
  split
  · exact transparent_of_poisoned rfl
  · rename_i service transacted
    split
    · exact transparent_of_poisoned rfl
    · rw [pends.transacted transacted]
      rcases settle_cases (system.publish ⟨system.client.nextSequence, system.issued ++ [.served]⟩) with
        exhausted | ⟨fits, settled⟩
      · rw [exhausted]
        exact transparent_of_poisoned rfl
      · rw [settled]
        exact (pends.settled fits (system.issued ++ [.served])).transparent

theorem Transparent.allocate (keeps : system.Transparent) (answers : JournalAnswers) (ready : Bool)
    (lease : Except Errno Bool) (allocated : Except Errno Unit) :
    (system.allocate answers ready lease allocated).Transparent := by
  unfold JournalSystem.allocate
  by_cases poisoned : system.client.poisoned = true
  · rw [if_pos poisoned]
    exact keeps
  rw [if_neg poisoned]
  obtain ⟨pending, pends⟩ := transparent_iff.mp keeps (Bool.eq_false_iff.mpr poisoned)
  split
  · exact transparent_of_poisoned rfl
  split
  · split
    · exact transparent_of_poisoned rfl
    · exact pends.transparent
    · exact pends.callTransaction answers allocated
  · exact pends.callTransaction answers allocated

end JournalSystem

/-- What the client does between two updates. `flush` is an explicit one. -/
inductive JournalCall where
  | update (answers : JournalAnswers) (request : DescriptorTemplateUpdateRequest)
  | flush (answers : JournalAnswers)
  | exchange (answers : JournalAnswers) (sent : Bool)
  | unmapMemoryMirror (sent answered : Bool)
  | allocate (answers : JournalAnswers) (ready : Bool) (lease : Except Errno Bool) (allocated : Except Errno Unit)

namespace JournalSystem

variable {system : JournalSystem}

def step (system : JournalSystem) : JournalCall → JournalSystem
  | .update answers request => system.update answers request
  | .flush answers => if system.client.poisoned then system else (system.flush answers).2
  | .exchange answers sent => system.exchange answers sent
  | .unmapMemoryMirror sent answered => system.unmapMemoryMirror sent answered
  | .allocate answers ready lease allocated => system.allocate answers ready lease allocated

/-- A connection whose journal is set up. -/
def fresh (mapping : Buffer) : JournalSystem := ⟨⟨mapping, 0, 0, 1, false⟩, ⟨0, []⟩, [], []⟩

/-- An unmap of a memory mirror finds nothing pending. -/
def UnmapsEmpty (system : JournalSystem) : JournalCall → Prop
  | .unmapMemoryMirror _ _ => system.client.length = 0
  | _ => True

instance (system : JournalSystem) : (call : JournalCall) → Decidable (system.UnmapsEmpty call)
  | .unmapMemoryMirror _ _ => inferInstanceAs (Decidable (_ = _))
  | .update _ _ | .flush _ | .exchange _ _ | .allocate _ _ _ _ => .isTrue trivial

theorem fresh_transparent (mapping : Buffer) : (fresh mapping).Transparent :=
  Pends.transparent ⟨.none _, rfl, Nat.zero_le _, Nat.zero_le _, rfl, rfl, rfl, rfl⟩

theorem Transparent.step (keeps : system.Transparent) (call : JournalCall) (unmaps : system.UnmapsEmpty call) :
    (system.step call).Transparent := by
  cases call with
  | update answers request => exact keeps.update answers request
  | flush answers =>
      simp only [JournalSystem.step]
      by_cases poisoned : system.client.poisoned = true
      · rw [if_pos poisoned]
        exact keeps
      · rw [if_neg poisoned]
        exact keeps.flush answers (Bool.eq_false_iff.mpr poisoned)
  | exchange answers sent => exact keeps.exchange answers sent
  | unmapMemoryMirror sent answered => exact keeps.unmapMemoryMirror unmaps sent answered
  | allocate answers ready lease allocated => exact keeps.allocate answers ready lease allocated

end JournalSystem

open JournalSystem in
/-- In a run whose unmaps of memory mirrors find the journal empty, the service handles what the
client issues in the client's order, and each publication that is pending would be accepted. -/
theorem journal_transparent (mapping : Buffer) (calls : List JournalCall)
    (unmaps : Runs.EveryStep step UnmapsEmpty (fresh mapping) calls) :
    Runs.EveryState step Transparent (fresh mapping) calls :=
  Runs.everyState_of_everyStep (fun _ call keeps empty => keeps.step call empty) calls (fresh mapping)
    (fresh_transparent mapping) unmaps

/-- Everything reaches the service, and its updates succeed. -/
def goodAnswers : JournalAnswers := ⟨true, true, fun _ _ => .ok (), true⟩

/-- Two updates and an exchange, an update with an allocation, and an unmap behind them. -/
def journalRun : List JournalCall :=
  [.update goodAnswers oneBufferUpdate, .update goodAnswers oneBufferUpdate, .exchange goodAnswers true,
    .update goodAnswers oneBufferUpdate, .allocate goodAnswers true (.ok false) (.ok ()), .unmapMemoryMirror true true]

open JournalSystem in
theorem journalRun_transparent : Runs.EveryState step Transparent (fresh zeroed) journalRun :=
  journal_transparent zeroed journalRun (by decide +kernel)

open JournalSystem in
/-- An unmap that finds an update in the journal is answered before it. -/
theorem unmap_overtakes_update :
    ¬ Runs.EveryState step Transparent (fresh zeroed)
      [.update goodAnswers oneBufferUpdate, .unmapMemoryMirror true true] := by
  intro every
  obtain ⟨pending, pends, _⟩ := every.2.2 (by decide +kernel)
  have order : [JournalEvent.update oneBufferUpdate.cleared, .served] =
      [JournalEvent.served] ++ pending.map JournalEvent.update := pends.order
  cases order

end VulkanBridge
