import VulkanBridge.DescriptorFormats
import VulkanBridge.WatchedReads

/-!
The snapshot of a descriptor journal: the validation that walks its records, and the
replay that walks them again and makes their updates.
-/

namespace VulkanBridge

open ByteBuffer
open Watched (add sub refuseIf word32 reading Safe)

def journalRegionBytes : Nat := 16 * 1024 * 1024
def journalMaxRecords : UInt32 := 64 * 1024

/-- `descriptor_journal_record_length` -/
def journalRecordLength (payloadLength : UInt32) : UInt32 :=
  if payloadLength > 0xffffffff - 8 - 7 then 0 else (8 + payloadLength + 7) &&& ~~~7

def watchedRecordLength (payloadLength : UInt32) : Watched Errno UInt32 :=
  if payloadLength > 0xffffffff - 8 - 7 then pure 0
  else do
    let unaligned ← add 8 payloadLength
    let rounded ← add unaligned 7
    return rounded &&& ~~~7

def templateUpdateReads (input : Buffer) (inputLength : Nat) : List (Nat × Nat) :=
  if inputLength < 32 then []
  else if getU32 input 28 ≠ 0 then [(28, 4)]
  else if getU32 input 24 == 0 || getU32 input 24 > 64 || inputLength != 32 + (getU32 input 24).toNat * 40 then
    [(28, 4), (0, 8), (8, 8), (16, 8), (24, 4)]
  else
    [(28, 4), (0, 8), (8, 8), (16, 8), (24, 4)] ++
      (List.range (getU32 input 24).toNat).map (fun index => (32 + index * 40, 40)) ++ [(0, inputLength)]

def journalPayload (snapshot : Buffer) (offset payloadLength : UInt32) : Buffer :=
  window snapshot (offset.toNat + 8) payloadLength.toNat

def journalPayloadReads (snapshot : Buffer) (offset payloadLength : UInt32) : List (Nat × Nat) :=
  (templateUpdateReads (journalPayload snapshot offset payloadLength) payloadLength.toNat).map fun read =>
    (offset.toNat + 8 + read.1, read.2)

def decodeJournalRecord (snapshot : Buffer) (offset payloadLength : UInt32) :
    Except Errno DescriptorTemplateUpdateRequest :=
  decodeDescriptorTemplateUpdateRequest (journalPayload snapshot offset payloadLength) payloadLength.toNat

def blankBetween (snapshot : Buffer) (first last : UInt32) : Except Errno Unit :=
  if (List.range (last.toNat - first.toNat)).all fun index => snapshot (first.toNat + index) == 0 then .ok ()
  else .error .eproto

/-- The body of the loop of `validate_descriptor_journal_snapshot`: the offset behind the
record. -/
def validateJournalRecord (snapshot : Buffer) (length offset : UInt32) : Watched Errno UInt32 :=
  if offset > length then reading [] (.error .eproto)
  else do
    let left ← sub length offset
    refuseIf (8 > left) .eproto
    let payloadLength ← word32 snapshot offset.toNat
    let reserved ← word32 snapshot (offset.toNat + 4)
    let recordLength ← watchedRecordLength payloadLength
    refuseIf (reserved ≠ 0 ∨ payloadLength = 0 ∨ payloadLength > UInt32.ofNat protocolMaxPayload ∨ recordLength = 0 ∨
      recordLength > left) .eproto
    let _ ← reading (journalPayloadReads snapshot offset payloadLength)
      (decodeJournalRecord snapshot offset payloadLength)
    let payloadStart ← add offset 8
    let payloadEnd ← add payloadStart payloadLength
    let next ← add offset recordLength
    reading [(payloadEnd.toNat, next.toNat - payloadEnd.toNat)] (blankBetween snapshot payloadEnd next)
    return next

def validateJournalRecords (snapshot : Buffer) (length : UInt32) : Nat → UInt32 → Watched Errno UInt32
  | 0, offset => pure offset
  | remaining + 1, offset => do
      let next ← validateJournalRecord snapshot length offset
      validateJournalRecords snapshot length remaining next

/-- `validate_descriptor_journal_snapshot` -/
def validateDescriptorJournalSnapshot (snapshot : Buffer) (length recordCount : UInt32) : Watched Errno Unit := do
  refuseIf (length = 0 ∨ recordCount = 0 ∨ recordCount > journalMaxRecords) .einval
  let offset ← validateJournalRecords snapshot length recordCount.toNat 0
  refuseIf (offset ≠ length) .eproto

inductive ReplayStop where
  | finished
  | undecoded (code : Errno)
  | updateFailed (code : Errno)
  | leftover
  deriving DecidableEq, Repr

def ReplayStop.reply : ReplayStop → Except Errno Unit
  | finished => .ok ()
  | undecoded code => .error code
  | updateFailed code => .error code
  | leftover => .error .eproto

/-- What a replay did: the updates it made, where it stood at the end, and what it read. -/
structure JournalReplay where
  stop : ReplayStop
  updates : List DescriptorTemplateUpdateRequest
  offset : UInt32
  reads : List (Nat × Nat)

/-- The loop of the replay from a record on. `update` is the answer of the update
function, given the number of the record. -/
def replayJournalRecords (update : Nat → DescriptorTemplateUpdateRequest → Except Errno Unit) (snapshot : Buffer)
    (length : UInt32) : Nat → Nat → UInt32 → JournalReplay
  | 0, _, offset => ⟨if offset = length then .finished else .leftover, [], offset, []⟩
  | remaining + 1, index, offset =>
      let payloadLength := getU32 snapshot offset.toNat
      let reads := (offset.toNat, 4) :: journalPayloadReads snapshot offset payloadLength
      match decodeJournalRecord snapshot offset payloadLength with
      | .error code => ⟨.undecoded code, [], offset, reads⟩
      | .ok request =>
          match update index request with
          | .error code => ⟨.updateFailed code, [request], offset, reads⟩
          | .ok _ =>
              let rest := replayJournalRecords update snapshot length remaining (index + 1)
                (offset + journalRecordLength payloadLength)
              { rest with updates := request :: rest.updates, reads := reads ++ rest.reads }

/-- `replay_descriptor_journal_snapshot` -/
def replayDescriptorJournalSnapshot (update : Nat → DescriptorTemplateUpdateRequest → Except Errno Unit)
    (snapshot : Buffer) (length recordCount : UInt32) : JournalReplay :=
  replayJournalRecords update snapshot length recordCount.toNat 0 0

theorem protocolMaxPayload_toNat : (UInt32.ofNat protocolMaxPayload).toNat = 4096 := by decide

theorem and_not_seven_toNat (value : UInt32) : (value &&& ~~~7).toNat = value.toNat / 2 ^ 3 * 2 ^ 3 := by
  have mask : (~~~(7 : UInt32)).toNat = (2 ^ 29 - 1) <<< 3 := by decide
  have bound := value.toNat_lt
  rw [UInt32.toNat_and, mask, ← Nat.shiftRight_eq_div_pow, ← Nat.shiftLeft_eq]
  apply Nat.eq_of_testBit_eq
  intro index
  rw [Nat.testBit_and, Nat.testBit_shiftLeft, Nat.testBit_two_pow_sub_one, Nat.testBit_shiftLeft,
    Nat.testBit_shiftRight]
  by_cases low : 3 ≤ index
  · by_cases high : index < 32
    · simp [low, show index - 3 < 29 by omega, Nat.add_sub_cancel' low]
    · have wide : value.toNat < 2 ^ index := Nat.lt_of_lt_of_le bound (Nat.pow_le_pow_right (by omega) (by omega))
      simp [low, Nat.testBit_lt_two_pow wide, Nat.add_sub_cancel' low]
  · simp [low]

theorem journalRecordLength_toNat {payloadLength : UInt32} (small : payloadLength.toNat ≤ 4096) :
    (journalRecordLength payloadLength).toNat = (8 + payloadLength.toNat + 7) / 2 ^ 3 * 2 ^ 3 := by
  have fits : ¬ payloadLength > 0xffffffff - 8 - 7 := by
    have bound : (0xffffffff - 8 - 7 : UInt32).toNat = 4294967280 := by decide
    rw [gt_iff_lt, UInt32.lt_iff_toNat_lt, bound]
    omega
  have eight : (8 : UInt32).toNat = 8 := rfl
  have seven : (7 : UInt32).toNat = 7 := rfl
  have sum : (8 + payloadLength + 7).toNat = 8 + payloadLength.toNat + 7 := by
    rw [UInt32.toNat_add, UInt32.toNat_add, eight, seven]
    omega
  rw [journalRecordLength, if_neg fits, and_not_seven_toNat, sum]

theorem watchedRecordLength_eq_ok {payloadLength recordLength : UInt32} :
    (watchedRecordLength payloadLength).value = .ok recordLength ↔
      journalRecordLength payloadLength = recordLength := by
  unfold watchedRecordLength journalRecordLength
  split
  · exact Watched.pure_eq_ok
  · simp [Watched.bind_eq_ok]

theorem watchedRecordLength_safe (limit : Nat) (payloadLength : UInt32) :
    Safe limit (watchedRecordLength payloadLength) := by
  unfold watchedRecordLength
  split
  · exact .pure _
  · rename_i small
    have bound : (0xffffffff - 8 - 7 : UInt32).toNat = 4294967280 := by decide
    rw [gt_iff_lt, UInt32.lt_iff_toNat_lt, bound] at small
    have eight : (8 : UInt32).toNat = 8 := rfl
    have first : (8 : UInt32).toNat + payloadLength.toNat < 2 ^ 32 := by omega
    refine .bind (.add first) fun unaligned same => .bind (.add ?_) fun rounded _ => .pure _
    rw [Watched.add_eq_ok] at same
    subst same
    rw [UInt32.toNat_add, Nat.mod_eq_of_lt first]
    have seven : (7 : UInt32).toNat = 7 := rfl
    omega

/-- A record of the snapshot that ends at `next`: what the validation wants of it. -/
structure JournalRecord (snapshot : Buffer) (length offset : UInt32) (request : DescriptorTemplateUpdateRequest)
    (next : UInt32) : Prop where
  header : offset.toNat + 8 ≤ length.toNat
  reserved : getU32 snapshot (offset.toNat + 4) = 0
  used : getU32 snapshot offset.toNat ≠ 0
  small : (getU32 snapshot offset.toNat).toNat ≤ 4096
  decoded : decodeJournalRecord snapshot offset (getU32 snapshot offset.toNat) = .ok request
  blank : ∀ index, offset.toNat + 8 + (getU32 snapshot offset.toNat).toNat ≤ index → index < next.toNat →
    snapshot index = 0
  ends : next.toNat = offset.toNat + (journalRecordLength (getU32 snapshot offset.toNat)).toNat
  inside : next.toNat ≤ length.toNat

theorem blankBetween_eq_ok {snapshot : Buffer} {first last : UInt32} {result : Unit} :
    blankBetween snapshot first last = .ok result ↔
      ∀ index, first.toNat ≤ index → index < last.toNat → snapshot index = 0 := by
  unfold blankBetween
  rw [CheckedLoops.accepted_eq_ok, List.all_eq_true]
  constructor
  · rintro ⟨each, _⟩ index lower upper
    have zero := each (index - first.toNat) (List.mem_range.mpr (by omega))
    rw [Nat.add_sub_cancel' lower] at zero
    exact beq_iff_eq.mp zero
  · intro blank
    refine ⟨?_, rfl⟩
    intro index bound
    have inside := List.mem_range.mp bound
    exact beq_iff_eq.mpr (blank _ (Nat.le_add_right _ _) (by omega))

variable {snapshot : Buffer} {length offset next : UInt32} {request : DescriptorTemplateUpdateRequest}

theorem validateJournalRecord_eq_ok : (validateJournalRecord snapshot length offset).value = .ok next ↔
    ∃ request, JournalRecord snapshot length offset request next := by
  unfold validateJournalRecord
  by_cases past : offset > length
  · rw [if_pos past]
    constructor
    · intro impossible
      cases impossible
    · rintro ⟨request, record⟩
      have header := record.header
      rw [gt_iff_lt, UInt32.lt_iff_toNat_lt] at past
      omega
  · rw [if_neg past]
    rw [gt_iff_lt, UInt32.lt_iff_toNat_lt, Nat.not_lt] at past
    have left : (length - offset).toNat = length.toNat - offset.toNat :=
      UInt32.toNat_sub_of_le _ _ (UInt32.le_iff_toNat_le.mpr past)
    have eight : (8 : UInt32).toNat = 8 := rfl
    simp only [Watched.bind_eq_ok, Watched.sub_eq_ok, Watched.refuseIf_eq_ok, Watched.word32_eq_ok,
      watchedRecordLength_eq_ok, Watched.add_eq_ok, Watched.pure_eq_ok, exists_eq_left', not_or, ne_eq,
      Decidable.not_not]
    constructor
    · rintro ⟨⟨⟩, header, ⟨⟩, ⟨reserved, used, small, _, fits⟩, request, decoded, ⟨⟩, blank, rfl⟩
      rw [gt_iff_lt, UInt32.lt_iff_toNat_lt, Nat.not_lt, left] at header fits
      rw [gt_iff_lt, UInt32.lt_iff_toNat_lt, Nat.not_lt, protocolMaxPayload_toNat] at small
      have size := journalRecordLength_toNat small
      have bound := length.toNat_lt
      have ends : (offset + journalRecordLength (getU32 snapshot offset.toNat)).toNat =
          offset.toNat + (journalRecordLength (getU32 snapshot offset.toNat)).toNat := by
        rw [UInt32.toNat_add, Nat.mod_eq_of_lt (by omega)]
      have payloadEnd : (offset + 8 + getU32 snapshot offset.toNat).toNat =
          offset.toNat + 8 + (getU32 snapshot offset.toNat).toNat := by
        rw [UInt32.toNat_add, UInt32.toNat_add, eight, Nat.mod_eq_of_lt (by omega), Nat.mod_eq_of_lt (by omega)]
      have zeros := blankBetween_eq_ok.mp blank
      rw [payloadEnd] at zeros
      exact ⟨request, by omega, reserved, used, small, decoded, zeros, ends, by omega⟩
    · rintro ⟨request, record⟩
      have header := record.header
      have inside := record.inside
      have ends := record.ends
      have small := record.small
      have size := journalRecordLength_toNat small
      have bound := length.toNat_lt
      have same : offset + journalRecordLength (getU32 snapshot offset.toNat) = next := by
        rw [← UInt32.toNat_inj, UInt32.toNat_add, Nat.mod_eq_of_lt (by omega), ends]
      have payloadEnd : (offset + 8 + getU32 snapshot offset.toNat).toNat =
          offset.toNat + 8 + (getU32 snapshot offset.toNat).toNat := by
        rw [UInt32.toNat_add, UInt32.toNat_add, eight, Nat.mod_eq_of_lt (by omega), Nat.mod_eq_of_lt (by omega)]
      refine ⟨(), ?_, (), ⟨record.reserved, record.used, ?_, ?_, ?_⟩, request, record.decoded, (), ?_, same⟩
      · rw [gt_iff_lt, UInt32.lt_iff_toNat_lt, left]
        omega
      · rw [gt_iff_lt, UInt32.lt_iff_toNat_lt, protocolMaxPayload_toNat]
        omega
      · rw [← UInt32.toNat_inj, size]
        show _ ≠ 0
        omega
      · rw [gt_iff_lt, UInt32.lt_iff_toNat_lt, left]
        omega
      · rw [same]
        refine blankBetween_eq_ok.mpr ?_
        rw [payloadEnd]
        exact record.blank

theorem templateUpdateReads_inside {input : Buffer} {inputLength : Nat} :
    ∀ read ∈ templateUpdateReads input inputLength, read.1 + read.2 ≤ inputLength := by
  unfold templateUpdateReads
  split
  · intro read member
    cases member
  rename_i long
  split
  · intro read member
    obtain rfl := List.mem_singleton.mp member
    omega
  split
  · intro read member
    simp only [List.mem_cons, List.not_mem_nil, or_false] at member
    rcases member with rfl | rfl | rfl | rfl | rfl
    all_goals
      dsimp only
      omega
  · rename_i framed
    simp only [Bool.or_eq_true, bne_iff_ne, not_or, ne_eq, Decidable.not_not] at framed
    intro read member
    simp only [List.mem_append, List.mem_cons, List.not_mem_nil, or_false, List.mem_map, List.mem_range] at member
    rcases member with ((rfl | rfl | rfl | rfl | rfl) | ⟨index, bound, rfl⟩) | rfl
    all_goals
      dsimp only
      omega

theorem journalPayloadReads_inside {payloadLength : UInt32} {limit : Nat}
    (inside : offset.toNat + 8 + payloadLength.toNat ≤ limit) :
    ∀ read ∈ journalPayloadReads snapshot offset payloadLength, read.1 + read.2 ≤ limit := by
  intro read member
  obtain ⟨part, isPart, rfl⟩ := List.mem_map.mp member
  have within := templateUpdateReads_inside part isPart
  dsimp only
  omega

theorem validateJournalRecord_safe (snapshot : Buffer) (length offset : UInt32) :
    Safe length.toNat (validateJournalRecord snapshot length offset) := by
  unfold validateJournalRecord
  by_cases past : offset > length
  · rw [if_pos past]
    exact .reading fun read member => absurd member List.not_mem_nil
  rw [if_neg past]
  have ordered : offset ≤ length := UInt32.not_lt.mp past
  have before := UInt32.le_iff_toNat_le.mp ordered
  have bound := length.toNat_lt
  have difference : (length - offset).toNat = length.toNat - offset.toNat := UInt32.toNat_sub_of_le _ _ ordered
  have eight : (8 : UInt32).toNat = 8 := rfl
  refine .bind (.sub ordered) fun left isLeft => .bind .refuseIf fun _ header => ?_
  rw [Watched.sub_eq_ok] at isLeft
  subst isLeft
  rw [Watched.refuseIf_eq_ok, gt_iff_lt, UInt32.lt_iff_toNat_lt, Nat.not_lt, difference, eight] at header
  refine .bind (.word32 (by omega)) fun payloadLength _ => .bind (.word32 (by omega)) fun reserved _ =>
    .bind (watchedRecordLength_safe _ _) fun recordLength isLength => .bind .refuseIf fun _ fits => ?_
  rw [watchedRecordLength_eq_ok] at isLength
  subst isLength
  simp only [Watched.refuseIf_eq_ok, not_or, gt_iff_lt, UInt32.lt_iff_toNat_lt, Nat.not_lt, difference,
    protocolMaxPayload_toNat] at fits
  obtain ⟨_, _, small, _, fits⟩ := fits
  have size := journalRecordLength_toNat small
  have start : (offset + 8).toNat = offset.toNat + 8 := by
    rw [UInt32.toNat_add, eight, Nat.mod_eq_of_lt (by omega)]
  have payloadEnd : (offset + 8 + payloadLength).toNat = offset.toNat + 8 + payloadLength.toNat := by
    rw [UInt32.toNat_add, start, Nat.mod_eq_of_lt (by omega)]
  have ends : (offset + journalRecordLength payloadLength).toNat =
      offset.toNat + (journalRecordLength payloadLength).toNat := by
    rw [UInt32.toNat_add, Nat.mod_eq_of_lt (by omega)]
  refine .bind (.reading (journalPayloadReads_inside (by omega))) fun _ _ =>
    .bind (.add (by omega)) fun payloadStart isStart => ?_
  rw [Watched.add_eq_ok] at isStart
  subst isStart
  refine .bind (.add (by omega)) fun last isLast => .bind (.add (by omega)) fun next isNext => ?_
  rw [Watched.add_eq_ok] at isLast isNext
  subst isLast isNext
  refine .bind (.reading ?_) fun _ _ => .pure _
  intro read member
  obtain rfl := List.mem_singleton.mp member
  dsimp only
  omega

theorem validateJournalRecords_safe (snapshot : Buffer) (length : UInt32) : ∀ (remaining : Nat) (offset : UInt32),
    Safe length.toNat (validateJournalRecords snapshot length remaining offset) := by
  intro remaining
  induction remaining with
  | zero => intro offset; exact .pure _
  | succ remaining ih =>
      intro offset
      exact .bind (validateJournalRecord_safe snapshot length offset) fun next _ => ih next

/-- Validation reads inside the snapshot and wraps nowhere, whatever the snapshot holds. -/
theorem validateDescriptorJournalSnapshot_safe (snapshot : Buffer) (length recordCount : UInt32) :
    Safe length.toNat (validateDescriptorJournalSnapshot snapshot length recordCount) :=
  .bind .refuseIf fun _ _ => .bind (validateJournalRecords_safe snapshot length _ _) fun _ _ => .refuseIf

/-- Records behind each other, from one offset to another. -/
inductive JournalRecords (snapshot : Buffer) (length : UInt32) :
    UInt32 → List DescriptorTemplateUpdateRequest → UInt32 → Prop where
  | none (offset : UInt32) : JournalRecords snapshot length offset [] offset
  | cons {offset next last : UInt32} {request : DescriptorTemplateUpdateRequest}
      {requests : List DescriptorTemplateUpdateRequest} (record : JournalRecord snapshot length offset request next)
      (rest : JournalRecords snapshot length next requests last) :
      JournalRecords snapshot length offset (request :: requests) last

variable {last : UInt32} {requests : List DescriptorTemplateUpdateRequest}

theorem validateJournalRecords_eq_ok : ∀ {remaining : Nat} {offset : UInt32},
    (validateJournalRecords snapshot length remaining offset).value = .ok last ↔
      ∃ requests, requests.length = remaining ∧ JournalRecords snapshot length offset requests last := by
  intro remaining
  induction remaining with
  | zero =>
      intro offset
      constructor
      · intro same
        obtain rfl := Watched.pure_eq_ok.mp same
        exact ⟨[], rfl, .none _⟩
      · rintro ⟨requests, empty, records⟩
        obtain rfl := List.length_eq_zero_iff.mp empty
        cases records
        rfl
  | succ remaining ih =>
      intro offset
      simp only [validateJournalRecords, Watched.bind_eq_ok, validateJournalRecord_eq_ok, ih]
      constructor
      · rintro ⟨next, ⟨request, record⟩, requests, counted, records⟩
        exact ⟨request :: requests, congrArg (· + 1) counted, .cons record records⟩
      · rintro ⟨requests, counted, records⟩
        cases records with
        | none => cases counted
        | cons record rest => exact ⟨_, ⟨_, record⟩, _, Nat.succ.inj counted, rest⟩

theorem validateDescriptorJournalSnapshot_eq_ok {recordCount : UInt32} {result : Unit} :
    (validateDescriptorJournalSnapshot snapshot length recordCount).value = .ok result ↔
      (length ≠ 0 ∧ recordCount ≠ 0 ∧ ¬ recordCount > journalMaxRecords) ∧
        ∃ requests, requests.length = recordCount.toNat ∧ JournalRecords snapshot length 0 requests length := by
  unfold validateDescriptorJournalSnapshot
  simp only [Watched.bind_eq_ok, Watched.refuseIf_eq_ok, validateJournalRecords_eq_ok, not_or]
  constructor
  · rintro ⟨_, limits, offset, ⟨requests, counted, records⟩, same⟩
    obtain rfl := not_not.mp same
    exact ⟨limits, requests, counted, records⟩
  · rintro ⟨limits, requests, counted, records⟩
    exact ⟨(), limits, length, ⟨requests, counted, records⟩, not_not.mpr rfl⟩

end VulkanBridge
