import VulkanBridge.Transport
import VulkanBridge.Runs
import Mathlib.Data.List.TakeDrop

/-!
The transport carries packets: what is received is what was sent, in order and
byte for byte, and a descriptor that arrives is returned or closed.
-/

namespace VulkanBridge

open ByteBuffer

/-! ## Descriptors -/

/-- Every installed descriptor is among the received ones or was closed, and a call that
ends without a packet keeps none. -/
structure ReceiveCall.Accounted (call : ReceiveCall) : Prop where
  balanced : ∀ descriptor, call.delivered.count descriptor =
    call.received.count descriptor + call.closed.count descriptor
  fits : call.received.length ≤ call.capacity
  returned : ∀ result, call.phase = .done result →
    call.received = [] ∨ (∃ header payload, result = .packet header payload) ∧ call.plain = false

namespace ReceiveCall

variable {call : ReceiveCall}

theorem fail_accounted {result : ReceiveResult}
    (balanced : ∀ descriptor, call.delivered.count descriptor =
      call.received.count descriptor + call.closed.count descriptor) : (call.fail result).Accounted := by
  constructor
  · intro descriptor
    have kept := balanced descriptor
    simp only [fail, List.count_append, List.count_nil]
    omega
  · exact Nat.zero_le _
  · intro _ _
    exact Or.inl rfl

theorem Accounted.moving {next : ReceiveCall} (accounted : call.Accounted) (received : next.received = call.received)
    (closed : next.closed = call.closed) (delivered : next.delivered = call.delivered)
    (capacity : next.capacity = call.capacity) (moving : ∀ result, next.phase ≠ .done result) : next.Accounted := by
  constructor
  · rw [received, closed, delivered]
    exact accounted.balanced
  · rw [received, capacity]
    exact accounted.fits
  · intro result isDone
    exact absurd isDone (moving result)

theorem succeed_accounted (accounted : call.Accounted) (header : ProtocolHeader) (payload : List UInt8) :
    (call.succeed header payload).Accounted := by
  unfold succeed
  split
  · exact fail_accounted accounted.balanced
  · rename_i admitted
    constructor
    · exact accounted.balanced
    · exact accounted.fits
    · intro result isDone
      cases isDone
      cases plain : call.plain with
      | false => exact Or.inr ⟨⟨header, payload, rfl⟩, rfl⟩
      | true =>
          rw [plain] at admitted
          refine Or.inl ?_
          simpa using admitted

theorem receivePayload_accounted (accounted : call.Accounted) (header : ProtocolHeader) (bytes : List UInt8) :
    (call.receivePayload header bytes).Accounted := by
  unfold receivePayload
  split
  · exact accounted.moving rfl rfl rfl rfl nofun
  · exact succeed_accounted accounted header bytes

theorem receiveHeader_accounted (accounted : call.Accounted) (bytes : List UInt8) :
    (call.receiveHeader bytes).Accounted := by
  unfold receiveHeader
  split
  · exact accounted.moving rfl rfl rfl rfl nofun
  · split
    · exact fail_accounted accounted.balanced
    · exact receivePayload_accounted accounted _ []

theorem take_balanced (capacity : Nat) (messages : List ControlMessage) : ∀ ancillary : Ancillary,
    ancillary.received.length ≤ capacity →
      (messages.foldl (Ancillary.take capacity) ancillary).received.length ≤ capacity ∧
        ∀ descriptor, (messages.foldl (Ancillary.take capacity) ancillary).received.count descriptor +
            (messages.foldl (Ancillary.take capacity) ancillary).closed.count descriptor =
          ancillary.received.count descriptor + ancillary.closed.count descriptor +
            (messages.flatMap ControlMessage.delivered).count descriptor := by
  induction messages with
  | nil =>
      intro ancillary fits
      exact ⟨fits, fun _ => rfl⟩
  | cons message rest ih =>
      intro ancillary fits
      rw [List.foldl_cons, List.flatMap_cons]
      cases message with
      | other =>
          obtain ⟨bound, balanced⟩ := ih (ancillary.take capacity .other) fits
          refine ⟨bound, fun descriptor => ?_⟩
          rw [balanced]
          rfl
      | rights descriptors trailing =>
          by_cases refused : (trailing || decide (descriptors.length > capacity - ancillary.received.length)) = true
          · have taken : ancillary.take capacity (.rights descriptors trailing) =
                { ancillary with closed := ancillary.closed ++ descriptors, invalid := true } := if_pos refused
            rw [taken]
            obtain ⟨bound, balanced⟩ := ih { ancillary with closed := ancillary.closed ++ descriptors, invalid := true }
              fits
            refine ⟨bound, fun descriptor => ?_⟩
            rw [balanced]
            simp only [ControlMessage.delivered, List.count_append]
            omega
          · have taken : ancillary.take capacity (.rights descriptors trailing) =
                { ancillary with received := ancillary.received ++ descriptors } := if_neg refused
            rw [taken]
            have room : descriptors.length ≤ capacity - ancillary.received.length := by
              simp only [Bool.or_eq_true, decide_eq_true_eq, not_or] at refused
              exact Nat.le_of_not_lt refused.2
            have grown : (ancillary.received ++ descriptors).length ≤ capacity := by
              rw [List.length_append]
              omega
            obtain ⟨bound, balanced⟩ := ih { ancillary with received := ancillary.received ++ descriptors } grown
            refine ⟨bound, fun descriptor => ?_⟩
            rw [balanced]
            simp only [ControlMessage.delivered, List.count_append]
            omega

theorem receiveMessage_accounted (accounted : call.Accounted) (stands : call.phase = .message) (bytes : List UInt8)
    (truncated : Bool) (messages : List ControlMessage) : (call.receiveMessage bytes truncated messages).Accounted := by
  obtain ⟨bound, balanced⟩ := take_balanced call.capacity messages ⟨call.received, call.closed, truncated⟩
    accounted.fits
  unfold receiveMessage
  dsimp only
  generalize messages.foldl (Ancillary.take call.capacity) ⟨call.received, call.closed, truncated⟩ = ancillary
    at bound balanced ⊢
  have taken : Accounted { call with
      received := ancillary.received
      closed := ancillary.closed
      delivered := call.delivered ++ messages.flatMap ControlMessage.delivered } := by
    constructor
    · intro descriptor
      have before := accounted.balanced descriptor
      have after := balanced descriptor
      dsimp only at after ⊢
      rw [List.count_append]
      omega
    · exact bound
    · intro result isDone
      dsimp only at isDone
      rw [stands] at isDone
      cases isDone
  split
  · exact fail_accounted taken.balanced
  · split
    · exact fail_accounted taken.balanced
    · exact receiveHeader_accounted taken bytes

theorem step_accounted (accounted : call.Accounted) (answer : ReceiveAnswer)
    (fresh : call.phase = .message → call.received = []) : (call.step answer).Accounted := by
  unfold step
  split
  · exact accounted
  · exact accounted
  · rename_i stands
    refine ⟨accounted.balanced, accounted.fits, ?_⟩
    intro result _
    exact Or.inl (fresh stands)
  · rename_i stands
    refine ⟨accounted.balanced, accounted.fits, ?_⟩
    intro result _
    exact Or.inl (fresh stands)
  · rename_i stands
    exact receiveMessage_accounted accounted stands _ _ _
  · exact fail_accounted accounted.balanced
  · exact fail_accounted accounted.balanced
  · exact receiveHeader_accounted accounted _
  · exact fail_accounted accounted.balanced
  · exact fail_accounted accounted.balanced
  · exact receivePayload_accounted accounted _ _

/-- Before `recvmsg` nothing was received. -/
def Fresh (call : ReceiveCall) : Prop := call.phase = .message → call.received = []

theorem Fresh.of_moved {next : ReceiveCall} (moved : next.phase ≠ .message) : next.Fresh :=
  fun stands => absurd stands moved

theorem receivePayload_moved (call : ReceiveCall) (header : ProtocolHeader) (bytes : List UInt8) :
    (call.receivePayload header bytes).phase ≠ .message := by
  unfold receivePayload succeed
  split
  · exact nofun
  · split <;> exact nofun

theorem receiveHeader_moved (call : ReceiveCall) (bytes : List UInt8) :
    (call.receiveHeader bytes).phase ≠ .message := by
  unfold receiveHeader
  split
  · exact nofun
  · split
    · exact nofun
    · exact receivePayload_moved _ _ _

theorem step_fresh (fresh : call.Fresh) (answer : ReceiveAnswer) : (call.step answer).Fresh := by
  unfold step
  split
  · exact fresh
  · exact fresh
  · exact .of_moved nofun
  · exact .of_moved nofun
  · unfold receiveMessage
    dsimp only
    split
    · exact .of_moved nofun
    · split
      · exact .of_moved nofun
      · exact .of_moved (receiveHeader_moved _ _)
  · exact .of_moved nofun
  · exact .of_moved nofun
  · exact .of_moved (receiveHeader_moved _ _)
  · exact .of_moved nofun
  · exact .of_moved nofun
  · exact .of_moved (receivePayload_moved _ _ _)

theorem start_accounted (slots : Option Nat) : (start slots).Accounted ∧ (start slots).Fresh := by
  cases slots with
  | none => exact ⟨⟨fun _ => rfl, Nat.zero_le _, fun _ _ => Or.inl rfl⟩, fun _ => rfl⟩
  | some capacity => exact ⟨⟨fun _ => rfl, Nat.zero_le _, fun _ _ => Or.inl rfl⟩, fun _ => rfl⟩

theorem call_accounted (slots : Option Nat) (answers : List ReceiveAnswer) :
    Runs.EveryState step Accounted (start slots) answers := by
  have states : Runs.EveryState step (fun call => call.Accounted ∧ call.Fresh) (start slots) answers := by
    apply Runs.everyState_of_step
    · rintro call answer ⟨accounted, fresh⟩
      exact ⟨step_accounted accounted answer fresh, step_fresh fresh answer⟩
    · exact start_accounted slots
  exact states.imp fun call both => both.1

end ReceiveCall

/-! ## Packets -/

theorem headerIsValid_of_encode {header : ProtocolHeader} {wire : Buffer} (encoded : encodeHeader header = .ok wire) :
    headerIsValid header = .ok () := by
  unfold encodeHeader at encoded
  split at encoded
  · cases encoded
  · assumption

theorem decodeHeader_encode {header : ProtocolHeader} {wire : Buffer} (encoded : encodeHeader header = .ok wire) :
    decodeHeader wire = .ok header := by
  have valid := headerIsValid_of_encode encoded
  unfold encodeHeader at encoded
  rw [valid] at encoded
  cases encoded
  unfold decodeHeader
  simp [valid]

theorem decodeHeader_reads : ReadsWithin decodeHeader 0 protocolHeaderSize := by
  intro left right same
  have words32 : ∀ offset, offset + 4 ≤ protocolHeaderSize → getU32 left offset = getU32 right offset := by
    intro offset inside
    exact getU32_reads offset left right (fun index lower upper => same index (by omega) (by omega))
  have words16 : ∀ offset, offset + 2 ≤ protocolHeaderSize → getU16 left offset = getU16 right offset := by
    intro offset inside
    exact getU16_reads offset left right (fun index lower upper => same index (by omega) (by omega))
  unfold decodeHeader
  rw [words32 0 (by decide), words32 12 (by decide), words32 16 (by decide), words32 20 (by decide),
    words16 4 (by decide), words16 6 (by decide), words16 8 (by decide), words16 10 (by decide)]

namespace PacketStream

theorem attach_length (descriptors : List Nat) (bytes : List UInt8) :
    (attach descriptors bytes).length = bytes.length := by
  cases bytes with
  | nil => rfl
  | cons byte rest => simp [attach]

theorem attach_bytes (descriptors : List Nat) (bytes : List UInt8) :
    (attach descriptors bytes).map StreamByte.byte = bytes := by
  cases bytes with
  | nil => rfl
  | cons byte rest => simp [attach, Function.comp_def]

theorem attach_none (bytes : List UInt8) : attach [] bytes = bytes.map fun byte => ⟨byte, []⟩ := by
  cases bytes with
  | nil => rfl
  | cons byte rest => rfl

theorem attach_split (descriptors : List Nat) (bytes : List UInt8) {count : Nat}
    (some : 0 < count ∨ descriptors = []) :
    attach descriptors (bytes.take count) ++ attach [] (bytes.drop count) = attach descriptors bytes := by
  cases bytes with
  | nil => simp [attach]
  | cons byte rest =>
      cases count with
      | zero =>
          rcases some with positive | none
          · cases positive
          · rw [none]
            rfl
      | succ count =>
          rw [List.take_succ_cons, List.drop_succ_cons, attach_none]
          simp only [attach, List.cons_append, ← List.map_append, List.take_append_drop]

theorem messages_plain (bytes : List UInt8) : messages (bytes.map fun byte => ⟨byte, []⟩) = [] := by
  induction bytes with
  | nil => rfl
  | cons byte rest ih => simp [messages]

theorem messages_attach (descriptors : List Nat) {bytes : List UInt8} {count : Nat} (positive : 0 < count)
    (some : bytes ≠ []) : messages ((attach descriptors bytes).take count) =
      if descriptors.isEmpty then [] else [.rights descriptors false] := by
  cases bytes with
  | nil => exact absurd rfl some
  | cons byte rest =>
      cases count with
      | zero => cases positive
      | succ count =>
          have later : messages ((rest.map fun byte => (⟨byte, []⟩ : StreamByte)).take count) = [] := by
            rw [← List.map_take]
            exact messages_plain _
          rw [attach, List.take_succ_cons]
          unfold messages at later ⊢
          rw [List.filterMap_cons, later]
          split <;> simp_all

end PacketStream

open PacketStream

namespace Outgoing

variable {packet : Outgoing}

/-- The bytes of the payload. -/
def bytes (packet : Outgoing) : List UInt8 := (List.range packet.header.payloadLength.toNat).map packet.payload

def incoming (packet : Outgoing) : Incoming := ⟨packet.header, packet.bytes, packet.descriptors⟩

def stream (packet : Outgoing) : List StreamByte :=
  match encodeHeader packet.header with
  | .error _ => []
  | .ok header => attach packet.descriptors (packet.wire header)

def Sendable (packet : Outgoing) : Prop := ∃ header, encodeHeader packet.header = .ok header

theorem wire_length (packet : Outgoing) (header : Buffer) :
    (packet.wire header).length = protocolHeaderSize + packet.header.payloadLength.toNat := by
  simp [wire]

theorem bytes_length (packet : Outgoing) : packet.bytes.length = packet.header.payloadLength.toNat := by
  simp [bytes]

theorem stream_eq {header : Buffer} (encoded : encodeHeader packet.header = .ok header) :
    packet.stream = attach packet.descriptors (packet.wire header) := by
  unfold stream
  rw [encoded]

theorem stream_length (sendable : packet.Sendable) :
    packet.stream.length = protocolHeaderSize + packet.header.payloadLength.toNat := by
  obtain ⟨header, encoded⟩ := sendable
  rw [stream_eq encoded, attach_length, wire_length]

theorem stream_header (sendable : packet.Sendable) :
    decodeHeader (bufferOf ((packet.stream.take protocolHeaderSize).map StreamByte.byte)) = .ok packet.header := by
  obtain ⟨header, encoded⟩ := sendable
  rw [stream_eq encoded, List.map_take, attach_bytes, ← decodeHeader_encode encoded]
  apply decodeHeader_reads
  intro index _ inside
  have inHeader : ((packet.wire header).take protocolHeaderSize) = (List.range protocolHeaderSize).map header := by
    rw [wire, List.take_left' (by simp)]
  rw [inHeader]
  simp [bufferOf, inside]

theorem stream_payload (sendable : packet.Sendable) :
    (packet.stream.drop protocolHeaderSize).map StreamByte.byte = packet.bytes := by
  obtain ⟨header, encoded⟩ := sendable
  rw [stream_eq encoded, List.map_drop, attach_bytes, wire, List.drop_left' (by simp)]
  rfl

theorem stream_part (sendable : packet.Sendable) (count : Nat) :
    ((packet.stream.take (protocolHeaderSize + count)).drop protocolHeaderSize).map StreamByte.byte =
      packet.bytes.take count := by
  rw [List.drop_take, Nat.add_sub_cancel_left, List.map_take, stream_payload sendable]

theorem stream_messages (sendable : packet.Sendable) {count : Nat} (positive : 0 < count) :
    messages (packet.stream.take count) =
      if packet.descriptors.isEmpty then [] else [.rights packet.descriptors false] := by
  obtain ⟨header, encoded⟩ := sendable
  rw [stream_eq encoded]
  refine messages_attach _ positive ?_
  intro empty
  have length := packet.wire_length header
  rw [empty] at length
  simp only [List.length_nil, protocolHeaderSize] at length
  omega

end Outgoing

theorem consume {α : Type} {whole others consumed queue rest : List α} {past count : Nat}
    (length : consumed.length = past) (same : consumed ++ queue ++ rest = whole ++ others)
    (available : count ≤ queue.length) (inside : past + count ≤ whole.length) :
    consumed ++ queue.take count = whole.take (past + count) := by
  have left : (consumed ++ queue ++ rest).take (past + count) = consumed ++ queue.take count := by
    rw [List.append_assoc, ← length, List.take_length_add_append, List.take_append_of_le_length available]
  have right : (whole ++ others).take (past + count) = whole.take (past + count) :=
    List.take_append_of_le_length inside
  rw [← left, same, right]

def SendPhase.unsent : SendPhase → List StreamByte
  | message wire descriptors => attach descriptors wire
  | exact rest => attach [] rest
  | done _ => []

def SendPhase.Busy : SendPhase → Prop
  | message wire _ => wire ≠ []
  | exact rest => rest ≠ []
  | done failure => failure = none

/-- The call can take the descriptors of the packet. -/
def ReceiveCall.Admits (call : ReceiveCall) (packet : Outgoing) : Prop :=
  packet.descriptors.length ≤ call.capacity ∧ (call.plain = true → packet.descriptors = [])

/-- The call can take no packet at all. -/
def ReceiveCall.Unusable (call : ReceiveCall) : Prop := call.capacity = 0 ∨ call.capacity > transportMaxFds

def ReceiveCall.At (call : ReceiveCall) (consumed : List StreamByte) (pending : List Outgoing) : Prop :=
  match call.phase with
  | .message => consumed = [] ∧ call.received = []
  | .header bytes => ∃ packet rest, pending = packet :: rest ∧ call.received = packet.descriptors ∧
      0 < bytes.length ∧ bytes.length < protocolHeaderSize ∧ consumed = packet.stream.take bytes.length ∧
      bytes = consumed.map StreamByte.byte
  | .payload header bytes => ∃ packet rest, pending = packet :: rest ∧ call.received = packet.descriptors ∧
      header = packet.header ∧ bytes.length < header.payloadLength.toNat ∧
      consumed = packet.stream.take (protocolHeaderSize + bytes.length) ∧ bytes = packet.bytes.take bytes.length
  | .done result => (∃ code, result = .failed code) ∧ (consumed = [] ∧ call.Unusable ∨
      ∃ packet rest, pending = packet :: rest ∧ consumed <+: packet.stream ∧ ¬ call.Admits packet)

def ReceiveCall.Returns (call : ReceiveCall) (consumed : List StreamByte) (pending : List Outgoing) : Prop :=
  ∃ packet rest, pending = packet :: rest ∧ consumed = packet.stream ∧
    PacketStream.returned call = some packet.incoming

namespace ReceiveCall

variable {call : ReceiveCall} {packet : Outgoing} {rest : List Outgoing}

theorem fail_at {result : ReceiveResult} {consumed : List StreamByte} (failed : ∃ code, result = .failed code)
    (read : consumed <+: packet.stream) (refused : ¬ call.Admits packet) :
    (call.fail result).At consumed (packet :: rest) :=
  ⟨failed, Or.inr ⟨packet, rest, rfl, read, refused⟩⟩

theorem receivePayload_at (sendable : packet.Sendable) (received : call.received = packet.descriptors) {count : Nat}
    (inside : count ≤ packet.bytes.length) :
    (call.receivePayload packet.header (packet.bytes.take count)).At
        (packet.stream.take (protocolHeaderSize + count)) (packet :: rest) ∨
      (call.receivePayload packet.header (packet.bytes.take count)).Returns
        (packet.stream.take (protocolHeaderSize + count)) (packet :: rest) := by
  have length : (packet.bytes.take count).length = count := by
    rw [List.length_take]
    omega
  have size := packet.bytes_length
  unfold receivePayload
  split
  · rename_i less
    refine Or.inl ⟨packet, rest, rfl, received, rfl, less, ?_, ?_⟩
    · rw [length]
    · rw [length]
  · rename_i whole
    have all : count = packet.bytes.length := by omega
    have read : packet.stream.take (protocolHeaderSize + count) = packet.stream := by
      apply List.take_of_length_le
      rw [Outgoing.stream_length sendable]
      omega
    rw [read]
    unfold succeed
    split
    · rename_i unexpected
      refine Or.inl (fail_at ⟨_, rfl⟩ (List.prefix_refl _) ?_)
      rintro ⟨-, none⟩
      simp only [Bool.and_eq_true, Bool.not_eq_true', List.isEmpty_eq_false_iff] at unexpected
      exact unexpected.2 (received.trans (none unexpected.1))
    · refine Or.inr ⟨packet, rest, rfl, rfl, ?_⟩
      simp only [PacketStream.returned, received, all, List.take_length]
      rfl

theorem receiveHeader_at (sendable : packet.Sendable) (received : call.received = packet.descriptors) {count : Nat}
    (positive : 0 < count) (inside : count ≤ protocolHeaderSize) :
    (call.receiveHeader ((packet.stream.take count).map StreamByte.byte)).At (packet.stream.take count)
        (packet :: rest) ∨
      (call.receiveHeader ((packet.stream.take count).map StreamByte.byte)).Returns (packet.stream.take count)
        (packet :: rest) := by
  have length : ((packet.stream.take count).map StreamByte.byte).length = count := by
    rw [List.length_map, List.length_take, Outgoing.stream_length sendable]
    omega
  unfold receiveHeader
  split
  · rename_i less
    refine Or.inl ⟨packet, rest, rfl, received, ?_, less, ?_, rfl⟩
    · rw [length]
      exact positive
    · rw [length]
  · rename_i whole
    have all : count = protocolHeaderSize := by omega
    subst all
    rw [Outgoing.stream_header sendable]
    exact receivePayload_at sendable received (Nat.zero_le _)

theorem receiveMessage_at (sendable : packet.Sendable) (nothing : call.received = []) {count : Nat}
    (positive : 0 < count) (inside : count ≤ protocolHeaderSize) :
    (call.receiveMessage ((packet.stream.take count).map StreamByte.byte) false
        (messages (packet.stream.take count))).At (packet.stream.take count) (packet :: rest) ∨
      (call.receiveMessage ((packet.stream.take count).map StreamByte.byte) false
        (messages (packet.stream.take count))).Returns (packet.stream.take count) (packet :: rest) := by
  have length : ((packet.stream.take count).map StreamByte.byte).length ≤ protocolHeaderSize := by
    rw [List.length_map, List.length_take]
    omega
  rw [Outgoing.stream_messages sendable positive]
  unfold receiveMessage
  by_cases none : packet.descriptors.isEmpty = true
  · rw [if_pos none]
    dsimp only [List.foldl_nil]
    rw [if_neg (by simp), if_neg (by omega)]
    refine receiveHeader_at sendable ?_ positive inside
    dsimp only
    rw [nothing, List.isEmpty_iff.mp none]
  · rw [if_neg none]
    dsimp only [List.foldl_cons, List.foldl_nil, Ancillary.take]
    rw [nothing]
    by_cases fits : packet.descriptors.length ≤ call.capacity
    · have room : ¬ (false || decide (packet.descriptors.length > call.capacity - ([] : List Nat).length)) = true := by
        simp
        omega
      rw [if_neg room]
      dsimp only
      rw [if_neg (by simp), if_neg (by omega)]
      exact receiveHeader_at sendable rfl positive inside
    · have noRoom : (false || decide (packet.descriptors.length > call.capacity - ([] : List Nat).length)) = true := by
        simp
        omega
      rw [if_pos noRoom]
      dsimp only
      rw [if_pos rfl]
      refine Or.inl (fail_at ⟨_, rfl⟩ (List.take_prefix _ _) ?_)
      rintro ⟨admitted, -⟩
      exact fits admitted

end ReceiveCall

/-- How the packets of a run stand: those that were received, those that are on their way,
and the bytes of the first of these that a call has read. -/
structure PacketStream.Carries (stream : PacketStream) (consumed : List StreamByte) (pending : List Outgoing) :
    Prop where
  sendable : ∀ packet ∈ pending, packet.Sendable
  sent : ∃ past, stream.sent = past ++ pending ∧ stream.incoming = past.map Outgoing.incoming
  bytes : consumed ++ stream.queue ++ stream.sending.unsent = pending.flatMap Outgoing.stream
  idle : stream.receiving = none → consumed = []
  working : ∀ call, stream.receiving = some call → call.At consumed pending
  sending : stream.sending.Busy

namespace PacketStream

variable {stream : PacketStream} {consumed : List StreamByte} {pending : List Outgoing}

theorem initial_carries : initial.Carries [] [] := by
  constructor
  · intro packet member
    cases member
  · exact ⟨[], rfl, rfl⟩
  · rfl
  · intro _
    rfl
  · intro call none
    cases none
  · rfl

theorem sendExact_unsent (rest : List UInt8) : (SendPhase.sendExact rest).unsent = attach [] rest := by
  unfold SendPhase.sendExact
  split
  · rename_i empty
    rw [List.isEmpty_iff.mp empty]
    rfl
  · rfl

theorem sendExact_busy (rest : List UInt8) : (SendPhase.sendExact rest).Busy := by
  unfold SendPhase.sendExact
  split
  · rfl
  · rename_i some
    intro empty
    exact some (List.isEmpty_iff.mpr empty)

theorem send_phase {packet : Outgoing} {usable : Bool} {phase : SendPhase}
    (begins : (if packet.descriptors.isEmpty then SendPhase.send packet else .sendFds packet usable) = phase)
    (accepted : ∀ code, phase ≠ .done (some code)) :
    packet.Sendable ∧ phase.unsent = packet.stream ∧ phase.Busy := by
  split at begins
  · rename_i none
    unfold SendPhase.send at begins
    split at begins
    · exact absurd begins.symm (accepted _)
    · rename_i header encoded
      rw [← begins]
      refine ⟨⟨header, encoded⟩, ?_, sendExact_busy _⟩
      rw [sendExact_unsent, Outgoing.stream_eq encoded, List.isEmpty_iff.mp none]
  · unfold SendPhase.sendFds at begins
    split at begins
    · exact absurd begins.symm (accepted _)
    split at begins
    · exact absurd begins.symm (accepted _)
    split at begins
    · exact absurd begins.symm (accepted _)
    · rename_i header encoded
      rw [← begins]
      refine ⟨⟨header, encoded⟩, (Outgoing.stream_eq encoded).symm, ?_⟩
      intro empty
      have length := packet.wire_length header
      rw [empty] at length
      simp only [List.length_nil, protocolHeaderSize] at length
      omega

end PacketStream

theorem ReceiveCall.At.later {call : ReceiveCall} {consumed : List StreamByte} {pending : List Outgoing}
    (works : call.At consumed pending) (packet : Outgoing) : call.At consumed (pending ++ [packet]) := by
  unfold ReceiveCall.At at works ⊢
  split at works
  · exact works
  · obtain ⟨first, rest, rfl, others⟩ := works
    exact ⟨first, rest ++ [packet], rfl, others⟩
  · obtain ⟨first, rest, rfl, others⟩ := works
    exact ⟨first, rest ++ [packet], rfl, others⟩
  · obtain ⟨failed, unusable | ⟨first, rest, rfl, others⟩⟩ := works
    · exact ⟨failed, Or.inl unusable⟩
    · exact ⟨failed, Or.inr ⟨first, rest ++ [packet], rfl, others⟩⟩

namespace PacketStream

variable {stream : PacketStream} {consumed : List StreamByte} {pending : List Outgoing}

theorem send_carries (carried : stream.Carries consumed pending) (packet : Outgoing) (usable : Bool) :
    ∃ pending, (stream.send packet usable).Carries consumed pending := by
  unfold send
  split
  · rename_i idle
    dsimp only
    split
    · exact ⟨pending, carried⟩
    · rename_i accepted
      obtain ⟨sendable, unsent, busy⟩ := send_phase rfl (fun code failed => accepted code failed)
      refine ⟨pending ++ [packet], ?_, ?_, ?_, carried.idle, ?_, busy⟩
      · intro other member
        rcases List.mem_append.mp member with before | last
        · exact carried.sendable other before
        · rw [List.mem_singleton.mp last]
          exact sendable
      · obtain ⟨past, sent, incoming⟩ := carried.sent
        refine ⟨past, ?_, incoming⟩
        rw [sent, List.append_assoc]
      · have bytes := carried.bytes
        rw [idle] at bytes
        simp only [SendPhase.unsent, List.append_nil] at bytes
        rw [unsent, bytes, List.flatMap_append]
        simp
      · intro call works
        exact (carried.working call works).later packet
  · exact ⟨pending, carried⟩

theorem wrote_unsent {wire : List UInt8} (some : wire ≠ []) (descriptors : List Nat) (count : Nat) :
    attach descriptors (wire.take (moved count wire.length)) ++
        ((SendPhase.message wire descriptors).step (.wrote (moved count wire.length))).unsent =
      attach descriptors wire ∧
    ((SendPhase.message wire descriptors).step (.wrote (moved count wire.length))).Busy := by
  have positive : 0 < wire.length := List.length_pos_iff.mpr some
  have least : 0 < moved count wire.length := by
    unfold moved
    omega
  have most : moved count wire.length ≤ wire.length := Nat.min_le_right _ _
  simp only [SendPhase.step]
  rw [if_neg (by omega)]
  by_cases part : moved count wire.length < wire.length
  · rw [if_pos part, sendExact_unsent]
    exact ⟨attach_split descriptors wire (Or.inl least), sendExact_busy _⟩
  · have all : moved count wire.length = wire.length := by omega
    rw [if_neg part, if_pos all, all, List.take_length]
    exact ⟨List.append_nil _, rfl⟩

theorem wroteExact_unsent {rest : List UInt8} (some : rest ≠ []) (count : Nat) :
    attach [] (rest.take (moved count rest.length)) ++
        ((SendPhase.exact rest).step (.wrote (moved count rest.length))).unsent = attach [] rest ∧
    ((SendPhase.exact rest).step (.wrote (moved count rest.length))).Busy := by
  have positive : 0 < rest.length := List.length_pos_iff.mpr some
  have least : moved count rest.length ≠ 0 := by
    unfold moved
    omega
  simp only [SendPhase.step]
  rw [if_neg least, sendExact_unsent]
  exact ⟨attach_split [] rest (Or.inr rfl), sendExact_busy _⟩

theorem write_carries (carried : stream.Carries consumed pending) (transfer : Transfer) :
    (stream.write transfer).Carries consumed pending := by
  have bytes := carried.bytes
  have busy := carried.sending
  unfold write
  split
  · exact carried
  · rename_i running
    refine ⟨carried.sendable, carried.sent, ?_, carried.idle, carried.working, ?_⟩
    · cases phase : stream.sending <;> simp_all [SendPhase.step]
    · cases phase : stream.sending <;> simp_all [SendPhase.step]
  · rename_i wire descriptors count phase
    rw [phase] at bytes busy
    obtain ⟨unsent, later⟩ := wrote_unsent busy descriptors count
    refine ⟨carried.sendable, carried.sent, ?_, carried.idle, carried.working, later⟩
    dsimp only
    rw [← bytes, ← List.append_assoc consumed, List.append_assoc (consumed ++ stream.queue), unsent]
    rfl
  · rename_i rest count phase
    rw [phase] at bytes busy
    obtain ⟨unsent, later⟩ := wroteExact_unsent busy count
    refine ⟨carried.sendable, carried.sent, ?_, carried.idle, carried.working, later⟩
    dsimp only
    rw [← bytes, ← List.append_assoc consumed, List.append_assoc (consumed ++ stream.queue), unsent]
    rfl

theorem start_at (slots : Option Nat) (pending : List Outgoing) : (ReceiveCall.start slots).At [] pending := by
  cases slots with
  | none => exact ⟨rfl, rfl⟩
  | some capacity =>
      unfold ReceiveCall.start ReceiveCall.fds ReceiveCall.At
      by_cases unusable : capacity = 0 ∨ capacity > transportMaxFds
      · simp only [if_pos unusable]
        exact ⟨⟨_, rfl⟩, Or.inl ⟨trivial, unusable⟩⟩
      · simp only [if_neg unusable]
        exact ⟨trivial, trivial⟩

theorem receive_carries (carried : stream.Carries consumed pending) (slots : Option Nat) :
    (stream.step (.receive slots)).Carries consumed pending := by
  simp only [step]
  split
  · rename_i idle
    have nothing := carried.idle (Option.isNone_iff_eq_none.mp idle)
    refine ⟨carried.sendable, carried.sent, carried.bytes, fun _ => nothing, ?_, carried.sending⟩
    intro call fresh
    rw [← Option.some.inj fresh, nothing]
    exact start_at slots pending
  · exact carried

theorem returned_none {call : ReceiveCall} (works : call.At consumed pending) : returned call = none := by
  unfold ReceiveCall.At at works
  unfold returned
  split
  · rename_i header payload phase
    rw [phase] at works
    obtain ⟨⟨code, failed⟩, -⟩ := works
    cases failed
  · rfl

theorem settle_carries {call : ReceiveCall} (sendable : ∀ packet ∈ pending, packet.Sendable)
    (sent : ∃ past, stream.sent = past ++ pending ∧ stream.incoming = past.map Outgoing.incoming)
    (bytes : consumed ++ stream.queue ++ stream.sending.unsent = pending.flatMap Outgoing.stream)
    (busy : stream.sending.Busy) (now : call.At consumed pending ∨ call.Returns consumed pending) :
    ∃ consumed pending, (stream.settle call).Carries consumed pending := by
  unfold settle
  rcases now with works | ⟨packet, rest, rfl, rfl, packetReturned⟩
  · rw [returned_none works]
    refine ⟨consumed, pending, sendable, sent, bytes, ?_, ?_, busy⟩
    · intro none
      cases none
    · intro other same
      rw [← Option.some.inj same]
      exact works
  · rw [packetReturned]
    obtain ⟨past, all, incoming⟩ := sent
    refine ⟨[], rest, ?_, ⟨past ++ [packet], ?_, ?_⟩, ?_, fun _ => rfl, ?_, busy⟩
    · intro other member
      exact sendable other (List.mem_cons_of_mem _ member)
    · rw [all, List.append_assoc]
      rfl
    · dsimp only
      rw [incoming, List.map_append]
      rfl
    · rw [List.flatMap_cons, List.append_assoc] at bytes
      exact List.append_cancel_left bytes
    · intro other none
      cases none

theorem pending_first (carried : stream.Carries consumed pending) (some : stream.queue ≠ []) :
    ∃ packet rest, pending = packet :: rest ∧ packet.Sendable := by
  cases pending with
  | nil =>
      have bytes := carried.bytes
      simp only [List.flatMap_nil, List.append_eq_nil_iff] at bytes
      exact absurd bytes.1.2 some
  | cons packet rest => exact ⟨packet, rest, rfl, carried.sendable packet (List.mem_cons_self ..)⟩

theorem received_at {call : ReceiveCall} (carried : stream.Carries consumed pending)
    (works : call.At consumed pending) {taken : Nat} (positive : 0 < taken) (asked : taken ≤ call.requested)
    (available : taken ≤ stream.queue.length) :
    (call.step (.received ((stream.queue.take taken).map StreamByte.byte) false
        (messages (stream.queue.take taken)))).At (consumed ++ stream.queue.take taken) pending ∨
      (call.step (.received ((stream.queue.take taken).map StreamByte.byte) false
        (messages (stream.queue.take taken)))).Returns (consumed ++ stream.queue.take taken) pending := by
  have some : stream.queue ≠ [] := by
    intro empty
    rw [empty, List.length_nil] at available
    omega
  obtain ⟨packet, rest, rfl, sendable⟩ := pending_first carried some
  have length := Outgoing.stream_length sendable
  have bytes := carried.bytes
  rw [List.flatMap_cons] at bytes
  unfold ReceiveCall.At at works
  unfold ReceiveCall.requested at asked
  cases phase : call.phase with
  | message =>
      rw [phase] at works asked
      dsimp only at works asked
      obtain ⟨rfl, nothing⟩ := works
      have read := consume List.length_nil bytes available (by omega)
      rw [List.nil_append, Nat.zero_add] at read
      rw [List.nil_append, read]
      simp only [ReceiveCall.step, phase]
      exact ReceiveCall.receiveMessage_at sendable nothing positive asked
  | header before =>
      rw [phase] at works asked
      dsimp only at works asked
      obtain ⟨first, others, same, received, least, most, consumedBytes, beforeBytes⟩ := works
      obtain ⟨rfl, rfl⟩ := List.cons.inj same
      have past : consumed.length = before.length := by rw [beforeBytes, List.length_map]
      have read := consume past bytes available (by omega)
      have next : before ++ (stream.queue.take taken).map StreamByte.byte =
          (packet.stream.take (before.length + taken)).map StreamByte.byte := by
        rw [← read, List.map_append, ← beforeBytes]
      simp only [ReceiveCall.step, phase]
      rw [next, read]
      exact ReceiveCall.receiveHeader_at sendable received (by omega) (by omega)
  | payload header before =>
      rw [phase] at works asked
      dsimp only at works asked
      obtain ⟨first, others, same, received, rfl, less, consumedBytes, beforeBytes⟩ := works
      obtain ⟨rfl, rfl⟩ := List.cons.inj same
      have size := packet.bytes_length
      have past : consumed.length = protocolHeaderSize + before.length := by
        rw [consumedBytes, List.length_take]
        omega
      have read := consume past bytes available (by omega)
      have next : before ++ (stream.queue.take taken).map StreamByte.byte =
          packet.bytes.take (before.length + taken) := by
        have whole := congrArg (fun read => (read.drop protocolHeaderSize).map StreamByte.byte) read
        rw [List.drop_append_of_le_length (by omega), List.map_append, Nat.add_assoc,
          Outgoing.stream_part sendable] at whole
        rw [← whole, consumedBytes, Outgoing.stream_part sendable, ← beforeBytes]
      simp only [ReceiveCall.step, phase]
      rw [next, read, Nat.add_assoc]
      exact ReceiveCall.receivePayload_at sendable received (by omega)
  | done result =>
      rw [phase] at asked
      dsimp only at asked
      omega

theorem read_carries (carried : stream.Carries consumed pending) (transfer : Transfer) :
    ∃ consumed pending, (stream.read transfer).Carries consumed pending := by
  unfold read
  split
  · exact ⟨consumed, pending, carried⟩
  · rename_i call running
    have same : call.step .interrupted = call := by
      unfold ReceiveCall.step
      split <;> first | rfl | contradiction
    rw [same]
    exact settle_carries carried.sendable carried.sent carried.bytes carried.sending
      (Or.inl (carried.working call running))
  · rename_i call count running
    dsimp only
    split
    · exact ⟨consumed, pending, carried⟩
    · rename_i some
      have asked : moved count (min call.requested stream.queue.length) ≤ min call.requested stream.queue.length :=
        Nat.min_le_right _ _
      have now := received_at carried (carried.working call running) (Nat.pos_of_ne_zero some) (by omega) (by omega)
      refine settle_carries carried.sendable carried.sent ?_ carried.sending now
      dsimp only
      rw [List.append_assoc consumed, List.take_append_drop]
      exact carried.bytes

theorem step_carries (carried : stream.Carries consumed pending) (input : StreamInput) :
    ∃ consumed pending, (stream.step input).Carries consumed pending := by
  cases input with
  | send packet usable => exact ⟨consumed, send_carries carried packet usable⟩
  | write transfer => exact ⟨consumed, pending, write_carries carried transfer⟩
  | receive slots => exact ⟨consumed, pending, receive_carries carried slots⟩
  | read transfer => exact read_carries carried transfer

def awaited (stream : PacketStream) : List Outgoing := stream.sent.drop stream.incoming.length

/-- The received packets are the first of the sent ones, nothing of the others is lost, and
no call reads beyond the packet that it works on. -/
structure Faithful (stream : PacketStream) : Prop where
  inOrder : stream.incoming = (stream.sent.take stream.incoming.length).map Outgoing.incoming
  onTheWay : ∃ consumed, consumed ++ stream.queue ++ stream.sending.unsent = stream.awaited.flatMap Outgoing.stream ∧
    (stream.receiving = none → consumed = []) ∧
    (consumed = [] ∨ ∃ packet rest, stream.awaited = packet :: rest ∧ consumed <+: packet.stream)
  complete : stream.queue = [] → stream.sending.unsent = [] → stream.receiving = none →
    stream.incoming = stream.sent.map Outgoing.incoming
  asks : ∀ call, stream.receiving = some call → (∀ result, call.phase ≠ .done result) → 0 < call.requested
  refuses : ∀ call result, stream.receiving = some call → call.phase = .done result →
    (∃ code, result = .failed code) ∧
      (call.Unusable ∨ ∃ packet rest, stream.awaited = packet :: rest ∧ ¬ call.Admits packet)
  sends : ∀ code, stream.sending ≠ .done (some code)

theorem at_prefix {call : ReceiveCall} (works : call.At consumed pending) :
    consumed = [] ∨ ∃ packet rest, pending = packet :: rest ∧ consumed <+: packet.stream := by
  unfold ReceiveCall.At at works
  split at works
  · exact Or.inl works.1
  · obtain ⟨packet, rest, same, -, -, -, read, -⟩ := works
    exact Or.inr ⟨packet, rest, same, read ▸ List.take_prefix _ _⟩
  · obtain ⟨packet, rest, same, -, -, -, read, -⟩ := works
    exact Or.inr ⟨packet, rest, same, read ▸ List.take_prefix _ _⟩
  · obtain ⟨-, unusable | ⟨packet, rest, same, read, -⟩⟩ := works
    · exact Or.inl unusable.1
    · exact Or.inr ⟨packet, rest, same, read⟩

theorem at_asks {call : ReceiveCall} (works : call.At consumed pending)
    (running : ∀ result, call.phase ≠ .done result) : 0 < call.requested := by
  unfold ReceiveCall.At at works
  unfold ReceiveCall.requested
  split
  · decide
  · rename_i bytes phase
    rw [phase] at works
    obtain ⟨_, _, _, _, _, less, _⟩ := works
    omega
  · rename_i header bytes phase
    rw [phase] at works
    obtain ⟨_, _, _, _, _, less, _⟩ := works
    omega
  · rename_i result phase
    exact absurd phase (running result)

theorem pending_nil (sendable : ∀ packet ∈ pending, packet.Sendable) (nothing : pending.flatMap Outgoing.stream = []) :
    pending = [] := by
  cases pending with
  | nil => rfl
  | cons packet rest =>
      have length := Outgoing.stream_length (sendable packet (List.mem_cons_self ..))
      rw [List.flatMap_cons, List.append_eq_nil_iff] at nothing
      rw [nothing.1] at length
      simp only [List.length_nil, protocolHeaderSize] at length
      omega

theorem Carries.faithful (carried : stream.Carries consumed pending) : stream.Faithful := by
  obtain ⟨past, sent, incoming⟩ := carried.sent
  have count : stream.incoming.length = past.length := by rw [incoming, List.length_map]
  have waiting : stream.awaited = pending := by
    unfold awaited
    rw [sent, count, List.drop_left]
  constructor
  · rw [count, sent, List.take_left]
    exact incoming
  · rw [waiting]
    refine ⟨consumed, carried.bytes, carried.idle, ?_⟩
    cases running : stream.receiving with
    | none => exact Or.inl (carried.idle running)
    | some call => exact at_prefix (carried.working call running)
  · intro empty written idle
    have bytes := carried.bytes
    rw [empty, written, carried.idle idle] at bytes
    rw [sent, pending_nil carried.sendable bytes.symm, List.append_nil]
    exact incoming
  · intro call running
    exact at_asks (carried.working call running)
  · intro call result running phase
    have works := carried.working call running
    unfold ReceiveCall.At at works
    rw [phase] at works
    rw [waiting]
    obtain ⟨failed, unusable | ⟨packet, rest, same, -, refused⟩⟩ := works
    · exact ⟨failed, Or.inl unusable.2⟩
    · exact ⟨failed, Or.inr ⟨packet, rest, same, refused⟩⟩
  · intro code failed
    have busy := carried.sending
    rw [failed] at busy
    cases busy

theorem carries_run (inputs : List StreamInput) :
    Runs.EveryState step (fun stream => ∃ consumed pending, stream.Carries consumed pending) initial inputs := by
  apply Runs.everyState_of_step
  · rintro state input ⟨consumed, pending, carried⟩
    exact step_carries carried input
  · exact ⟨[], [], initial_carries⟩

/-- However the bytes are cut and the calls interrupted, the packets arrive as they were
sent; whatever the kernel answers, each descriptor is returned or closed. -/
theorem packets_arrive :
    (∀ inputs, Runs.EveryState step Faithful initial inputs) ∧
      ∀ slots answers, Runs.EveryState ReceiveCall.step ReceiveCall.Accounted (.start slots) answers := by
  constructor
  · intro inputs
    refine (carries_run inputs).imp ?_
    rintro state ⟨consumed, pending, carried⟩
    exact carried.faithful
  · exact ReceiveCall.call_accounted

end PacketStream

end VulkanBridge
