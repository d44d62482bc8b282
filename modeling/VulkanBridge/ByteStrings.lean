import VulkanBridge.Bytes

/-!
Byte strings and buffers: what a codec writes are the first bytes of a buffer, what it
reads is a byte string. A codec that reads back what it writes, and admits only what
it writes, is an exact inverse.
-/

namespace ByteBuffer

def bufferOf (bytes : List UInt8) : Buffer := fun index => bytes.getD index 0

def bytesOf (buffer : Buffer) (length : Nat) : List UInt8 := (List.range length).map buffer

/-- `memcmp` finds no difference. -/
def sameBytes (left right : Buffer) (length : Nat) : Bool :=
  (List.range length).all fun index => left index == right index

theorem bytesOf_length (buffer : Buffer) (length : Nat) : (bytesOf buffer length).length = length := by
  simp [bytesOf]

theorem bufferOf_endsBy (bytes : List UInt8) : EndsBy (bufferOf bytes) bytes.length := by
  intro index outside
  simp [bufferOf, List.getElem?_eq_none outside]

theorem bufferOf_bytesOf {buffer : Buffer} {length : Nat} (ends : EndsBy buffer length) :
    bufferOf (bytesOf buffer length) = buffer := by
  funext index
  by_cases inside : index < length
  · simp [bufferOf, bytesOf, inside]
  · rw [ends index (by omega)]
    apply bufferOf_endsBy
    rw [bytesOf_length]
    omega

theorem bytesOf_bufferOf (bytes : List UInt8) : bytesOf (bufferOf bytes) bytes.length = bytes := by
  apply List.ext_getElem
  · rw [bytesOf_length]
  · intro index _ inside
    simp [bytesOf, bufferOf, inside]

theorem sameBytes_refl (buffer : Buffer) (length : Nat) : sameBytes buffer buffer length = true := by
  simp [sameBytes]

variable {α ε : Type}

/-- What is encoded is decoded to the same value, with its unused parts cleared, and what is
decoded is encoded to the same bytes. -/
structure ExactInverse (encode : α → Except ε (Buffer × Nat)) (decode : Buffer → Nat → Except ε α)
    (cleared : α → α) : Prop where
  decodes : ∀ value payload length, encode value = .ok (payload, length) →
    decode (bufferOf (bytesOf payload length)) length = .ok (cleared value)
  reproduces : ∀ bytes value, decode (bufferOf bytes) bytes.length = .ok value →
    ∃ payload, encode value = .ok (payload, bytes.length) ∧ bytesOf payload bytes.length = bytes

/-- A format with its laws: an admitted value is written as `payload`, which has the form that
`framed` asks for, and a buffer of that form is what its value is written as. -/
structure WireFormat (α : Type) where
  admits : α → Bool
  payload : α → Buffer
  size : α → Nat
  read : Buffer → α
  framed : Buffer → Nat → Prop
  cleared : α → α
  payload_ends : ∀ value, admits value = true → EndsBy (payload value) (size value)
  payload_framed : ∀ value, admits value = true → framed (payload value) (size value)
  read_payload : ∀ value, admits value = true → read (payload value) = cleared value
  admits_cleared : ∀ value, admits (cleared value) = admits value
  payload_read : ∀ source length, EndsBy source length → framed source length →
    payload (read source) = source ∧ size (read source) = length

namespace WireFormat

variable (format : WireFormat α) {encode : α → Except ε (Buffer × Nat)} {decode : Buffer → Nat → Except ε α}

theorem exactInverse
    (encodes : ∀ value result, encode value = .ok result ↔
      format.admits value = true ∧ result = (format.payload value, format.size value))
    (decodes : ∀ source length, EndsBy source length → ∀ value, decode source length = .ok value ↔
      format.framed source length ∧ format.admits (format.read source) = true ∧ format.read source = value) :
    ExactInverse encode decode format.cleared := by
  constructor
  · intro value payload length encoded
    obtain ⟨admitted, same⟩ := (encodes _ _).mp encoded
    obtain ⟨rfl, rfl⟩ := Prod.mk.inj same
    have ends := format.payload_ends value admitted
    rw [bufferOf_bytesOf ends]
    apply (decodes _ _ ends _).mpr
    refine ⟨format.payload_framed value admitted, ?_, format.read_payload value admitted⟩
    rw [format.read_payload value admitted, format.admits_cleared]
    exact admitted
  · intro bytes value decoded
    have ends := bufferOf_endsBy bytes
    obtain ⟨framed, admitted, rfl⟩ := (decodes _ _ ends _).mp decoded
    obtain ⟨whole, length⟩ := format.payload_read _ _ ends framed
    refine ⟨bufferOf bytes, (encodes _ _).mpr ⟨admitted, ?_⟩, bytesOf_bufferOf bytes⟩
    rw [whole, length]

theorem canonical {source : Buffer} {length : Nat} (ends : EndsBy source length)
    (framed : format.framed source length) :
    format.size (format.read source) = length ∧
      sameBytes (format.payload (format.read source)) source length = true := by
  obtain ⟨whole, size⟩ := format.payload_read _ _ ends framed
  refine ⟨size, ?_⟩
  rw [whole]
  exact sameBytes_refl source length

end WireFormat

end ByteBuffer
