import VulkanBridge.ArrayRecords

/-!
The records with parts that a flag switches on: the depth and stencil
attachments of a rendering, the sizes and strides of a vertex buffer binding.
A part that is off is zero in the payload and comes back as zero.
-/

namespace VulkanBridge

open ByteBuffer

section Optional

variable (present : Bool) (buffer : Buffer) (output : Nat) (attachment : RenderingAttachment)

theorem optionalAttachment_writes : WritesWithin
    (fun buffer => if present then encodeRenderingAttachment buffer output attachment else buffer)
    output (output + 56) := by
  intro buffer index outside
  cases present with
  | false => rfl
  | true => exact encodeRenderingAttachment_writes output attachment buffer index outside

theorem optionalAttachment_apart {index : Nat} (apart : index < output ∨ output + 56 ≤ index) :
    (if present then encodeRenderingAttachment buffer output attachment else buffer) index = buffer index :=
  optionalAttachment_writes present output attachment buffer index apart

theorem getU32_optionalAttachment_apart {offset : Nat}
    (apart : offset + 4 ≤ output ∨ output + 56 ≤ offset) :
    getU32 (if present then encodeRenderingAttachment buffer output attachment else buffer) offset =
      getU32 buffer offset :=
  (getU32_reads offset).apart (optionalAttachment_writes present output attachment) apart buffer

theorem decodeRenderingAttachment_optional_apart {input : Nat}
    (apart : input + 56 ≤ output ∨ output + 56 ≤ input) :
    decodeRenderingAttachment
        (if present then encodeRenderingAttachment buffer output attachment else buffer) input =
      decodeRenderingAttachment buffer input :=
  (decodeRenderingAttachment_reads input).apart (optionalAttachment_writes present output attachment) apart
    buffer

theorem optionalAttachment_read (source : Buffer)
    (absent : present = false → ∀ index, output ≤ index → index < output + 56 → source index = buffer index) :
    (if present then encodeRenderingAttachment buffer output
        (if present then decodeRenderingAttachment source output else default) else buffer) =
      graft buffer source output 56 := by
  cases present with
  | true => exact encodeRenderingAttachment_decode buffer source output
  | false =>
      funext index
      simp only [graft, Bool.false_eq_true, if_false]
      by_cases inside : output ≤ index ∧ index < output + 56
      · rw [if_pos inside, absent rfl index inside.1 inside.2]
      · rw [if_neg inside]

end Optional

namespace BeginRenderingCommand

def cleared (command : BeginRenderingCommand) : BeginRenderingCommand :=
  { command with
    colorAttachments := keep command.colorAttachmentCount.toNat command.colorAttachments
    depthAttachment := if command.hasDepthAttachment != 0 then command.depthAttachment else default
    stencilAttachment := if command.hasStencilAttachment != 0 then command.stencilAttachment else default }

theorem payload_header (command : BeginRenderingCommand) :
    getU32 command.payload 0 = command.flags ∧
      getU32 command.payload 4 = command.renderOffsetX.toUInt32 ∧
      getU32 command.payload 8 = command.renderOffsetY.toUInt32 ∧
      getU32 command.payload 12 = command.width ∧ getU32 command.payload 16 = command.height ∧
      getU32 command.payload 20 = command.layerCount ∧ getU32 command.payload 24 = command.viewMask := by
  simp (disch := omega) only [payload, getU32_optionalAttachment_apart,
    getU32_elements_apart encodeRenderingAttachment_writes, getU32_putU32, getU32_putU32_apart, and_self]

theorem payload_counts (command : BeginRenderingCommand) :
    getU32 command.payload 28 = command.colorAttachmentCount ∧
      getU32 command.payload 32 = command.hasDepthAttachment ∧
      getU32 command.payload 36 = command.hasStencilAttachment := by
  simp (disch := omega) only [payload, getU32_optionalAttachment_apart,
    getU32_elements_apart encodeRenderingAttachment_writes, getU32_putU32, getU32_putU32_apart, and_self]

theorem decode_payload_color (command : BeginRenderingCommand) {index : Nat} (inside : index < 8)
    (used : index < command.colorAttachmentCount.toNat) :
    decodeRenderingAttachment command.payload (40 + index * 56) = slot command.colorAttachments index := by
  simp (disch := omega) only [payload, decodeRenderingAttachment_optional_apart]
  exact renderingAttachmentBlock.get_loop _ 40 _ _ used

theorem decode_payload_depth (command : BeginRenderingCommand)
    (present : (command.hasDepthAttachment != 0) = true) :
    decodeRenderingAttachment command.payload (40 + 8 * 56) = command.depthAttachment := by
  simp (disch := omega) only [payload, decodeRenderingAttachment_optional_apart]
  rw [if_pos present]
  exact decodeRenderingAttachment_encode _ _ _

theorem decode_payload_stencil (command : BeginRenderingCommand)
    (present : (command.hasStencilAttachment != 0) = true) :
    decodeRenderingAttachment command.payload (40 + (8 + 1) * 56) = command.stencilAttachment := by
  simp only [payload]
  rw [if_pos present]
  exact decodeRenderingAttachment_encode _ _ _

theorem payload_idle (command : BeginRenderingCommand) {index : Nat}
    (lower : 40 + command.colorAttachmentCount.toNat * 56 ≤ index) (upper : index < 40 + 8 * 56) :
    command.payload index = 0 := by
  simp (disch := omega) only [payload, optionalAttachment_apart,
    elements_apart encodeRenderingAttachment_writes, putU32_apart, zeroed]

section Bounded

variable (command : BeginRenderingCommand) (few : command.colorAttachmentCount.toNat ≤ 8)

include few

theorem payload_endsBy : EndsBy command.payload 600 := by
  intro index outside
  simp (disch := omega) only [payload, optionalAttachment_apart,
    elements_apart encodeRenderingAttachment_writes, putU32_apart, zeroed]

theorem payload_no_depth (absent : ¬(command.hasDepthAttachment != 0) = true) {index : Nat}
    (lower : 40 + 8 * 56 ≤ index) (upper : index < 40 + 8 * 56 + 56) : command.payload index = 0 := by
  simp (disch := omega) only [payload, if_neg absent, optionalAttachment_apart,
    elements_apart encodeRenderingAttachment_writes, putU32_apart, zeroed]

theorem payload_no_stencil (absent : ¬(command.hasStencilAttachment != 0) = true) {index : Nat}
    (lower : 40 + 8 * 56 + 56 ≤ index) : command.payload index = 0 := by
  simp (disch := omega) only [payload, if_neg absent, optionalAttachment_apart,
    elements_apart encodeRenderingAttachment_writes, putU32_apart, zeroed]

theorem validate_payload_depth :
    (if command.hasDepthAttachment != 0 then
        renderingAttachmentIsValid (decodeRenderingAttachment command.payload (40 + 8 * 56)) true
      else bytesAreZero command.payload (40 + 8 * 56) 56) =
      !(command.hasDepthAttachment != 0 && !renderingAttachmentIsValid command.depthAttachment true) := by
  by_cases present : (command.hasDepthAttachment != 0) = true
  · simp only [present, if_true, command.decode_payload_depth present, Bool.true_and, Bool.not_not]
  · rw [if_neg present, (bytesAreZero_iff _ _ _).mpr fun index lower upper =>
      command.payload_no_depth few present lower upper]
    simp only [Bool.not_eq_true] at present
    simp only [present, Bool.false_and, Bool.not_false]

theorem validate_payload_stencil :
    (if command.hasStencilAttachment != 0 then
        renderingAttachmentIsValid (decodeRenderingAttachment command.payload (40 + 8 * 56 + 56)) true
      else bytesAreZero command.payload (40 + 8 * 56 + 56) 56) =
      !(command.hasStencilAttachment != 0 && !renderingAttachmentIsValid command.stencilAttachment true) := by
  by_cases present : (command.hasStencilAttachment != 0) = true
  · simp only [present, if_true, command.decode_payload_stencil present, Bool.true_and, Bool.not_not]
  · rw [if_neg present, (bytesAreZero_iff _ _ _).mpr fun index lower _ =>
      command.payload_no_stencil few present lower]
    simp only [Bool.not_eq_true] at present
    simp only [present, Bool.false_and, Bool.not_false]

end Bounded

theorem validate_payload (command : BeginRenderingCommand) :
    validateBeginRendering command.payload = command.isAppendable := by
  obtain ⟨_, _, _, width, height, layers, _⟩ := command.payload_header
  obtain ⟨colors, depth, stencil⟩ := command.payload_counts
  simp only [validateBeginRendering, isAppendable, width, height, layers, colors, depth, stencil]
  by_cases many : command.colorAttachmentCount > 8
  · simp [many]
  have few := toNat_le_of_not_gt 8 rfl many
  rw [command.validate_payload_depth few, command.validate_payload_stencil few]
  congr 3
  apply all_range_used few
  · intro index used
    rw [if_neg (by omega), command.decode_payload_color (by omega) used]
  · intro index idle inside
    rw [if_pos idle, bytesAreZero_iff]
    exact fun position lower upper => command.payload_idle (by omega) (by omega)

theorem read_payload (command : BeginRenderingCommand) : read command.payload = command.cleared := by
  obtain ⟨flags, offsetX, offsetY, width, height, layers, views⟩ := command.payload_header
  obtain ⟨colors, depth, stencil⟩ := command.payload_counts
  have depthRead : (if command.hasDepthAttachment != 0 then
      decodeRenderingAttachment command.payload (40 + 8 * 56) else default) =
      if command.hasDepthAttachment != 0 then command.depthAttachment else default :=
    ite_congr rfl command.decode_payload_depth fun _ => rfl
  have stencilRead : (if command.hasStencilAttachment != 0 then
      decodeRenderingAttachment command.payload (40 + (8 + 1) * 56) else default) =
      if command.hasStencilAttachment != 0 then command.stencilAttachment else default :=
    ite_congr rfl command.decode_payload_stencil fun _ => rfl
  simp only [read, cleared, flags, offsetX, offsetY, width, height, layers, views, colors, depth, stencil,
    toInt32_toUInt32, depthRead, stencilRead,
    fill_eq_keep _ _ fun index inside used => command.decode_payload_color inside used]

theorem payload_read {source : Buffer} (ends : EndsBy source 600)
    (valid : validateBeginRendering source = true) : (read source).payload = source := by
  simp only [validateBeginRendering, Bool.and_eq_true, Bool.not_eq_true', Bool.or_eq_false_iff,
    decide_eq_false_iff_not, List.all_eq_true, List.mem_range] at valid
  obtain ⟨⟨⟨⟨⟨⟨⟨_, many⟩, _⟩, _⟩, _⟩, colorsChecked⟩, depthChecked⟩, stencilChecked⟩ := valid
  have few := toNat_le_of_not_gt 8 rfl many
  have idleColors : ∀ index, 40 + (getU32 source 28).toNat * 56 ≤ index → index < 40 + 8 * 56 →
      source index = 0 := by
    apply blank_blocks
    intro element idle inside
    have zero := colorsChecked element inside
    rw [if_pos idle] at zero
    exact (bytesAreZero_iff _ _ _).mp zero
  have noDepth : (getU32 source 32 != 0) = false → ∀ index, 40 + 8 * 56 ≤ index →
      index < 40 + 8 * 56 + 56 → source index = graft zeroed source 0 488 index := by
    intro absent index lower upper
    rw [absent, if_neg (by decide)] at depthChecked
    rw [(bytesAreZero_iff _ _ _).mp depthChecked index lower upper, graft,
      if_neg (show ¬(0 ≤ index ∧ index < 0 + 488) by omega)]
    rfl
  have noStencil : (getU32 source 36 != 0) = false → ∀ index, 40 + (8 + 1) * 56 ≤ index →
      index < 40 + (8 + 1) * 56 + 56 → source index = graft zeroed source 0 544 index := by
    intro absent index lower upper
    rw [absent, if_neg (by decide)] at stencilChecked
    rw [(bytesAreZero_iff _ _ _).mp stencilChecked index lower upper, graft,
      if_neg (show ¬(0 ≤ index ∧ index < 0 + 544) by omega)]
    rfl
  simp only [read, payload, putU32_getU32, putU32_getI32,
    arrayBlock_read encodeRenderingAttachment decodeRenderingAttachment _ _ _ _ few
      (fun index _ buffer => encodeRenderingAttachment_decode buffer source _)]
  simp (disch := omega) only [graft_fuse]
  rw [graft_extend zeroed source 0 _ ((8 - (getU32 source 28).toNat) * 56) fun index lower upper =>
    idleColors index (by omega) (by omega),
    show 4 + 4 + 4 + 4 + 4 + 4 + 4 + 4 + 4 + 4 + (getU32 source 28).toNat * 56 +
      (8 - (getU32 source 28).toNat) * 56 = 488 by omega,
    optionalAttachment_read _ _ _ source noDepth, graft_fuse _ _ (by omega),
    optionalAttachment_read _ _ _ source noStencil, graft_fuse _ _ (by omega)]
  exact graft_whole source 600 ends

end BeginRenderingCommand

namespace BindVertexBuffersCommand

def cleared (command : BindVertexBuffersCommand) : BindVertexBuffersCommand :=
  { command with
    bufferIds := keep command.bindingCount.toNat command.bufferIds
    offsets := keep command.bindingCount.toNat command.offsets
    sizes := if command.hasSizes != 0 then keep command.bindingCount.toNat command.sizes else fun _ => 0
    strides := if command.hasStrides != 0 then keep command.bindingCount.toNat command.strides else fun _ => 0 }

def putBinding (command : BindVertexBuffersCommand) (index : Nat) (payload : Buffer) : Buffer :=
  let payload := putU64 payload (16 + index * 8) (slot command.bufferIds index)
  let payload := putU64 payload (144 + index * 8) (slot command.offsets index)
  let payload :=
    if command.hasSizes != 0 then putU64 payload (272 + index * 8) (slot command.sizes index)
    else payload
  if command.hasStrides != 0 then putU64 payload (400 + index * 8) (slot command.strides index)
  else payload

def header (command : BindVertexBuffersCommand) : Buffer :=
  putU32 (putU32 (putU32 (putU32 zeroed 0 command.firstBinding) 4 command.bindingCount) 8 command.hasSizes)
    12 command.hasStrides

theorem payload_eq (command : BindVertexBuffersCommand) :
    command.payload = loop command.bindingCount.toNat command.putBinding command.header := rfl

def Writes (command : BindVertexBuffersCommand) (base : Nat) : Prop :=
  base = 16 ∨ base = 144 ∨ (base = 272 ∧ command.hasSizes ≠ 0) ∨ (base = 400 ∧ command.hasStrides ≠ 0)

theorem putBinding_apart (command : BindVertexBuffersCommand) (index : Nat) (buffer : Buffer)
    {position : Nat} (apart : ∀ base, command.Writes base →
      position < base + index * 8 ∨ base + index * 8 + 8 ≤ position) :
    command.putBinding index buffer position = buffer position := by
  have ids := apart 16 (Or.inl rfl)
  have offsets := apart 144 (Or.inr (Or.inl rfl))
  have sizes : command.hasSizes ≠ 0 → _ := fun present =>
    apart 272 (Or.inr (Or.inr (Or.inl ⟨rfl, present⟩)))
  have strides : command.hasStrides ≠ 0 → _ := fun present =>
    apart 400 (Or.inr (Or.inr (Or.inr ⟨rfl, present⟩)))
  by_cases hasSizes : command.hasSizes = 0
  all_goals by_cases hasStrides : command.hasStrides = 0
  all_goals
    simp only [putBinding, hasSizes, hasStrides, bne_self_eq_false, Bool.false_eq_true, if_false,
      bne_iff_ne, ne_eq, not_false_eq_true, if_true]
    simp only [ne_eq, hasSizes, hasStrides, not_false_eq_true, forall_const] at sizes strides
    simp (disch := omega) only [putU64_apart]

theorem header_words (command : BindVertexBuffersCommand) :
    getU32 command.header 0 = command.firstBinding ∧ getU32 command.header 4 = command.bindingCount ∧
      getU32 command.header 8 = command.hasSizes ∧ getU32 command.header 12 = command.hasStrides := by
  simp (disch := omega) only [header, getU32_putU32, getU32_putU32_apart, and_self]

theorem getU32_payload_header (command : BindVertexBuffersCommand) {offset : Nat} (early : offset + 4 ≤ 16) :
    getU32 command.payload offset = getU32 command.header offset := by
  rw [payload_eq]
  apply loop_skip (getU32_reads offset)
  intro index _ buffer position _ upper
  apply putBinding_apart
  rintro base (rfl | rfl | ⟨rfl, _⟩ | ⟨rfl, _⟩)
  all_goals omega

theorem getU64_payload_zero (command : BindVertexBuffersCommand) {offset : Nat} (late : 16 ≤ offset)
    (apart : ∀ index, index < command.bindingCount.toNat → ∀ base, command.Writes base →
      offset + 8 ≤ base + index * 8 ∨ base + index * 8 + 8 ≤ offset) : getU64 command.payload offset = 0 := by
  rw [payload_eq, loop_skip (getU64_reads offset)]
  · simp (disch := omega) only [header, getU64_putU32_apart, getU64_zeroed]
  · intro index used buffer position lower upper
    apply putBinding_apart
    intro base written
    have := apart index used base written
    omega

section Bounded

variable (command : BindVertexBuffersCommand) (few : command.bindingCount.toNat ≤ 16)

include few

theorem payload_endsBy : EndsBy command.payload 528 := by
  intro position outside
  rw [payload_eq, loop_skip (byte_reads position)]
  · simp (disch := omega) only [header, putU32_apart, zeroed]
  · intro index used buffer other lower upper
    apply putBinding_apart
    rintro base (rfl | rfl | ⟨rfl, _⟩ | ⟨rfl, _⟩)
    all_goals omega

theorem getU64_payload_written {base index : Nat} {value : UInt64} (written : command.Writes base)
    (used : index < command.bindingCount.toNat)
    (here : ∀ buffer, getU64 (command.putBinding index buffer) (base + index * 8) = value) :
    getU64 command.payload (base + index * 8) = value := by
  rw [payload_eq]
  apply loop_read (getU64_reads _) index used here
  intro other inside different buffer position lower upper
  apply putBinding_apart
  rintro base' (rfl | rfl | ⟨rfl, _⟩ | ⟨rfl, _⟩)
  all_goals
    rcases written with rfl | rfl | ⟨rfl, _⟩ | ⟨rfl, _⟩
    all_goals omega

theorem getU64_payload_id {index : Nat} (used : index < command.bindingCount.toNat) :
    getU64 command.payload (16 + index * 8) = slot command.bufferIds index := by
  apply command.getU64_payload_written few (Or.inl rfl) used
  intro buffer
  simp only [putBinding]
  split <;> split <;> simp (disch := omega) only [getU64_putU64_apart, getU64_putU64]

theorem getU64_payload_offset {index : Nat} (used : index < command.bindingCount.toNat) :
    getU64 command.payload (144 + index * 8) = slot command.offsets index := by
  apply command.getU64_payload_written few (Or.inr (Or.inl rfl)) used
  intro buffer
  simp only [putBinding]
  split <;> split <;> simp (disch := omega) only [getU64_putU64_apart, getU64_putU64]

theorem getU64_payload_size {index : Nat} (used : index < command.bindingCount.toNat) :
    getU64 command.payload (272 + index * 8) =
      if command.hasSizes != 0 then slot command.sizes index else 0 := by
  by_cases present : command.hasSizes = 0
  · rw [present, if_neg (by decide)]
    apply command.getU64_payload_zero (by omega)
    rintro other inside base (rfl | rfl | ⟨rfl, written⟩ | ⟨rfl, _⟩)
    · omega
    · omega
    · exact absurd present written
    · omega
  · rw [if_pos (bne_iff_ne.mpr present)]
    apply command.getU64_payload_written few (Or.inr (Or.inr (Or.inl ⟨rfl, present⟩))) used
    intro buffer
    simp only [putBinding]
    rw [if_pos (bne_iff_ne.mpr present)]
    split <;> simp (disch := omega) only [getU64_putU64_apart, getU64_putU64]

theorem getU64_payload_stride {index : Nat} (used : index < command.bindingCount.toNat) :
    getU64 command.payload (400 + index * 8) =
      if command.hasStrides != 0 then slot command.strides index else 0 := by
  by_cases present : command.hasStrides = 0
  · rw [present, if_neg (by decide)]
    apply command.getU64_payload_zero (by omega)
    rintro other inside base (rfl | rfl | ⟨rfl, _⟩ | ⟨rfl, written⟩)
    · omega
    · omega
    · omega
    · exact absurd present written
  · rw [if_pos (bne_iff_ne.mpr present)]
    apply command.getU64_payload_written few (Or.inr (Or.inr (Or.inr ⟨rfl, present⟩))) used
    intro buffer
    simp only [putBinding]
    rw [if_pos (show (command.hasStrides != 0) = true from bne_iff_ne.mpr present), getU64_putU64]

theorem getU64_payload_idle {base index : Nat} (array : base = 16 ∨ base = 144 ∨ base = 272 ∨ base = 400)
    (idle : command.bindingCount.toNat ≤ index) (inside : index < 16) :
    getU64 command.payload (base + index * 8) = 0 := by
  apply command.getU64_payload_zero (by omega)
  rintro other used base' (rfl | rfl | ⟨rfl, _⟩ | ⟨rfl, _⟩)
  all_goals omega

end Bounded

theorem validate_payload {opcode : UInt16} (command : BindVertexBuffersCommand)
    (known : opcode = Opcode.bindVertexBuffers.code ∨ opcode = Opcode.bindVertexBuffers2.code) :
    validateBindVertexBuffers opcode command.payload = command.isAppendable opcode := by
  obtain ⟨_, count, sizes, strides⟩ := command.header_words
  have accepted : (opcode != Opcode.bindVertexBuffers.code && opcode != Opcode.bindVertexBuffers2.code) =
      false := by
    rcases known with rfl | rfl
    all_goals decide
  simp (disch := omega) only [validateBindVertexBuffers, isAppendable, getU32_payload_header, count, sizes,
    strides, accepted, Bool.false_or]
  by_cases many : command.bindingCount > 16
  · simp [many]
  have few := toNat_le_of_not_gt 16 rfl many
  congr 1
  apply all_range_used few
  · intro index used
    rw [if_neg (by omega), command.getU64_payload_id few used, command.getU64_payload_size few used,
      command.getU64_payload_stride few used]
    have noSizes : (command.hasSizes == 0 &&
        (if command.hasSizes != 0 then slot command.sizes index else 0) != 0) = false := by
      by_cases present : command.hasSizes = 0
      all_goals simp [present]
    have noStrides : (command.hasStrides == 0 &&
        (if command.hasStrides != 0 then slot command.strides index else 0) != 0) = false := by
      by_cases present : command.hasStrides = 0
      all_goals simp [present]
    rw [noSizes, noStrides, Bool.or_false, Bool.or_false]
  · intro index idle inside
    rw [if_pos idle, command.getU64_payload_idle few (Or.inl rfl) idle inside,
      command.getU64_payload_idle few (Or.inr (Or.inl rfl)) idle inside,
      command.getU64_payload_idle few (Or.inr (Or.inr (Or.inl rfl))) idle inside,
      command.getU64_payload_idle few (Or.inr (Or.inr (Or.inr rfl))) idle inside]
    rfl

theorem fill_zero (size count : Nat) : fill size count (fun _ => (0 : UInt64)) = fun _ => 0 := by
  funext index
  simp only [fill]
  split <;> rfl

theorem read_payload (command : BindVertexBuffersCommand) (few : command.bindingCount.toNat ≤ 16) :
    read command.payload = command.cleared := by
  obtain ⟨first, count, sizes, strides⟩ := command.header_words
  simp (disch := omega) only [read, cleared, getU32_payload_header, first, count, sizes, strides,
    fill_eq_keep _ _ fun index _ used => command.getU64_payload_id few used,
    fill_eq_keep _ _ fun index _ used => command.getU64_payload_offset few used]
  congr 1
  · rw [fill_congr fun index _ used => command.getU64_payload_size few used]
    split
    · exact fill_eq_keep _ _ fun _ _ _ => rfl
    · exact fill_zero _ _
  · rw [fill_congr fun index _ used => command.getU64_payload_stride few used]
    split
    · exact fill_eq_keep _ _ fun _ _ _ => rfl
    · exact fill_zero _ _

/-- The bytes that iteration `element` copies when a command is read and written back. -/
def Covers (source : Buffer) (element index : Nat) : Prop :=
  (16 + element * 8 ≤ index ∧ index < 16 + element * 8 + 8) ∨
    (144 + element * 8 ≤ index ∧ index < 144 + element * 8 + 8) ∨
    (getU32 source 8 ≠ 0 ∧ 272 + element * 8 ≤ index ∧ index < 272 + element * 8 + 8) ∨
    (getU32 source 12 ≠ 0 ∧ 400 + element * 8 ≤ index ∧ index < 400 + element * 8 + 8)

instance (source : Buffer) (element index : Nat) : Decidable (Covers source element index) :=
  inferInstanceAs (Decidable (_ ∨ _))

theorem putBinding_read (source : Buffer) {element : Nat} (used : element < (getU32 source 4).toNat)
    (inside : element < 16) (buffer : Buffer) (index : Nat) :
    (read source).putBinding element buffer index =
      if Covers source element index then source index else buffer index := by
  simp only [putBinding, read, slot_fill _ inside used, putU64_getU64]
  by_cases sizes : getU32 source 8 = 0
  all_goals by_cases strides : getU32 source 12 = 0
  all_goals
    simp only [sizes, strides, bne_self_eq_false, Bool.false_eq_true, if_false, bne_iff_ne, ne_eq,
      not_false_eq_true, if_true, Covers, graft, not_true_eq_false, false_and, true_and, or_false,
      false_or]
    grind

theorem validate_idle {opcode : UInt16} {source : Buffer}
    (valid : validateBindVertexBuffers opcode source = true) {base element : Nat}
    (array : base = 16 ∨ base = 144 ∨ base = 272 ∨ base = 400) (inside : element < 16)
    (unwritten : (getU32 source 4).toNat ≤ element ∨ (base = 272 ∧ getU32 source 8 = 0) ∨
      (base = 400 ∧ getU32 source 12 = 0)) : getU64 source (base + element * 8) = 0 := by
  simp only [validateBindVertexBuffers, Bool.and_eq_true, List.all_eq_true, List.mem_range] at valid
  have checked := valid.2 element inside
  by_cases idle : element ≥ (getU32 source 4).toNat
  · rw [if_pos idle] at checked
    simp only [Bool.not_eq_true', Bool.or_eq_false_iff, bne_eq_false_iff_eq] at checked
    obtain ⟨⟨⟨ids, offsets⟩, sizes⟩, strides⟩ := checked
    rcases array with rfl | rfl | rfl | rfl
    all_goals assumption
  · rw [if_neg idle] at checked
    simp only [Bool.not_eq_true', Bool.or_eq_false_iff, Bool.and_eq_false_iff, beq_eq_false_iff_ne,
      bne_eq_false_iff_eq] at checked
    rcases unwritten with idle' | ⟨rfl, absent⟩ | ⟨rfl, absent⟩
    · exact absurd idle' idle
    · exact checked.1.2.resolve_left (absurd absent)
    · exact checked.2.resolve_left (absurd absent)

theorem payload_read {opcode : UInt16} {source : Buffer} (ends : EndsBy source 528)
    (valid : validateBindVertexBuffers opcode source = true) : (read source).payload = source := by
  have few : (getU32 source 4).toNat ≤ 16 := by
    simp only [validateBindVertexBuffers, Bool.and_eq_true, Bool.not_eq_true', Bool.or_eq_false_iff,
      decide_eq_false_iff_not] at valid
    exact toNat_le_of_not_gt 16 rfl valid.1.1.1.1.2
  have head : (read source).header = graft zeroed source 0 16 := by
    simp only [header, read, putU32_getU32]
    simp (disch := omega) only [graft_fuse]
  -- a byte that no iteration copies lies in the header or in a word that the validator wants zero
  have rest : ∀ index, (∀ element, element < (getU32 source 4).toNat → ¬Covers source element index) →
      graft zeroed source 0 16 index = source index := by
    intro index missed
    by_cases early : index < 16
    · rw [graft, if_pos (by omega)]
    · rw [graft, if_neg (by omega)]
      by_cases late : 528 ≤ index
      · exact (ends index late).symm
      · obtain ⟨base, element, array, inside, lower, upper⟩ : ∃ base element : Nat,
            (base = 16 ∨ base = 144 ∨ base = 272 ∨ base = 400) ∧ element < 16 ∧
              base + element * 8 ≤ index ∧ index < base + element * 8 + 8 :=
          ⟨16 + (index - 16) / 128 * 128, (index - 16) % 128 / 8, by omega, by omega, by omega, by omega⟩
        have unwritten : (getU32 source 4).toNat ≤ element ∨ (base = 272 ∧ getU32 source 8 = 0) ∨
            (base = 400 ∧ getU32 source 12 = 0) := by
          by_cases used : element < (getU32 source 4).toNat
          · have miss := missed element used
            simp only [Covers, not_or, not_and] at miss
            grind
          · exact Or.inl (by omega)
        exact ((getU64_eq_zero_iff _ _).mp (validate_idle valid array inside unwritten) index lower
          upper).symm
  funext index
  rw [payload_eq, head]
  rcases loop_copies source (Covers source) (fun element used buffer index =>
    putBinding_read source used (by omega) buffer index) (graft zeroed source 0 16) index with
    ⟨_, same⟩ | ⟨missed, same⟩
  · exact same
  · exact same.trans (rest index missed)

end BindVertexBuffersCommand

end VulkanBridge
