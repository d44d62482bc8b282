import VulkanBridge.CommandReads

/-!
Parsing stays inside its buffers: the validator reads no byte behind the length, and the
decoders of an accepted record stay inside its payload and inside their arrays.
-/

namespace VulkanBridge

open ByteBuffer Watched

theorem walkPayloadLength_safe (opcode : UInt16) (payload : Buffer) (payloadLength : Nat) :
    Safe payloadLength (walkPayloadLength opcode payload payloadLength) := by
  have barrier : Safe payloadLength (walkImageBarrier2Length payload payloadLength) := by
    simp only [walkImageBarrier2Length]
    split
    · exact safe_pure false
    · simp only [safe_bind_iff, safe_word32_iff, word32_eq_ok, forall_eq', safe_pure, and_true]
      omega
  have update : Safe payloadLength (walkUpdateBufferLength payload payloadLength) := by
    simp only [walkUpdateBufferLength]
    split
    · exact safe_pure false
    · simp only [safe_bind_iff, safe_word32_iff, word32_eq_ok, forall_eq', safe_pure, and_true]
      omega
  have transfer : Safe payloadLength (walkTransferLength payload payloadLength) := by
    simp only [walkTransferLength]
    split
    · exact safe_pure false
    · simp only [safe_bind_iff, safe_word32_iff, word32_eq_ok, forall_eq', safe_pure, and_true]
      omega
  simp only [walkPayloadLength]
  cases Opcode.ofCode opcode with
  | none => exact safe_pure false
  | some known =>
      cases known
      case imageBarrier2 => exact barrier
      case updateBuffer => exact update
      all_goals
        by_cases plain : transferOpcodeIsValid opcode = true
        · simp only [plain, Bool.not_true, Bool.false_eq_true, ↓reduceIte]
          exact transfer
        · simp only [plain, Bool.not_false, ↓reduceIte]
          exact safe_pure _

@[simp] theorem safe_stores_iff {α : Type} [Inhabited α] {limit capacity count : Nat}
    {round : Nat → Walk α} :
    Safe limit (stores capacity count round) ↔
      count ≤ capacity ∧ ∀ index, index < count → Safe limit (round index) := by
  have loop := @safe_loop_iff Errno α (Nat → α) limit (.error .einval) count round
  constructor
  · rintro ⟨inside, exact⟩
    simp only [stores, Bool.and_eq_true, decide_eq_true_eq] at exact
    exact ⟨exact.1, loop.mp ⟨inside, exact.2⟩⟩
  · rintro ⟨fits, each⟩
    obtain ⟨inside, exact⟩ := loop.mpr each
    refine ⟨inside, ?_⟩
    simp only [stores, Bool.and_eq_true, decide_eq_true_eq]
    exact ⟨fits, exact⟩

@[simp] theorem stores_eq_ok {α : Type} [Inhabited α] {capacity count : Nat} {round : Nat → Walk α}
    {items : Fin capacity → α} : (stores capacity count round).value = .ok items ↔
      (fill capacity count fun index => (round index).result) = items :=
  Except.ok.injEq _ items ▸ Iff.rfl

section Parts

variable {payload : Buffer} {input limit : Nat}

theorem walkZero_safe {size : Nat} (inside : input + size ≤ limit) :
    Safe limit (walkZero payload input size) := by
  simp only [walkZero, safe_every_iff, safe_bind_iff, safe_byte_iff, byte_eq_ok, forall_eq', safe_pure,
    and_true]
  intro index below
  omega

theorem walkRenderingAttachment_safe (inside : input + 56 ≤ limit) :
    Safe limit (walkRenderingAttachment payload input) := by
  simp only [walkRenderingAttachment, safe_bind_iff, safe_word32_iff, safe_word64_iff, safe_stores_iff,
    word32_eq_ok, word64_eq_ok, stores_eq_ok, forall_eq', safe_pure, and_true]
  and_intros
  all_goals intros
  all_goals omega

theorem walkImageRangeWire_safe (inside : input + 24 ≤ limit) :
    Safe limit (walkImageRangeWire payload input) := by
  simp only [walkImageRangeWire, safe_bind_iff, safe_word32_iff, word32_eq_ok, forall_eq', safe_pure,
    and_true]
  omega

theorem walkRangeIsZero_safe (inside : input + 24 ≤ limit) : Safe limit (walkRangeIsZero payload input) := by
  simp only [walkRangeIsZero, safe_every_iff, safe_bind_iff, safe_word32_iff, word32_eq_ok, forall_eq',
    safe_pure, and_true]
  intro index below
  omega

end Parts

section Payloads

variable {payload : Buffer}

theorem walkBeginRendering_safe : Safe 600 (walkBeginRendering payload) := by
  simp only [walkBeginRendering, safe_bind_iff, safe_word32_iff, word32_eq_ok, forall_eq', safe_every_iff,
    every_eq_ok, safe_pure, implies_true, and_true]
  have colors : ∀ index, index < 8 → Safe 600 (walkZero payload (40 + index * 56) 56) ∧
      Safe 600 (walkRenderingAttachment payload (40 + index * 56)) := by
    intro index below
    exact ⟨walkZero_safe (by omega), walkRenderingAttachment_safe (by omega)⟩
  refine ⟨by decide, by decide, by decide, by decide, by decide, by decide, ?_, ?_⟩
  · intro index below
    exact ⟨(colors index below).1, fun idle _ => (colors index below).2⟩
  · refine ⟨walkRenderingAttachment_safe (by decide), fun depth _ => ?_⟩
    refine ⟨walkZero_safe (by decide), fun noDepth _ => ?_⟩
    exact ⟨walkRenderingAttachment_safe (by decide), fun stencil _ => walkZero_safe (by decide)⟩

theorem walkImageBarrier2_safe {payloadLength : Nat}
    (valid : imageBarrier2LengthIsValid payload payloadLength = true) :
    Safe payloadLength (walkImageBarrier2 payload) := by
  simp only [imageBarrier2LengthIsValid] at valid
  split at valid
  · cases valid
  · rename_i long
    simp only [Bool.and_eq_true, decide_eq_true_eq, beq_iff_eq, barrierPayloadSize] at valid
    obtain ⟨-, size⟩ := valid
    simp only [walkImageBarrier2, safe_bind_iff, safe_word32_iff, safe_word64_iff, word32_eq_ok,
      word64_eq_ok, forall_eq', safe_every_iff, every_eq_ok, safe_pure, implies_true, and_true]
    refine ⟨by omega, by omega, by omega, by omega, ?_, ?_⟩
    · intro index below
      omega
    · intro index below
      exact ⟨by omega, walkImageRangeWire_safe (by omega)⟩

theorem walkTransfer_safe {opcode : UInt16} {payloadLength : Nat}
    (valid : transferLengthIsValid payload payloadLength = true) :
    Safe payloadLength (walkTransfer opcode payload) := by
  simp only [transferLengthIsValid] at valid
  split at valid
  · cases valid
  · rename_i long
    simp only [Bool.and_eq_true, beq_iff_eq, transferPayloadSize] at valid
    obtain ⟨-, size⟩ := valid
    simp only [walkTransfer, safe_bind_iff, safe_word32_iff, safe_word64_iff, word32_eq_ok, word64_eq_ok,
      forall_eq', safe_every_iff, safe_pure, implies_true, and_true]
    refine ⟨by omega, by omega, by omega, by omega, by omega, by omega, ?_⟩
    intro index below
    omega

theorem walkUpdateBuffer_safe {payloadLength : Nat}
    (valid : updateBufferLengthIsValid payload payloadLength = true) :
    Safe payloadLength (walkUpdateBuffer payload) := by
  simp only [updateBufferLengthIsValid] at valid
  split at valid
  · cases valid
  · simp only [walkUpdateBuffer, safe_bind_iff, safe_word32_iff, safe_word64_iff, word32_eq_ok, word64_eq_ok,
      forall_eq', safe_pure, and_true]
    omega

theorem walkClearColorImageGeneral_safe : Safe 128 (walkClearColorImageGeneral payload) := by
  simp only [walkClearColorImageGeneral, safe_bind_iff, safe_word32_iff, safe_word64_iff, word32_eq_ok,
    word64_eq_ok, forall_eq', safe_every_iff, safe_pure, implies_true, and_true]
  refine ⟨by decide, by decide, by decide, ?_⟩
  intro index below
  exact ⟨walkImageRangeWire_safe (by omega), fun valid _ => walkRangeIsZero_safe (by omega)⟩

theorem walkClearDepthStencilImage_safe : Safe 120 (walkClearDepthStencilImage payload) := by
  simp only [walkClearDepthStencilImage, safe_bind_iff, safe_word32_iff, safe_word64_iff, word32_eq_ok,
    word64_eq_ok, forall_eq', safe_every_iff, safe_pure, implies_true, and_true]
  refine ⟨by decide, by decide, by decide, by decide, ?_⟩
  intro index below
  exact ⟨walkImageRangeWire_safe (by omega), fun valid _ => ⟨by omega, walkRangeIsZero_safe (by omega)⟩⟩

theorem walkClearAttachments_safe : Safe 392 (walkClearAttachments payload) := by
  simp only [walkClearAttachments, safe_bind_iff, safe_word32_iff, word32_eq_ok, forall_eq', safe_every_iff,
    every_eq_ok, safe_pure, implies_true, and_true]
  refine ⟨by decide, by decide, ?_, ?_⟩
  · intro index below
    exact ⟨by omega, walkZero_safe (by omega)⟩
  · intro index below
    exact ⟨by omega, by omega, by omega, walkZero_safe (by omega)⟩

theorem walkBindDescriptorSets_safe : Safe 216 (walkBindDescriptorSets payload) := by
  simp only [walkBindDescriptorSets, safe_bind_iff, safe_word32_iff, safe_word64_iff, word32_eq_ok,
    word64_eq_ok, forall_eq', safe_every_iff, every_eq_ok, safe_pure, and_true]
  refine ⟨by decide, by decide, by decide, by decide, ?_, ?_⟩
  all_goals
    intro index below
    omega

theorem walkPushConstants_safe : Safe 280 (walkPushConstants payload) := by
  simp only [walkPushConstants, safe_bind_iff, safe_word32_iff, safe_word64_iff, safe_byte_iff, word32_eq_ok,
    word64_eq_ok, byte_eq_ok, forall_eq', safe_every_iff, every_eq_ok, safe_pure, and_true]
  refine ⟨by decide, by decide, by decide, by decide, by decide, ?_⟩
  intro index below
  omega

theorem walkBindVertexBuffers_safe {opcode : UInt16} : Safe 528 (walkBindVertexBuffers opcode payload) := by
  simp only [walkBindVertexBuffers, safe_bind_iff, safe_word32_iff, safe_word64_iff, word32_eq_ok,
    word64_eq_ok, forall_eq', safe_every_iff, safe_pure, implies_true, and_true]
  refine ⟨by decide, by decide, by decide, ?_⟩
  intro index below
  omega

theorem walkDynamicState_safe : Safe 40 (walkDynamicState payload) := by
  simp only [walkDynamicState, safe_bind_iff, safe_word32_iff, word32_eq_ok, forall_eq', safe_every_iff,
    every_eq_ok, safe_stores_iff, safe_pure, implies_true, and_true]
  refine ⟨by decide, by decide, ?_, by decide, ?_⟩
  all_goals
    intro index below
    omega

theorem walkSetViewport_safe : Safe 24 (walkSetViewport payload) := by
  simp only [walkSetViewport, safe_bind_iff, safe_word32_iff, word32_eq_ok, forall_eq', safe_every_iff,
    every_eq_ok, safe_pure, and_true]
  refine ⟨?_, by decide⟩
  intro index below
  omega

theorem walkInitImageBarrier_safe : Safe 40 (walkInitImageBarrier payload) := by
  simp only [walkInitImageBarrier, safe_bind_iff, safe_word32_iff, safe_word64_iff, word32_eq_ok,
    word64_eq_ok, forall_eq', safe_every_iff, safe_pure, implies_true, and_true]
  refine ⟨by decide, by decide, ?_⟩
  intro index below
  refine ⟨by omega, ?_⟩
  intro earlier before
  omega

theorem length_eq_of_valid {opcode : Opcode} {payloadLength : Nat}
    (valid : payloadLengthIsValid opcode.code payload payloadLength = true)
    (fixed : transferOpcodeIsValid opcode.code = false) (plain : opcode ≠ .imageBarrier2)
    (single : opcode ≠ .updateBuffer) : payloadLength = expectedPayloadSize opcode := by
  simp only [payloadLengthIsValid, Opcode.ofCode_code] at valid
  cases opcode
  case imageBarrier2 => exact absurd rfl plain
  case updateBuffer => exact absurd rfl single
  all_goals simpa only [fixed, Bool.not_false, ↓reduceIte, beq_iff_eq] using valid

end Payloads

theorem walkPayload_safe {opcode : UInt16} {payload : Buffer} {payloadLength : Nat}
    (valid : payloadLengthIsValid opcode payload payloadLength = true) :
    Safe payloadLength (walkPayload opcode payload) := by
  simp only [walkPayload]
  cases found : Opcode.ofCode opcode with
  | none => exact safe_pure false
  | some known =>
      obtain rfl := Opcode.code_of_ofCode found
      cases known
      case imageBarrier2 =>
        exact walkImageBarrier2_safe (by simpa only [payloadLengthIsValid, found] using valid)
      case updateBuffer =>
        exact walkUpdateBuffer_safe (by simpa only [payloadLengthIsValid, found] using valid)
      case copyBuffer2 | copyBufferToImage2 | copyImageToBuffer2 | copyImage2 | blitImage2 | resolveImage2 =>
        rw [Command.payloadLengthIsValid_transfer] at valid
        · exact walkTransfer_safe valid
        · rfl
      all_goals obtain rfl := length_eq_of_valid valid rfl (by decide) (by decide)
      case beginRendering => exact walkBeginRendering_safe
      case setViewport => exact walkSetViewport_safe
      case clearColorImageGeneral => exact walkClearColorImageGeneral_safe
      case bindDescriptorSets => exact walkBindDescriptorSets_safe
      case pushConstants => exact walkPushConstants_safe
      case bindVertexBuffers | bindVertexBuffers2 => exact walkBindVertexBuffers_safe
      case dynamicState => exact walkDynamicState_safe
      case clearDepthStencilImage => exact walkClearDepthStencilImage_safe
      case clearAttachments => exact walkClearAttachments_safe
      case initImageBarrier => exact walkInitImageBarrier_safe
      all_goals
        simp [walkBindGraphicsPipeline, walkSetScissor, walkDraw, walkFillBuffer, walkBufferHostReadBarrier,
          walkPushRotation, walkBindIndexBuffer, walkDrawIndexed, walkDrawIndirect, walkDrawIndirectCount,
          walkQuery, walkVulkanBegin, walkClearColorImage, safe_bind_iff, expectedPayloadSize]

/-! ## The decoders -/

structure CommandRecord.Valid (record : CommandRecord) : Prop where
  sized : payloadLengthIsValid record.opcode record.payload record.payloadLength = true
  admitted : validatePayload record.opcode record.payload = true

section Parts

variable {payload : Buffer} {input limit : Nat}

theorem walkImageRange_safe (inside : input + 24 ≤ limit) : Safe limit (walkImageRange payload input) := by
  simp only [walkImageRange, safe_bind_iff, safe_word32_iff, word32_eq_ok, forall_eq', safe_pure, and_true]
  omega

theorem walkTransferLayers_safe (inside : input + 16 ≤ limit) :
    Safe limit (walkTransferLayers payload input) := by
  simp only [walkTransferLayers, safe_bind_iff, safe_word32_iff, word32_eq_ok, forall_eq', safe_pure,
    and_true]
  omega

theorem walkMemoryBarrier2_safe (inside : input + 32 ≤ limit) :
    Safe limit (walkMemoryBarrier2 payload input) := by
  simp only [walkMemoryBarrier2, safe_bind_iff, safe_word64_iff, word64_eq_ok, forall_eq', safe_pure,
    and_true]
  omega

theorem walkBufferBarrier2_safe (inside : input + 64 ≤ limit) :
    Safe limit (walkBufferBarrier2 payload input) := by
  simp only [walkBufferBarrier2, safe_bind_iff, safe_word32_iff, safe_word64_iff, word32_eq_ok, word64_eq_ok,
    forall_eq', safe_pure, and_true]
  omega

theorem walkImageBarrierWire_safe (inside : input + 80 ≤ limit) :
    Safe limit (walkImageBarrierWire payload input) := by
  simp only [walkImageBarrierWire, safe_bind_iff, safe_word32_iff, safe_word64_iff, word32_eq_ok,
    word64_eq_ok, forall_eq', safe_pure, implies_true, and_true]
  have range : Safe limit (walkImageRange payload (input + 56)) := walkImageRange_safe (by omega)
  simp only [range, and_true]
  omega

theorem walkOffset_safe {x y z : Nat} (inside : x + 4 ≤ limit ∧ y + 4 ≤ limit ∧ z + 4 ≤ limit) :
    Safe limit (walkOffset payload x y z) := by
  simp only [walkOffset, safe_bind_iff, safe_word32_iff, word32_eq_ok, forall_eq', safe_pure, and_true]
  exact inside

theorem walkTransferRegion_safe (inside : input + 128 ≤ limit) :
    Safe limit (walkTransferRegion payload input) := by
  have sourceLayers : Safe limit (walkTransferLayers payload (input + 32)) :=
    walkTransferLayers_safe (by omega)
  have destinationLayers : Safe limit (walkTransferLayers payload (input + 48)) :=
    walkTransferLayers_safe (by omega)
  have offsets : ∀ base, base ≤ 88 → ∀ offset, offset < 2 →
      Safe limit (walkOffset payload (input + base + offset * 12) (input + (base + 4) + offset * 12)
        (input + (base + 8) + offset * 12)) := by
    intro base small offset below
    exact walkOffset_safe (by omega)
  have source := offsets 64 (by decide)
  have destination := offsets 88 (by decide)
  simp only [walkTransferRegion, safe_bind_iff, safe_word32_iff, safe_word64_iff, safe_stores_iff,
    word32_eq_ok, word64_eq_ok, stores_eq_ok, forall_eq', sourceLayers, destinationLayers, implies_true,
    safe_pure, true_and, and_true, Nat.le_refl]
  refine ⟨by omega, by omega, by omega, by omega, by omega, ?_⟩
  intro layers found others present
  refine ⟨source, destination, ?_⟩
  omega

theorem walkClearAttachment_safe (inside : input + 24 ≤ limit) :
    Safe limit (walkClearAttachment payload input) := by
  simp only [walkClearAttachment, safe_bind_iff, safe_word32_iff, safe_stores_iff, word32_eq_ok,
    stores_eq_ok, forall_eq', safe_pure, and_true]
  refine ⟨by omega, by omega, by decide, ?_⟩
  intro index below
  omega

theorem walkClearRect_safe (inside : input + 24 ≤ limit) : Safe limit (walkClearRect payload input) := by
  simp only [walkClearRect, safe_bind_iff, safe_word32_iff, word32_eq_ok, forall_eq', safe_pure, and_true]
  omega

end Parts

section Decoders

variable {α : Type} {walk : Buffer → Walk α} {record : CommandRecord} {limit : Nat}

theorem walkFixed_safe {opcode : Opcode}
    (safe : record.opcode = opcode.code → Safe (expectedPayloadSize opcode) (walk record.payload)) :
    Safe record.payloadLength (walkFixed opcode walk record) := by
  refine safe_refuseIf.bind fun _ passed => ?_
  have passed := refuseIf_eq_ok.mp passed
  have same : record.opcode = opcode.code ∧ record.payloadLength = expectedPayloadSize opcode := by
    by_contra other
    exact passed (Decidable.not_and_iff_or_not.mp other)
  rw [same.2]
  exact safe same.1

theorem walkEither_safe {first second : Opcode}
    (safe : record.opcode = first.code ∨ record.opcode = second.code →
      Safe (expectedPayloadSize first) (walk record.payload)) :
    Safe record.payloadLength (walkEither first second walk record) := by
  refine safe_refuseIf.bind fun _ passed => ?_
  have passed := refuseIf_eq_ok.mp passed
  simp only [not_or, not_and, Decidable.not_not] at passed
  rw [passed.2]
  apply safe
  by_cases leading : record.opcode = first.code
  · exact .inl leading
  · exact .inr (passed.1 leading)

theorem walkSized_safe {accepts : UInt16 → Bool} (safe : accepts record.opcode = true →
      payloadLengthIsValid record.opcode record.payload record.payloadLength = true →
      Safe record.payloadLength (walk record.payload)) :
    Safe record.payloadLength (walkSized accepts walk record) := by
  refine safe_refuseIf.bind fun _ known => ?_
  refine (walkPayloadLength_safe _ _ _).bind fun valid found => ?_
  refine safe_refuseIf.bind fun _ passed => ?_
  have sized := walkPayloadLength_value record.opcode record.payload record.payloadLength
  rw [found] at sized
  obtain rfl := Except.ok.inj sized
  exact safe (eq_true_of_ne_false (refuseIf_eq_ok.mp known)) (eq_true_of_ne_false (refuseIf_eq_ok.mp passed))

end Decoders

section Decoded

variable {payload : Buffer}

theorem count_le {count bound : UInt32} (small : ¬count > bound) : count.toNat ≤ bound.toNat :=
  UInt32.le_iff_toNat_le.mp (UInt32.not_lt.mp small)

theorem BeginRenderingCommand.walk_safe (admitted : validateBeginRendering payload = true) :
    Safe 600 (walk payload) := by
  simp only [validateBeginRendering, Bool.and_eq_true, Bool.not_eq_true', Bool.or_eq_false_iff,
    decide_eq_false_iff_not] at admitted
  have few : ¬getU32 payload 28 > 8 := by tauto
  have small : (getU32 payload 28).toNat ≤ 8 := count_le few
  simp only [walk, safe_bind_iff, safe_word32_iff, word32_eq_ok, forall_eq', safe_stores_iff, stores_eq_ok,
    safe_pure, implies_true, and_true]
  refine ⟨by decide, by decide, by decide, walkRenderingAttachment_safe (by decide), fun depth _ => ?_⟩
  refine ⟨walkRenderingAttachment_safe (by decide), fun stencil _ => ?_⟩
  refine ⟨by decide, by decide, by decide, by decide, by decide, by decide, by decide, small, ?_⟩
  intro index below
  exact walkRenderingAttachment_safe (by omega)

theorem InitImageBarrierCommand.walk_safe (admitted : validateInitImageBarrier payload = true) :
    Safe 40 (walk payload) := by
  simp only [validateInitImageBarrier, Bool.and_eq_true, Bool.not_eq_true', Bool.or_eq_false_iff,
    decide_eq_false_iff_not] at admitted
  have small : (getU32 payload 0).toNat ≤ 4 := count_le admitted.1.1.2
  simp only [walk, safe_bind_iff, safe_word32_iff, safe_word64_iff, word32_eq_ok, forall_eq',
    safe_stores_iff, safe_pure, implies_true, and_true]
  refine ⟨by decide, small, ?_⟩
  intro index below
  omega

theorem ClearColorImageGeneralCommand.walk_safe (admitted : validateClearColorImageGeneral payload = true) :
    Safe 128 (walk payload) := by
  simp only [validateClearColorImageGeneral, Bool.and_eq_true, Bool.not_eq_true', Bool.or_eq_false_iff,
    decide_eq_false_iff_not] at admitted
  have small : (getU32 payload 12).toNat ≤ 4 := count_le admitted.1.2
  simp only [walk, safe_bind_iff, safe_word32_iff, safe_word64_iff, word32_eq_ok, word64_eq_ok, forall_eq',
    safe_stores_iff, stores_eq_ok, safe_pure, implies_true, and_true]
  refine ⟨by decide, by decide, by decide, ⟨by decide, ?_⟩, small, ?_⟩
  · intro index below
    omega
  · intro index below
    exact walkImageRange_safe (by omega)

theorem BindDescriptorSetsCommand.walk_safe (admitted : validateBindDescriptorSets payload = true) :
    Safe 216 (walk payload) := by
  simp only [validateBindDescriptorSets, Bool.and_eq_true, Bool.not_eq_true', Bool.or_eq_false_iff,
    decide_eq_false_iff_not] at admitted
  have few : ¬getU32 payload 16 > 8 := by tauto
  have sets : (getU32 payload 16).toNat ≤ 8 := count_le few
  have few : ¬getU32 payload 20 > 32 := by tauto
  have offsets : (getU32 payload 20).toNat ≤ 32 := count_le few
  simp only [walk, safe_bind_iff, safe_word32_iff, safe_word64_iff, word32_eq_ok, word64_eq_ok, forall_eq',
    safe_stores_iff, stores_eq_ok, safe_pure, implies_true, and_true]
  refine ⟨by decide, by decide, by decide, by decide, by decide, ⟨sets, ?_⟩, offsets, ?_⟩
  all_goals
    intro index below
    omega

theorem PushConstantsCommand.walk_safe (admitted : validatePushConstants payload = true) :
    Safe 280 (walk payload) := by
  simp only [validatePushConstants, Bool.and_eq_true, Bool.not_eq_true', Bool.or_eq_false_iff,
    decide_eq_false_iff_not] at admitted
  have few : ¬getU32 payload 16 > 256 := by tauto
  have small : (getU32 payload 16).toNat ≤ 256 := count_le few
  simp only [walk, safe_bind_iff, safe_word32_iff, safe_word64_iff, safe_byte_iff, word32_eq_ok,
    word64_eq_ok, forall_eq', safe_stores_iff, safe_pure, implies_true, and_true]
  refine ⟨by decide, by decide, by decide, by decide, small, ?_⟩
  intro index below
  omega

theorem BindVertexBuffersCommand.walk_safe {opcode : UInt16}
    (admitted : validateBindVertexBuffers opcode payload = true) :
    Safe 528 (walk payload) := by
  simp only [validateBindVertexBuffers, Bool.and_eq_true, Bool.not_eq_true', Bool.or_eq_false_iff,
    decide_eq_false_iff_not] at admitted
  have few : ¬getU32 payload 4 > 16 := by tauto
  have small : (getU32 payload 4).toNat ≤ 16 := count_le few
  simp only [walk, safe_bind_iff, safe_word32_iff, safe_word64_iff, word32_eq_ok, forall_eq',
    safe_stores_iff, stores_eq_ok, safe_pure, implies_true, and_true]
  refine ⟨by decide, by decide, by decide, by decide, ⟨small, ?_⟩, ⟨small, ?_⟩, ⟨small, ?_⟩, small, ?_⟩
  all_goals
    intro index below
    omega

theorem DynamicStateCommand.walk_safe : Safe 40 (walk payload) := by
  simp only [walk, safe_bind_iff, safe_word32_iff, word32_eq_ok, forall_eq', safe_refuseIf, refuseIf_eq_ok,
    safe_stores_iff, safe_pure, implies_true, true_and, and_true]
  refine ⟨by decide, by decide, ?_⟩
  intro _ few
  have small := count_le few
  refine ⟨small, ?_⟩
  intro index below
  have bound : (8 : UInt32).toNat = 8 := rfl
  omega

theorem ClearDepthStencilImageCommand.walk_safe : Safe 120 (walk payload) := by
  simp only [walk, safe_bind_iff, safe_word32_iff, safe_word64_iff, word32_eq_ok, word64_eq_ok, forall_eq',
    safe_refuseIf, refuseIf_eq_ok, safe_stores_iff, safe_pure, implies_true, true_and, and_true]
  refine ⟨by decide, by decide, by decide, by decide, by decide, ?_⟩
  intro _ few
  have small := count_le few
  have bound : (4 : UInt32).toNat = 4 := rfl
  refine ⟨small, ?_⟩
  intro index below
  exact walkImageRange_safe (by omega)

theorem ClearAttachmentsCommand.walk_safe : Safe 392 (walk payload) := by
  simp only [walk, safe_bind_iff, safe_word32_iff, word32_eq_ok, forall_eq', safe_refuseIf, refuseIf_eq_ok,
    safe_stores_iff, stores_eq_ok, safe_pure, implies_true, true_and, and_true, not_or]
  refine ⟨by decide, by decide, ?_⟩
  rintro _ ⟨attachments, rects⟩
  have attachments := count_le attachments
  have rects := count_le rects
  have bound : (8 : UInt32).toNat = 8 := rfl
  refine ⟨⟨attachments, ?_⟩, rects, ?_⟩
  · intro index below
    exact walkClearAttachment_safe (by omega)
  · intro index below
    exact walkClearRect_safe (by omega)

theorem ImageBarrier2Command.walk_safe {payloadLength : Nat}
    (valid : imageBarrier2LengthIsValid payload payloadLength = true) :
    Safe payloadLength (walk payload) := by
  simp only [imageBarrier2LengthIsValid] at valid
  split at valid
  · cases valid
  · simp only [Bool.and_eq_true, decide_eq_true_eq, beq_iff_eq, barrierPayloadSize] at valid
    obtain ⟨⟨⟨memory, buffers⟩, images⟩, size⟩ := valid
    simp only [walk, safe_bind_iff, safe_word32_iff, word32_eq_ok, forall_eq', safe_stores_iff, stores_eq_ok,
      safe_pure, implies_true, and_true]
    refine ⟨by omega, by omega, by omega, by omega, ⟨UInt32.le_iff_toNat_le.mp memory, ?_⟩,
      ⟨UInt32.le_iff_toNat_le.mp buffers, ?_⟩, UInt32.le_iff_toNat_le.mp images, ?_⟩
    · intro index below
      exact walkMemoryBarrier2_safe (by omega)
    · intro index below
      exact walkBufferBarrier2_safe (by omega)
    · intro index below
      exact walkImageBarrierWire_safe (by omega)

theorem TransferCommand.walk_safe {payloadLength : Nat} (valid : transferLengthIsValid payload payloadLength =
    true) :
    Safe payloadLength (walk payload) := by
  simp only [transferLengthIsValid] at valid
  split at valid
  · cases valid
  · simp only [Bool.and_eq_true, decide_eq_true_eq, beq_iff_eq, transferPayloadSize] at valid
    obtain ⟨⟨-, few⟩, size⟩ := valid
    simp only [walk, safe_bind_iff, safe_word32_iff, safe_word64_iff, word32_eq_ok, word64_eq_ok, forall_eq',
      safe_stores_iff, safe_pure, implies_true, and_true]
    refine ⟨by omega, by omega, by omega, by omega, by omega, by omega, UInt32.le_iff_toNat_le.mp few, ?_⟩
    intro index below
    exact walkTransferRegion_safe (by omega)

theorem UpdateBufferCommand.walk_safe {payloadLength : Nat}
    (valid : updateBufferLengthIsValid payload payloadLength = true) :
    Safe payloadLength (walk payload) := by
  simp only [updateBufferLengthIsValid] at valid
  split at valid
  · cases valid
  · simp only [Bool.and_eq_true, decide_eq_true_eq, beq_iff_eq] at valid
    obtain ⟨⟨⟨-, few⟩, -⟩, size⟩ := valid
    simp only [walk, safe_bind_iff, safe_word32_iff, safe_word64_iff, safe_byte_iff, word32_eq_ok,
      word64_eq_ok, forall_eq', safe_stores_iff, safe_pure, implies_true, and_true]
    refine ⟨by omega, by omega, by omega, UInt32.le_iff_toNat_le.mp few, ?_⟩
    intro index below
    omega

end Decoded

theorem CommandDecoder.walk_safe (decoder : CommandDecoder) {record : CommandRecord} (valid : record.Valid) :
    Safe record.payloadLength (decoder.walk record) := by
  obtain ⟨sized, admitted⟩ := valid
  cases decoder
  all_goals apply safe_map_iff.mpr
  case beginRendering =>
    apply walkFixed_safe
    intro same
    exact BeginRenderingCommand.walk_safe
      (by simpa only [same, validatePayload, Opcode.ofCode_code] using admitted)
  case initImageBarrier =>
    apply walkFixed_safe
    intro same
    exact InitImageBarrierCommand.walk_safe
      (by simpa only [same, validatePayload, Opcode.ofCode_code] using admitted)
  case clearColorImageGeneral =>
    apply walkFixed_safe
    intro same
    exact ClearColorImageGeneralCommand.walk_safe
      (by simpa only [same, validatePayload, Opcode.ofCode_code] using admitted)
  case bindDescriptorSets =>
    apply walkFixed_safe
    intro same
    exact BindDescriptorSetsCommand.walk_safe
      (by simpa only [same, validatePayload, Opcode.ofCode_code] using admitted)
  case pushConstants =>
    apply walkFixed_safe
    intro same
    exact PushConstantsCommand.walk_safe
      (by simpa only [same, validatePayload, Opcode.ofCode_code] using admitted)
  case bindVertexBuffers =>
    apply walkEither_safe
    rintro (same | same)
    · exact BindVertexBuffersCommand.walk_safe
        (by simpa only [same, validatePayload, Opcode.ofCode_code] using admitted)
    · exact BindVertexBuffersCommand.walk_safe
        (by simpa only [same, validatePayload, Opcode.ofCode_code] using admitted)
  case dynamicState => exact walkFixed_safe fun _ => DynamicStateCommand.walk_safe
  case clearDepthStencilImage => exact walkFixed_safe fun _ => ClearDepthStencilImageCommand.walk_safe
  case clearAttachments => exact walkFixed_safe fun _ => ClearAttachmentsCommand.walk_safe
  case imageBarrier2 =>
    apply walkSized_safe
    intro same sized
    rw [beq_iff_eq.mp same] at sized
    exact ImageBarrier2Command.walk_safe
      (by simpa only [payloadLengthIsValid, Opcode.ofCode_code] using sized)
  case updateBuffer =>
    apply walkSized_safe
    intro same sized
    rw [beq_iff_eq.mp same] at sized
    exact UpdateBufferCommand.walk_safe (by simpa only [payloadLengthIsValid, Opcode.ofCode_code] using sized)
  case transfer =>
    apply walkSized_safe
    intro known sized
    rw [Command.payloadLengthIsValid_transfer known] at sized
    exact TransferCommand.walk_safe sized
  case query =>
    refine Safe.bind (walkFixed_safe fun _ => ?_) fun command _ => (walkPayload_safe sized).bind fun _ _ => ?_
    · simp [QueryCommand.walk, safe_bind_iff, expectedPayloadSize]
    · simp only [safe_bind_iff, safe_refuseIf, safe_pure, implies_true, and_self]
  case bindIndexBuffer | drawIndirect | drawIndirectCount =>
    apply walkEither_safe
    simp [BindIndexBufferCommand.walk, DrawIndirectCommand.walk, DrawIndirectCountCommand.walk,
      safe_bind_iff, expectedPayloadSize]
  all_goals
    apply walkFixed_safe
    simp [BindGraphicsPipelineCommand.walk, PushRotationCommand.walk, SetViewportCommand.walk,
      SetScissorCommand.walk, DrawCommand.walk, FillBufferCommand.walk, BufferHostReadBarrierCommand.walk,
      VulkanBeginCommand.walk, ClearColorImageCommand.walk, DrawIndexedCommand.walk, safe_bind_iff,
      expectedPayloadSize]

def walkRecords (bytes : Buffer) (length : Nat) : Nat → Nat → Walk Nat
  | 0, offset => return offset
  | remaining + 1, offset => do
      refuseIf (offset > length ∨ length - offset < 8) .eproto
      let opcode ← word16 bytes offset
      let flags ← word16 bytes (offset + 2)
      let payloadLength ← word32 bytes (offset + 4)
      let payload := window bytes (offset + 8) payloadLength.toNat
      refuseIf (flags ≠ 0 ∨ Opcode.ofCode opcode = none ∨ payloadLength.toNat > length - offset - 8) .eproto
      let sized ← (walkPayloadLength opcode payload payloadLength.toNat).shifted (offset + 8)
      refuseIf (sized = false) .eproto
      let admitted ← (walkPayload opcode payload).shifted (offset + 8)
      refuseIf (admitted = false) .eproto
      walkRecords bytes length remaining (offset + (8 + payloadLength.toNat))

def walkBatch (bytes : Buffer) (length : Nat) : Walk CommandBatchInfo := do
  refuseIf (length < 32 ∨ length > commandBatchMaxBytes) .einval
  let byteLength ← word32 bytes 8
  let commandCount ← word32 bytes 12
  let commandBufferId ← word64 bytes 16
  let sequence ← word64 bytes 24
  let magic ← word32 bytes 0
  let version ← word16 bytes 4
  let reserved ← word16 bytes 6
  refuseIf (magic ≠ commandBatchMagic ∨ version ≠ commandBatchVersion ∨ reserved ≠ 0 ∨
    byteLength.toNat ≠ length ∨ commandCount = 0 ∨ commandCount.toNat > commandBatchMaxCommands ∨
    handleExpect commandBufferId .commandBuffer = false ∨ sequence = 0) .eproto
  let final ← walkRecords bytes length commandCount.toNat 32
  refuseIf (final ≠ length) .eproto
  return ⟨commandBufferId, sequence, commandCount, byteLength⟩

theorem walkRecords_value (bytes : Buffer) (length remaining offset : Nat) :
    (walkRecords bytes length remaining offset).value =
      match validateRecords bytes length remaining offset with
      | some final => .ok final
      | none => .error .eproto := by
  induction remaining generalizing offset with
  | zero => rfl
  | succ remaining ih =>
      have sized := walkPayloadLength_value (recordAt bytes offset).opcode (recordAt bytes offset).payload
        (recordAt bytes offset).payloadLength
      have admitted := walkPayload_value (recordAt bytes offset).opcode (recordAt bytes offset).payload
      simp only [validateRecords, Bool.or_eq_true, decide_eq_true_eq, bne_iff_ne, Option.isNone_iff_eq_none,
        Bool.not_eq_true']
      by_cases short : offset > length ∨ length - offset < 8
      · rw [if_pos short]
        exact refuse_stops short
      · rw [if_neg short]
        refine (refuse_passes short).trans ?_
        by_cases odd : (getU16 bytes (offset + 2) ≠ 0 ∨ Opcode.ofCode (recordAt bytes offset).opcode = none) ∨
            (recordAt bytes offset).payloadLength > length - offset - 8
        · rw [if_pos odd]
          exact refuse_stops (or_assoc.mp odd)
        · rw [if_neg odd]
          refine (refuse_passes fun wrong => odd (or_assoc.mpr wrong)).trans ?_
          refine (bind_value (shifted_value sized)).trans ?_
          by_cases unsized : payloadLengthIsValid (recordAt bytes offset).opcode
              (recordAt bytes offset).payload (recordAt bytes offset).payloadLength = false
          · rw [if_pos (.inl unsized)]
            exact refuse_stops unsized
          · refine (refuse_passes unsized).trans ?_
            refine (bind_value (shifted_value admitted)).trans ?_
            by_cases refused :
                validatePayload (recordAt bytes offset).opcode (recordAt bytes offset).payload = false
            · rw [if_pos (.inr refused)]
              exact refuse_stops refused
            · rw [if_neg (not_or.mpr ⟨unsized, refused⟩)]
              exact (refuse_passes refused).trans (ih _)

theorem walkBatch_value (bytes : Buffer) (length : Nat) :
    (walkBatch bytes length).value = commandBatchValidate bytes length := by
  simp only [commandBatchValidate]
  by_cases misfit : length < 32 ∨ length > commandBatchMaxBytes
  · rw [if_pos misfit]
    exact refuse_stops misfit
  · rw [if_neg misfit]
    refine (refuse_passes misfit).trans ?_
    by_cases odd : getU32 bytes 0 ≠ commandBatchMagic ∨ getU16 bytes 4 ≠ commandBatchVersion ∨
        getU16 bytes 6 ≠ 0 ∨ (getU32 bytes 8).toNat ≠ length ∨ getU32 bytes 12 = 0 ∨
        (getU32 bytes 12).toNat > commandBatchMaxCommands ∨
        handleExpect (getU64 bytes 16) .commandBuffer = false ∨ getU64 bytes 24 = 0
    · rw [if_pos odd]
      exact refuse_stops odd
    · rw [if_neg odd]
      refine (refuse_passes odd).trans ?_
      have records := walkRecords_value bytes length (getU32 bytes 12).toNat 32
      cases walked : validateRecords bytes length (getU32 bytes 12).toNat 32 with
      | none =>
          rw [walked] at records
          rw [if_pos (by simp only [ne_eq, reduceCtorEq, not_false_eq_true])]
          exact bind_error records
      | some final =>
          rw [walked] at records
          refine (bind_value records).trans ?_
          by_cases early : final ≠ length
          · rw [if_pos (fun same => early (Option.some.inj same))]
            exact refuse_stops early
          · rw [if_neg (fun other => other (congrArg some (not_not.mp early)))]
            exact refuse_passes early

theorem walkRecords_safe (bytes : Buffer) (length remaining offset : Nat) :
    Safe length (walkRecords bytes length remaining offset) := by
  induction remaining generalizing offset with
  | zero => exact safe_pure offset
  | succ remaining ih =>
      refine safe_refuseIf.bind fun _ room => ?_
      have room := refuseIf_eq_ok.mp room
      refine (safe_word16_iff.mpr (by omega)).bind fun opcode _ => ?_
      refine (safe_word16_iff.mpr (by omega)).bind fun flags _ => ?_
      refine (safe_word32_iff.mpr (by omega)).bind fun payloadLength _ => ?_
      refine safe_refuseIf.bind fun _ shape => ?_
      have shape := refuseIf_eq_ok.mp shape
      have fits : offset + 8 + payloadLength.toNat ≤ length := by
        simp only [not_or] at shape
        omega
      refine (shifted_safe (walkPayloadLength_safe _ _ _) fits).bind fun sized found => ?_
      refine safe_refuseIf.bind fun _ valid => ?_
      have valid := eq_true_of_ne_false (refuseIf_eq_ok.mp valid)
      have sized := (walkPayloadLength_value _ _ _).symm.trans found
      rw [valid] at sized
      refine (shifted_safe (walkPayload_safe (Except.ok.inj sized)) fits).bind fun admitted _ => ?_
      exact safe_refuseIf.bind fun _ _ => ih _

theorem walkBatch_safe (bytes : Buffer) (length : Nat) : Safe length (walkBatch bytes length) := by
  refine safe_refuseIf.bind fun _ long => ?_
  have long := refuseIf_eq_ok.mp long
  refine (safe_word32_iff.mpr (by omega)).bind fun byteLength _ => ?_
  refine (safe_word32_iff.mpr (by omega)).bind fun commandCount _ => ?_
  refine (safe_word64_iff.mpr (by omega)).bind fun commandBufferId _ => ?_
  refine (safe_word64_iff.mpr (by omega)).bind fun sequence _ => ?_
  refine (safe_word32_iff.mpr (by omega)).bind fun magic _ => ?_
  refine (safe_word16_iff.mpr (by omega)).bind fun version _ => ?_
  refine (safe_word16_iff.mpr (by omega)).bind fun reserved _ => ?_
  refine safe_refuseIf.bind fun _ _ => ?_
  refine (walkRecords_safe _ _ _ _).bind fun final _ => ?_
  exact safe_refuseIf.bind fun _ _ => safe_pure _

/-! ## The iterator -/

namespace CommandBatchIterator

/-- One call of `next` and the iterator it leaves. -/
def call (iterator : CommandBatchIterator) : Except Errno (Option CommandRecord) × CommandBatchIterator :=
  match iterator.next with
  | .error code => (.error code, iterator)
  | .ok none => (.ok none, iterator)
  | .ok (some (record, rest)) => (.ok (some record), rest)

/-- The iterator after so many calls. -/
def after : Nat → CommandBatchIterator → CommandBatchIterator
  | 0, iterator => iterator
  | calls + 1, iterator => (after calls iterator).call.2

/-- What is left of an accepted batch. -/
def Accepted (iterator : CommandBatchIterator) : Prop :=
  validateRecords iterator.bytes iterator.length iterator.remaining iterator.offset = some iterator.length

variable {iterator : CommandBatchIterator}

theorem Accepted.finished (accepted : iterator.Accepted) (empty : iterator.remaining = 0) :
    iterator.offset = iterator.length := by
  rw [Accepted, empty] at accepted
  exact Option.some.inj accepted

theorem Accepted.call_none (accepted : iterator.Accepted) (empty : iterator.remaining = 0) :
    iterator.call = (.ok none, iterator) := by
  have atEnd := accepted.finished empty
  simp only [call, next, atEnd, empty, gt_iff_lt, Nat.lt_irrefl, if_false, if_true]

theorem Accepted.call_some (accepted : iterator.Accepted) (pending : iterator.remaining ≠ 0) :
    ∃ record, record = recordAt iterator.bytes iterator.offset ∧ record.Valid ∧
      iterator.offset + 8 + record.payloadLength ≤ iterator.length ∧
      iterator.call = (.ok (some record), { iterator with
        offset := iterator.offset + (8 + record.payloadLength), remaining := iterator.remaining - 1 }) ∧
      iterator.call.2.Accepted := by
  obtain ⟨rest, count⟩ := Nat.exists_eq_succ_of_ne_zero pending
  rw [Accepted, count] at accepted
  simp only [validateRecords] at accepted
  split at accepted
  · contradiction
  · rename_i room
    split at accepted
    · contradiction
    · rename_i shape
      split at accepted
      · contradiction
      · rename_i checks
        simp only [Bool.or_eq_true, decide_eq_true_eq, not_or] at room
        simp only [Bool.or_eq_true, not_or, decide_eq_true_eq] at shape
        simp only [Bool.or_eq_true, Bool.not_eq_true', not_or, Bool.not_eq_false] at checks
        have called : iterator.call = (.ok (some (recordAt iterator.bytes iterator.offset)), { iterator with
            offset := iterator.offset + (8 + (recordAt iterator.bytes iterator.offset).payloadLength)
            remaining := iterator.remaining - 1 }) := by
          simp only [call, next, if_neg room.1, if_neg pending]
        refine ⟨_, rfl, ⟨checks.1, checks.2⟩, by omega, called, ?_⟩
        rw [called, Accepted]
        simp only [count, Nat.succ_eq_add_one, Nat.add_sub_cancel]
        exact accepted

theorem Accepted.call (accepted : iterator.Accepted) : iterator.call.2.Accepted ∧
    iterator.call.2.bytes = iterator.bytes ∧ iterator.call.2.length = iterator.length ∧
    iterator.call.2.remaining = iterator.remaining - 1 := by
  by_cases empty : iterator.remaining = 0
  · rw [accepted.call_none empty]
    refine ⟨accepted, rfl, rfl, ?_⟩
    rw [empty]
  · obtain ⟨record, -, -, -, called, next⟩ := accepted.call_some empty
    refine ⟨next, ?_⟩
    rw [called]
    exact ⟨rfl, rfl, rfl⟩

theorem Accepted.after (accepted : iterator.Accepted) (calls : Nat) : (iterator.after calls).Accepted ∧
    (iterator.after calls).bytes = iterator.bytes ∧ (iterator.after calls).length = iterator.length ∧
    (iterator.after calls).remaining = iterator.remaining - calls := by
  induction calls with
  | zero => exact ⟨accepted, rfl, rfl, rfl⟩
  | succ calls ih =>
      obtain ⟨earlier, bytes, length, left⟩ := ih
      obtain ⟨later, sameBytes, sameLength, fewer⟩ := earlier.call
      refine ⟨later, sameBytes.trans bytes, sameLength.trans length, ?_⟩
      show ((iterator.after calls).call.2).remaining = _
      omega

end CommandBatchIterator

theorem commandBatchValidate_count {bytes : Buffer} {length : Nat} {info : CommandBatchInfo}
    (accepted : commandBatchValidate bytes length = .ok info) :
    validateRecords bytes length info.commandCount.toNat 32 = some length := by
  simp only [commandBatchValidate] at accepted
  split at accepted
  · cases accepted
  · split at accepted
    · cases accepted
    · split at accepted
      · cases accepted
      · rename_i records
        obtain rfl := Except.ok.inj accepted
        exact not_not.mp records

/-- A call of `next` answers with a record of the batch, and every decoder stays inside it. -/
structure CommandBatchIterator.Yields (iterator : CommandBatchIterator) (record : CommandRecord) : Prop where
  answered : iterator.call.1 = .ok (some record)
  inside : iterator.offset + 8 + record.payloadLength ≤ iterator.length
  payload : record.payload = window iterator.bytes (iterator.offset + 8) record.payloadLength
  decoders : ∀ decoder : CommandDecoder, (decoder.walk record).value = decoder.decode record ∧
    Safe record.payloadLength (decoder.walk record)

/-- The iterator after some calls on a batch of `count` records. -/
structure CommandBatchIterator.Parses (bytes : Buffer) (length count calls : Nat)
    (iterator : CommandBatchIterator) : Prop where
  sameBytes : iterator.bytes = bytes
  sameLength : iterator.length = length
  bounded : iterator.offset ≤ length
  records : calls < count → ∃ record, iterator.Yields record
  finished : count ≤ calls → iterator.call.1 = .ok none ∧ iterator.offset = length

theorem CommandBatchIterator.Accepted.parses {start : CommandBatchIterator} (accepted : start.Accepted)
    (calls : Nat) : (start.after calls).Parses start.bytes start.length start.remaining calls := by
  obtain ⟨here, sameBytes, sameLength, left⟩ := accepted.after calls
  by_cases done : start.remaining ≤ calls
  · have empty : (start.after calls).remaining = 0 := by omega
    have atEnd := here.finished empty
    refine ⟨sameBytes, sameLength, by omega, fun more => absurd more (by omega), fun _ => ⟨?_, by omega⟩⟩
    rw [here.call_none empty]
  · obtain ⟨record, found, valid, inside, called, -⟩ := here.call_some (by omega)
    refine ⟨sameBytes, sameLength, by omega, fun _ => ⟨record, ?_, inside, ?_, ?_⟩,
      fun ended => absurd ended done⟩
    · rw [called]
    · rw [found]
      rfl
    · intro decoder
      exact ⟨decoder.walk_value record, decoder.walk_safe valid⟩

theorem parsing_stays_inside (bytes : Buffer) (length : Nat) :
    (walkBatch bytes length).value = commandBatchValidate bytes length ∧
      Safe length (walkBatch bytes length) ∧
      ∀ info, commandBatchValidate bytes length = .ok info →
        ∃ start, CommandBatchIterator.init bytes length = .ok start ∧
          ∀ calls, (start.after calls).Parses bytes length info.commandCount.toNat calls := by
  refine ⟨walkBatch_value bytes length, walkBatch_safe bytes length, ?_⟩
  intro info valid
  have accepted : CommandBatchIterator.Accepted ⟨bytes, length, 32, info.commandCount.toNat⟩ :=
    commandBatchValidate_count valid
  refine ⟨_, ?_, accepted.parses⟩
  simp only [CommandBatchIterator.init, valid]

end VulkanBridge
