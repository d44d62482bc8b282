import Mathlib.Tactic.Common

/-!
Wire handles: 64-bit ids whose top byte is the object type and whose low 56
bits are a nonzero serial, and the error codes the C functions return negated.
-/

namespace VulkanBridge

inductive Errno where
  | einval
  | eproto
  | enospc
  | eexist
  | enoent
  | eoverflow
  | eremoteio
  | estale
  | enotconn
  | eacces
  | enosys
  | eio
  | ebusy
  | etimedout
  | eagain
  | erange
  | enodev
  | enomem
  | e2big
  | enotsup
  | ealready
  | ecanceled
  | enxio
  | eperm
  | emsgsize
  | epipe
  | edeadlk
  deriving DecidableEq, Repr

/-- A `VkResult`. -/
abbrev VulkanResult := Int32

def vkSuccess : VulkanResult := 0
def vkErrorInitializationFailed : VulkanResult := -3
def vkErrorFeatureNotPresent : VulkanResult := -8

inductive ObjectType where
  | invalid
  | inst
  | physicalDevice
  | device
  | queue
  | surface
  | swapchain
  | image
  | imageView
  | deviceMemory
  | commandPool
  | commandBuffer
  | shaderModule
  | renderPass
  | framebuffer
  | pipelineLayout
  | pipeline
  | semaphore
  | fence
  | buffer
  | descriptorSetLayout
  | descriptorPool
  | descriptorSet
  | sampler
  | descriptorUpdateTemplate
  | queryPool
  deriving DecidableEq, Repr

def ObjectType.all : List ObjectType :=
  [.invalid, .inst, .physicalDevice, .device, .queue, .surface, .swapchain, .image, .imageView,
    .deviceMemory, .commandPool, .commandBuffer, .shaderModule, .renderPass, .framebuffer,
    .pipelineLayout, .pipeline, .semaphore, .fence, .buffer, .descriptorSetLayout, .descriptorPool,
    .descriptorSet, .sampler, .descriptorUpdateTemplate, .queryPool]

/-- The value of the enumerator. -/
def ObjectType.code (type : ObjectType) : UInt64 := UInt64.ofNat (ObjectType.all.idxOf type)

def handleSerialMask : UInt64 := 0x00ffffffffffffff

def handleType (wireId : UInt64) : ObjectType :=
  ObjectType.all.getD (wireId >>> 56).toNat .invalid

def handleSerial (wireId : UInt64) : UInt64 := wireId &&& handleSerialMask

/-- `true` where the C function returns 0; its only other result is `-EINVAL`. -/
def handleExpect (wireId : UInt64) (expected : ObjectType) : Bool :=
  expected != .invalid && handleType wireId == expected && handleSerial wireId != 0

/-- The id of a serial, 0 when it does not fit. -/
def handleId (type : ObjectType) (serial : UInt64) : UInt64 :=
  if type = .invalid ∨ serial = 0 ∨ handleSerialMask < serial then 0 else type.code <<< 56 ||| serial

def handleIsWellFormed (wireId : UInt64) : Bool :=
  handleType wireId != .invalid && handleSerial wireId != 0

theorem handleExpect_iff (wireId : UInt64) (expected : ObjectType) :
    handleExpect wireId expected = true ↔
      handleIsWellFormed wireId = true ∧ handleType wireId = expected := by
  simp only [handleExpect, handleIsWellFormed, Bool.and_eq_true, bne_iff_ne, beq_iff_eq]
  constructor
  · rintro ⟨⟨valid, rfl⟩, serial⟩
    exact ⟨⟨valid, serial⟩, rfl⟩
  · rintro ⟨⟨valid, serial⟩, rfl⟩
    exact ⟨⟨valid, rfl⟩, serial⟩

theorem handleType_zero : handleType 0 = .invalid := by decide

theorem handleIsWellFormed_ne_zero {wireId : UInt64} (formed : handleIsWellFormed wireId = true) :
    wireId ≠ 0 := by
  rintro rfl
  revert formed
  decide

theorem handleType_handleId {type : ObjectType} {serial : UInt64} (some : handleId type serial ≠ 0) :
    handleType (handleId type serial) = type := by
  by_cases refused : type = .invalid ∨ serial = 0 ∨ handleSerialMask < serial
  · simp [handleId, refused] at some
  · have small : serial.toNat < 2 ^ 56 := by
      have bound : ¬ handleSerialMask.toNat < serial.toNat := fun large => refused (Or.inr (Or.inr large))
      have mask : handleSerialMask.toNat = 2 ^ 56 - 1 := by decide
      omega
    have shifted : (type.code <<< 56 ||| serial) >>> 56 = type.code := by
      have low : serial >>> 56 = 0 := by
        apply UInt64.toNat.inj
        exact (Nat.shiftRight_eq_div_pow serial.toNat 56).trans (Nat.div_eq_of_lt small)
      rw [UInt64.shiftRight_or, low]
      cases type <;> decide
    rw [handleId, if_neg refused, handleType, shifted]
    cases type <;> decide

theorem handleExpect_ne_zero {wireId : UInt64} {expected : ObjectType}
    (expects : handleExpect wireId expected = true) : wireId ≠ 0 := by
  rintro rfl
  have wellFormed := ((handleExpect_iff 0 expected).mp expects).1
  revert wellFormed
  decide

end VulkanBridge
