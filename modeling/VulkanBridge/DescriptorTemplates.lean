import VulkanBridge.ContextChanges
import VulkanBridge.DescriptorWire
import VulkanBridge.Placements
import VulkanBridge.Runs
import Mathlib.Order.Bounds.Basic

/-!
Descriptor update templates of a service context: what a create function accepts,
and the update that lays the values of a request out in the data the driver reads.
-/

namespace VulkanBridge

open ByteBuffer

/-- The contents of a slot of `descriptor_template_metadata`. -/
structure DescriptorTemplate where
  deviceId : UInt64
  entryCount : UInt32
  entries : Fin 32 → DescriptorUpdateTemplateEntry

/-- A service context with the contents of its template slots; the ids of the slots
are in `context.metadata`. The contents of a free slot are not read. -/
structure TemplateContext where
  context : ObjectContext
  templates : Nat → DescriptorTemplate

/-- What an update meets: the devices that have the update function, whether the data
could be allocated, and what is in the padding at the end of an image info. -/
structure TemplateDriver where
  objects : ObjectDriver
  updates : UInt64 → Bool
  allocates : Bool
  padding : UInt32

def maxDescriptorTemplateValues : UInt32 := 64

/-- `descriptor_template_data_size` -/
def descriptorTemplateDataSize (descriptorType : UInt32) : UInt64 :=
  match descriptorType.toNat with
  | 0 | 1 | 2 | 3 | 10 => 24
  | 4 | 5 => 8
  | 6 | 7 | 8 | 9 => 24
  | _ => 0

def coreDescriptorTypeSupported (descriptorType : UInt32) : Bool := decide (descriptorType ≤ 10)

/-- The checks of `create_descriptor_update_template` on one entry. -/
def templateEntryIsSupported (wire : DescriptorUpdateTemplateEntry) : Bool :=
  let valueSize := descriptorTemplateDataSize wire.descriptorType
  !(!coreDescriptorTypeSupported wire.descriptorType || valueSize == 0 || wire.descriptorCount == 0 ||
    decide (wire.descriptorCount > 1048576) || wire.stride == 0 || decide (wire.offset ≥ maxTemplateDataSize) ||
    decide (wire.offset > maxTemplateDataSize - valueSize) || decide (wire.stride > maxTemplateDataSize) ||
    decide ((wire.descriptorCount - 1).toUInt64 > (maxTemplateDataSize - valueSize - wire.offset) / wire.stride))

namespace DescriptorUpdateTemplateCreateRequest

variable (request : DescriptorUpdateTemplateCreateRequest)

def fieldsVerdict : Verdict :=
  if request.flags != 0 || request.entryCount == 0 || decide (request.entryCount > 32) ||
      request.templateType != 0 || request.set != 0 || request.pipelineLayoutId != 0 ||
      request.pipelineBindPoint != 0 then
    some (.ok vkErrorFeatureNotPresent)
  else none

def entriesVerdict : Verdict :=
  if (List.range request.entryCount.toNat).all fun index => templateEntryIsSupported (slot request.entries index) then
    none
  else some (.ok vkErrorFeatureNotPresent)

end DescriptorUpdateTemplateCreateRequest

namespace TemplateContext

variable (system : TemplateContext) (driver : TemplateDriver)

/-- `bvb_vulkan_global_context_create_descriptor_update_template`: the object, and the
contents of the slot it took. -/
def createDescriptorUpdateTemplate (request : DescriptorUpdateTemplateCreateRequest) (native : NativeAnswer) :
    Except Errno ObjectReply × TemplateContext :=
  let (reply, next) := system.context.createDescriptorUpdateTemplate driver.objects request.deviceId
    request.descriptorSetLayoutId request.fieldsVerdict request.entriesVerdict native
  match reply, system.context.slotOf .descriptorUpdateTemplate 0 with
  | .ok ⟨_, _ :: _⟩, some slot =>
      (reply,
        { context := next
          templates := Function.update system.templates slot ⟨request.deviceId, request.entryCount, request.entries⟩ })
  | _, _ => (reply, { system with context := next })

end TemplateContext

/-- One `VkDescriptorImageInfo`, `VkBufferView` or `VkDescriptorBufferInfo`. -/
inductive DescriptorInfo where
  | image (sampler imageView : UInt64) (imageLayout : UInt32)
  | texelBuffer
  | buffer (handle offset range : UInt64)
  deriving DecidableEq, Repr

namespace DescriptorInfo

def size : DescriptorInfo → Nat
  | image .. => 24
  | texelBuffer => 8
  | buffer .. => 24

/-- The bytes of the structure. -/
def bytes (padding : UInt32) : DescriptorInfo → Buffer
  | image sampler imageView imageLayout =>
      putU32 (putU32 (putU64 (putU64 zeroed 0 sampler) 8 imageView) 16 imageLayout) 20 padding
  | texelBuffer => zeroed
  | buffer handle offset range => putU64 (putU64 (putU64 zeroed 0 handle) 8 offset) 16 range

end DescriptorInfo

def resolveNullable (objects : HandleTable) (deviceId wireId : UInt64) (type : ObjectType) : Except Errno UInt64 :=
  if wireId = 0 then .ok 0
  else
    match objects.lookup wireId type with
    | .error code => .error code
    | .ok (ownerId, bits) => if ownerId ≠ deviceId then .error .eproto else .ok bits

/-- `descriptor_template_resolve_image_view` -/
def resolveTemplateImageView (objects : HandleTable) (deviceId imageViewId : UInt64) : Except Errno UInt64 :=
  if imageViewId = 0 then .ok 0
  else
    match objects.lookup imageViewId .imageView with
    | .error code => .error code
    | .ok (imageId, viewBits) =>
        match objects.lookup imageId .image with
        | .error code => .error code
        | .ok (imageDeviceId, _) => if imageDeviceId ≠ deviceId then .error .eproto else .ok viewBits

def translateTemplateValue (objects : HandleTable) (deviceId : UInt64) (descriptorType : UInt32)
    (value : DescriptorTemplateValue) : Except Errno DescriptorInfo :=
  if value.descriptorType ≠ descriptorType then .error .eproto
  else
    match descriptorType.toNat with
    | 0 =>
        if value.auxiliaryObjectId ≠ 0 then .error .eproto
        else do
          let sampler ← resolveNullable objects deviceId value.objectId .sampler
          return .image sampler 0 value.imageLayout
    | 1 | 2 | 3 | 10 => do
        let sampler ← resolveNullable objects deviceId value.auxiliaryObjectId .sampler
        let imageView ← resolveTemplateImageView objects deviceId value.objectId
        return .image sampler imageView value.imageLayout
    | 4 | 5 => if value.objectId ≠ 0 then .error .enotsup else .ok .texelBuffer
    | 6 | 7 | 8 | 9 => do
        let buffer ← resolveNullable objects deviceId value.objectId .buffer
        return .buffer buffer value.offset value.range
    | _ => .error .enotsup

namespace DescriptorTemplate

def entryList (template : DescriptorTemplate) : List DescriptorUpdateTemplateEntry :=
  (List.range template.entryCount.toNat).map (slot template.entries)

def descriptors (template : DescriptorTemplate) : List (DescriptorUpdateTemplateEntry × Nat) :=
  template.entryList.flatMap fun entry => (List.range entry.descriptorCount.toNat).map fun index => (entry, index)

end DescriptorTemplate

def measureTemplateEntry (measured : UInt32 × UInt64) (entry : DescriptorUpdateTemplateEntry) :
    Except Errno (UInt32 × UInt64) :=
  if entry.descriptorCount > maxDescriptorTemplateValues - measured.1 then .error .e2big
  else
    let valueSize := descriptorTemplateDataSize entry.descriptorType
    let last := entry.offset + (entry.descriptorCount - 1).toUInt64 * entry.stride + valueSize
    if valueSize = 0 ∨ last > maxTemplateDataSize then .error .eproto
    else .ok (measured.1 + entry.descriptorCount, if last > measured.2 then last else measured.2)

def measureTemplate (template : DescriptorTemplate) : Except Errno (UInt32 × UInt64) :=
  template.entryList.foldlM measureTemplateEntry (0, 0)

def templateDestination (entry : DescriptorUpdateTemplateEntry) (index : Nat) : Nat :=
  (entry.offset + UInt64.ofNat index * entry.stride).toNat

/-- The loop over the descriptors from the value `index` on, with the writes before it. -/
def placeTemplateValues (translate : UInt32 → DescriptorTemplateValue → Except Errno DescriptorInfo)
    (padding : UInt32) (values : Fin 64 → DescriptorTemplateValue) :
    List (DescriptorUpdateTemplateEntry × Nat) → Nat → List Placement → Except Errno Unit × List Placement
  | [], _, writes => (.ok (), writes)
  | (entry, descriptor) :: rest, index, writes =>
      match translate entry.descriptorType (slot values index) with
      | .error code => (.error code, writes)
      | .ok info =>
          placeTemplateValues translate padding values rest (index + 1)
            (writes ++ [⟨templateDestination entry descriptor, info.size, info.bytes padding⟩])

/-- A call of `vkUpdateDescriptorSetWithTemplate`. -/
structure NativeTemplateUpdate where
  device : UInt64
  set : UInt64
  template : UInt64
  data : Buffer

/-- What an update did: the writes to its data of `dataSize` bytes and the native calls. -/
structure TemplateOutcome where
  reply : Except Errno Unit
  dataSize : Nat
  writes : List Placement
  native : List NativeTemplateUpdate

def TemplateOutcome.refused (code : Errno) : TemplateOutcome := ⟨.error code, 0, [], []⟩

structure TemplateTarget where
  device : UInt64
  set : UInt64
  template : UInt64
  metadata : DescriptorTemplate

namespace TemplateContext

variable (system : TemplateContext) (driver : TemplateDriver)

def resolveTemplateTarget (request : DescriptorTemplateUpdateRequest) : Except Errno TemplateTarget := do
  let objects := system.context.objects
  let (_, device) ← objects.lookup request.deviceId .device
  let (poolId, set) ← objects.lookup request.descriptorSetId .descriptorSet
  let (poolDeviceId, _) ← objects.lookup poolId .descriptorPool
  let (templateDeviceId, template) ←
    objects.lookup request.descriptorUpdateTemplateId .descriptorUpdateTemplate
  if poolDeviceId ≠ request.deviceId ∨ templateDeviceId ≠ request.deviceId then .error .eproto
  else
    match system.context.slotOf .descriptorUpdateTemplate request.descriptorUpdateTemplateId with
    | none => .error .eproto
    | some slot =>
        if system.context.metadata .descriptorUpdateTemplate slot ≠ request.descriptorUpdateTemplateId ∨
            (system.templates slot).deviceId ≠ request.deviceId then .error .eproto
        else .ok ⟨device, set, template, system.templates slot⟩

/-- `bvb_vulkan_global_context_update_descriptor_set_with_template` -/
def updateDescriptorSetWithTemplate (request : DescriptorTemplateUpdateRequest) : TemplateOutcome :=
  match system.resolveTemplateTarget request with
  | .error code => .refused code
  | .ok target =>
      match measureTemplate target.metadata with
      | .error code => .refused code
      | .ok (expectedValues, dataSize) =>
          if request.valueCount ≠ expectedValues then .refused .eproto
          else if !driver.allocates then .refused .enomem
          else
            match placeTemplateValues (translateTemplateValue system.context.objects request.deviceId) driver.padding
                request.values target.metadata.descriptors 0 [] with
            | (.error code, writes) => ⟨.error code, dataSize.toNat, writes, []⟩
            | (.ok _, writes) =>
                if !driver.updates target.device then ⟨.error .enosys, dataSize.toNat, writes, []⟩
                else
                  ⟨.ok (), dataSize.toNat, writes,
                    [⟨target.device, target.set, target.template, Placement.writeAll zeroed writes⟩]⟩

end TemplateContext

/-- What a supported entry promises: its last structure ends inside the largest data. -/
structure EntryFits (entry : DescriptorUpdateTemplateEntry) : Prop where
  sized : 0 < (descriptorTemplateDataSize entry.descriptorType).toNat
  small : (descriptorTemplateDataSize entry.descriptorType).toNat ≤ 24
  counted : 0 < entry.descriptorCount.toNat
  inside : entry.offset.toNat + (entry.descriptorCount.toNat - 1) * entry.stride.toNat +
    (descriptorTemplateDataSize entry.descriptorType).toNat ≤ 1048576

theorem descriptorTemplateDataSize_small (descriptorType : UInt32) :
    (descriptorTemplateDataSize descriptorType).toNat ≤ 24 := by
  unfold descriptorTemplateDataSize
  split <;> decide

theorem templateEntryIsSupported_fits {entry : DescriptorUpdateTemplateEntry}
    (supported : templateEntryIsSupported entry = true) : EntryFits entry := by
  have small := descriptorTemplateDataSize_small entry.descriptorType
  simp only [templateEntryIsSupported, Bool.not_eq_true', Bool.or_eq_false_iff, beq_eq_false_iff_ne,
    decide_eq_false_iff_not] at supported
  obtain ⟨⟨⟨⟨⟨⟨⟨⟨_, sized⟩, counted⟩, _⟩, stride⟩, _⟩, offset⟩, _⟩, spread⟩ := supported
  have limit : maxTemplateDataSize.toNat = 1048576 := by decide
  have positive : 0 < (descriptorTemplateDataSize entry.descriptorType).toNat := by
    refine Nat.pos_of_ne_zero fun zero => sized (UInt64.toNat_inj.mp zero)
  have count : 0 < entry.descriptorCount.toNat :=
    Nat.pos_of_ne_zero fun zero => counted (UInt32.toNat_inj.mp zero)
  have room : (maxTemplateDataSize - descriptorTemplateDataSize entry.descriptorType).toNat =
      1048576 - (descriptorTemplateDataSize entry.descriptorType).toNat := by
    rw [UInt64.toNat_sub_of_le _ _ (UInt64.le_iff_toNat_le.mpr (by omega)), limit]
  rw [gt_iff_lt, UInt64.lt_iff_toNat_lt, room] at offset
  have left : (maxTemplateDataSize - descriptorTemplateDataSize entry.descriptorType - entry.offset).toNat =
      1048576 - (descriptorTemplateDataSize entry.descriptorType).toNat - entry.offset.toNat := by
    rw [UInt64.toNat_sub_of_le _ _ (UInt64.le_iff_toNat_le.mpr (by omega)), room]
  have last : (entry.descriptorCount - 1).toUInt64.toNat = entry.descriptorCount.toNat - 1 := by
    rw [UInt32.toNat_toUInt64, UInt32.toNat_sub_of_le _ _
      (show 1 ≤ entry.descriptorCount from UInt32.le_iff_toNat_le.mpr count)]
    rfl
  rw [gt_iff_lt, UInt64.lt_iff_toNat_lt, UInt64.toNat_div, left, last, Nat.not_lt] at spread
  have reach := (Nat.le_div_iff_mul_le (Nat.pos_of_ne_zero fun zero => stride (UInt64.toNat_inj.mp zero))).mp spread
  exact ⟨positive, small, count, by omega⟩

def entryEnd (entry : DescriptorUpdateTemplateEntry) : Nat :=
  entry.offset.toNat + (entry.descriptorCount.toNat - 1) * entry.stride.toNat +
    (descriptorTemplateDataSize entry.descriptorType).toNat

theorem EntryFits.last_toNat {entry : DescriptorUpdateTemplateEntry} (fits : EntryFits entry) :
    (entry.offset + (entry.descriptorCount - 1).toUInt64 * entry.stride +
      descriptorTemplateDataSize entry.descriptorType).toNat = entryEnd entry := by
  have inside := fits.inside
  have last : (entry.descriptorCount - 1).toUInt64.toNat = entry.descriptorCount.toNat - 1 := by
    rw [UInt32.toNat_toUInt64,
      UInt32.toNat_sub_of_le _ _ (show 1 ≤ entry.descriptorCount from UInt32.le_iff_toNat_le.mpr fits.counted)]
    rfl
  rw [UInt64.toNat_add, UInt64.toNat_add, UInt64.toNat_mul, last,
    Nat.mod_eq_of_lt (show (entry.descriptorCount.toNat - 1) * entry.stride.toNat < 2 ^ 64 by omega),
    Nat.mod_eq_of_lt (show entry.offset.toNat + (entry.descriptorCount.toNat - 1) * entry.stride.toNat < 2 ^ 64 by
      omega)]
  exact Nat.mod_eq_of_lt (by omega)

theorem EntryFits.destination {entry : DescriptorUpdateTemplateEntry} (fits : EntryFits entry) {index : Nat}
    (bound : index < entry.descriptorCount.toNat) :
    templateDestination entry index = entry.offset.toNat + index * entry.stride.toNat ∧
      templateDestination entry index + (descriptorTemplateDataSize entry.descriptorType).toNat ≤ entryEnd entry := by
  have inside := fits.inside
  have count := entry.descriptorCount.toNat_lt
  have spread : index * entry.stride.toNat ≤ (entry.descriptorCount.toNat - 1) * entry.stride.toNat :=
    Nat.mul_le_mul_right _ (by omega)
  have small : (UInt64.ofNat index).toNat = index := UInt64.toNat_ofNat_of_lt' (by simp only [UInt64.size]; omega)
  have placed : templateDestination entry index = entry.offset.toNat + index * entry.stride.toNat := by
    rw [templateDestination, UInt64.toNat_add, UInt64.toNat_mul, small,
      Nat.mod_eq_of_lt (show index * entry.stride.toNat < 2 ^ 64 by omega)]
    exact Nat.mod_eq_of_lt (by omega)
  rw [placed, entryEnd]
  exact ⟨rfl, by omega⟩

namespace DescriptorTemplate

structure Checked (template : DescriptorTemplate) : Prop where
  counted : 0 < template.entryCount.toNat
  few : template.entryCount.toNat ≤ 32
  supported : ∀ entry ∈ template.entryList, templateEntryIsSupported entry = true

end DescriptorTemplate

/-- The number of values the entries ask for. -/
def totalValues (entries : List DescriptorUpdateTemplateEntry) : Nat :=
  (entries.map fun entry => entry.descriptorCount.toNat).sum

/-- Measured entries: as many values as they ask for, and data that ends with the entry
that reaches farthest. -/
structure Measured (entries : List DescriptorUpdateTemplateEntry) (before after : UInt32 × UInt64) : Prop where
  values : after.1.toNat = before.1.toNat + totalValues entries
  few : after.1.toNat ≤ 64
  grows : before.2.toNat ≤ after.2.toNat
  covers : ∀ entry ∈ entries, entryEnd entry ≤ after.2.toNat
  reached : after.2 = before.2 ∨ ∃ entry ∈ entries, entryEnd entry = after.2.toNat

theorem measureTemplateEntry_cases {entry : DescriptorUpdateTemplateEntry} (fits : EntryFits entry)
    {before : UInt32 × UInt64} (few : before.1.toNat ≤ 64) :
    (measureTemplateEntry before entry = .error .e2big ∧ 64 < before.1.toNat + entry.descriptorCount.toNat) ∨
      ∃ after, measureTemplateEntry before entry = .ok after ∧
        after.1.toNat = before.1.toNat + entry.descriptorCount.toNat ∧ after.1.toNat ≤ 64 ∧
        before.2.toNat ≤ after.2.toNat ∧ entryEnd entry ≤ after.2.toNat ∧
        (after.2 = before.2 ∨ entryEnd entry = after.2.toNat) := by
  have most : maxDescriptorTemplateValues.toNat = 64 := by decide
  have left : (maxDescriptorTemplateValues - before.1).toNat = 64 - before.1.toNat := by
    rw [UInt32.toNat_sub_of_le _ _ (UInt32.le_iff_toNat_le.mpr (by omega)), most]
  have last := fits.last_toNat
  have inside := fits.inside
  unfold measureTemplateEntry
  by_cases many : entry.descriptorCount > maxDescriptorTemplateValues - before.1
  · rw [if_pos many]
    rw [gt_iff_lt, UInt32.lt_iff_toNat_lt, left] at many
    exact .inl ⟨rfl, by omega⟩
  · rw [if_neg many]
    rw [gt_iff_lt, UInt32.lt_iff_toNat_lt, left] at many
    have accepted : ¬ (descriptorTemplateDataSize entry.descriptorType = 0 ∨
        entry.offset + (entry.descriptorCount - 1).toUInt64 * entry.stride +
          descriptorTemplateDataSize entry.descriptorType > maxTemplateDataSize) := by
      rintro (zero | far)
      · have sized := fits.sized
        rw [zero] at sized
        contradiction
      · rw [gt_iff_lt, UInt64.lt_iff_toNat_lt, last] at far
        have limit : maxTemplateDataSize.toNat = 1048576 := by decide
        rw [entryEnd] at far
        omega
    simp only [if_neg accepted]
    have sum : (before.1 + entry.descriptorCount).toNat = before.1.toNat + entry.descriptorCount.toNat := by
      rw [UInt32.toNat_add, Nat.mod_eq_of_lt (by omega)]
    refine .inr ⟨_, rfl, sum, by dsimp only; omega, ?_⟩
    dsimp only
    split
    · rename_i longer
      rw [gt_iff_lt, UInt64.lt_iff_toNat_lt, last] at longer
      rw [last]
      exact ⟨by omega, Nat.le_refl _, .inr rfl⟩
    · rename_i shorter
      rw [gt_iff_lt, UInt64.lt_iff_toNat_lt, last] at shorter
      exact ⟨Nat.le_refl _, by omega, .inl rfl⟩

theorem measure_cases : ∀ (entries : List DescriptorUpdateTemplateEntry) (before : UInt32 × UInt64),
    (∀ entry ∈ entries, EntryFits entry) → before.1.toNat ≤ 64 →
    (entries.foldlM measureTemplateEntry before = .error .e2big ∧ 64 < before.1.toNat + totalValues entries) ∨
      ∃ after, entries.foldlM measureTemplateEntry before = .ok after ∧ Measured entries before after := by
  intro entries
  induction entries with
  | nil =>
      intro before _ few
      refine .inr ⟨before, rfl, rfl, few, Nat.le_refl _, ?_, .inl rfl⟩
      intro entry member
      cases member
  | cons entry rest ih =>
      intro before fits few
      obtain ⟨first, others⟩ := List.forall_mem_cons.mp fits
      rw [List.foldlM_cons]
      have total : totalValues (entry :: rest) = entry.descriptorCount.toNat + totalValues rest := by
        simp only [totalValues, List.map_cons, List.sum_cons]
      rcases measureTemplateEntry_cases first few with ⟨failed, many⟩ |
        ⟨between, done, values, stillFew, grows, covers, reached⟩
      · rw [failed]
        exact .inl ⟨rfl, by omega⟩
      · rw [done]
        rcases ih between others stillFew with ⟨failed, many⟩ | ⟨after, finished, measured⟩
        · exact .inl ⟨failed, by omega⟩
        · refine .inr ⟨after, finished, ?_, measured.few, grows.trans measured.grows, ?_, ?_⟩
          · rw [measured.values, values, total, Nat.add_assoc]
          · exact List.forall_mem_cons.mpr ⟨covers.trans measured.grows, measured.covers⟩
          · rcases measured.reached with same | ⟨later, member, ends⟩
            · rcases reached with unchanged | ends
              · exact .inl (same.trans unchanged)
              · exact .inr ⟨entry, List.mem_cons_self, by rw [same]; exact ends⟩
            · exact .inr ⟨later, List.mem_cons_of_mem _ member, ends⟩

namespace DescriptorTemplate

variable {template : DescriptorTemplate}

theorem Checked.fits (checked : template.Checked) : ∀ entry ∈ template.entryList, EntryFits entry :=
  fun entry member => templateEntryIsSupported_fits (checked.supported entry member)

def ends (template : DescriptorTemplate) : Set Nat :=
  {position | ∃ entry ∈ template.entryList, entryEnd entry = position}

theorem Checked.first_mem (checked : template.Checked) : slot template.entries 0 ∈ template.entryList :=
  List.mem_map.mpr ⟨0, List.mem_range.mpr checked.counted, rfl⟩

theorem Checked.totalValues_pos (checked : template.Checked) : 0 < totalValues template.entryList := by
  have counted := (checked.fits _ checked.first_mem).counted
  exact List.sum_pos_iff_exists_pos_nat.mpr ⟨_, List.mem_map.mpr ⟨_, checked.first_mem, rfl⟩, counted⟩

theorem Checked.isGreatest {measured : UInt32 × UInt64} (checked : template.Checked)
    (spans : Measured template.entryList (0, 0) measured) : IsGreatest template.ends measured.2.toNat := by
  constructor
  · rcases spans.reached with same | ends
    · have first := checked.first_mem
      have sized := (checked.fits _ first).sized
      have covered := spans.covers _ first
      rw [same, entryEnd] at covered
      simp only [UInt64.toNat_zero] at covered
      omega
    · exact ends
  · rintro _ ⟨entry, member, rfl⟩
    exact spans.covers entry member

theorem descriptors_length (template : DescriptorTemplate) :
    template.descriptors.length = totalValues template.entryList := by
  simp [descriptors, totalValues, List.length_flatMap]

theorem mem_descriptors {entry : DescriptorUpdateTemplateEntry} {index : Nat}
    (member : (entry, index) ∈ template.descriptors) :
    entry ∈ template.entryList ∧ index < entry.descriptorCount.toNat := by
  simp only [descriptors, List.mem_flatMap, List.mem_map, List.mem_range, Prod.mk.injEq] at member
  obtain ⟨known, isEntry, position, bound, rfl, rfl⟩ := member
  exact ⟨isEntry, bound⟩

theorem Checked.measure (checked : template.Checked) :
    (measureTemplate template = .error .e2big ∧ 64 < template.descriptors.length) ∨
      ∃ values dataSize, measureTemplate template = .ok (values, dataSize) ∧
        values.toNat = template.descriptors.length ∧
        Measured template.entryList (0, 0) (values, dataSize) := by
  rw [descriptors_length]
  rcases measure_cases template.entryList (0, 0) checked.fits (by decide) with ⟨failed, many⟩ |
    ⟨⟨values, dataSize⟩, done, measured⟩
  · exact .inl ⟨failed, by simpa using many⟩
  · refine .inr ⟨values, dataSize, done, ?_, measured⟩
    simpa using measured.values

end DescriptorTemplate

end VulkanBridge
