import VulkanBridge.DescriptorFormats
import VulkanBridge.DescriptorSets
import VulkanBridge.TemplateGather
import VulkanBridge.TemplateUpdates

/-!
A template update from the application's data to the data of the driver.
-/

namespace VulkanBridge

open ByteBuffer

/-! ## One value -/

/-- A handle that is null, or an object of the device on both sides. -/
def Shared (registry : ClientRegistry) (objects : HandleTable) (deviceId wireId : UInt64) (type : ObjectType) : Prop :=
  wireId = 0 ∨ (registry.resourceOwnedByDevice wireId type deviceId = true ∧
    ∃ bits, objects.lookup wireId type = .ok (deviceId, bits))

/-- An image view that is null, or one of the device on both sides. -/
def ViewShared (registry : ClientRegistry) (objects : HandleTable) (deviceId wireId : UInt64) : Prop :=
  wireId = 0 ∨ (registry.resourceOwnedByDevice wireId .imageView deviceId = true ∧
    ∃ imageId bits imageBits, objects.lookup wireId .imageView = .ok (imageId, bits) ∧
      objects.lookup imageId .image = .ok (deviceId, imageBits))

/-- The fields of the application's structure that its type uses are null or objects of
the device; texel buffers are null. -/
def Usable (registry : ClientRegistry) (objects : HandleTable) (deviceId : UInt64) (descriptorType : UInt32)
    (data : Buffer) (source : Nat) : Prop :=
  match descriptorType.toNat with
  | 0 => Shared registry objects deviceId (getU64 data source) .sampler
  | 1 =>
      Shared registry objects deviceId (getU64 data source) .sampler ∧
        ViewShared registry objects deviceId (getU64 data (source + 8))
  | 2 | 3 | 10 => ViewShared registry objects deviceId (getU64 data (source + 8))
  | 4 | 5 => getU64 data source = 0
  | 6 | 7 | 8 | 9 => Shared registry objects deviceId (getU64 data source) .buffer
  | _ => True

/-- The fields its type does not use that are still looked at are zero. -/
def Plain (descriptorType : UInt32) (data : Buffer) (source : Nat) : Prop :=
  match descriptorType.toNat with
  | 0 => getU32 data (source + 16) = 0
  | 2 | 3 | 10 => getU64 data source = 0
  | _ => True

/-- The driver's structure has the application's fields, with the handles translated. -/
def Arrived (objects : HandleTable) (deviceId : UInt64) (descriptorType : UInt32) (data native : Buffer)
    (source : Nat) :
    Prop :=
  match descriptorType.toNat with
  | 0 => OnDevice objects deviceId (getU64 data source) .sampler (getU64 native source)
  | 1 =>
      OnDevice objects deviceId (getU64 data source) .sampler (getU64 native source) ∧
        ViewOnDevice objects deviceId (getU64 data (source + 8)) (getU64 native (source + 8)) ∧
        getU32 native (source + 16) = getU32 data (source + 16)
  | 2 | 3 | 10 =>
      ViewOnDevice objects deviceId (getU64 data (source + 8)) (getU64 native (source + 8)) ∧
        getU32 native (source + 16) = getU32 data (source + 16)
  | 4 | 5 => getU64 native source = 0
  | 6 | 7 | 8 | 9 =>
      OnDevice objects deviceId (getU64 data source) .buffer (getU64 native source) ∧
        getU64 native (source + 8) = getU64 data (source + 8) ∧ getU64 native (source + 16) = getU64 data (source + 16)
  | _ => False

variable {registry : ClientRegistry} {objects : HandleTable} {deviceId wireId : UInt64} {type : ObjectType}

theorem Shared.fits (shared : Shared registry objects deviceId wireId type) :
    ¬ (wireId ≠ 0 ∧ registry.resourceOwnedByDevice wireId type deviceId = false) := by
  rintro ⟨used, foreign⟩
  rcases shared with null | ⟨owned, _⟩
  · exact used null
  · rw [owned] at foreign
    cases foreign

theorem Shared.canonical (shared : Shared registry objects deviceId wireId type) : idIsNullOr wireId type = true := by
  rcases shared with null | ⟨_, bits, found⟩
  · rw [idIsNullOr, null]
    rfl
  · rw [idIsNullOr, HandleTable.lookup_expects found, Bool.or_true]

theorem Shared.resolves (shared : Shared registry objects deviceId wireId type) :
    ∃ bits, OnDevice objects deviceId wireId type bits := by
  by_cases null : wireId = 0
  · exact ⟨0, .inl ⟨null, rfl⟩⟩
  · rcases shared with zero | ⟨_, bits, found⟩
    · exact absurd zero null
    · exact ⟨bits, .inr ⟨null, found⟩⟩

theorem ViewShared.fits (shared : ViewShared registry objects deviceId wireId) :
    ¬ (wireId ≠ 0 ∧ registry.resourceOwnedByDevice wireId .imageView deviceId = false) := by
  rintro ⟨used, foreign⟩
  rcases shared with null | ⟨owned, _⟩
  · exact used null
  · rw [owned] at foreign
    cases foreign

theorem ViewShared.canonical (shared : ViewShared registry objects deviceId wireId) :
    idIsNullOr wireId .imageView = true := by
  rcases shared with null | ⟨_, imageId, bits, imageBits, found, _⟩
  · rw [idIsNullOr, null]
    rfl
  · rw [idIsNullOr, HandleTable.lookup_expects found, Bool.or_true]

theorem ViewShared.resolves (shared : ViewShared registry objects deviceId wireId) :
    ∃ bits, ViewOnDevice objects deviceId wireId bits := by
  by_cases null : wireId = 0
  · exact ⟨0, .inl ⟨null, rfl⟩⟩
  · rcases shared with zero | ⟨_, imageId, bits, imageBits, found, owned⟩
    · exact absurd zero null
    · exact ⟨bits, .inr ⟨null, imageId, imageBits, found, owned⟩⟩

theorem descriptorType_cases {descriptorType : UInt32} (known : descriptorType.toNat ≤ 10) :
    descriptorType = 0 ∨ descriptorType = 1 ∨ descriptorType ∈ ([2, 3, 10] : List UInt32) ∨
      descriptorType ∈ ([4, 5] : List UInt32) ∨ descriptorType ∈ ([6, 7, 8, 9] : List UInt32) := by
  simp only [List.mem_cons, List.not_mem_nil, or_false, ← UInt32.toNat_inj]
  simp only [UInt32.reduceToNat]
  omega

theorem templateObjectsFit_eq_ok {value : DescriptorTemplateValue} :
    templateObjectsFit registry deviceId value = .ok () ↔
      ¬ (value.objectId ≠ 0 ∧
        registry.resourceOwnedByDevice value.objectId (templateObjectType value.descriptorType) deviceId = false) ∧
      ¬ (value.auxiliaryObjectId ≠ 0 ∧
        registry.resourceOwnedByDevice value.auxiliaryObjectId .sampler deviceId = false) := by
  unfold templateObjectsFit
  rw [CheckedLoops.refused_eq_ok, CheckedLoops.refused_eq_ok]
  exact ⟨fun both => ⟨both.1, both.2.1⟩, fun both => ⟨both.1, both.2, rfl⟩⟩

theorem null_fits {first : UInt64} : ¬ ((0 : UInt64) ≠ 0 ∧ registry.resourceOwnedByDevice 0 type first = false) :=
  fun both => both.1 rfl

/-- The value gathered from a usable structure passes the checks of the client and of
the wire exactly if the structure is plain. -/
theorem gatherTemplateValue_fits {descriptorType : UInt32} {data : Buffer} {source : Nat}
    (known : descriptorType.toNat ≤ 10) (usable : Usable registry objects deviceId descriptorType data source) :
    (∃ value, gatherTemplateValue descriptorType data source = .ok value ∧
        templateObjectsFit registry deviceId value = .ok () ∧ templateValueIsCanonical value = true) ↔
      Plain descriptorType data source := by
  rcases descriptorType_cases known with rfl | rfl | sampled | texel | buffered
  · have sampler : Shared registry objects deviceId (getU64 data source) .sampler := usable
    show (∃ value, Except.ok _ = Except.ok value ∧ _) ↔ getU32 data (source + 16) = 0
    constructor
    · rintro ⟨value, same, _, canonical⟩
      cases same
      have zero : getU32 data (source + 16) == 0 := by
        simp only [templateValueIsCanonical, UInt32.toNat_zero, Bool.and_eq_true] at canonical
        exact canonical.1.1.2
      exact beq_iff_eq.mp zero
    · intro plain
      refine ⟨_, rfl, templateObjectsFit_eq_ok.mpr ⟨sampler.fits, null_fits⟩, ?_⟩
      simp [templateValueIsCanonical, sampler.canonical, plain]
  · obtain ⟨sampler, view⟩ : Shared registry objects deviceId (getU64 data source) .sampler ∧
      ViewShared registry objects deviceId (getU64 data (source + 8)) := usable
    refine ⟨fun _ => trivial, fun _ => ⟨_, rfl, templateObjectsFit_eq_ok.mpr ⟨view.fits, sampler.fits⟩, ?_⟩⟩
    simp [templateValueIsCanonical, sampler.canonical, view.canonical]
  · simp only [List.mem_cons, List.not_mem_nil, or_false] at sampled
    rcases sampled with rfl | rfl | rfl
    all_goals
      have view : ViewShared registry objects deviceId (getU64 data (source + 8)) := usable
      show (∃ value, (if getU64 data source ≠ 0 then _ else _) = Except.ok value ∧ _) ↔ getU64 data source = 0
      constructor
      · rintro ⟨value, gathered, _⟩
        exact not_not.mp (CheckedLoops.refused_eq_ok.mp gathered).1
      · intro plain
        rw [if_neg (not_not.mpr plain)]
        refine ⟨_, rfl, templateObjectsFit_eq_ok.mpr ⟨view.fits, null_fits⟩, ?_⟩
        simp [templateValueIsCanonical, view.canonical]
  · simp only [List.mem_cons, List.not_mem_nil, or_false] at texel
    rcases texel with rfl | rfl
    all_goals
      have null : getU64 data source = 0 := usable
      show (∃ value, (if getU64 data source ≠ 0 then _ else _) = Except.ok value ∧ _) ↔ True
      rw [if_neg (not_not.mpr null)]
      exact ⟨fun _ => trivial, fun _ => ⟨_, rfl, templateObjectsFit_eq_ok.mpr ⟨null_fits, null_fits⟩, rfl⟩⟩
  · simp only [List.mem_cons, List.not_mem_nil, or_false] at buffered
    rcases buffered with rfl | rfl | rfl | rfl
    all_goals
      have buffer : Shared registry objects deviceId (getU64 data source) .buffer := usable
      refine ⟨fun _ => trivial, fun _ => ⟨_, rfl, templateObjectsFit_eq_ok.mpr ⟨buffer.fits, null_fits⟩, ?_⟩⟩
      simp [templateValueIsCanonical, buffer.canonical]

theorem getU32_moved {native bytes : Buffer} {source size offset : Nat}
    (same : ∀ index, index < size → native (source + index) = bytes index) (inside : offset + 4 ≤ size) :
    getU32 native (source + offset) = getU32 bytes offset := by
  simp only [getU32, Nat.add_assoc]
  rw [same offset (by omega), same (offset + 1) (by omega), same (offset + 2) (by omega), same (offset + 3) (by omega)]

theorem getU64_moved {native bytes : Buffer} {source size offset : Nat}
    (same : ∀ index, index < size → native (source + index) = bytes index) (inside : offset + 8 ≤ size) :
    getU64 native (source + offset) = getU64 bytes offset := by
  rw [getU64, getU64, Nat.add_assoc, getU32_moved same (by omega), getU32_moved same (by omega)]

theorem DescriptorInfo.image_fields {padding : UInt32} {sampler imageView : UInt64} {imageLayout : UInt32}
    {native : Buffer} {source : Nat}
    (same : ∀ index, index < 24 → native (source + index) = (image sampler imageView imageLayout).bytes padding index) :
    getU64 native source = sampler ∧ getU64 native (source + 8) = imageView ∧
      getU32 native (source + 16) = imageLayout := by
  refine ⟨?_, ?_, ?_⟩
  · rw [← Nat.add_zero source, getU64_moved same (by omega)]
    simp (disch := omega) only [bytes, getU64_putU32_apart, getU64_putU64_apart, getU64_putU64]
  · rw [getU64_moved same (by omega)]
    simp (disch := omega) only [bytes, getU64_putU32_apart, getU64_putU64]
  · rw [getU32_moved same (by omega)]
    simp (disch := omega) only [bytes, getU32_putU32_apart, getU32_putU32]

theorem DescriptorInfo.buffer_fields {padding : UInt32} {handle offset range : UInt64} {native : Buffer} {source : Nat}
    (same : ∀ index, index < 24 → native (source + index) = (buffer handle offset range).bytes padding index) :
    getU64 native source = handle ∧ getU64 native (source + 8) = offset ∧ getU64 native (source + 16) = range := by
  refine ⟨?_, ?_, ?_⟩
  · rw [← Nat.add_zero source, getU64_moved same (by omega)]
    simp (disch := omega) only [bytes, getU64_putU64_apart, getU64_putU64]
  · rw [getU64_moved same (by omega)]
    simp (disch := omega) only [bytes, getU64_putU64_apart, getU64_putU64]
  · rw [getU64_moved same (by omega)]
    simp (disch := omega) only [bytes, getU64_putU64]

theorem DescriptorInfo.texelBuffer_field {padding : UInt32} {native : Buffer} {source : Nat}
    (same : ∀ index, index < 8 → native (source + index) = texelBuffer.bytes padding index) :
    getU64 native source = 0 := by
  rw [getU64_eq_zero_iff]
  intro index lower upper
  have here := same (index - source) (by omega)
  rw [Nat.add_sub_cancel' lower] at here
  exact here

theorem gatherTemplateValue_arrives {descriptorType : UInt32} {data : Buffer} {source : Nat}
    {value : DescriptorTemplateValue} (known : descriptorType.toNat ≤ 10)
    (usable : Usable registry objects deviceId descriptorType data source)
    (gathered : gatherTemplateValue descriptorType data source = .ok value) (plain : Plain descriptorType data source) :
    ∃ info, translateTemplateValue objects deviceId descriptorType value = .ok info ∧
      ∀ padding native, (∀ index, index < info.size → native (source + index) = info.bytes padding index) →
        Arrived objects deviceId descriptorType data native source := by
  simp only [translateTemplateValue_eq_ok]
  rcases descriptorType_cases known with rfl | rfl | sampled | texel | buffered
  · have sampler : Shared registry objects deviceId (getU64 data source) .sampler := usable
    cases gathered
    obtain ⟨bits, held⟩ := sampler.resolves
    refine ⟨_, ⟨rfl, .sampler rfl rfl held⟩, ?_⟩
    intro padding native same
    show OnDevice objects deviceId (getU64 data source) .sampler (getU64 native source)
    rw [(DescriptorInfo.image_fields same).1]
    exact held
  · obtain ⟨sampler, view⟩ : Shared registry objects deviceId (getU64 data source) .sampler ∧
      ViewShared registry objects deviceId (getU64 data (source + 8)) := usable
    have isType : (1 : UInt32) ∈ ([1, 2, 3, 10] : List UInt32) := by decide
    cases gathered
    obtain ⟨bits, held⟩ := sampler.resolves
    obtain ⟨viewBits, viewed⟩ := view.resolves
    refine ⟨_, ⟨rfl, .image isType held viewed⟩, ?_⟩
    intro padding native same
    obtain ⟨first, second, layout⟩ := DescriptorInfo.image_fields same
    refine ⟨?_, ?_, layout⟩
    · rw [first]
      exact held
    · rw [second]
      exact viewed
  · have isType : descriptorType ∈ ([1, 2, 3, 10] : List UInt32) := List.mem_cons_of_mem _ sampled
    simp only [List.mem_cons, List.not_mem_nil, or_false] at sampled
    rcases sampled with rfl | rfl | rfl
    all_goals
      have view : ViewShared registry objects deviceId (getU64 data (source + 8)) := usable
      obtain ⟨viewBits, viewed⟩ := view.resolves
      have null : getU64 data source = 0 := plain
      cases (CheckedLoops.refused_eq_ok.mp gathered).2
      refine ⟨_, ⟨rfl, .image isType (.inl ⟨rfl, rfl⟩) viewed⟩, ?_⟩
      intro padding native same
      obtain ⟨_, second, layout⟩ := DescriptorInfo.image_fields same
      refine ⟨?_, layout⟩
      rw [second]
      exact viewed
  · have isType := texel
    simp only [List.mem_cons, List.not_mem_nil, or_false] at texel
    rcases texel with rfl | rfl
    all_goals
      cases (CheckedLoops.refused_eq_ok.mp gathered).2
      refine ⟨_, ⟨rfl, .texelBuffer isType rfl⟩, ?_⟩
      intro padding native same
      exact DescriptorInfo.texelBuffer_field same
  · have isType := buffered
    simp only [List.mem_cons, List.not_mem_nil, or_false] at buffered
    rcases buffered with rfl | rfl | rfl | rfl
    all_goals
      have buffer : Shared registry objects deviceId (getU64 data source) .buffer := usable
      cases gathered
      obtain ⟨bits, held⟩ := buffer.resolves
      refine ⟨_, ⟨rfl, .buffer isType held⟩, ?_⟩
      intro padding native same
      obtain ⟨handle, offset, range⟩ := DescriptorInfo.buffer_fields same
      refine ⟨?_, offset, range⟩
      rw [handle]
      exact held

/-- The descriptors of entries in order. -/
def describe (entries : List DescriptorUpdateTemplateEntry) : List (DescriptorUpdateTemplateEntry × Nat) :=
  entries.flatMap fun entry => (List.range entry.descriptorCount.toNat).map fun index => (entry, index)

def gatherDescriptor (data : Buffer) (described : DescriptorUpdateTemplateEntry × Nat) :
    Except Errno DescriptorTemplateValue :=
  gatherTemplateValue described.1.descriptorType data (templateDestination described.1 described.2)

variable {data : Buffer}

theorem gatherTemplateEntry_eq_ok {entry : DescriptorUpdateTemplateEntry} {before values : List DescriptorTemplateValue}
    (few : before.length ≤ 64) :
    gatherTemplateEntry data before entry = .ok values ↔
      before.length + entry.descriptorCount.toNat ≤ 64 ∧
        ∃ more, (describe [entry]).mapM (gatherDescriptor data) = .ok more ∧ values = before ++ more := by
  have most : maxDescriptorTemplateValues.toNat = 64 := by decide
  have one : (describe [entry]).mapM (gatherDescriptor data) =
      (List.range entry.descriptorCount.toNat).mapM fun index =>
      gatherTemplateValue entry.descriptorType data (templateDestination entry index) := by
    rw [describe, List.flatMap_singleton, List.mapM_map]
    rfl
  unfold gatherTemplateEntry
  rw [CheckedLoops.refused_eq_ok, most, CheckedLoops.bind_eq_ok, one]
  constructor
  · rintro ⟨fits, more, gathered, same⟩
    exact ⟨by omega, more, gathered, (CheckedLoops.pure_eq_ok.mp same).symm⟩
  · rintro ⟨fits, more, gathered, same⟩
    exact ⟨by omega, more, gathered, CheckedLoops.pure_eq_ok.mpr same.symm⟩

theorem gatherTemplate_eq_ok (entries : List DescriptorUpdateTemplateEntry) :
    ∀ before values : List DescriptorTemplateValue, before.length ≤ 64 →
      (entries.foldlM (gatherTemplateEntry data) before = .ok values ↔
        before.length + totalValues entries ≤ 64 ∧
          ∃ more, (describe entries).mapM (gatherDescriptor data) = .ok more ∧ values = before ++ more) := by
  induction entries with
  | nil =>
      intro before values few
      constructor
      · intro same
        obtain rfl := CheckedLoops.pure_eq_ok.mp same
        exact ⟨few, [], rfl, (List.append_nil _).symm⟩
      · rintro ⟨_, more, none, rfl⟩
        obtain rfl := CheckedLoops.pure_eq_ok.mp none
        exact congrArg Except.ok (List.append_nil before).symm
  | cons entry rest ih =>
      intro before values few
      have total : totalValues (entry :: rest) = entry.descriptorCount.toNat + totalValues rest := by
        simp only [totalValues, List.map_cons, List.sum_cons]
      have split : describe (entry :: rest) = describe [entry] ++ describe rest := by
        simp only [describe, List.flatMap_cons, List.flatMap_nil, List.append_nil]
      rw [List.foldlM_cons, CheckedLoops.bind_eq_ok, split, List.mapM_append, total]
      constructor
      · rintro ⟨between, first, later⟩
        obtain ⟨fits, some, gathered, rfl⟩ := (gatherTemplateEntry_eq_ok few).mp first
        have length : some.length = entry.descriptorCount.toNat := by
          rw [← (CheckedLoops.mapM_forall₂.mp gathered).length_eq]
          simp [describe]
        obtain ⟨room, more, done, rfl⟩ := (ih _ _ (by rw [List.length_append]; omega)).mp later
        rw [List.length_append] at room
        refine ⟨by omega, some ++ more, ?_, List.append_assoc _ _ _⟩
        rw [gathered, done]
        rfl
      · rintro ⟨room, all, gathered, rfl⟩
        obtain ⟨some, first, later⟩ := CheckedLoops.bind_eq_ok.mp gathered
        obtain ⟨more, done, same⟩ := CheckedLoops.bind_eq_ok.mp later
        obtain rfl := CheckedLoops.pure_eq_ok.mp same
        have length : some.length = entry.descriptorCount.toNat := by
          rw [← (CheckedLoops.mapM_forall₂.mp first).length_eq]
          simp [describe]
        refine ⟨before ++ some, (gatherTemplateEntry_eq_ok few).mpr ⟨by omega, some, first, rfl⟩, ?_⟩
        exact (ih _ _ (by rw [List.length_append]; omega)).mpr
          ⟨by rw [List.length_append]; omega, more, done, (List.append_assoc _ _ _).symm⟩

def updateRequestOf (deviceId setId templateId : UInt64) (values : List DescriptorTemplateValue) :
    DescriptorTemplateUpdateRequest :=
  ⟨deviceId, setId, templateId, UInt32.ofNat values.length, fill 64 values.length fun index =>
    values.getD index default⟩

variable {setId templateId : UInt64} {values : List DescriptorTemplateValue}

theorem updateRequestOf_count (few : values.length ≤ 64) :
    (updateRequestOf deviceId setId templateId values).valueCount.toNat = values.length :=
  UInt32.toNat_ofNat_of_lt' (by simp only [UInt32.size]; omega)

theorem updateRequestOf_slot (few : values.length ≤ 64) {index : Nat} (bound : index < values.length) :
    slot (updateRequestOf deviceId setId templateId values).values index = values[index] := by
  rw [updateRequestOf, slot_fill _ (by omega) bound]
  simp [bound]

theorem updateRequestOf_encodable (few : values.length ≤ 64) :
    (updateRequestOf deviceId setId templateId values).isEncodable = true ↔
      handleExpect deviceId .device = true ∧ handleExpect setId .descriptorSet = true ∧
        handleExpect templateId .descriptorUpdateTemplate = true ∧ 0 < values.length ∧
        ∀ value ∈ values, templateValueIsCanonical value = true := by
  have count : (updateRequestOf deviceId setId templateId values).valueCount.toNat = values.length :=
    updateRequestOf_count few
  have some : (updateRequestOf deviceId setId templateId values).valueCount = 0 ↔ values.length = 0 := by
    rw [← UInt32.toNat_inj, count]
    rfl
  have most : ¬ (updateRequestOf deviceId setId templateId values).valueCount > 64 := by
    rw [gt_iff_lt, UInt32.lt_iff_toNat_lt, count]
    exact Nat.not_lt.mpr few
  have each : (List.range values.length).all (fun index => templateValueIsCanonical
        (slot (updateRequestOf deviceId setId templateId values).values index)) = true ↔
      ∀ value ∈ values, templateValueIsCanonical value = true := by
    rw [List.all_eq_true]
    constructor
    · intro every value member
      obtain ⟨index, bound, rfl⟩ := List.getElem_of_mem member
      have canonical := every index (List.mem_range.mpr bound)
      rwa [updateRequestOf_slot few bound] at canonical
    · intro every index bound
      rw [updateRequestOf_slot few (List.mem_range.mp bound)]
      exact every _ (List.getElem_mem _)
  simp only [DescriptorTemplateUpdateRequest.isEncodable, count, Bool.and_eq_true, each, Bool.not_eq_true',
    Bool.or_eq_false_iff, Bool.not_eq_false', beq_eq_false_iff_ne, decide_eq_false_iff_not, ne_eq, some]
  constructor
  · rintro ⟨⟨⟨⟨⟨device, set⟩, template⟩, used⟩, _⟩, canonical⟩
    exact ⟨device, set, template, Nat.pos_of_ne_zero used, canonical⟩
  · rintro ⟨device, set, template, used, canonical⟩
    exact ⟨⟨⟨⟨⟨device, set⟩, template⟩, Nat.pos_iff_ne_zero.mp used⟩, most⟩, canonical⟩

/-- An update of the client, as it crosses the connection and is served. -/
def deliverTemplateUpdate (client : TemplateClient) (system : TemplateContext) (driver : TemplateDriver)
    (deviceId setId templateId : UInt64) (data : Buffer) : Except Errno (List NativeTemplateUpdate) := do
  let payload ← client.updateDescriptorSetWithTemplate deviceId setId templateId data
  let request ← decodeDescriptorTemplateUpdateRequest (bufferOf payload) payload.length
  let outcome := system.updateDescriptorSetWithTemplate driver request
  outcome.reply
  return outcome.native

/-- A template that the client and the service both accepted, with an update's device, set and
template known to both. -/
structure Established (client : TemplateClient) (system : TemplateContext) (deviceId setId templateId : UInt64)
    (create : DescriptorUpdateTemplateCreateRequest) (target : TemplateTarget) : Prop where
  recorded : client.templateOf deviceId setId templateId = some ⟨create.entryCount, create.entries⟩
  targeted : system.resolveTemplateTarget (updateRequestOf deviceId setId templateId []) = .ok target
  made : ∃ payload length received, encodeDescriptorUpdateTemplateCreateRequest create = .ok (payload, length) ∧
    decodeDescriptorUpdateTemplateCreateRequest (bufferOf (bytesOf payload length)) length = .ok received ∧
    target.metadata = received.template ∧
    ∃ (earlier : TemplateContext) (creator : TemplateDriver) (native : NativeAnswer),
      earlier.Creates creator received native templateId

/-- Where the structure of a descriptor is. -/
def descriptorSource (described : DescriptorUpdateTemplateEntry × Nat) : Nat :=
  described.1.offset.toNat + described.2 * described.1.stride.toNat

def Spans (described : DescriptorUpdateTemplateEntry × Nat) (index : Nat) : Prop :=
  descriptorSource described ≤ index ∧
    index < descriptorSource described + (descriptorTemplateDataSize described.1.descriptorType).toNat

/-- No two structures share a byte. -/
def Apart (descriptors : List (DescriptorUpdateTemplateEntry × Nat)) : Prop :=
  descriptors.Pairwise fun first second => ∀ index, ¬ (Spans first index ∧ Spans second index)

variable {client : TemplateClient} {system : TemplateContext} {driver : TemplateDriver}
  {create : DescriptorUpdateTemplateCreateRequest} {target : TemplateTarget}

theorem templateEntryIsSupported_type {entry : DescriptorUpdateTemplateEntry}
    (supported : templateEntryIsSupported entry = true) : entry.descriptorType.toNat ≤ 10 := by
  simp only [templateEntryIsSupported, Bool.not_eq_true', Bool.or_eq_false_iff, Bool.not_eq_false',
    coreDescriptorTypeSupported, decide_eq_true_eq] at supported
  exact supported.1.1.1.1.1.1.1.1

theorem entryList_cleared (create : DescriptorUpdateTemplateCreateRequest) :
    create.cleared.template.entryList = create.template.entryList := by
  refine List.map_congr_left fun index bound => ?_
  exact slot_keep _ (List.mem_range.mp bound)

namespace Established

theorem entries (established : Established client system deviceId setId templateId create target) :
    target.metadata.Checked ∧ target.metadata.entryList = create.template.entryList := by
  obtain ⟨payload, length, received, encoded, decoded, same, earlier, creator, native, creates⟩ := established.made
  have again := DescriptorUpdateTemplateCreateRequest.exactInverse.decodes create payload length encoded
  obtain rfl := Except.ok.inj (again.symm.trans decoded)
  rw [same, entryList_cleared]
  exact ⟨creates.checked, rfl⟩

theorem expects (established : Established client system deviceId setId templateId create target) :
    handleExpect deviceId .device = true ∧ handleExpect setId .descriptorSet = true ∧
      handleExpect templateId .descriptorUpdateTemplate = true := by
  have targets := TemplateContext.resolveTemplateTarget_ok established.targeted
  obtain ⟨physicalId, device⟩ := targets.device
  obtain ⟨poolId, pool, set, _⟩ := targets.set
  exact ⟨HandleTable.lookup_expects device, HandleTable.lookup_expects set, HandleTable.lookup_expects targets.template⟩

end Established

theorem client_update_eq_ok {record : TemplateRecord} {payload : List UInt8}
    (recorded : client.templateOf deviceId setId templateId = some record) :
    client.updateDescriptorSetWithTemplate deviceId setId templateId data = .ok payload ↔
      totalValues record.entryList ≤ 64 ∧
        ∃ values, (describe record.entryList).mapM (gatherDescriptor data) = .ok values ∧
          (∀ value ∈ values, templateObjectsFit client.registry deviceId value = .ok ()) ∧
          (updateRequestOf deviceId setId templateId values).isEncodable = true ∧
          payload = bytesOf (updateRequestOf deviceId setId templateId values).payload
            (updateRequestOf deviceId setId templateId values).size := by
  have gathers := fun values => @gatherTemplate_eq_ok data record.entryList [] values (Nat.zero_le _)
  simp only [List.length_nil, Nat.zero_add, List.nil_append] at gathers
  unfold TemplateClient.updateDescriptorSetWithTemplate TemplateClient.templateUpdateRequest
  rw [recorded]
  simp only [CheckedLoops.bind_eq_ok, CheckedLoops.pure_eq_ok, Prod.exists,
    DescriptorTemplateUpdateRequest.encode_eq_ok]
  constructor
  · rintro ⟨request, ⟨values, gathered, _, fits, rfl⟩, _, _, ⟨encodable, same⟩, rfl⟩
    obtain ⟨few, again, done, rfl⟩ := (gathers values).mp gathered
    cases same
    exact ⟨few, _, done, CheckedLoops.forM_eq_ok.mp fits, encodable, rfl⟩
  · rintro ⟨few, values, done, fits, encodable, rfl⟩
    exact ⟨_, ⟨values, (gathers values).mpr ⟨few, values, done, rfl⟩, (), CheckedLoops.forM_eq_ok.mpr fits, rfl⟩, _, _,
      ⟨encodable, rfl⟩, rfl⟩

theorem gathered_plain {descriptors : List (DescriptorUpdateTemplateEntry × Nat)}
    (fits : ∀ described ∈ descriptors, described.1.descriptorType.toNat ≤ 10 ∧
      templateDestination described.1 described.2 = descriptorSource described)
    (usable : ∀ described ∈ descriptors,
      Usable registry objects deviceId described.1.descriptorType data (descriptorSource described)) :
    (∃ values, descriptors.mapM (gatherDescriptor data) = .ok values ∧
        ∀ value ∈ values, templateObjectsFit registry deviceId value = .ok () ∧ templateValueIsCanonical value = true) ↔
      ∀ described ∈ descriptors, Plain described.1.descriptorType data (descriptorSource described) := by
  induction descriptors with
  | nil =>
      refine ⟨fun _ described member => absurd member List.not_mem_nil, fun _ => ⟨[], rfl, ?_⟩⟩
      intro value member
      cases member
  | cons described rest ih =>
      obtain ⟨⟨known, placed⟩, othersFit⟩ := List.forall_mem_cons.mp fits
      obtain ⟨here, others⟩ := List.forall_mem_cons.mp usable
      have first := gatherTemplateValue_fits known here
      rw [List.forall_mem_cons, ← first, ← ih othersFit others, List.mapM_cons]
      have gathered : gatherDescriptor data described =
          gatherTemplateValue described.1.descriptorType data (descriptorSource described) := by
        rw [gatherDescriptor, placed]
      constructor
      · rintro ⟨values, done, passes⟩
        obtain ⟨value, head, later⟩ := CheckedLoops.bind_eq_ok.mp done
        obtain ⟨more, tail, same⟩ := CheckedLoops.bind_eq_ok.mp later
        obtain rfl := CheckedLoops.pure_eq_ok.mp same
        obtain ⟨pass, morePass⟩ := List.forall_mem_cons.mp passes
        exact ⟨⟨value, gathered ▸ head, pass⟩, more, tail, morePass⟩
      · rintro ⟨⟨value, head, pass⟩, more, tail, morePass⟩
        refine ⟨value :: more, ?_, List.forall_mem_cons.mpr ⟨pass, morePass⟩⟩
        rw [gathered, head, tail]
        rfl

/-! ## The service -/

theorem placeTemplateValues_ok {translate : UInt32 → DescriptorTemplateValue → Except Errno DescriptorInfo}
    {padding : UInt32} {values : Fin 64 → DescriptorTemplateValue}
    (descriptors : List (DescriptorUpdateTemplateEntry × Nat)) : ∀ (first : Nat) (writes : List Placement),
      (∀ index described, descriptors[index]? = some described →
        ∃ info, translate described.1.descriptorType (slot values (first + index)) = .ok info) →
      (placeTemplateValues translate padding values descriptors first writes).1 = .ok () := by
  induction descriptors with
  | nil =>
      intro first writes _
      rfl
  | cons described rest ih =>
      intro first writes translates
      obtain ⟨info, translated⟩ := translates 0 described rfl
      rw [Nat.add_zero] at translated
      simp only [placeTemplateValues, translated]
      refine ih (first + 1) _ fun index other present => ?_
      have later := translates (index + 1) other present
      rwa [show first + (index + 1) = first + 1 + index by omega] at later

theorem update_succeeds {request : DescriptorTemplateUpdateRequest}
    (resolved : system.resolveTemplateTarget request = .ok target) (checked : target.metadata.Checked)
    (counted : request.valueCount.toNat = target.metadata.descriptors.length)
    (few : target.metadata.descriptors.length ≤ 64)
    (translates : ∀ index described, target.metadata.descriptors[index]? = some described →
      ∃ info, translateTemplateValue system.context.objects request.deviceId described.1.descriptorType
        (slot request.values index) = .ok info)
    (memory : driver.allocates = true) (found : driver.updates target.device = true) :
    (system.updateDescriptorSetWithTemplate driver request).reply = .ok () ∧
      ∃ infos data dataSize, (system.updateDescriptorSetWithTemplate driver request).native =
          [⟨target.device, target.set, target.template, data⟩] ∧
        system.Lands driver request target.metadata dataSize infos data := by
  rcases checked.measure with ⟨_, many⟩ | ⟨values, dataSize, done, expected, measured⟩
  · omega
  have same : request.valueCount = values := by
    rw [← UInt32.toNat_inj, counted, expected]
  obtain ⟨_, lands⟩ := @TemplateContext.place_lands system driver request target.metadata values dataSize
    checked expected measured same
  have placed : (placeTemplateValues (translateTemplateValue system.context.objects request.deviceId) driver.padding
      request.values target.metadata.descriptors 0 []).1 = .ok () := by
    refine placeTemplateValues_ok _ 0 [] fun index described present => ?_
    rw [Nat.zero_add]
    exact translates index described present
  obtain ⟨infos, landed⟩ := lands placed
  rw [TemplateContext.updateDescriptorSetWithTemplate, resolved]
  simp only [done, same, ne_eq, not_true_eq_false, if_false, memory, Bool.not_true, Bool.false_eq_true]
  split
  · rename_i code writes failed
    rw [failed] at placed
    cases placed
  · rename_i nothing writes finished
    rw [finished] at landed
    simp only [found, Bool.not_true, Bool.false_eq_true, if_false]
    exact ⟨trivial, infos, _, _, rfl, landed⟩

theorem Apart.same {descriptors : List (DescriptorUpdateTemplateEntry × Nat)} (apart : Apart descriptors)
    {first second index : Nat} {left right : DescriptorUpdateTemplateEntry × Nat}
    (isLeft : descriptors[first]? = some left) (isRight : descriptors[second]? = some right) (onLeft : Spans left index)
    (onRight : Spans right index) : first = second := by
  obtain ⟨firstBound, rfl⟩ := List.getElem?_eq_some_iff.mp isLeft
  obtain ⟨secondBound, rfl⟩ := List.getElem?_eq_some_iff.mp isRight
  have pairs := List.pairwise_iff_getElem.mp apart
  rcases Nat.lt_trichotomy first second with before | same | after
  · exact absurd ⟨onLeft, onRight⟩ (pairs first second firstBound secondBound before index)
  · exact same
  · exact absurd ⟨onRight, onLeft⟩ (pairs second first secondBound firstBound after index)

theorem describe_length (entries : List DescriptorUpdateTemplateEntry) :
    (describe entries).length = totalValues entries := by
  simp [describe, totalValues, List.length_flatMap]

theorem lands_structure {request : DescriptorTemplateUpdateRequest} {template : DescriptorTemplate} {dataSize : Nat}
    {infos : List DescriptorInfo} {native : Buffer} (lands : system.Lands driver request template dataSize infos native)
    (apart : Apart template.descriptors) {position : Nat} {described : DescriptorUpdateTemplateEntry × Nat}
    (present : template.descriptors[position]? = some described) :
    ∃ info, translateTemplateValue system.context.objects request.deviceId described.1.descriptorType
        (slot request.values position) = .ok info ∧
      ∀ index, index < info.size → native (descriptorSource described + index) = info.bytes driver.padding index := by
  obtain ⟨bound, _⟩ := List.getElem?_eq_some_iff.mp present
  have inside : position < infos.length := by
    rw [lands.complete, ← DescriptorTemplate.descriptors_length]
    exact bound
  have zipped : (template.descriptors.zip infos)[position]? = some (described, infos[position]) := by
    rw [List.getElem?_zip_eq_some]
    exact ⟨present, List.getElem?_eq_getElem inside⟩
  have sizes : ∀ (place : Nat) other info, (template.descriptors.zip infos)[place]? = some (other, info) →
      info.size = (descriptorTemplateDataSize other.1.descriptorType).toNat := by
    intro place other info listed
    obtain ⟨type, resolved⟩ := lands.resolved place other info listed
    rw [← type]
    exact resolved.size
  refine ⟨infos[position], translateTemplateValue_eq_ok.mpr (lands.resolved _ _ _ zipped), ?_⟩
  intro index small
  refine ((lands.data _).trans (Placement.writeAll_apply _ zeroed _).symm).trans ?_
  have covered : (placed driver.padding (described, infos[position])).Covers (descriptorSource described + index) :=
    ⟨Nat.le_add_right _ _, Nat.add_lt_add_left small _⟩
  rw [Placement.writeAll_only (List.mem_map.mpr ⟨_, List.mem_of_getElem? zipped, rfl⟩) covered]
  · simp only [placed, descriptorSource, Nat.add_sub_cancel_left]
  · intro other member covers
    obtain ⟨⟨otherDescribed, info⟩, listed, rfl⟩ := List.mem_map.mp member
    obtain ⟨place, found⟩ := List.mem_iff_getElem?.mp listed
    have here : Spans described (descriptorSource described + index) := by
      refine ⟨Nat.le_add_right _ _, ?_⟩
      rw [← sizes _ _ _ zipped]
      exact Nat.add_lt_add_left small _
    have there : Spans otherDescribed (descriptorSource described + index) := by
      refine ⟨covers.1, ?_⟩
      rw [← sizes _ _ _ found]
      exact covers.2
    have same := apart.same (List.getElem?_zip_eq_some.mp found).1 present there here
    rw [same, zipped] at found
    cases found
    rfl

/-- An update arrives as the application wrote it exactly if the template has at most 64
descriptors and the structures are plain. -/
theorem templateUpdate_arrives_iff
    (established : Established client system deviceId setId templateId create target)
    (usable : ∀ described ∈ describe create.template.entryList,
      Usable client.registry system.context.objects deviceId described.1.descriptorType data
        (descriptorSource described))
    (apart : Apart (describe create.template.entryList)) (memory : driver.allocates = true)
    (found : driver.updates target.device = true) :
    (∃ native, deliverTemplateUpdate client system driver deviceId setId templateId data =
        .ok [⟨target.device, target.set, target.template, native⟩] ∧
      ∀ described ∈ describe create.template.entryList,
        Arrived system.context.objects deviceId described.1.descriptorType data native (descriptorSource described)) ↔
      totalValues create.template.entryList ≤ 64 ∧
        ∀ described ∈ describe create.template.entryList,
          Plain described.1.descriptorType data (descriptorSource described) := by
  obtain ⟨checked, entries⟩ := established.entries
  have listed : target.metadata.descriptors = describe create.template.entryList := by
    rw [← entries]
    rfl
  have fits : ∀ described ∈ describe create.template.entryList, described.1.descriptorType.toNat ≤ 10 ∧
      templateDestination described.1 described.2 = descriptorSource described := by
    rintro ⟨entry, index⟩ member
    rw [← listed] at member
    obtain ⟨isEntry, bound⟩ := DescriptorTemplate.mem_descriptors member
    exact ⟨templateEntryIsSupported_type (checked.supported entry isEntry),
      ((checked.fits entry isEntry).destination bound).1⟩
  have plain := gathered_plain fits usable
  have sends : ∀ payload, client.updateDescriptorSetWithTemplate deviceId setId templateId data = .ok payload ↔ _ :=
    fun payload => client_update_eq_ok established.recorded
  constructor
  · rintro ⟨native, delivered, _⟩
    obtain ⟨payload, sent, _⟩ := CheckedLoops.bind_eq_ok.mp delivered
    obtain ⟨few, values, gathered, objectsFit, encodable, _⟩ := (sends payload).mp sent
    have length : values.length = totalValues create.template.entryList := by
      rw [← (CheckedLoops.mapM_forall₂.mp gathered).length_eq]
      exact describe_length _
    have short : values.length ≤ 64 := by
      rw [length]
      exact few
    have canonical := ((updateRequestOf_encodable short).mp encodable).2.2.2.2
    exact ⟨few, plain.mp ⟨values, gathered, fun value member => ⟨objectsFit value member, canonical value member⟩⟩⟩
  · rintro ⟨few, plains⟩
    obtain ⟨values, gathered, passes⟩ := plain.mpr plains
    have paired := CheckedLoops.mapM_forall₂.mp gathered
    have length : values.length = totalValues create.template.entryList := by
      rw [← paired.length_eq]
      exact describe_length _
    have short : values.length ≤ 64 := by
      rw [length]
      exact few
    have used : 0 < values.length := by
      rw [length, ← entries]
      exact checked.totalValues_pos
    obtain ⟨device, set, template⟩ := established.expects
    have encodable := (updateRequestOf_encodable short).mpr
      ⟨device, set, template, used, fun value member => (passes value member).2⟩
    have sent := (sends _).mpr ⟨few, values, gathered, fun value member => (passes value member).1, encodable, rfl⟩
    have received := DescriptorTemplateUpdateRequest.exactInverse.decodes _ _ _
      ((DescriptorTemplateUpdateRequest.encode_eq_ok _ _).mpr ⟨encodable, rfl⟩)
    have resolved :
        system.resolveTemplateTarget (updateRequestOf deviceId setId templateId values).cleared = .ok target :=
      established.targeted
    have counted : (updateRequestOf deviceId setId templateId values).cleared.valueCount.toNat =
        target.metadata.descriptors.length := by
      rw [listed, describe_length, ← length]
      exact @updateRequestOf_count deviceId setId templateId values short
    have arrives : ∀ (index : Nat) (described : DescriptorUpdateTemplateEntry × Nat),
        target.metadata.descriptors[index]? = Option.some described →
        ∃ info, translateTemplateValue system.context.objects deviceId described.1.descriptorType
            (slot (updateRequestOf deviceId setId templateId values).cleared.values index) = .ok info ∧
          ∀ padding native, (∀ position, position < info.size →
              native (descriptorSource described + position) = info.bytes padding position) →
            Arrived system.context.objects deviceId described.1.descriptorType data native
              (descriptorSource described) := by
      intro index described present
      rw [listed] at present
      obtain ⟨bound, rfl⟩ := List.getElem?_eq_some_iff.mp present
      have within : index < values.length := paired.length_eq ▸ bound
      have member := List.getElem_mem bound
      have value : slot (updateRequestOf deviceId setId templateId values).cleared.values index = values[index] := by
        rw [DescriptorTemplateUpdateRequest.cleared, slot_keep _ (by rw [updateRequestOf_count short]; exact within)]
        exact updateRequestOf_slot short within
      have gathered := paired.get bound within
      rw [value]
      refine gatherTemplateValue_arrives (fits _ member).1 (usable _ member) ?_ (plains _ member)
      rw [← (fits _ member).2]
      exact gathered
    obtain ⟨reply, infos, native, dataSize, called, lands⟩ := update_succeeds resolved checked counted
      (by rw [listed, paired.length_eq]; exact short)
      (fun index described present => ⟨_, (arrives index described present).choose_spec.1⟩) memory found
    refine ⟨native, ?_, ?_⟩
    · unfold deliverTemplateUpdate
      rw [sent, CheckedLoops.ok_bind, bytesOf_length, received, CheckedLoops.ok_bind]
      simp only [reply, called]
      rfl
    · intro described member
      obtain ⟨index, present⟩ := List.mem_iff_getElem?.mp member
      rw [← listed] at present
      obtain ⟨info, translated, arrived⟩ := arrives index described present
      obtain ⟨written, again, bytes⟩ := lands_structure lands (listed ▸ apart) present
      obtain rfl := Except.ok.inj (translated.symm.trans again)
      exact arrived _ _ bytes

/-- A driver with every function, and memory for the data. -/
def obligingTemplates : TemplateDriver := ⟨ObjectContext.obligingDriver, fun _ => true, true, 0⟩

/-- A template of one descriptor. -/
def oneDescriptor (descriptorType : UInt32) : DescriptorUpdateTemplateCreateRequest :=
  ⟨handleId .device 1, 0, 1, 0, 0, ObjectContext.setLayout, 0, 0, fun _ => ⟨0, 0, 1, descriptorType, 0, 24⟩⟩

/-- A template of a sampler and, with a gap between them, two uniform buffers. -/
def threeDescriptors : DescriptorUpdateTemplateCreateRequest :=
  ⟨handleId .device 1, 0, 2, 0, 0, ObjectContext.setLayout, 0, 0,
    fun entry => if entry = 0 then ⟨0, 0, 1, 0, 0, 24⟩ else ⟨1, 0, 2, 6, 24, 32⟩⟩

def beforeTemplate : TemplateContext :=
  ⟨Runs.final ObjectContext.step (ObjectContext.empty 16 false)
    (ObjectContext.poolRun ++
      [(ObjectContext.obligingDriver,
          .allocateDescriptorSets ObjectContext.setPool [ObjectContext.setLayout] vkSuccess fun _ => 60),
        (ObjectContext.obligingDriver, .createSampler (handleId .device 1) none ⟨vkSuccess, 70⟩),
        (ObjectContext.obligingDriver, .createBuffer (handleId .device 1) none ⟨vkSuccess, 80⟩)]),
    fun _ => ⟨0, 0, fun _ => default⟩⟩

def withTemplate (create : DescriptorUpdateTemplateCreateRequest) : TemplateContext :=
  (beforeTemplate.createDescriptorUpdateTemplate obligingTemplates create.cleared ⟨vkSuccess, 90⟩).2

def oneSet : UInt64 := handleId .descriptorSet 1
def oneTemplate : UInt64 := handleId .descriptorUpdateTemplate 1

def oneTarget (create : DescriptorUpdateTemplateCreateRequest) : TemplateTarget := ⟨30, 60, 90, create.cleared.template⟩

def templateClient (create : DescriptorUpdateTemplateCreateRequest) : TemplateClient where
  registry :=
    ⟨[⟨oneSet, .descriptorSet, ObjectContext.setPool⟩, ⟨ObjectContext.setPool, .descriptorPool, handleId .device 1⟩,
      ⟨oneTemplate, .descriptorUpdateTemplate, handleId .device 1⟩, ⟨handleId .sampler 1, .sampler, handleId .device 1⟩,
      ⟨handleId .buffer 1, .buffer, handleId .device 1⟩], []⟩
  descriptorTemplate := fun _ => some ⟨create.entryCount, create.entries⟩

/-- An image info with a sampler and the layout, and no view. -/
def samplerData (layout : UInt32) : Buffer := putU32 (putU64 zeroed 0 (handleId .sampler 1)) 16 layout

/-- The sampler, a range of the buffer, and no buffer. -/
def threeData : Buffer := putU64 (putU64 (putU64 (samplerData 0) 24 (handleId .buffer 1)) 32 16) 40 64

theorem threeDescriptors_established : Established (templateClient threeDescriptors) (withTemplate threeDescriptors)
    (handleId .device 1) oneSet oneTemplate threeDescriptors (oneTarget threeDescriptors) where
  recorded := rfl
  targeted := rfl
  made := by
    have encoded := (DescriptorUpdateTemplateCreateRequest.encode_eq_ok threeDescriptors _).mpr ⟨by decide +kernel, rfl⟩
    exact ⟨_, _, _, encoded, DescriptorUpdateTemplateCreateRequest.exactInverse.decodes _ _ _ encoded, rfl,
      beforeTemplate, obligingTemplates, ⟨vkSuccess, 90⟩, by unfold TemplateContext.Creates; decide +kernel⟩

theorem sampled_established : Established (templateClient (oneDescriptor 2)) (withTemplate (oneDescriptor 2))
    (handleId .device 1) oneSet oneTemplate (oneDescriptor 2) (oneTarget (oneDescriptor 2)) where
  recorded := rfl
  targeted := rfl
  made := by
    have encoded := (DescriptorUpdateTemplateCreateRequest.encode_eq_ok (oneDescriptor 2) _).mpr
      ⟨by decide +kernel, rfl⟩
    exact ⟨_, _, _, encoded, DescriptorUpdateTemplateCreateRequest.exactInverse.decodes _ _ _ encoded, rfl,
      beforeTemplate, obligingTemplates, ⟨vkSuccess, 90⟩, by unfold TemplateContext.Creates; decide +kernel⟩

theorem describe_threeDescriptors : describe threeDescriptors.template.entryList =
    [(⟨0, 0, 1, 0, 0, 24⟩, 0), (⟨1, 0, 2, 6, 24, 32⟩, 0), (⟨1, 0, 2, 6, 24, 32⟩, 1)] := rfl

theorem templateUpdate_arrives_threeDescriptors :
    ∃ native, deliverTemplateUpdate (templateClient threeDescriptors) (withTemplate threeDescriptors) obligingTemplates
        (handleId .device 1) oneSet oneTemplate threeData = .ok [⟨30, 60, 90, native⟩] ∧
      OnDevice (withTemplate threeDescriptors).context.objects (handleId .device 1) (handleId .buffer 1) .buffer
        (getU64 native 24) ∧ getU64 native 40 = 64 := by
  have usable : ∀ described ∈ describe threeDescriptors.template.entryList,
      Usable (templateClient threeDescriptors).registry (withTemplate threeDescriptors).context.objects
        (handleId .device 1) described.1.descriptorType threeData (descriptorSource described) := by
    rw [describe_threeDescriptors, List.forall_mem_cons, List.forall_mem_cons, List.forall_mem_singleton]
    exact ⟨.inr ⟨by decide +kernel, 70, by decide +kernel⟩, .inr ⟨by decide +kernel, 80, by decide +kernel⟩,
      .inl (by decide +kernel)⟩
  have apart : Apart (describe threeDescriptors.template.entryList) := by
    rw [describe_threeDescriptors]
    refine .cons (List.forall_mem_cons.mpr ⟨?_, List.forall_mem_singleton.mpr ?_⟩)
      (.cons (List.forall_mem_singleton.mpr ?_) (.cons nofun .nil))
    · exact fun _ both => absurd (Nat.lt_of_le_of_lt both.2.1 both.1.2) (by decide)
    · exact fun _ both => absurd (Nat.lt_of_le_of_lt both.2.1 both.1.2) (by decide)
    · exact fun _ both => absurd (Nat.lt_of_le_of_lt both.2.1 both.1.2) (by decide)
  have plain : ∀ described ∈ describe threeDescriptors.template.entryList,
      Plain described.1.descriptorType threeData (descriptorSource described) := by
    rw [describe_threeDescriptors, List.forall_mem_cons, List.forall_mem_cons, List.forall_mem_singleton]
    exact ⟨(by decide +kernel : getU32 threeData 16 = 0), trivial, trivial⟩
  have memory : obligingTemplates.allocates = true := rfl
  have found : obligingTemplates.updates (oneTarget threeDescriptors).device = true := rfl
  obtain ⟨native, delivered, arrived⟩ := (templateUpdate_arrives_iff threeDescriptors_established usable apart
    memory found).mpr ⟨by decide, plain⟩
  have buffer := arrived (⟨1, 0, 2, 6, 24, 32⟩, 0) (by rw [describe_threeDescriptors]; simp)
  refine ⟨native, delivered, ?_, ?_⟩
  · exact buffer.1
  · exact buffer.2.2

/-- A sampled image with a sampler, which its type does not use, is refused. -/
theorem unused_sampler_refused :
    Established (templateClient (oneDescriptor 2)) (withTemplate (oneDescriptor 2)) (handleId .device 1) oneSet
        oneTemplate (oneDescriptor 2) (oneTarget (oneDescriptor 2)) ∧
      (∀ described ∈ describe (oneDescriptor 2).template.entryList,
        Usable (templateClient (oneDescriptor 2)).registry (withTemplate (oneDescriptor 2)).context.objects
          (handleId .device 1) described.1.descriptorType (samplerData 5) (descriptorSource described)) ∧
      Apart (describe (oneDescriptor 2).template.entryList) ∧
      deliverTemplateUpdate (templateClient (oneDescriptor 2)) (withTemplate (oneDescriptor 2)) obligingTemplates
        (handleId .device 1) oneSet oneTemplate (samplerData 5) = .error .eproto := by
  refine ⟨sampled_established, ?_, List.pairwise_singleton _ _, ?_⟩
  · intro described member
    obtain rfl := List.mem_singleton.mp member
    exact .inl (by decide +kernel)
  · have refused : (templateClient (oneDescriptor 2)).updateDescriptorSetWithTemplate (handleId .device 1) oneSet
        oneTemplate (samplerData 5) = .error .eproto := by
      decide +kernel
    rw [deliverTemplateUpdate, refused]
    rfl

end VulkanBridge
