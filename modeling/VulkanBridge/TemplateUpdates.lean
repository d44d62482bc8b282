import VulkanBridge.CheckedLoops
import VulkanBridge.DescriptorTemplates

/-!
Where the updates of descriptor update templates land, in every state that create
functions, updates and the other calls lead to.
-/

namespace VulkanBridge

open ByteBuffer

/-- A handle that is null, or an object of the type on the device. -/
def OnDevice (objects : HandleTable) (deviceId wireId : UInt64) (type : ObjectType) (bits : UInt64) : Prop :=
  (wireId = 0 ∧ bits = 0) ∨ (wireId ≠ 0 ∧ objects.lookup wireId type = .ok (deviceId, bits))

/-- An image view that is null, or one of an image on the device. -/
def ViewOnDevice (objects : HandleTable) (deviceId wireId bits : UInt64) : Prop :=
  (wireId = 0 ∧ bits = 0) ∨
    (wireId ≠ 0 ∧ ∃ imageId imageBits, objects.lookup wireId .imageView = .ok (imageId, bits) ∧
      objects.lookup imageId .image = .ok (deviceId, imageBits))

inductive Resolved (objects : HandleTable) (deviceId : UInt64) (value : DescriptorTemplateValue) :
    DescriptorInfo → Prop where
  | sampler (type : value.descriptorType = 0) (alone : value.auxiliaryObjectId = 0) {sampler : UInt64}
      (held : OnDevice objects deviceId value.objectId .sampler sampler) :
        Resolved objects deviceId value (.image sampler 0 value.imageLayout)
  | image (type : value.descriptorType ∈ ([1, 2, 3, 10] : List UInt32)) {sampler imageView : UInt64}
      (held : OnDevice objects deviceId value.auxiliaryObjectId .sampler sampler)
      (viewed : ViewOnDevice objects deviceId value.objectId imageView) :
      Resolved objects deviceId value (.image sampler imageView value.imageLayout)
  | texelBuffer (type : value.descriptorType ∈ ([4, 5] : List UInt32)) (null : value.objectId = 0) :
      Resolved objects deviceId value .texelBuffer
  | buffer (type : value.descriptorType ∈ ([6, 7, 8, 9] : List UInt32)) {buffer : UInt64}
      (held : OnDevice objects deviceId value.objectId .buffer buffer) :
      Resolved objects deviceId value (.buffer buffer value.offset value.range)

variable {objects : HandleTable} {deviceId wireId bits : UInt64} {type : ObjectType}

theorem resolveNullable_eq_ok :
    resolveNullable objects deviceId wireId type = .ok bits ↔ OnDevice objects deviceId wireId type bits := by
  unfold resolveNullable OnDevice
  by_cases null : wireId = 0
  · simp [null, eq_comm]
  · rw [if_neg null]
    rcases objects.lookup wireId type with code | ⟨ownerId, native⟩
    · simp [null]
    · by_cases foreign : ownerId = deviceId
      · simp [null, foreign]
      · simp [null, foreign]

theorem resolveTemplateImageView_eq_ok :
    resolveTemplateImageView objects deviceId wireId = .ok bits ↔ ViewOnDevice objects deviceId wireId bits := by
  unfold resolveTemplateImageView ViewOnDevice
  by_cases null : wireId = 0
  · simp [null, eq_comm]
  · rw [if_neg null]
    rcases objects.lookup wireId .imageView with code | ⟨imageId, viewBits⟩
    · simp [null]
    · rcases found : objects.lookup imageId .image with code | ⟨ownerId, imageBits⟩
      · simp [null, found]
      · by_cases foreign : ownerId = deviceId
        · simp [null, found, foreign]
        · simp [null, found, foreign]

theorem Resolved.of_sampled {value : DescriptorTemplateValue} {info : DescriptorInfo}
    (sampled : value.descriptorType ∈ ([1, 2, 3, 10] : List UInt32))
    (done : (do
        let sampler ← resolveNullable objects deviceId value.auxiliaryObjectId .sampler
        let imageView ← resolveTemplateImageView objects deviceId value.objectId
        return .image sampler imageView value.imageLayout) = Except.ok info) :
    Resolved objects deviceId value info := by
  obtain ⟨sampler, held, done⟩ := CheckedLoops.bind_eq_ok.mp done
  obtain ⟨imageView, viewed, done⟩ := CheckedLoops.bind_eq_ok.mp done
  cases done
  exact .image sampled (resolveNullable_eq_ok.mp held) (resolveTemplateImageView_eq_ok.mp viewed)

theorem Resolved.of_buffer {value : DescriptorTemplateValue} {info : DescriptorInfo}
    (type : value.descriptorType ∈ ([6, 7, 8, 9] : List UInt32))
    (done : (do
        let buffer ← resolveNullable objects deviceId value.objectId .buffer
        return .buffer buffer value.offset value.range) = Except.ok info) :
    Resolved objects deviceId value info := by
  obtain ⟨buffer, held, done⟩ := CheckedLoops.bind_eq_ok.mp done
  cases done
  exact .buffer type (resolveNullable_eq_ok.mp held)

theorem Resolved.of_texelBuffer {value : DescriptorTemplateValue} {info : DescriptorInfo}
    (type : value.descriptorType ∈ ([4, 5] : List UInt32))
    (done : (if value.objectId ≠ 0 then .error .enotsup else .ok .texelBuffer) = Except.ok (ε := Errno) info) :
    Resolved objects deviceId value info := by
  split at done
  · cases done
  · rename_i null
    cases done
    exact .texelBuffer type (not_not.mp null)

theorem translateTemplateValue_eq_ok {descriptorType : UInt32} {value : DescriptorTemplateValue}
    {info : DescriptorInfo} :
    translateTemplateValue objects deviceId descriptorType value = .ok info ↔
      value.descriptorType = descriptorType ∧ Resolved objects deviceId value info := by
  unfold translateTemplateValue
  by_cases differs : value.descriptorType ≠ descriptorType
  · simp [differs]
  rw [if_neg differs]
  obtain rfl := not_not.mp differs
  simp only [true_and]
  have typed : ∀ number : UInt32, value.descriptorType.toNat = number.toNat → value.descriptorType = number :=
    fun number same => UInt32.toNat_inj.mp same
  constructor
  · intro done
    split at done
    case h_1 type =>
      split at done
      · cases done
      · rename_i alone
        obtain ⟨sampler, held, done⟩ := CheckedLoops.bind_eq_ok.mp done
        cases done
        exact .sampler (typed 0 type) (not_not.mp alone) (resolveNullable_eq_ok.mp held)
    case h_2 type => exact .of_sampled (by rw [typed 1 type]; decide) done
    case h_3 type => exact .of_sampled (by rw [typed 2 type]; decide) done
    case h_4 type => exact .of_sampled (by rw [typed 3 type]; decide) done
    case h_5 type => exact .of_sampled (by rw [typed 10 type]; decide) done
    case h_6 type => exact .of_texelBuffer (by rw [typed 4 type]; decide) done
    case h_7 type => exact .of_texelBuffer (by rw [typed 5 type]; decide) done
    case h_8 type => exact .of_buffer (by rw [typed 6 type]; decide) done
    case h_9 type => exact .of_buffer (by rw [typed 7 type]; decide) done
    case h_10 type => exact .of_buffer (by rw [typed 8 type]; decide) done
    case h_11 type => exact .of_buffer (by rw [typed 9 type]; decide) done
    case h_12 => cases done
  · intro resolved
    cases resolved with
    | sampler type alone held =>
        rw [type]
        show (if value.auxiliaryObjectId ≠ 0 then _ else _) = _
        rw [if_neg (not_not.mpr alone), resolveNullable_eq_ok.mpr held]
        rfl
    | image type held viewed =>
        simp only [List.mem_cons, List.not_mem_nil, or_false] at type
        rcases type with type | type | type | type
        all_goals
          rw [type, resolveNullable_eq_ok.mpr held, resolveTemplateImageView_eq_ok.mpr viewed]
          rfl
    | texelBuffer type null =>
        simp only [List.mem_cons, List.not_mem_nil, or_false] at type
        rcases type with type | type
        all_goals
          rw [type, null]
          rfl
    | buffer type held =>
        simp only [List.mem_cons, List.not_mem_nil, or_false] at type
        rcases type with type | type | type | type
        all_goals
          rw [type, resolveNullable_eq_ok.mpr held]
          rfl

theorem Resolved.size {value : DescriptorTemplateValue} {info : DescriptorInfo}
    (resolved : Resolved objects deviceId value info) :
    info.size = (descriptorTemplateDataSize value.descriptorType).toNat := by
  cases resolved with
  | sampler type => rw [type]; rfl
  | image type =>
      simp only [List.mem_cons, List.not_mem_nil, or_false] at type
      rcases type with type | type | type | type <;> rw [type] <;> rfl
  | texelBuffer type =>
      simp only [List.mem_cons, List.not_mem_nil, or_false] at type
      rcases type with type | type <;> rw [type] <;> rfl
  | buffer type =>
      simp only [List.mem_cons, List.not_mem_nil, or_false] at type
      rcases type with type | type | type | type <;> rw [type] <;> rfl

/-- Where the structure of a descriptor goes: to the offset of its entry and its index
times the stride. -/
def placed (padding : UInt32) (described : (DescriptorUpdateTemplateEntry × Nat) × DescriptorInfo) : Placement where
  position := described.1.1.offset.toNat + described.1.2 * described.1.1.stride.toNat
  size := described.2.size
  bytes := described.2.bytes padding

theorem EntryFits.placed {entry : DescriptorUpdateTemplateEntry} (fits : EntryFits entry) {index : Nat}
    (bound : index < entry.descriptorCount.toNat) (padding : UInt32) (info : DescriptorInfo) :
    (⟨templateDestination entry index, info.size, info.bytes padding⟩ : Placement) =
      placed padding ((entry, index), info) := by
  rw [VulkanBridge.placed, (fits.destination bound).1]

theorem placeTemplateValues_spec (translate : UInt32 → DescriptorTemplateValue → Except Errno DescriptorInfo)
    (padding : UInt32) (values : Fin 64 → DescriptorTemplateValue) :
    ∀ (descriptors : List (DescriptorUpdateTemplateEntry × Nat)) (first : Nat) (writes : List Placement),
      (∀ described ∈ descriptors, EntryFits described.1 ∧ described.2 < described.1.descriptorCount.toNat) →
      ∃ infos : List DescriptorInfo, infos.length ≤ descriptors.length ∧
        (placeTemplateValues translate padding values descriptors first writes).2 =
          writes ++ (descriptors.zip infos).map (placed padding) ∧
        (∀ index described info, (descriptors.zip infos)[index]? = some (described, info) →
          translate described.1.descriptorType (slot values (first + index)) = .ok info) ∧
        ((placeTemplateValues translate padding values descriptors first writes).1 = .ok () →
          infos.length = descriptors.length) := by
  intro descriptors
  induction descriptors with
  | nil =>
      intro first writes _
      refine ⟨[], Nat.le_refl _, by simp [placeTemplateValues], ?_, fun _ => rfl⟩
      intro index described info impossible
      simp at impossible
  | cons described rest ih =>
      intro first writes fits
      obtain ⟨⟨fit, bound⟩, others⟩ := List.forall_mem_cons.mp fits
      obtain ⟨entry, descriptor⟩ := described
      simp only [placeTemplateValues]
      rcases translated : translate entry.descriptorType (slot values first) with code | info
      · refine ⟨[], Nat.zero_le _, by simp, ?_, ?_⟩
        · intro index described info impossible
          simp at impossible
        · intro impossible
          cases impossible
      · obtain ⟨infos, short, writes, each, complete⟩ := ih (first + 1)
          (writes ++ [⟨templateDestination entry descriptor, info.size, info.bytes padding⟩]) others
        refine ⟨info :: infos, Nat.succ_le_succ short, ?_, ?_, ?_⟩
        · dsimp only
          rw [writes, fit.placed bound]
          simp
        · intro index
          cases index with
          | zero =>
              intro described other same
              simp only [List.zip_cons_cons, List.getElem?_cons_zero, Option.some.injEq, Prod.mk.injEq] at same
              obtain ⟨rfl, rfl⟩ := same
              exact translated
          | succ index =>
              intro described other same
              rw [List.zip_cons_cons, List.getElem?_cons_succ] at same
              rw [show first + (index + 1) = first + 1 + index by omega]
              exact each index described other same
        · intro done
          rw [List.length_cons, List.length_cons, complete done]

namespace ObjectContext

theorem giveUp_metadata (context : ObjectContext) (type : ObjectType) (native : NativeAnswer) :
    (context.giveUp type native).2.metadata = context.metadata := rfl

theorem registerChild_metadata (context : ObjectContext) (type : ObjectType) (parentId : UInt64) (native : NativeAnswer)
    (plain : type ≠ .queryPool) :
    (∃ result, (context.registerChild type .afterInsert parentId native).1 = .ok ⟨result, []⟩ ∧
        (context.registerChild type .afterInsert parentId native).2.metadata = context.metadata) ∨
      ∃ slot wireId, context.slotOf type 0 = some slot ∧
        (context.registerChild type .afterInsert parentId native).1 = .ok ⟨vkSuccess, [wireId]⟩ ∧
        (context.registerChild type .afterInsert parentId native).2.metadata =
          (context.setMetadata type slot wireId).metadata := by
  simp only [registerChild, reduceCtorEq, if_false, if_neg plain]
  split
  · exact .inl ⟨_, rfl, rfl⟩
  · rename_i objects inserted
    split
    · rename_i slot free
      exact .inr ⟨slot, _, free, rfl, rfl⟩
    · refine .inl ⟨_, rfl, ?_⟩
      rw [giveUp_metadata, removeHandle_metadata]
      rfl

def Made (reply : Except Errno ObjectReply) : Prop := ∃ result first rest, reply = .ok ⟨result, first :: rest⟩

theorem not_made_verdict (verdict : Except Errno VulkanResult) : ¬ Made (verdict.map (⟨·, []⟩)) := by
  rintro ⟨result, first, rest, same⟩
  cases verdict with
  | error code => cases same
  | ok value => cases same

theorem createDescriptorUpdateTemplate_cases (driver : ObjectDriver) (context : ObjectContext)
    (deviceId layoutId : UInt64) (fields entries : Verdict) (native : NativeAnswer) :
    (¬ Made (context.createDescriptorUpdateTemplate driver deviceId layoutId fields entries native).1 ∧
      (context.createDescriptorUpdateTemplate driver deviceId layoutId fields entries native).2.metadata =
        context.metadata) ∨
      ∃ slot wireId, context.slotOf .descriptorUpdateTemplate 0 = some slot ∧ fields = none ∧ entries = none ∧
        (context.createDescriptorUpdateTemplate driver deviceId layoutId fields entries native).1 =
          .ok ⟨vkSuccess, [wireId]⟩ ∧
        (context.createDescriptorUpdateTemplate driver deviceId layoutId fields entries native).2.metadata =
          (context.setMetadata .descriptorUpdateTemplate slot wireId).metadata := by
  have refused : ∀ code : Errno, ¬ Made (.error code) := by
    rintro code ⟨result, first, rest, same⟩
    cases same
  have unmade : ∀ result : VulkanResult, ¬ Made (.ok ⟨result, []⟩) := by
    rintro result ⟨other, first, rest, same⟩
    cases same
  unfold createDescriptorUpdateTemplate createDeviceChild
  split
  · exact .inl ⟨not_made_verdict _, rfl⟩
  simp only [reduceCtorEq, false_and, if_false]
  split
  · exact .inl ⟨refused _, rfl⟩
  split
  · exact .inl ⟨not_made_verdict _, rfl⟩
  rename_i referencesFit
  have entriesFit : entries = none := (Option.orElse_eq_none _ _ |>.mp referencesFit).2
  split
  · exact .inl ⟨refused _, rfl⟩
  split
  · exact .inl ⟨unmade _, rfl⟩
  · have created : (context.nativeCreate .descriptorUpdateTemplate native).metadata = context.metadata :=
      nativeCreate_metadata context native
    rcases (context.nativeCreate .descriptorUpdateTemplate native).registerChild_metadata .descriptorUpdateTemplate
      deviceId native (by decide) with ⟨result, reply, same⟩ | ⟨slot, wireId, free, reply, metadata⟩
    · rw [reply]
      exact .inl ⟨unmade _, same.trans created⟩
    · refine .inr ⟨slot, wireId, ?_, trivial, entriesFit, reply, ?_⟩
      · rw [← free, slotOf, slotOf, created]
      · rw [metadata, setMetadata, setMetadata, created]

end ObjectContext

/-- What a create function stores of its request. -/
def DescriptorUpdateTemplateCreateRequest.template (request : DescriptorUpdateTemplateCreateRequest) :
    DescriptorTemplate :=
  ⟨request.deviceId, request.entryCount, request.entries⟩

theorem DescriptorUpdateTemplateCreateRequest.checked {request : DescriptorUpdateTemplateCreateRequest}
    (fields : request.fieldsVerdict = none) (entries : request.entriesVerdict = none) : request.template.Checked := by
  unfold fieldsVerdict at fields
  split at fields
  · cases fields
  rename_i fit
  simp only [Bool.or_eq_true, bne_iff_ne, beq_iff_eq, decide_eq_true_eq, not_or, Decidable.not_not] at fit
  obtain ⟨⟨⟨⟨⟨⟨_, counted⟩, few⟩, _⟩, _⟩, _⟩, _⟩ := fit
  unfold entriesVerdict at entries
  split at entries
  · rename_i supported
    refine ⟨?_, ?_, ?_⟩
    · exact Nat.pos_of_ne_zero fun zero => counted (UInt32.toNat_inj.mp zero)
    · rw [gt_iff_lt, UInt32.lt_iff_toNat_lt, Nat.not_lt] at few
      exact few
    · intro entry member
      obtain ⟨index, bound, rfl⟩ := List.mem_map.mp member
      exact List.all_eq_true.mp supported index bound
  · cases entries

/-- A call on a context with templates. The calls of the other functions are those that
make no template. -/
inductive TemplateCall where
  | create (request : DescriptorUpdateTemplateCreateRequest) (native : NativeAnswer)
  | update (request : DescriptorTemplateUpdateRequest)
  | object (request : ObjectRequest) (other : .descriptorUpdateTemplate ∉ request.makes)

namespace TemplateContext

variable {system : TemplateContext} {driver : TemplateDriver}

/-- An update changes neither the table nor the metadata. -/
def step (system : TemplateContext) (input : TemplateDriver × TemplateCall) : TemplateContext :=
  match input.2 with
  | .create request native => (system.createDescriptorUpdateTemplate input.1 request native).2
  | .update _ => system
  | .object request _ => { system with context := (system.context.call input.1.objects request).2 }

/-- The create function returned the id. -/
def Creates (system : TemplateContext) (driver : TemplateDriver) (request : DescriptorUpdateTemplateCreateRequest)
    (native : NativeAnswer) (wireId : UInt64) : Prop :=
  (system.createDescriptorUpdateTemplate driver request native).1 = .ok ⟨vkSuccess, [wireId]⟩

theorem create_cases (system : TemplateContext) (driver : TemplateDriver)
    (request : DescriptorUpdateTemplateCreateRequest) (native : NativeAnswer) :
    (¬ ObjectContext.Made (system.createDescriptorUpdateTemplate driver request native).1 ∧
      (system.createDescriptorUpdateTemplate driver request native).2.context.metadata = system.context.metadata ∧
      (system.createDescriptorUpdateTemplate driver request native).2.templates = system.templates) ∨
      ∃ slot wireId, request.template.Checked ∧ system.Creates driver request native wireId ∧
        (system.createDescriptorUpdateTemplate driver request native).2.context.metadata =
          (system.context.setMetadata .descriptorUpdateTemplate slot wireId).metadata ∧
        (system.createDescriptorUpdateTemplate driver request native).2.templates =
          Function.update system.templates slot request.template := by
  unfold Creates createDescriptorUpdateTemplate
  rcases system.context.createDescriptorUpdateTemplate_cases driver.objects request.deviceId
    request.descriptorSetLayoutId request.fieldsVerdict request.entriesVerdict native with
    ⟨unmade, metadata⟩ | ⟨slot, wireId, free, fields, entries, reply, metadata⟩
  · dsimp only
    split
    · rename_i result first rest slot made free
      exact absurd ⟨result, first, rest, made⟩ unmade
    · exact .inl ⟨unmade, metadata, rfl⟩
  · dsimp only
    rw [free]
    split
    · rename_i result first rest taken made same
      cases same
      exact .inr ⟨slot, wireId, request.checked fields entries, reply, metadata, rfl⟩
    · rename_i other
      exact (other _ _ _ slot reply rfl).elim

theorem Creates.checked {request : DescriptorUpdateTemplateCreateRequest} {native : NativeAnswer} {wireId : UInt64}
    (creates : system.Creates driver request native wireId) : request.template.Checked := by
  rcases system.create_cases driver request native with ⟨unmade, _⟩ | ⟨_, _, checked, _⟩
  · exact absurd ⟨vkSuccess, wireId, [], creates⟩ unmade
  · exact checked

def MadeBy (start : TemplateContext) (inputs : List (TemplateDriver × TemplateCall)) (wireId : UInt64)
    (template : DescriptorTemplate) : Prop :=
  ∃ earlier driver request native later, inputs = earlier ++ (driver, TemplateCall.create request native) :: later ∧
    (Runs.final step start earlier).Creates driver request native wireId ∧ template = request.template

theorem MadeBy.append {start : TemplateContext} {inputs : List (TemplateDriver × TemplateCall)} {wireId : UInt64}
    {template : DescriptorTemplate} (made : MadeBy start inputs wireId template)
    (more : List (TemplateDriver × TemplateCall)) : MadeBy start (inputs ++ more) wireId template := by
  obtain ⟨earlier, driver, request, native, later, rfl, creates, same⟩ := made
  exact ⟨earlier, driver, request, native, later ++ more, by simp, creates, same⟩

theorem MadeBy.checked {start : TemplateContext} {inputs : List (TemplateDriver × TemplateCall)} {wireId : UInt64}
    {template : DescriptorTemplate} (made : MadeBy start inputs wireId template) : template.Checked := by
  obtain ⟨_, _, _, _, _, _, creates, rfl⟩ := made
  exact creates.checked

/-- A new context, whatever its slots held. -/
def empty (capacity : Nat) (hasGetDeviceProcAddr : Bool) (templates : Nat → DescriptorTemplate) : TemplateContext :=
  ⟨.empty capacity hasGetDeviceProcAddr, templates⟩

structure Targets (system : TemplateContext) (request : DescriptorTemplateUpdateRequest) (target : TemplateTarget) :
    Prop where
  device : ∃ physicalId, system.context.objects.lookup request.deviceId .device = .ok (physicalId, target.device)
  set : ∃ poolId pool, system.context.objects.lookup request.descriptorSetId .descriptorSet = .ok (poolId, target.set) ∧
    system.context.objects.lookup poolId .descriptorPool = .ok (request.deviceId, pool)
  template : system.context.objects.lookup request.descriptorUpdateTemplateId .descriptorUpdateTemplate =
    .ok (request.deviceId, target.template)
  slot : ∃ slot, system.context.metadata .descriptorUpdateTemplate slot = request.descriptorUpdateTemplateId ∧
    system.templates slot = target.metadata

theorem resolveTemplateTarget_ok {request : DescriptorTemplateUpdateRequest} {target : TemplateTarget}
    (resolved : system.resolveTemplateTarget request = .ok target) : system.Targets request target := by
  obtain ⟨⟨physicalId, device⟩, found, afterDevice⟩ := CheckedLoops.bind_eq_ok.mp resolved
  obtain ⟨⟨poolId, set⟩, owned, afterSet⟩ := CheckedLoops.bind_eq_ok.mp afterDevice
  obtain ⟨⟨poolDeviceId, pool⟩, pooled, afterPool⟩ := CheckedLoops.bind_eq_ok.mp afterSet
  obtain ⟨⟨templateDeviceId, template⟩, known, last⟩ := CheckedLoops.bind_eq_ok.mp afterPool
  clear resolved afterDevice afterSet afterPool
  dsimp only at last
  split at last
  · cases last
  rename_i lineage
  obtain ⟨samePool, sameTemplate⟩ := not_or.mp lineage
  obtain rfl := not_not.mp samePool
  obtain rfl := not_not.mp sameTemplate
  split at last
  · cases last
  · rename_i slot listed
    split at last
    · cases last
    · rename_i matching
      cases last
      exact ⟨⟨physicalId, found⟩, ⟨poolId, pool, owned, pooled⟩, known, slot,
        not_not.mp (not_or.mp matching).1, rfl⟩

/-- A native update with the template's data: as many values as the template has
descriptors, each of its entry's type and with objects of the device, each structure in
its place, and nothing else. -/
structure Lands (system : TemplateContext) (driver : TemplateDriver) (request : DescriptorTemplateUpdateRequest)
    (template : DescriptorTemplate) (dataSize : Nat) (infos : List DescriptorInfo) (data : Buffer) : Prop where
  sized : IsGreatest template.ends dataSize
  counted : request.valueCount.toNat = totalValues template.entryList
  complete : infos.length = totalValues template.entryList
  resolved : ∀ index described info, (template.descriptors.zip infos)[index]? = some (described, info) →
    (slot request.values index).descriptorType = described.1.descriptorType ∧
      Resolved system.context.objects request.deviceId (slot request.values index) info
  data : ∀ index, data index =
    match Placement.lastOn ((template.descriptors.zip infos).map (placed driver.padding)) index with
    | some write => write.bytes (index - write.position)
    | none => 0

theorem place_lands {request : DescriptorTemplateUpdateRequest} {template : DescriptorTemplate}
    {values : UInt32} {dataSize : UInt64} (checked : template.Checked)
    (counted : values.toNat = template.descriptors.length)
    (measured : Measured template.entryList (0, 0) (values, dataSize)) (same : request.valueCount = values) :
    (∀ write ∈ (placeTemplateValues (translateTemplateValue system.context.objects request.deviceId) driver.padding
        request.values template.descriptors 0 []).2, write.position + write.size ≤ dataSize.toNat) ∧
      ((placeTemplateValues (translateTemplateValue system.context.objects request.deviceId) driver.padding
          request.values template.descriptors 0 []).1 = .ok () →
        ∃ infos, Lands system driver request template dataSize.toNat infos
          (Placement.writeAll zeroed (placeTemplateValues
            (translateTemplateValue system.context.objects request.deviceId)
            driver.padding request.values template.descriptors 0 []).2)) := by
  have fits : ∀ described ∈ template.descriptors,
      EntryFits described.1 ∧ described.2 < described.1.descriptorCount.toNat := by
    rintro ⟨entry, index⟩ member
    obtain ⟨isEntry, bound⟩ := DescriptorTemplate.mem_descriptors member
    exact ⟨checked.fits entry isEntry, bound⟩
  obtain ⟨infos, short, writes, each, complete⟩ := placeTemplateValues_spec
    (translateTemplateValue system.context.objects request.deviceId) driver.padding request.values template.descriptors
    0 [] fits
  have resolved : ∀ index described info, (template.descriptors.zip infos)[index]? = some (described, info) →
      (slot request.values index).descriptorType = described.1.descriptorType ∧
        Resolved system.context.objects request.deviceId (slot request.values index) info := by
    intro index described info present
    have translated := each index described info present
    rw [Nat.zero_add] at translated
    exact translateTemplateValue_eq_ok.mp translated
  rw [writes, List.nil_append]
  constructor
  · intro write member
    obtain ⟨⟨⟨entry, index⟩, info⟩, zipped, rfl⟩ := List.mem_map.mp member
    obtain ⟨position, present⟩ := List.mem_iff_getElem?.mp zipped
    obtain ⟨type, valued⟩ := resolved position _ _ present
    obtain ⟨isEntry, bound⟩ := DescriptorTemplate.mem_descriptors (List.of_mem_zip zipped).1
    obtain ⟨destination, inside⟩ := (checked.fits entry isEntry).destination bound
    have covered := measured.covers entry isEntry
    have size := valued.size
    rw [type] at size
    simp only [placed, size]
    dsimp only at covered
    omega
  · intro done
    refine ⟨infos, checked.isGreatest measured, ?_, ?_, resolved, ?_⟩
    · rw [same, counted, DescriptorTemplate.descriptors_length]
    · rw [complete done, DescriptorTemplate.descriptors_length]
    · intro index
      rw [Placement.writeAll_apply]
      rfl

end TemplateContext

end VulkanBridge
