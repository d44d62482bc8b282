import VulkanBridge.DeviceCreateWire
import VulkanBridge.RequestFormats

/-!
What the decoder of the packed device request makes of the bytes that its encoder wrote,
and with it what every decoder makes of the request of its kind.
-/

namespace VulkanBridge

open ByteBuffer CheckedLoops

theorem CoreFeature.index_lt (feature : CoreFeature) : feature.index < 25 := by
  cases feature <;> decide

theorem CoreFeature.getD_index (feature : CoreFeature) :
    CoreFeature.all.getD feature.index .shaderDrawParameters = feature := by
  cases feature <;> rfl

theorem CoreFeature.mem_all (feature : CoreFeature) : feature ∈ CoreFeature.all := by
  cases feature <;> decide

theorem encodeQueueCreateInfo_writes (cursor : Nat) (info : DeviceQueueCreateInfo) :
    WritesWithin (encodeQueueCreateInfo · cursor info) cursor (cursor + 16) := by
  intro buffer index outside
  simp (disch := omega) only [encodeQueueCreateInfo, putU32_apart]

theorem decodeQueueCreateInfo_reads (cursor : Nat) :
    ReadsWithin (decodeQueueCreateInfo · cursor) cursor (cursor + 16) := by
  intro left right same
  simp (disch := omega) only [decodeQueueCreateInfo, getU32_same same]

theorem decodeQueueCreateInfo_encode (buffer : Buffer) (cursor : Nat) (info : DeviceQueueCreateInfo) :
    decodeQueueCreateInfo (encodeQueueCreateInfo buffer cursor info) cursor = info := by
  simp (disch := omega) only [decodeQueueCreateInfo, encodeQueueCreateInfo, getU32_putU32, getU32_putU32_apart]

def queueCreateInfoBlock : Block DeviceQueueCreateInfo :=
  ⟨16, encodeQueueCreateInfo, decodeQueueCreateInfo, encodeQueueCreateInfo_writes, decodeQueueCreateInfo_reads,
    decodeQueueCreateInfo_encode⟩

theorem terminator_eq_some {bytes : Nat → UInt8} {available last : Nat} :
    terminator bytes available = some last ↔ last < available ∧ bytes last = 0 ∧ ∀ index < last, bytes index ≠ 0 := by
  rw [terminator, List.find?_range_eq_some]
  simp only [beq_iff_eq, List.mem_range, Bool.not_eq_true', beq_eq_false_iff_ne]
  constructor
  · rintro ⟨ends, inside, earlier⟩
    exact ⟨inside, ends, earlier⟩
  · rintro ⟨inside, ends, earlier⟩
    exact ⟨ends, inside, earlier⟩

namespace DeviceCreatePackedRequest

/-! ### Names -/

def IsName (name : ExtensionName) : Prop := slot name 0 ≠ 0 ∧ (terminator (slot name) 128).isSome = true

def cutName (name : ExtensionName) : ExtensionName := fun index => if index.val < nameSize name then name index else 0

def namesSize (names : List ExtensionName) : Nat := (names.map nameSize).sum

theorem namesSize_cons (name : ExtensionName) (rest : List ExtensionName) :
    namesSize (name :: rest) = nameSize name + namesSize rest := List.sum_cons

theorem nameSize_eq {name : ExtensionName} {last : Nat} (ends : terminator (slot name) 128 = some last) :
    nameSize name = last + 1 := by
  rw [nameSize, ends, Option.getD_some]

theorem measureNames_eq_ok {names : List ExtensionName} {result : Nat} : ∀ {length : Nat}, length ≤ 4096 →
    measureNames names length = .ok result →
    (∀ name ∈ names, IsName name) ∧ result = length + namesSize names ∧ result ≤ 4096 := by
  induction names with
  | nil =>
      intro length small measured
      cases measured
      refine ⟨?_, rfl, small⟩
      intro name member
      cases member
  | cons name rest ih =>
      intro length small measured
      simp only [measureNames, refused_eq_ok, Bool.or_eq_true, beq_iff_eq, not_or, Nat.not_lt] at measured
      obtain ⟨⟨filled, ends⟩, room, later⟩ := measured
      obtain ⟨named, total, bounded⟩ := ih (by omega) later
      refine ⟨?_, ?_, bounded⟩
      · intro other member
        rcases List.mem_cons.mp member with rfl | member
        · refine ⟨filled, Option.isSome_iff_ne_none.mpr ?_⟩
          intro endless
          exact ends (Option.isNone_iff_eq_none.mpr endless)
        · exact named other member
      · rw [namesSize_cons, total]
        omega

theorem putNames_apart : ∀ (names : List ExtensionName) (cursor : Nat) (output : Buffer) (index : Nat),
    index < cursor ∨ cursor + namesSize names ≤ index → putNames names cursor output index = output index := by
  intro names
  induction names with
  | nil => intro cursor output index _; rfl
  | cons name rest ih =>
      intro cursor output index apart
      rw [namesSize_cons] at apart
      rw [putNames, ih _ _ _ (by omega)]
      exact copyInto_apart _ _ _ _ (by omega)

theorem putNames_within (names : List ExtensionName) (cursor : Nat) :
    WritesWithin (putNames names cursor) cursor (cursor + namesSize names) :=
  fun output index outside => putNames_apart names cursor output index outside

theorem readNames_putNames {inputLength : Nat} : ∀ (names : List ExtensionName) (cursor : Nat) (output : Buffer),
    (∀ name ∈ names, IsName name) → inputLength = cursor + namesSize names →
    readNames (putNames names cursor output) inputLength names.length cursor = .ok
      (names.map cutName, inputLength) := by
  intro names
  induction names with
  | nil =>
      intro cursor output _ ends
      cases ends
      rfl
  | cons name rest ih =>
      intro cursor output named total
      obtain ⟨filled, isEnded⟩ := named name List.mem_cons_self
      obtain ⟨last, ends⟩ := Option.isSome_iff_exists.mp isEnded
      have size := nameSize_eq ends
      rw [namesSize_cons, size] at total
      obtain ⟨inside, zero, earlier⟩ := terminator_eq_some.mp ends
      -- the bytes of the name, which the later names leave alone
      have bytes : ∀ index < last + 1, putNames (name :: rest) cursor output (cursor + index) = slot name index := by
        intro index used
        rw [putNames, putNames_apart _ _ _ _ (by omega), size]
        exact copyInto_inside _ _ _ used
      have first : putNames (name :: rest) cursor output cursor = slot name 0 := bytes 0 (by omega)
      have found : terminator (fun index => putNames (name :: rest) cursor output (cursor + index))
          (min (inputLength - cursor) 128) = some last := by
        rw [terminator_eq_some]
        refine ⟨by omega, (bytes last (by omega)).trans zero, ?_⟩
        intro index before
        rw [bytes index (by omega)]
        exact earlier index before
      have others := ih (cursor + (last + 1)) (copyInto output cursor (slot name) (nameSize name))
        (fun other member => named other (List.mem_cons_of_mem _ member)) (by omega)
      have same : putNames (name :: rest) cursor output =
          putNames rest (cursor + (last + 1)) (copyInto output cursor (slot name) (nameSize name)) := by
        rw [putNames, size]
      have cut : (fun index : Fin 128 =>
          if index.val < last + 1 then putNames (name :: rest) cursor output (cursor + index.val) else 0) =
          cutName name := by
        funext index
        rw [cutName, size]
        by_cases used : index.val < last + 1
        · rw [if_pos used, if_pos used, bytes _ used, slot_val]
        · rw [if_neg used, if_neg used]
      unfold readNames
      rw [List.length_cons]
      dsimp only
      refine guarded_eq_ok.mpr ⟨fun full => by omega, ?_⟩
      refine guarded_eq_ok.mpr ⟨?_, ?_⟩
      · intro empty
        rw [first, beq_iff_eq] at empty
        exact absurd empty filled
      rw [found]
      dsimp only
      rw [cut, same, others]
      rfl

/-! ### The layout -/

variable (request : DeviceCreatePackedRequest)

def withHeader : Buffer :=
  let output := putU64 zeroed 0 request.physicalDeviceId
  let output := putU32 output 8 request.flags
  let output := putU32 output 12 request.queueCreateInfoCount
  let output := putU32 output 16 request.queuePriorityCount
  let output := putU32 output 20 request.enabledLayerCount
  let output := putU32 output 24 request.enabledExtensionCount
  putU32 output 28 request.enabledFeatureStructs

def withFeatures : Buffer :=
  if request.hasFeatures then encodeCoreFeatures request.withHeader 32 request.enabledFeatures else request.withHeader

def withBaseFeatures : Buffer :=
  if request.hasBaseFeatures then
    loop 55 (fun index output =>
      putU32 output (request.baseAt + index * 4) (slot request.enabledBaseFeatures index)) request.withFeatures
  else request.withFeatures

def withQueues : Buffer :=
  loop request.queueCreateInfoCount.toNat (fun index output =>
    encodeQueueCreateInfo output (request.queuesAt + index * 16) (slot request.queueCreateInfos index))
    request.withBaseFeatures

def withPriorities : Buffer :=
  loop request.queuePriorityCount.toNat (fun index output =>
    putU32 output (request.prioritiesAt + index * 4) (slot request.queuePriorityBits index)) request.withQueues

theorem payload_eq : request.payload = putNames request.names request.extensionsAt request.withPriorities := rfl

theorem baseAt_le : 32 ≤ request.baseAt := Nat.le_add_right _ _

theorem queuesAt_le : request.baseAt ≤ request.queuesAt := Nat.le_add_right _ _

theorem prioritiesAt_eq : request.prioritiesAt = request.queuesAt + request.queueCreateInfoCount.toNat * 16 := rfl

theorem extensionsAt_eq : request.extensionsAt = request.prioritiesAt + request.queuePriorityCount.toNat * 4 := rfl

theorem encodeCoreFeatures_writes (cursor : Nat) (features : CoreFeatures) :
    WritesWithin (encodeCoreFeatures · cursor features) cursor (cursor + 100) :=
  elements_within putU32_writes 25 cursor fun index => features (CoreFeature.all.getD index .shaderDrawParameters)

theorem withFeatures_apart {α : Type} {read : Buffer → α} {low high : Nat} (reads : ReadsWithin read low high)
    (apart : high ≤ 32 ∨ request.baseAt ≤ low) : read request.withFeatures = read request.withHeader := by
  unfold withFeatures
  split
  · rename_i has
    have last : request.baseAt = 32 + 100 := by rw [baseAt, if_pos has]
    exact reads.apart (encodeCoreFeatures_writes 32 request.enabledFeatures) (by omega) _
  · rfl

theorem withBaseFeatures_apart {α : Type} {read : Buffer → α} {low high : Nat} (reads : ReadsWithin read low high)
    (apart : high ≤ request.baseAt ∨ request.queuesAt ≤ low) :
    read request.withBaseFeatures = read request.withFeatures := by
  unfold withBaseFeatures
  split
  · rename_i has
    have last : request.queuesAt = request.baseAt + 220 := by rw [queuesAt, if_pos has]
    exact reads.apart (elements_within putU32_writes 55 request.baseAt _) (by omega) _
  · rfl

theorem withQueues_before {α : Type} {read : Buffer → α} {low high : Nat} (reads : ReadsWithin read low high)
    (before : high ≤ request.queuesAt) : read request.withQueues = read request.withBaseFeatures :=
  reads.apart (elements_within encodeQueueCreateInfo_writes _ _ _) (.inl before) _

theorem withPriorities_before {α : Type} {read : Buffer → α} {low high : Nat} (reads : ReadsWithin read low high)
    (before : high ≤ request.prioritiesAt) : read request.withPriorities = read request.withQueues :=
  reads.apart (elements_within putU32_writes _ _ _) (.inl before) _

theorem payload_before {α : Type} {read : Buffer → α} {low high : Nat} (reads : ReadsWithin read low high)
    (before : high ≤ request.extensionsAt) : read request.payload = read request.withPriorities :=
  reads.apart (putNames_within request.names request.extensionsAt) (.inl before) _

theorem payload_head {α : Type} {read : Buffer → α} {low high : Nat} (reads : ReadsWithin read low high)
    (before : high ≤ request.queuesAt) : read request.payload = read request.withBaseFeatures := by
  have first := request.prioritiesAt_eq
  have second := request.extensionsAt_eq
  rw [request.payload_before reads (by omega), request.withPriorities_before reads (by omega),
    request.withQueues_before reads before]

theorem payload_header {α : Type} {read : Buffer → α} {low high : Nat} (reads : ReadsWithin read low high)
    (before : high ≤ 32) : read request.payload = read request.withHeader := by
  have first := request.baseAt_le
  have second := request.queuesAt_le
  rw [request.payload_head reads (by omega), request.withBaseFeatures_apart reads (.inl (by omega)),
    request.withFeatures_apart reads (.inl before)]

theorem payload_ends : EndsBy request.payload (request.extensionsAt + namesSize request.names) := by
  intro index outside
  have first := request.baseAt_le
  have second := request.queuesAt_le
  have third := request.prioritiesAt_eq
  have fourth := request.extensionsAt_eq
  have byte := byte_reads index
  rw [payload_eq, putNames_apart _ _ _ _ (.inr outside), withPriorities,
    arrayU32_apart _ _ _ _ _ (.inr (by omega)), withQueues,
    elements_apart encodeQueueCreateInfo_writes _ _ _ _ index (.inr (by omega)),
    request.withBaseFeatures_apart byte (.inr (by omega)), request.withFeatures_apart byte (.inr (by omega))]
  simp (disch := omega) only [withHeader, putU32_apart, putU64_apart, zeroed]

/-! ### What is read -/

def bare : DeviceCreatePackedRequest :=
  { request with
    enabledFeatures := fun _ => 0
    enabledBaseFeatures := fun _ => 0
    queueCreateInfos := fun _ => default
    queuePriorityBits := fun _ => 0
    enabledExtensions := fun _ _ => 0 }

def featured : DeviceCreatePackedRequest := { request.bare with enabledFeatures := request.enabledFeatures }

def based : DeviceCreatePackedRequest := { request.featured with enabledBaseFeatures := request.enabledBaseFeatures }

def queued : DeviceCreatePackedRequest :=
  { request.based with
    queueCreateInfos := keep request.queueCreateInfoCount.toNat request.queueCreateInfos
    queuePriorityBits := keep request.queuePriorityCount.toNat request.queuePriorityBits }

/-- The request without what lies behind its counts and behind the ends of its names. -/
def cleared : DeviceCreatePackedRequest :=
  { request.queued with
    enabledExtensions := keep request.enabledExtensionCount.toNat fun index =>
      cutName (request.enabledExtensions index) }

theorem featureGroupsMatchMask_iff : request.featureGroupsMatchMask = true ↔
    (∀ feature : CoreFeature, request.enabledFeatureStructs &&& feature.structBit = 0 →
      request.enabledFeatures feature = 0) ∧
    ∀ index < 55, ¬slot request.enabledBaseFeatures index > 1 ∧
      (request.enabledFeatureStructs &&& deviceFeatureBase = 0 → slot request.enabledBaseFeatures index = 0) := by
  simp only [featureGroupsMatchMask, Bool.and_eq_true, List.all_eq_true, List.mem_range, Bool.not_eq_true',
    Bool.and_eq_false_imp, Bool.or_eq_false_iff, beq_iff_eq, bne_eq_false_iff_eq, decide_eq_false_iff_not]
  refine and_congr_left' ?_
  exact ⟨fun each feature => each feature (feature.mem_all), fun each feature _ => each feature⟩

theorem readHead_payload : readHead request.payload = request.bare := by
  have word : ∀ offset, offset + 4 ≤ 32 → getU32 request.payload offset = getU32 request.withHeader offset :=
    fun offset before => request.payload_header (getU32_reads offset) before
  have long : getU64 request.payload 0 = getU64 request.withHeader 0 :=
    request.payload_header (getU64_reads 0) (by omega)
  simp only [readHead, long, word 8 (by omega), word 12 (by omega), word 16 (by omega), word 20 (by omega),
    word 24 (by omega), word 28 (by omega), bare]
  simp (disch := omega) only [withHeader, getU64_putU64, getU64_putU32_apart, getU32_putU32, getU32_putU32_apart]

theorem readFeatures_payload (masked : request.featureGroupsMatchMask = true) :
    readFeatures request.payload request.bare = request.featured := by
  by_cases has : request.hasFeatures = true
  · have decoded : decodeCoreFeatures request.payload 32 = request.enabledFeatures := by
      funext feature
      have inside := feature.index_lt
      have width : request.baseAt = 32 + 100 := by rw [baseAt, if_pos has]
      have second := request.queuesAt_le
      have reads := getU32_reads (32 + feature.index * 4)
      rw [decodeCoreFeatures, request.payload_head reads (by omega),
        request.withBaseFeatures_apart reads (.inl (by omega)), withFeatures, if_pos has, encodeCoreFeatures,
        getU32_arrayU32 _ 25 32 _ inside, CoreFeature.getD_index]
    have same : request.bare.hasFeatures = true := has
    rw [readFeatures, if_pos same, decoded]
    rfl
  · have none : request.enabledFeatureStructs = 0 := by simpa [hasFeatures] using has
    have zero : request.enabledFeatures = fun _ => 0 := by
      funext feature
      refine (request.featureGroupsMatchMask_iff.mp masked).1 feature ?_
      rw [none]
      exact UInt32.zero_and
    have same : ¬request.bare.hasFeatures = true := has
    rw [readFeatures, if_neg same, featured, zero]
    rfl

theorem readBaseFeatures_payload (masked : request.featureGroupsMatchMask = true) :
    readBaseFeatures request.payload request.featured = request.based := by
  by_cases has : request.hasBaseFeatures = true
  · have decoded : (fill 55 55 fun index => getU32 request.payload (request.baseAt + index * 4)) =
        request.enabledBaseFeatures := by
      apply fill_eq_self
      intro index inside
      have width : request.queuesAt = request.baseAt + 220 := by rw [queuesAt, if_pos has]
      rw [request.payload_head (getU32_reads _) (by omega), withBaseFeatures, if_pos has]
      exact getU32_arrayU32 _ 55 request.baseAt _ inside
    have same : request.featured.hasBaseFeatures = true := has
    have start : request.featured.baseAt = request.baseAt := rfl
    rw [readBaseFeatures, if_pos same, start, decoded]
    rfl
  · have none : request.enabledFeatureStructs &&& deviceFeatureBase = 0 := by simpa [hasBaseFeatures] using has
    have zero : request.enabledBaseFeatures = fun _ => 0 := by
      funext index
      rw [← slot_val request.enabledBaseFeatures index]
      exact ((request.featureGroupsMatchMask_iff.mp masked).2 index.val index.isLt).2 none
    have same : ¬request.featured.hasBaseFeatures = true := has
    rw [readBaseFeatures, if_neg same, based, zero]
    rfl

theorem readQueues_payload : readQueues request.payload request.based = request.queued := by
  have second := request.extensionsAt_eq
  have infos : (fill 8 request.queueCreateInfoCount.toNat fun index =>
      decodeQueueCreateInfo request.payload (request.queuesAt + index * 16)) =
        keep request.queueCreateInfoCount.toNat request.queueCreateInfos := by
    apply fill_eq_keep
    intro index _ used
    have first := request.prioritiesAt_eq
    have reads := decodeQueueCreateInfo_reads (request.queuesAt + index * 16)
    rw [request.payload_before reads (by omega), request.withPriorities_before reads (by omega)]
    exact queueCreateInfoBlock.get_loop _ request.queuesAt _ _ used
  have priorities : (fill 16 request.queuePriorityCount.toNat fun index =>
      getU32 request.payload (request.prioritiesAt + index * 4)) =
        keep request.queuePriorityCount.toNat request.queuePriorityBits := by
    apply fill_eq_keep
    intro index _ used
    rw [request.payload_before (getU32_reads _) (by omega)]
    exact getU32_arrayU32 _ _ request.prioritiesAt _ used
  have start : request.based.queuesAt = request.queuesAt ∧ request.based.prioritiesAt = request.prioritiesAt :=
    ⟨rfl, rfl⟩
  have counts : request.based.queueCreateInfoCount = request.queueCreateInfoCount ∧
      request.based.queuePriorityCount = request.queuePriorityCount := ⟨rfl, rfl⟩
  rw [readQueues, start.1, start.2, counts.1, counts.2, infos, priorities]
  rfl

theorem names_length : request.names.length = request.enabledExtensionCount.toNat := by
  rw [names, List.length_map, List.length_range]

theorem withNames_names : request.queued.withNames (request.names.map cutName) = request.cleared := by
  have found : (fill 64 request.enabledExtensionCount.toNat fun index =>
      (request.names.map cutName).getD index default) =
        keep request.enabledExtensionCount.toNat fun index => cutName (request.enabledExtensions index) := by
    apply fill_eq_keep
    intro index inside used
    simp only [names, List.map_map, List.getD_eq_getElem?_getD, List.getElem?_map, List.getElem?_range used,
      Option.map_some, Option.getD_some, Function.comp_apply]
    simp only [slot, dif_pos inside]
  have count : request.queued.enabledExtensionCount = request.enabledExtensionCount := rfl
  rw [withNames, count, found]
  rfl

theorem countsAreValid_queued : request.queued.countsAreValid = request.countsAreValid := by
  have infos : ∀ index < request.queueCreateInfoCount.toNat,
      slot request.queued.queueCreateInfos index = slot request.queueCreateInfos index :=
    fun index used => slot_keep _ used
  unfold countsAreValid
  refine congrArg₂ and rfl ?_
  apply all_range_congr
  intro index used
  dsimp only
  rw [infos index used]
  rfl

theorem decodes {payload : Buffer} {length : Nat}
    (encoded : encodeDeviceCreatePackedRequest request = .ok (payload, length)) :
    EndsBy payload length ∧ decodeDeviceCreatePackedRequest payload length = .ok request.cleared := by
  unfold encodeDeviceCreatePackedRequest at encoded
  obtain ⟨checked, encoded⟩ := guarded_eq_ok.mp encoded
  obtain ⟨measured, total, encoded⟩ := bind_eq_ok.mp encoded
  obtain ⟨booleans, encoded⟩ := guarded_eq_ok.mp encoded
  obtain ⟨rfl, rfl⟩ := Prod.mk.inj (pure_eq_ok.mp encoded)
  obtain ⟨counts, masked⟩ : request.countsAreValid = true ∧ request.featureGroupsMatchMask = true := by
    cases counts : request.countsAreValid with
    | false => cases checked (by rw [counts]; rfl)
    | true =>
        cases masked : request.featureGroupsMatchMask with
        | false => cases checked (by rw [counts, masked]; rfl)
        | true => exact ⟨rfl, rfl⟩
  have limits := counts
  simp only [countsAreValid, Bool.and_eq_true, Bool.not_eq_true', Bool.or_eq_false_iff, Bool.not_eq_false',
    decide_eq_false_iff_not] at limits
  obtain ⟨⟨⟨⟨⟨⟨⟨device, someInfos⟩, fewInfos⟩, somePriorities⟩, fewPriorities⟩, fewNames⟩, -⟩, -⟩ := limits
  have infos : request.queueCreateInfoCount.toNat ≤ 8 := toNat_le_of_not_gt 8 rfl fewInfos
  have priorities : request.queuePriorityCount.toNat ≤ 16 := toNat_le_of_not_gt 16 rfl fewPriorities
  have base : request.baseAt ≤ 132 := by
    rw [baseAt]
    split <;> omega
  have queues : request.queuesAt ≤ request.baseAt + 220 := by
    rw [queuesAt]
    split <;> omega
  have firstPart := request.baseAt_le
  have secondPart := request.queuesAt_le
  have thirdPart := request.prioritiesAt_eq
  have fourthPart := request.extensionsAt_eq
  obtain ⟨named, total, bounded⟩ := measureNames_eq_ok (by omega) total
  subst total
  refine ⟨request.payload_ends, ?_⟩
  have found := readNames_putNames request.names request.extensionsAt request.withPriorities named rfl
  rw [← payload_eq, request.names_length] at found
  simp only [decodeDeviceCreatePackedRequest, request.readHead_payload, request.readFeatures_payload masked,
    request.readBaseFeatures_payload masked, request.readQueues_payload]
  refine guarded_eq_ok.mpr ⟨fun refused => absurd refused ?_, ?_⟩
  · simp only [Bool.or_eq_true, decide_eq_true_eq]
    omega
  refine guarded_eq_ok.mpr ⟨fun refused => absurd refused ?_, ?_⟩
  · simp [bare, device, someInfos, fewInfos, somePriorities, fewPriorities, fewNames]
  refine guarded_eq_ok.mpr ⟨fun refused => absurd refused ?_, ?_⟩
  · rintro refused
    obtain ⟨has, refused⟩ := Bool.and_eq_true_iff.mp refused
    have present : request.hasFeatures = true := has
    have width : request.baseAt = 132 := by rw [baseAt, if_pos present]
    rcases Bool.or_eq_true_iff.mp refused with short | unfit
    · have less := of_decide_eq_true short
      omega
    · have unfit : (!coreFeaturesAreBooleans request.enabledFeatures) = true := unfit
      have fit : coreFeaturesAreBooleans request.enabledFeatures = false := by simpa using unfit
      cases booleans (by rw [present, fit]; rfl)
  refine guarded_eq_ok.mpr ⟨fun refused => absurd refused ?_, ?_⟩
  · rintro refused
    obtain ⟨has, refused⟩ := Bool.and_eq_true_iff.mp refused
    have present : request.hasBaseFeatures = true := has
    have width : request.queuesAt = request.baseAt + 220 := by rw [queuesAt, if_pos present]
    rcases Bool.or_eq_true_iff.mp refused with short | unfit
    · have less : 220 > request.extensionsAt + namesSize request.names - request.baseAt := of_decide_eq_true short
      omega
    · obtain ⟨index, member, large⟩ := List.any_eq_true.mp unfit
      exact ((request.featureGroupsMatchMask_iff.mp masked).2 index (List.mem_range.mp member)).1
        (of_decide_eq_true large)
  refine guarded_eq_ok.mpr ⟨fun refused => absurd refused ?_, ?_⟩
  · have same : request.based.featureGroupsMatchMask = true := masked
    rw [same]
    exact Bool.false_ne_true
  refine guarded_eq_ok.mpr ⟨?_, ?_⟩
  · intro refused
    have less : request.queueCreateInfoCount.toNat * 16 + request.queuePriorityCount.toNat * 4 >
      request.extensionsAt + namesSize request.names - request.queuesAt := refused
    omega
  refine guarded_eq_ok.mpr ⟨fun refused => absurd refused ?_, ?_⟩
  · rw [countsAreValid_queued, counts]
    exact Bool.false_ne_true
  refine bind_eq_ok.mpr ⟨_, found, ?_⟩
  refine guarded_eq_ok.mpr ⟨fun refused => absurd rfl refused, ?_⟩
  exact congrArg Except.ok request.withNames_names

end DeviceCreatePackedRequest

/-- A request of one of the formats; the queue submit has two wires. -/
inductive ClientRequest where
  | deviceCreatePacked (request : DeviceCreatePackedRequest)
  | queueSubmit2 (streamWire : Bool) (request : QueueSubmit2Request)
  | deviceBufferRequirements (request : DeviceBufferRequirementsRequest)
  | imageCreate (request : ImageCreateRequest)
  | swapchainPrepare (request : SwapchainPrepareRequest)
  | semaphoreWait (request : SemaphoreWaitRequest)

inductive RequestKind where
  | deviceCreatePacked
  | queueSubmit2 (streamWire : Bool)
  | deviceBufferRequirements
  | imageCreate
  | swapchainPrepare
  | semaphoreWait

namespace ClientRequest

def kind : ClientRequest → RequestKind
  | deviceCreatePacked _ => .deviceCreatePacked
  | queueSubmit2 streamWire _ => .queueSubmit2 streamWire
  | deviceBufferRequirements _ => .deviceBufferRequirements
  | imageCreate _ => .imageCreate
  | swapchainPrepare _ => .swapchainPrepare
  | semaphoreWait _ => .semaphoreWait

def encode : ClientRequest → Except Errno (Buffer × Nat)
  | deviceCreatePacked request => encodeDeviceCreatePackedRequest request
  | queueSubmit2 streamWire request => encodeQueueSubmit2Request request streamWire
  | deviceBufferRequirements request => (encodeDeviceBufferRequirementsRequest request).map (·, 64)
  | imageCreate request => (encodeImageCreateRequest request).map (·, 176)
  | swapchainPrepare request => (encodeSwapchainPrepareRequest request).map (·, 40)
  | semaphoreWait request => encodeSemaphoreWaitRequest request

def decode (kind : RequestKind) (input : Buffer) (inputLength : Nat) : Except Errno ClientRequest :=
  match kind with
  | .deviceCreatePacked => (decodeDeviceCreatePackedRequest input inputLength).map deviceCreatePacked
  | .queueSubmit2 streamWire => (decodeQueueSubmit2Request input inputLength streamWire).map (queueSubmit2 streamWire)
  | .deviceBufferRequirements => (decodeDeviceBufferRequirementsRequest input).map deviceBufferRequirements
  | .imageCreate => (decodeImageCreateRequest input).map imageCreate
  | .swapchainPrepare => (decodeSwapchainPrepareRequest input).map swapchainPrepare
  | .semaphoreWait => (decodeSemaphoreWaitRequest input inputLength).map semaphoreWait

/-- The request with its array slots behind its counts cleared. -/
def cleared : ClientRequest → ClientRequest
  | deviceCreatePacked request => deviceCreatePacked request.cleared
  | queueSubmit2 streamWire request => queueSubmit2 streamWire request
  | deviceBufferRequirements request => deviceBufferRequirements request.cleared
  | imageCreate request => imageCreate request
  | swapchainPrepare request => swapchainPrepare request
  | semaphoreWait request => semaphoreWait request.cleared

/-- The decoder of the same kind has the request again from the bytes that are sent. -/
def Understood (request : ClientRequest) : Prop :=
  ∀ payload length, request.encode = .ok (payload, length) →
    decode request.kind (bufferOf (bytesOf payload length)) length = .ok request.cleared

/-- Buffer requirements without a usage, or with a queue family twice, that the encoder lets pass. -/
def Overlooked : ClientRequest → Prop
  | deviceBufferRequirements request =>
      request.size ≠ 0 ∧ handleExpect request.deviceId .device = true ∧
        deviceBufferSharingIsValid request.sharingMode request.queueFamilyIndexCount = true ∧
        (request.usage = 0 ∨ ∃ earlier index, earlier < index ∧ index < request.queueFamilyIndexCount.toNat ∧
          slot request.queueFamilyIndices earlier = slot request.queueFamilyIndices index)
  | _ => False

theorem fixed_eq_ok {encoded : Except Errno Buffer} {payload : Buffer} {length size : Nat}
    (done : encoded.map (·, size) = .ok (payload, length)) : encoded = .ok payload ∧ length = size := by
  obtain ⟨value, made, same⟩ := map_eq_ok.mp done
  obtain ⟨rfl, rfl⟩ := Prod.mk.inj same
  exact ⟨made, rfl⟩

theorem understood_of {request : ClientRequest}
    (decodes : ∀ payload length, request.encode = .ok (payload, length) →
      EndsBy payload length ∧ decode request.kind payload length = .ok request.cleared) : request.Understood := by
  intro payload length encoded
  obtain ⟨ends, decoded⟩ := decodes payload length encoded
  rw [bufferOf_bytesOf ends]
  exact decoded

theorem decodable_iff (request : DeviceBufferRequirementsRequest) : request.IsDecodable ↔
    ¬(request.usage = 0 ∨ ∃ earlier index, earlier < index ∧ index < request.queueFamilyIndexCount.toNat ∧
      slot request.queueFamilyIndices earlier = slot request.queueFamilyIndices index) := by
  constructor
  · rintro ⟨used, differ⟩ (unused | ⟨earlier, index, before, inside, same⟩)
    · exact used unused
    · exact differ index earlier inside before same
  · intro fits
    refine ⟨fun unused => fits (.inl unused), ?_⟩
    intro index earlier inside before same
    exact fits (.inr ⟨earlier, index, before, inside, same⟩)

theorem deviceBufferRequirements_understood (request : DeviceBufferRequirementsRequest) :
    (deviceBufferRequirements request).Understood ↔ ¬(deviceBufferRequirements request).Overlooked := by
  constructor
  · rintro understood ⟨size, device, sharing, overlooked⟩
    have encoded : encodeDeviceBufferRequirementsRequest request = .ok request.payload := by
      simp only [encodeDeviceBufferRequirementsRequest, device, sharing, beq_eq_false_iff_ne.mpr size]
      rfl
    obtain ⟨ends, decodes⟩ := request.decodes_iff encoded
    have decoded := understood request.payload 64 (map_eq_ok.mpr ⟨_, encoded, rfl⟩)
    rw [bufferOf_bytesOf ends] at decoded
    obtain ⟨value, done, same⟩ := map_eq_ok.mp decoded
    cases same
    exact (decodable_iff request).mp (decodes.mp done) overlooked
  · intro fits
    refine understood_of ?_
    intro payload length encoded
    obtain ⟨made, rfl⟩ := fixed_eq_ok encoded
    obtain ⟨ends, decodes⟩ := request.decodes_iff made
    refine ⟨ends, map_eq_ok.mpr ⟨_, decodes.mpr ?_, rfl⟩⟩
    rw [decodable_iff]
    intro overlooked
    simp only [encodeDeviceBufferRequirementsRequest, refused_eq_ok, Bool.not_eq_true, Bool.or_eq_false_iff,
      Bool.not_eq_false', beq_eq_false_iff_ne] at made
    exact fits ⟨made.1.1.1, made.1.1.2, made.1.2, overlooked⟩

/-- What a client encodes the service understands, but for the buffer requirements that only
the decoder looks at closely. -/
theorem understood_iff (request : ClientRequest) : request.Understood ↔ ¬request.Overlooked := by
  cases request with
  | deviceBufferRequirements request => exact deviceBufferRequirements_understood request
  | deviceCreatePacked request =>
      refine iff_of_true (understood_of ?_) not_false
      intro payload length encoded
      obtain ⟨ends, decoded⟩ := request.decodes encoded
      exact ⟨ends, map_eq_ok.mpr ⟨_, decoded, rfl⟩⟩
  | queueSubmit2 streamWire request =>
      refine iff_of_true (understood_of ?_) not_false
      intro payload length encoded
      obtain ⟨ends, decoded⟩ := QueueSubmit2Request.decodes encoded
      exact ⟨ends, map_eq_ok.mpr ⟨_, decoded, rfl⟩⟩
  | imageCreate request =>
      refine iff_of_true (understood_of ?_) not_false
      intro payload length encoded
      obtain ⟨made, rfl⟩ := fixed_eq_ok encoded
      obtain ⟨ends, decoded⟩ := request.decodes made
      exact ⟨ends, map_eq_ok.mpr ⟨_, decoded, rfl⟩⟩
  | swapchainPrepare request =>
      refine iff_of_true (understood_of ?_) not_false
      intro payload length encoded
      obtain ⟨made, rfl⟩ := fixed_eq_ok encoded
      obtain ⟨ends, decoded⟩ := SwapchainPrepareRequest.decodes made
      exact ⟨ends, map_eq_ok.mpr ⟨_, decoded, rfl⟩⟩
  | semaphoreWait request =>
      refine iff_of_true (understood_of ?_) not_false
      intro payload length encoded
      obtain ⟨ends, decoded⟩ := request.decodes encoded
      exact ⟨ends, map_eq_ok.mpr ⟨_, decoded, rfl⟩⟩

def unusedBuffer : DeviceBufferRequirementsRequest := ⟨0x0300000000000001, 16, 0, 0, 0, 0, fun _ => 0⟩

theorem unused_buffer_not_understood : ¬∀ request : ClientRequest, request.Understood := by
  intro understood
  have decoded := understood (deviceBufferRequirements unusedBuffer) unusedBuffer.payload 64 rfl
  have refused : (decode .deviceBufferRequirements (bufferOf (bytesOf unusedBuffer.payload 64)) 64).isOk = false := by
    decide +kernel
  rw [show decode .deviceBufferRequirements (bufferOf (bytesOf unusedBuffer.payload 64)) 64 =
    .ok (deviceBufferRequirements unusedBuffer).cleared from decoded] at refused
  cases refused

end ClientRequest

end VulkanBridge
