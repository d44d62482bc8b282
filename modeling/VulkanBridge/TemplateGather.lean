import VulkanBridge.CheckedLoops
import VulkanBridge.CommandBufferProxy
import VulkanBridge.DescriptorTemplates

/-!
The client's side of a template update: the values of a request are gathered from the
application's data, by the offsets and the strides of the template.
-/

namespace VulkanBridge

open ByteBuffer

/-- `descriptor_template_client_metadata` -/
structure TemplateRecord where
  entryCount : UInt32
  entries : Fin 32 → DescriptorUpdateTemplateEntry

structure TemplateClient where
  registry : ClientRegistry
  descriptorTemplate : UInt64 → Option TemplateRecord

def TemplateRecord.entryList (record : TemplateRecord) : List DescriptorUpdateTemplateEntry :=
  (List.range record.entryCount.toNat).map (slot record.entries)

/-- The value of one descriptor, from the structure at `source`. -/
def gatherTemplateValue (descriptorType : UInt32) (data : Buffer) (source : Nat) :
    Except Errno DescriptorTemplateValue :=
  let value : DescriptorTemplateValue := ⟨descriptorType, 0, 0, 0, 0, 0⟩
  match descriptorType.toNat with
  | 0 => .ok { value with imageLayout := getU32 data (source + 16), objectId := getU64 data source }
  | 1 =>
      .ok
        { value with
          imageLayout := getU32 data (source + 16)
          objectId := getU64 data (source + 8)
          auxiliaryObjectId := getU64 data source }
  | 2 | 3 | 10 =>
      if getU64 data source ≠ 0 then .error .eproto
      else .ok { value with imageLayout := getU32 data (source + 16), objectId := getU64 data (source + 8) }
  | 4 | 5 => if getU64 data source ≠ 0 then .error .enotsup else .ok value
  | 6 | 7 | 8 | 9 =>
      .ok
        { value with
          objectId := getU64 data source
          offset := getU64 data (source + 8)
          range := getU64 data (source + 16) }
  | _ => .error .enotsup

def gatherTemplateEntry (data : Buffer) (values : List DescriptorTemplateValue)
    (entry : DescriptorUpdateTemplateEntry) :
    Except Errno (List DescriptorTemplateValue) :=
  if entry.descriptorCount.toNat > maxDescriptorTemplateValues.toNat - values.length then .error .e2big
  else do
    let more ← (List.range entry.descriptorCount.toNat).mapM fun descriptor =>
      gatherTemplateValue entry.descriptorType data (templateDestination entry descriptor)
    return values ++ more

def gatherTemplate (record : TemplateRecord) (data : Buffer) : Except Errno (List DescriptorTemplateValue) :=
  record.entryList.foldlM (gatherTemplateEntry data) []

def templateObjectType (descriptorType : UInt32) : ObjectType :=
  match descriptorType.toNat with
  | 0 => .sampler
  | 1 | 2 | 3 | 10 => .imageView
  | 6 | 7 | 8 | 9 => .buffer
  | _ => .invalid

def templateObjectsFit (registry : ClientRegistry) (deviceId : UInt64) (value : DescriptorTemplateValue) :
    Except Errno Unit :=
  if value.objectId ≠ 0 ∧
      registry.resourceOwnedByDevice value.objectId (templateObjectType value.descriptorType) deviceId = false then
    .error .einval
  else if value.auxiliaryObjectId ≠ 0 ∧
      registry.resourceOwnedByDevice value.auxiliaryObjectId .sampler deviceId = false then .error .einval
  else .ok ()

namespace TemplateClient

variable (client : TemplateClient)

def templateOf (deviceId setId templateId : UInt64) : Option TemplateRecord :=
  match client.registry.resourceProxy setId .descriptorSet,
      client.registry.resourceProxy templateId .descriptorUpdateTemplate with
  | some set, some template =>
      match client.registry.resourceProxy set.parentId .descriptorPool with
      | some pool =>
          if pool.parentId = deviceId ∧ template.parentId = deviceId then client.descriptorTemplate templateId else none
      | none => none
  | _, _ => none

/-- The request of `bvb_bridge_vkUpdateDescriptorSetWithTemplate`. -/
def templateUpdateRequest (deviceId setId templateId : UInt64) (data : Buffer) :
    Except Errno DescriptorTemplateUpdateRequest :=
  match client.templateOf deviceId setId templateId with
  | none => .error .einval
  | some record => do
      let values ← gatherTemplate record data
      values.forM (templateObjectsFit client.registry deviceId)
      return ⟨deviceId, setId, templateId, UInt32.ofNat values.length, fill 64 values.length fun index =>
        values.getD index default⟩

/-- `bvb_bridge_vkUpdateDescriptorSetWithTemplate` up to the payload it sends. -/
def updateDescriptorSetWithTemplate (deviceId setId templateId : UInt64) (data : Buffer) :
    Except Errno (List UInt8) := do
  let request ← client.templateUpdateRequest deviceId setId templateId data
  let (payload, length) ← encodeDescriptorTemplateUpdateRequest request
  return bytesOf payload length

end TemplateClient

end VulkanBridge
