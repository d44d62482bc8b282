import VulkanBridge.StrictTransport

/-!
The service behind the strict transport: how `bridge_service.c` answers the
requests of a command buffer, each with the native calls it makes.
-/

namespace VulkanBridge

open ByteBuffer CheckedLoops

namespace ServiceContext

variable (driver : NativeDriver) (context : ServiceContext)

/-- `answer_vulkan_command_buffer_fill`. -/
def answerFill (request : ProtocolRequest) : Except Errno (List NativeCall) := do
  if request.payloadLength ≠ 40 then .error .eproto
  let decoded ← decodeCommandBufferFillRequest request.payload
  context.commandBufferFill driver decoded

/-- `answer_vulkan_command_buffer_clear_color_image`. -/
def answerClearColorImage (request : ProtocolRequest) : Except Errno (List NativeCall) := do
  if request.payloadLength ≠ 16 then .error .eproto
  let decoded ← decodeCommandBufferClearColorImageRequest request.payload
  context.commandBufferClearColorImage driver decoded

/-- `answer_vulkan_command_buffer_bind_descriptor_sets`. -/
def answerBindDescriptorSets (request : ProtocolRequest) : Except Errno (List NativeCall) := do
  let decoded ← decodeBindDescriptorSetsRequest request.payload request.payloadLength
  context.commandBufferBindDescriptorSets driver decoded

/-- `answer_vulkan_command_buffer_immediate_record`. -/
def answerImmediateRecord (request : ProtocolRequest) : Except Errno (List NativeCall) := do
  if request.payloadLength < 32 ∨ request.payloadLength > protocolMaxPayload then .error .eproto
  context.executeImmediateRecord driver request.payload request.payloadLength

/-- `answer_vulkan_command_buffer_begin`. -/
def answerBegin (request : ProtocolRequest) : Except Errno NativeCall := do
  if request.payloadLength ≠ 16 then .error .eproto
  let decoded ← decodeCommandBufferBeginRequest request.payload
  context.beginCommandBuffer driver decoded

/-- `answer_vulkan_command_buffer_end`. -/
def answerEnd (request : ProtocolRequest) : Except Errno NativeCall := do
  if request.payloadLength ≠ 8 then .error .eproto
  let decoded ← decodeCommandBufferId request.payload
  context.endCommandBuffer driver decoded

end ServiceContext

def ProtocolResponse.plain (status : Option Errno) : ProtocolResponse := ⟨status, zeroed, 0⟩

/-- A response that carries a `VkResult`. -/
def ProtocolResponse.vulkanResult (result : Int32) : ProtocolResponse :=
  ⟨none, putU32 zeroed 0 result.toUInt32, 4⟩

def answerCalls (trace : List NativeCall) :
    Except Errno (List NativeCall) → List NativeCall × ProtocolResponse
  | .error code => (trace, .plain (some code))
  | .ok calls => (trace ++ calls, .plain none)

def answerResult (driver : NativeDriver) (trace : List NativeCall) :
    Except Errno NativeCall → List NativeCall × ProtocolResponse
  | .error code => (trace, .plain (some code))
  | .ok call => (trace ++ [call], .vulkanResult (driver.result (trace ++ [call])))

namespace ServiceContext

variable (driver : NativeDriver) (context : ServiceContext)

/-- The calls made so far, and the response, after a request. -/
def answer (trace : List NativeCall) (request : ProtocolRequest) : List NativeCall × ProtocolResponse :=
  match request.opcode with
  | .commandBufferBegin => answerResult driver trace (context.answerBegin driver request)
  | .commandBufferEnd => answerResult driver trace (context.answerEnd driver request)
  | .commandBufferFill => answerCalls trace (context.answerFill driver request)
  | .commandBufferClearColorImage => answerCalls trace (context.answerClearColorImage driver request)
  | .commandBufferBindDescriptorSets => answerCalls trace (context.answerBindDescriptorSets driver request)
  | .commandBufferImmediateRecord => answerCalls trace (context.answerImmediateRecord driver request)

/-- The responses are the ones of the service, which ends with these calls. -/
def Answered : List NativeCall → List Exchange → List NativeCall → Prop
  | trace, [], final => trace = final
  | trace, exchange :: rest, final =>
      exchange.response = (context.answer driver trace exchange.request).2 ∧
        Answered (context.answer driver trace exchange.request).1 rest final

end ServiceContext

end VulkanBridge
