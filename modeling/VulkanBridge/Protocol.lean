import VulkanBridge.Bytes
import VulkanBridge.Handle

/-!
Packets of the bridge: the header of `protocol.c` before a payload of at most
`protocolMaxPayload` bytes.
-/

namespace VulkanBridge

open ByteBuffer

def protocolMagic : UInt32 := 0x31425642
def protocolVersion : UInt16 := 1
def protocolHeaderSize : Nat := 24
def protocolMaxPayload : Nat := 4096
def protocolRequest : UInt16 := 1
def protocolResponse : UInt16 := 2
def opcodeHello : UInt16 := 1
def opcodeLast : UInt16 := 125

/-- What a function that returned this error gives to its caller. -/
def Errno.status : Errno → Int
  | .eperm => -1
  | .enoent => -2
  | .eio => -5
  | .enxio => -6
  | .e2big => -7
  | .eagain => -11
  | .enomem => -12
  | .eacces => -13
  | .ebusy => -16
  | .eexist => -17
  | .enodev => -19
  | .einval => -22
  | .enospc => -28
  | .erange => -34
  | .enosys => -38
  | .eproto => -71
  | .eoverflow => -75
  | .enotsup => -95
  | .enotconn => -107
  | .etimedout => -110
  | .ealready => -114
  | .estale => -116
  | .eremoteio => -121
  | .ecanceled => -125
  | .emsgsize => -90
  | .epipe => -32
  | .edeadlk => -35

structure ProtocolHeader where
  version : UInt16
  kind : UInt16
  opcode : UInt16
  requestId : UInt32
  payloadLength : UInt32
  status : UInt32
  deriving DecidableEq, Repr

def headerIsValid (header : ProtocolHeader) : Except Errno Unit :=
  if header.version ≠ protocolVersion then .error .eproto
  else if header.kind ≠ protocolRequest ∧ header.kind ≠ protocolResponse then .error .eproto
  else if header.opcode < opcodeHello ∨ header.opcode > opcodeLast then .error .eproto
  else if header.payloadLength.toNat > protocolMaxPayload then .error .emsgsize
  else if header.kind = protocolRequest ∧ header.status ≠ 0 then .error .eproto
  else .ok ()

def encodeHeader (header : ProtocolHeader) : Except Errno Buffer :=
  match headerIsValid header with
  | .error code => .error code
  | .ok () =>
      let output := putU32 zeroed 0 protocolMagic
      let output := putU16 output 4 header.version
      let output := putU16 output 6 header.kind
      let output := putU16 output 8 header.opcode
      let output := putU16 output 10 0
      let output := putU32 output 12 header.requestId
      let output := putU32 output 16 header.payloadLength
      .ok (putU32 output 20 header.status)

def decodeHeader (input : Buffer) : Except Errno ProtocolHeader :=
  if getU32 input 0 ≠ protocolMagic ∨ getU16 input 10 ≠ 0 then .error .eproto
  else
    let decoded : ProtocolHeader :=
      { version := getU16 input 4
        kind := getU16 input 6
        opcode := getU16 input 8
        requestId := getU32 input 12
        payloadLength := getU32 input 16
        status := getU32 input 20 }
    match headerIsValid decoded with
    | .error code => .error code
    | .ok () => .ok decoded

end VulkanBridge
