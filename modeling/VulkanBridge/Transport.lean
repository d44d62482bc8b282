import VulkanBridge.ByteStrings
import VulkanBridge.Protocol

/-!
The packet transport (`transport.c`) over a stream socket: each system call of a
send or a receive is one step, and the kernel answers it with part of what was asked
for, with an interrupt or with an error.
-/

namespace VulkanBridge

open ByteBuffer

def transportMaxFds : Nat := 8

structure Outgoing where
  header : ProtocolHeader
  payload : Buffer
  descriptors : List Nat

def Outgoing.wire (packet : Outgoing) (header : Buffer) : List UInt8 :=
  (List.range protocolHeaderSize).map header ++ (List.range packet.header.payloadLength.toNat).map packet.payload

inductive SendAnswer where
  | interrupted
  | failed (code : Errno)
  | wrote (count : Nat)
  deriving DecidableEq, Repr

/-- Where a call of the send functions stands: before `sendmsg`, in `send_exact`, or returned. -/
inductive SendPhase where
  | message (wire : List UInt8) (descriptors : List Nat)
  | exact (rest : List UInt8)
  | done (failure : Option Errno)
  deriving DecidableEq, Repr

namespace SendPhase

def sendExact (rest : List UInt8) : SendPhase := if rest.isEmpty then .done none else .exact rest

/-- `bvb_transport_send`. -/
def send (packet : Outgoing) : SendPhase :=
  match encodeHeader packet.header with
  | .error code => .done (some code)
  | .ok header => sendExact (packet.wire header)

/-- `bvb_transport_send_fds`; `usable` says that each descriptor passes the `fcntl` test. -/
def sendFds (packet : Outgoing) (usable : Bool) : SendPhase :=
  if packet.descriptors.length = 0 ∨ packet.descriptors.length > transportMaxFds then .done (some .einval)
  else if !usable then .done (some .einval)
  else
    match encodeHeader packet.header with
    | .error code => .done (some code)
    | .ok header => .message (packet.wire header) packet.descriptors

/-- The call after the answer to its system call. -/
def step : SendPhase → SendAnswer → SendPhase
  | message wire descriptors, .interrupted => message wire descriptors
  | message _ _, .failed code => done (some code)
  | message wire _, .wrote count =>
      if count = 0 then done (some .epipe)
      else if count < wire.length then sendExact (wire.drop count)
      else if count = wire.length then done none
      else done (some .eproto)
  | exact rest, .interrupted => exact rest
  | exact _, .failed code => done (some code)
  | exact rest, .wrote count => if count = 0 then done (some .epipe) else sendExact (rest.drop count)
  | done failure, _ => done failure

end SendPhase

/-- A control message; `trailing` says that its length is no multiple of a descriptor. -/
inductive ControlMessage where
  | rights (descriptors : List Nat) (trailing : Bool)
  | other
  deriving DecidableEq, Repr

def ControlMessage.delivered : ControlMessage → List Nat
  | rights descriptors _ => descriptors
  | other => []

/-- What the kernel answers; `recv` takes no control messages. -/
inductive ReceiveAnswer where
  | interrupted
  | failed (code : Errno)
  | closed
  | received (bytes : List UInt8) (truncated : Bool) (messages : List ControlMessage)
  deriving DecidableEq, Repr

inductive ReceiveResult where
  | packet (header : ProtocolHeader) (payload : List UInt8)
  | endOfStream
  | failed (code : Errno)
  deriving DecidableEq, Repr

/-- Where a call of the receive functions stands: before `recvmsg`, or in `receive_exact`
for the rest of the header or for the payload. -/
inductive ReceivePhase where
  | message
  | header (bytes : List UInt8)
  | payload (header : ProtocolHeader) (bytes : List UInt8)
  | done (result : ReceiveResult)
  deriving DecidableEq, Repr

/-- A call of a receive function. `plain` is `bvb_transport_receive`, which takes no
descriptors. `received` are the entries of `received_fds`; `delivered` and `closed`
are the descriptors that the kernel installed and that the call closed. -/
structure ReceiveCall where
  capacity : Nat
  plain : Bool
  phase : ReceivePhase
  received : List Nat
  closed : List Nat
  delivered : List Nat
  deriving DecidableEq, Repr

/-- What the control messages leave: the received descriptors, the closed ones, and whether
one of them is invalid. -/
structure Ancillary where
  received : List Nat
  closed : List Nat
  invalid : Bool

def Ancillary.take (capacity : Nat) (ancillary : Ancillary) : ControlMessage → Ancillary
  | .other => { ancillary with invalid := true }
  | .rights descriptors trailing =>
      if trailing || decide (descriptors.length > capacity - ancillary.received.length) then
        { ancillary with closed := ancillary.closed ++ descriptors, invalid := true }
      else { ancillary with received := ancillary.received ++ descriptors }

namespace ReceiveCall

/-- `bvb_transport_receive_fds` with this many slots. -/
def fds (capacity : Nat) : ReceiveCall where
  capacity := capacity
  plain := false
  phase := if capacity = 0 ∨ capacity > transportMaxFds then .done (.failed .einval) else .message
  received := []
  closed := []
  delivered := []

/-- `bvb_transport_receive`. -/
def packet : ReceiveCall where
  capacity := 1
  plain := true
  phase := .message
  received := []
  closed := []
  delivered := []

/-- A call with so many slots for descriptors, or the one that takes none. -/
def start : Option Nat → ReceiveCall
  | none => packet
  | some capacity => fds capacity

def fail (call : ReceiveCall) (result : ReceiveResult) : ReceiveCall :=
  { call with phase := .done result, received := [], closed := call.closed ++ call.received }

def succeed (call : ReceiveCall) (header : ProtocolHeader) (payload : List UInt8) : ReceiveCall :=
  if call.plain && !call.received.isEmpty then call.fail (.failed .eproto)
  else { call with phase := .done (.packet header payload) }

/-- `receive_exact` for the payload, with these bytes already there. -/
def receivePayload (call : ReceiveCall) (header : ProtocolHeader) (bytes : List UInt8) : ReceiveCall :=
  if bytes.length < header.payloadLength.toNat then { call with phase := .payload header bytes }
  else call.succeed header bytes

/-- `receive_exact` for the header, with these bytes already there. -/
def receiveHeader (call : ReceiveCall) (bytes : List UInt8) : ReceiveCall :=
  if bytes.length < protocolHeaderSize then { call with phase := .header bytes }
  else
    match decodeHeader (bufferOf bytes) with
    | .error code => call.fail (.failed code)
    | .ok header => call.receivePayload header []

def receiveMessage (call : ReceiveCall) (bytes : List UInt8) (truncated : Bool) (messages : List ControlMessage) :
    ReceiveCall :=
  let ancillary := messages.foldl (Ancillary.take call.capacity) ⟨call.received, call.closed, truncated⟩
  let taken :=
    { call with
      received := ancillary.received
      closed := ancillary.closed
      delivered := call.delivered ++ messages.flatMap ControlMessage.delivered }
  if ancillary.invalid then taken.fail (.failed .eproto)
  else if bytes.length > protocolHeaderSize then taken.fail (.failed .eproto)
  else taken.receiveHeader bytes

def requested (call : ReceiveCall) : Nat :=
  match call.phase with
  | .message => protocolHeaderSize
  | .header bytes => protocolHeaderSize - bytes.length
  | .payload header bytes => header.payloadLength.toNat - bytes.length
  | .done _ => 0

/-- The call after the answer to its system call. A stream that ends inside a packet is
an error; without a byte of a packet it is the end. -/
def step (call : ReceiveCall) (answer : ReceiveAnswer) : ReceiveCall :=
  match call.phase, answer with
  | .done _, _ => call
  | _, .interrupted => call
  | .message, .failed code => { call with phase := .done (.failed code) }
  | .message, .closed => { call with phase := .done .endOfStream }
  | .message, .received bytes truncated messages => call.receiveMessage bytes truncated messages
  | .header _, .failed code => call.fail (.failed code)
  | .header _, .closed => call.fail (.failed .eproto)
  | .header bytes, .received more _ _ => call.receiveHeader (bytes ++ more)
  | .payload _ _, .failed code => call.fail (.failed code)
  | .payload _ _, .closed => call.fail (.failed .eproto)
  | .payload header bytes, .received more _ _ => call.receivePayload header (bytes ++ more)

end ReceiveCall

structure StreamByte where
  byte : UInt8
  descriptors : List Nat
  deriving DecidableEq, Repr

/-- What the kernel does with a system call: it interrupts it, or moves at most this many bytes. -/
inductive Transfer where
  | interrupt
  | move (count : Nat)
  deriving DecidableEq, Repr

structure Incoming where
  header : ProtocolHeader
  payload : List UInt8
  descriptors : List Nat
  deriving DecidableEq, Repr

/-- The two ends of a connection. `sent` are the packets whose send call was accepted,
`incoming` the packets that were received. -/
structure PacketStream where
  sending : SendPhase
  queue : List StreamByte
  receiving : Option ReceiveCall
  sent : List Outgoing
  incoming : List Incoming

inductive StreamInput where
  | send (packet : Outgoing) (usable : Bool)
  | write (transfer : Transfer)
  | receive (slots : Option Nat)
  | read (transfer : Transfer)

namespace PacketStream

def initial : PacketStream := ⟨.done none, [], none, [], []⟩

def send (stream : PacketStream) (packet : Outgoing) (usable : Bool) : PacketStream :=
  match stream.sending with
  | .done none =>
      let phase := if packet.descriptors.isEmpty then SendPhase.send packet else .sendFds packet usable
      match phase with
      | .done (some _) => stream
      | phase => { stream with sending := phase, sent := stream.sent ++ [packet] }
  | _ => stream

def attach (descriptors : List Nat) : List UInt8 → List StreamByte
  | [] => []
  | byte :: rest => ⟨byte, descriptors⟩ :: rest.map fun byte => ⟨byte, []⟩

def moved (count requested : Nat) : Nat := min (max count 1) requested

def write (stream : PacketStream) (transfer : Transfer) : PacketStream :=
  match stream.sending, transfer with
  | .done _, _ => stream
  | phase, .interrupt => { stream with sending := phase.step .interrupted }
  | .message wire descriptors, .move count =>
      { stream with
        sending := (SendPhase.message wire descriptors).step (.wrote (moved count wire.length))
        queue := stream.queue ++ attach descriptors (wire.take (moved count wire.length)) }
  | .exact rest, .move count =>
      { stream with
        sending := (SendPhase.exact rest).step (.wrote (moved count rest.length))
        queue := stream.queue ++ attach [] (rest.take (moved count rest.length)) }

/-- The control messages of the bytes that a `recvmsg` takes. -/
def messages (bytes : List StreamByte) : List ControlMessage :=
  bytes.filterMap fun byte => if byte.descriptors.isEmpty then none else some (.rights byte.descriptors false)

def returned (call : ReceiveCall) : Option Incoming :=
  match call.phase with
  | .done (.packet header payload) => some ⟨header, payload, call.received⟩
  | _ => none

def settle (stream : PacketStream) (call : ReceiveCall) : PacketStream :=
  match returned call with
  | some incoming => { stream with receiving := none, incoming := stream.incoming ++ [incoming] }
  | none => { stream with receiving := some call }

/-- A read takes at least one byte; it blocks while there is none. -/
def read (stream : PacketStream) (transfer : Transfer) : PacketStream :=
  match stream.receiving, transfer with
  | none, _ => stream
  | some call, .interrupt => stream.settle (call.step .interrupted)
  | some call, .move count =>
      let taken := moved count (min call.requested stream.queue.length)
      if taken = 0 then stream
      else
        let bytes := stream.queue.take taken
        { stream with queue := stream.queue.drop taken }.settle
          (call.step (.received (bytes.map StreamByte.byte) false (messages bytes)))

def step (stream : PacketStream) : StreamInput → PacketStream
  | .send packet usable => stream.send packet usable
  | .write transfer => stream.write transfer
  | .receive slots =>
      if stream.receiving.isNone then { stream with receiving := some (.start slots) } else stream
  | .read transfer => stream.read transfer

end PacketStream

end VulkanBridge
