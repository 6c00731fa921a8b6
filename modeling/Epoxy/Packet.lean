/-
The multiplexor packets and their wire format.  A decoder returns the value
and the bytes it left; reads that lack a length guard panic.
-/
import Epoxy.ByteCursor
import Mathlib.Data.List.Basic

namespace Epoxy

open ByteCursor

inductive Role where
  | server
  | client
deriving Repr, DecidableEq

structure WispVersion where
  major : UInt8
  minor : UInt8
deriving Repr, DecidableEq

/-- The version this library speaks. -/
def wispVersion : WispVersion := ⟨2, 0⟩

/-- The errors of the library; boxed foreign errors carry no data here. -/
inductive WispError where
  | invalidStreamId (id : UInt32)
  | invalidPacketType (ty : UInt8)
  | packetTooSmall
  | incompatibleProtocolVersion (found needed : WispVersion)
  | streamAlreadyClosed
  | maxStreamCountReached
  | utf8
  | tryFromIntError
  | muxMessageFailedToSend
  | muxMessageFailedToRecv
  | muxTaskEnded
  | muxTaskStarted
  | wsImplError
  | wsImplSocketClosed
  | extensionImplError
  | extensionImplNotSupported
  | extensionsNotSupported (ids : List UInt8)
  | passwordExtensionCredsInvalid
  | passwordExtensionNoCreds
  | certAuthExtensionCertTypeInvalid
  | certAuthExtensionSigInvalid
  | certAuthExtensionNoKey
deriving Repr, DecidableEq

/-- `as_bytes` of a string. -/
def asBytes (text : String) : Bytes := text.toUTF8.data.toList

def fromUtf8 (bytes : Bytes) : Option String :=
  String.fromUTF8? bytes.toByteArray

/-- `String::from_utf8` with the error that `?` converts to. -/
def decodeUtf8 (bytes : Bytes) : Outcome WispError String :=
  match fromUtf8 bytes with
  | some text => .ok text
  | none => .err .utf8

@[simp] theorem fromUtf8_asBytes (text : String) :
    fromUtf8 (asBytes text) = some text := by
  have hbytes : (asBytes text).toByteArray = text.toByteArray := by
    apply ByteArray.ext
    simp [asBytes]
  rw [fromUtf8, hbytes, String.fromUTF8?, dif_pos text.isValidUTF8]
  rfl

theorem decodeUtf8_ne_panic (bytes : Bytes) : decodeUtf8 bytes ≠ .panic := by
  unfold decodeUtf8
  split <;> simp

/-- What a stream is carried over; other codes stay as they came. -/
inductive StreamType where
  | tcp
  | udp
  | other (value : UInt8)
deriving Repr, DecidableEq

namespace StreamType

def ofU8 : UInt8 → StreamType
  | 0x01 => .tcp
  | 0x02 => .udp
  | value => .other value

def toU8 : StreamType → UInt8
  | .tcp => 0x01
  | .udp => 0x02
  | .other value => value

def encodeInto (ty : StreamType) (packet : Bytes) : Bytes :=
  packet ++ [ty.toU8]

def decode (packet : Bytes) : Outcome WispError (StreamType × Bytes) :=
  if packet.length < 1 then .err .packetTooSmall
  else do
    let (value, packet) ← getU8 packet
    pure (ofU8 value, packet)

@[simp] theorem toU8_ofU8 (value : UInt8) : (ofU8 value).toU8 = value := by
  unfold ofU8
  split <;> rfl

end StreamType

/-- Why a stream was closed; other codes stay as they came. -/
inductive CloseReason where
  | unknown
  | voluntary
  | unexpected
  | extensionsIncompatible
  | serverStreamInvalidInfo
  | serverStreamUnreachable
  | serverStreamConnectionTimedOut
  | serverStreamConnectionRefused
  | serverStreamTimedOut
  | serverStreamBlockedAddress
  | serverStreamThrottled
  | clientUnexpected
  | extensionsPasswordAuthFailed
  | extensionsCertAuthFailed
  | extensionsAuthRequired
  | other (value : UInt8)
deriving Repr, DecidableEq

namespace CloseReason

def ofU8 : UInt8 → CloseReason
  | 0x01 => .unknown
  | 0x02 => .voluntary
  | 0x03 => .unexpected
  | 0x04 => .extensionsIncompatible
  | 0x41 => .serverStreamInvalidInfo
  | 0x42 => .serverStreamUnreachable
  | 0x43 => .serverStreamConnectionTimedOut
  | 0x44 => .serverStreamConnectionRefused
  | 0x47 => .serverStreamTimedOut
  | 0x48 => .serverStreamBlockedAddress
  | 0x49 => .serverStreamThrottled
  | 0x81 => .clientUnexpected
  | 0xc0 => .extensionsPasswordAuthFailed
  | 0xc1 => .extensionsCertAuthFailed
  | 0xc2 => .extensionsAuthRequired
  | value => .other value

def toU8 : CloseReason → UInt8
  | .unknown => 0x01
  | .voluntary => 0x02
  | .unexpected => 0x03
  | .extensionsIncompatible => 0x04
  | .serverStreamInvalidInfo => 0x41
  | .serverStreamUnreachable => 0x42
  | .serverStreamConnectionTimedOut => 0x43
  | .serverStreamConnectionRefused => 0x44
  | .serverStreamTimedOut => 0x47
  | .serverStreamBlockedAddress => 0x48
  | .serverStreamThrottled => 0x49
  | .clientUnexpected => 0x81
  | .extensionsPasswordAuthFailed => 0xc0
  | .extensionsCertAuthFailed => 0xc1
  | .extensionsAuthRequired => 0xc2
  | .other value => value

def encodeInto (reason : CloseReason) (packet : Bytes) : Bytes :=
  packet ++ [reason.toU8]

def decode (packet : Bytes) : Outcome WispError (CloseReason × Bytes) :=
  if packet.length < 1 then .err .packetTooSmall
  else do
    let (value, packet) ← getU8 packet
    pure (ofU8 value, packet)

@[simp] theorem toU8_ofU8 (value : UInt8) : (ofU8 value).toU8 = value := by
  unfold ofU8
  split <;> rfl

end CloseReason

/-- A client asks for a stream to this host and port. -/
structure ConnectPacket where
  streamType : StreamType
  host : String
  port : UInt16
deriving Repr, DecidableEq

namespace ConnectPacket

/-- The host takes up the rest of the packet. -/
def encodeInto (connect : ConnectPacket) (packet : Bytes) : Bytes :=
  connect.streamType.encodeInto packet ++ putU16Le connect.port ++
    asBytes connect.host

def decode (packet : Bytes) : Outcome WispError (ConnectPacket × Bytes) :=
  if packet.length < 1 + 2 then .err .packetTooSmall
  else do
    let (streamType, packet) ← StreamType.decode packet
    let (port, packet) ← getU16Le packet
    let host ← decodeUtf8 packet
    pure (⟨streamType, host, port⟩, packet)

end ConnectPacket

/-- The credit that a receiver has left for a stream. -/
structure ContinuePacket where
  bufferRemaining : UInt32
deriving Repr, DecidableEq

namespace ContinuePacket

def encodeInto (cont : ContinuePacket) (packet : Bytes) : Bytes :=
  packet ++ putU32Le cont.bufferRemaining

def decode (packet : Bytes) : Outcome WispError (ContinuePacket × Bytes) :=
  if packet.length < 4 then .err .packetTooSmall
  else do
    let (bufferRemaining, packet) ← getU32Le packet
    pure (⟨bufferRemaining⟩, packet)

end ContinuePacket

structure ClosePacket where
  reason : CloseReason
deriving Repr, DecidableEq

namespace ClosePacket

def encodeInto (close : ClosePacket) (packet : Bytes) : Bytes :=
  close.reason.encodeInto packet

def decode (packet : Bytes) : Outcome WispError (ClosePacket × Bytes) := do
  let (reason, packet) ← CloseReason.decode packet
  pure (⟨reason⟩, packet)

end ClosePacket

/-- The kinds of packets, with what is behind the header. -/
inductive PacketType where
  | connect (connect : ConnectPacket)
  | data (data : Bytes)
  | cont (cont : ContinuePacket)
  | close (close : ClosePacket)
deriving Repr, DecidableEq

namespace PacketType

def getType : PacketType → UInt8
  | .connect _ => 0x01
  | .data _ => 0x02
  | .cont _ => 0x03
  | .close _ => 0x04

def encode : PacketType → Bytes → Bytes
  | .connect x, packet => x.encodeInto packet
  | .data x, packet => packet ++ x
  | .cont x, packet => x.encodeInto packet
  | .close x, packet => x.encodeInto packet

/-- The bytes that a decoder leaves over are dropped. -/
def decode (packet : Bytes) : UInt8 → Outcome WispError PacketType
  | 0x01 => do
      let (connectPacket, _) ← ConnectPacket.decode packet
      pure (.connect connectPacket)
  | 0x02 => pure (.data packet)
  | 0x03 => do
      let (continuePacket, _) ← ContinuePacket.decode packet
      pure (.cont continuePacket)
  | 0x04 => do
      let (closePacket, _) ← ClosePacket.decode packet
      pure (.close closePacket)
  | ty => .err (.invalidPacketType ty)

end PacketType

structure Packet where
  streamId : UInt32
  packetType : PacketType
deriving Repr, DecidableEq

namespace Packet

/-- The kind, the stream's id, then what the kind writes. -/
def encode (packet : Packet) : Bytes :=
  packet.packetType.encode
    ([packet.packetType.getType] ++ putU32Le packet.streamId)

def decode (packet : Bytes) : Outcome WispError Packet :=
  if packet.length < 1 + 4 then .err .packetTooSmall
  else do
    let (ty, packet) ← getU8 packet
    let (streamId, packet) ← getU32Le packet
    let packetType ← PacketType.decode packet ty
    pure ⟨streamId, packetType⟩

def newData (streamId : UInt32) (data : Bytes) : Packet :=
  ⟨streamId, .data data⟩

def newContinue (streamId bufferRemaining : UInt32) : Packet :=
  ⟨streamId, .cont ⟨bufferRemaining⟩⟩

def newClose (streamId : UInt32) (reason : CloseReason) : Packet :=
  ⟨streamId, .close ⟨reason⟩⟩

/-- The kind and the stream of a packet on the wire. -/
def head : Bytes → Option (UInt8 × UInt32)
  | ty :: b₀ :: b₁ :: b₂ :: b₃ :: _ => some (ty, u32Le b₀ b₁ b₂ b₃)
  | _ => none

theorem head_frame (ty : UInt8) (streamId : UInt32) (payload : Bytes) :
    head (ty :: putU32Le streamId ++ payload) = some (ty, streamId) := by
  simp only [putU32Le, List.cons_append, List.nil_append, head, u32Le_bytes]

@[simp] theorem head_encode (packet : Packet) :
    head packet.encode =
      some (packet.packetType.getType, packet.streamId) := by
  obtain ⟨streamId, packetType⟩ := packet
  cases packetType with
  | connect x =>
      simp only [encode, PacketType.encode, ConnectPacket.encodeInto,
        StreamType.encodeInto, List.append_assoc]
      exact head_frame 0x01 streamId _
  | data x => exact head_frame 0x02 streamId x
  | cont x => exact head_frame 0x03 streamId _
  | close x => exact head_frame 0x04 streamId _

/-- The frame around a packet type's own bytes. -/
theorem decode_frame (ty : UInt8) (streamId : UInt32) (payload : Bytes) :
    decode (ty :: putU32Le streamId ++ payload) =
      (PacketType.decode payload ty >>= fun packetType =>
        pure ⟨streamId, packetType⟩) := by
  have hlength : ¬(ty :: putU32Le streamId ++ payload).length < 1 + 4 := by
    simp only [List.length_append, List.length_cons, length_putU32Le]
    omega
  rw [decode, if_neg hlength]
  simp [getU8, getU32Le_putU32Le]

@[simp] theorem decode_encode_newData (streamId : UInt32) (data : Bytes) :
    decode (newData streamId data).encode = .ok (newData streamId data) :=
  decode_frame 0x02 streamId data

@[simp] theorem decode_encode_newContinue (streamId amt : UInt32) :
    decode (newContinue streamId amt).encode =
      .ok (newContinue streamId amt) := by
  have hpayload : (getU32Le (putU32Le amt ++ []) :
      Outcome WispError (UInt32 × Bytes)) = .ok (amt, []) :=
    getU32Le_putU32Le amt []
  refine (decode_frame 0x03 streamId (putU32Le amt)).trans ?_
  rw [List.append_nil] at hpayload
  simp [PacketType.decode, ContinuePacket.decode, hpayload, newContinue]

end Packet

end Epoxy
