/-
The twisp extension of the server: a packet of its own resizes the terminal
behind a stream.
-/
import Epoxy.InfoPacket
import Mathlib.Data.List.AList

namespace Epoxy

open ByteCursor

/-- The terminals by stream id, and a history of what was asked of them as
(terminal, rows, columns). -/
structure TWispServerProtocolExtension where
  map : AList fun _ : UInt32 => Nat
  resized : List (Nat × UInt16 × UInt16)

namespace TWispServerProtocolExtension

def readResize (packet : Bytes) :
    Outcome WispError (UInt32 × UInt16 × UInt16) :=
  if packet.length < 4 + 2 + 2 then .err .packetTooSmall
  else do
    let (streamId, packet) ← getU32Le packet
    let (row, packet) ← getU16Le packet
    let (col, _) ← getU16Le packet
    pure (streamId, row, col)

/-- Whether the terminal accepts its new size makes no difference. -/
def setTermSize (extension : TWispServerProtocolExtension)
    (streamId : UInt32) (row col : UInt16) : TWispServerProtocolExtension :=
  match extension.map.lookup streamId with
  | some pty =>
      { extension with resized := extension.resized ++ [(pty, row, col)] }
  | none => extension

def handlePacket (extension : TWispServerProtocolExtension)
    (packetType : UInt8) (packet : Bytes)
    (incoming : List (Except WispError Bytes)) :
    HandlerResult TWispServerProtocolExtension :=
  if packetType = 0xF0 then
    match readResize packet with
    | .ok (streamId, row, col) =>
        ⟨extension.setTermSize streamId row col, incoming, [], .ok ()⟩
    | .err error => ⟨extension, incoming, [], .err error⟩
    | .panic => ⟨extension, incoming, [], .panic⟩
  else ⟨extension, incoming, [], .ok ()⟩

instance : ProtocolExtension TWispServerProtocolExtension where
  getId _ := 0xF0
  getSupportedPackets _ := [0xF0]
  getCongestionStreamTypes _ := [0x03]
  encode _ := .ok []

instance : PacketHandler TWispServerProtocolExtension where
  handlePacket := handlePacket

end TWispServerProtocolExtension

end Epoxy
