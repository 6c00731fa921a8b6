/-
The wispnet extension of the server: clients that act as servers of their
own register under a number, streams are routed to them, and a probe packet
asks for the numbers of the public ones.
-/
import Epoxy.ExtensionBuilders
import Epoxy.StreamResolve
import Mathlib.Data.List.AList

namespace Epoxy.Server

open ByteCursor

/-- A registered server: its client id, and whether it is private. -/
structure WispnetClient where
  id : String
  isPrivate : Bool
deriving Repr, DecidableEq

abbrev WispnetServers := AList fun _ : UInt32 => WispnetClient

/-- The extension where it handles a packet: with `WISPNET_SERVERS`, and
whether the transport takes the reply. -/
structure WispnetResponder extends WispnetServerProtocolExtension where
  servers : WispnetServers
  accepts : Except WispError Unit

namespace WispnetResponder

/-- The reply to a probe, with the servers in the order of the map. -/
def probeReply (servers : WispnetServers) : Bytes :=
  servers.entries.foldl
    (fun out client =>
      if !client.2.isPrivate then out ++ putU32Le client.1 else out)
    ([0xF1] ++ putU32Le 0)

def handlePacket (extension : WispnetResponder)
    (packetType : UInt8) (packet : Bytes)
    (incoming : List (Except WispError Bytes)) :
    HandlerResult WispnetResponder :=
  if packetType = 0xF1 then
    if packet.length < 4 then ⟨extension, incoming, [], .err .packetTooSmall⟩
    else
      match (getU32Le packet : Outcome WispError (UInt32 × Bytes)) with
      | .ok (id, _) =>
          if id ≠ 0 then ⟨extension, incoming, [], .err (.invalidStreamId id)⟩
          else
            match extension.accepts with
            | .ok () =>
                ⟨extension, incoming, [probeReply extension.servers], .ok ()⟩
            | .error error => ⟨extension, incoming, [], .err error⟩
      | .err error => ⟨extension, incoming, [], .err error⟩
      | .panic => ⟨extension, incoming, [], .panic⟩
  else ⟨extension, incoming, [], .ok ()⟩

instance : ProtocolExtension WispnetResponder where
  getId _ := 0xF1
  getSupportedPackets _ := [0xF1]
  getCongestionStreamTypes _ := []
  encode extension := .ok extension.encode

instance : PacketHandler WispnetResponder where
  handlePacket := handlePacket

end WispnetResponder

end Epoxy.Server
