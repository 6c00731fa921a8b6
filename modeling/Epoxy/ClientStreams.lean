/-
What the server does with a stream once it is resolved: connecting it or
routing it to a wispnet server, recording it among the client's streams, and
reporting the recorded streams in the statistics.
-/
import Epoxy.StreamResolve
import Epoxy.Wispnet

namespace Epoxy.Server

open ByteCursor Net

/-- An open stream, as far as it is looked at here; `Wispnet` has the client
id of the server it was routed to. -/
inductive ClientStream where
  | tcp
  | udp
  | pty
  | wispnet (muxId : String)
  | noResolvedAddrs
  | blocked
  | invalid
deriving Repr, DecidableEq

/-- The answers of the operating system, of the splitter of command lines and
of a routed server's multiplexor; errors are texts. -/
structure Connections where
  tcpConnect : IpAddr → UInt16 → Except String Unit
  setNodelay : Except String Unit
  udpBind : Bool → Except String Unit
  udpConnect : IpAddr → UInt16 → Except String Unit
  splitWords : String → Except String (List String)
  newPty : Except String Unit
  spawn : String → List String → Except String Unit
  newStream : WispnetClient → ConnectPacket → Except String Unit

/-- `?` -/
def question {α : Type} : Except String α → Outcome String α
  | .ok value => .ok value
  | .error error => .err error

/-- `.context(text)?` -/
def context {α : Type} (text : String) : Except String α → Outcome String α
  | .ok value => .ok value
  | .error _ => .err text

namespace ClientStream

def parseHost (host : String) : Outcome String IpAddr :=
  match IpAddr.fromStr host with
  | some ipaddr => .ok ipaddr
  | none => .err "failed to parse hostname as ipaddr"

/-- The terminal behind a twisp stream; the first word is indexed. -/
def connectPty (connections : Connections) (host : String) :
    Outcome String ClientStream := do
  let cmdline ← question (connections.splitWords host)
  let _ ← question connections.newPty
  match cmdline with
  | [] => .panic
  | program :: args => do
      let _ ← question (connections.spawn program args)
      pure .pty

def connect (config : Config) (connections : Connections)
    (packet : ConnectPacket) : Outcome String ClientStream :=
  match packet.streamType with
  | .tcp => do
      let ipaddr ← parseHost packet.host
      let _ ← context ("failed to connect to host " ++ packet.host)
        (connections.tcpConnect ipaddr packet.port)
      let _ ← context "failed to set tcp nodelay"
        (if config.stream.tcpNodelay then connections.setNodelay else .ok ())
      pure .tcp
  | .udp =>
      if !config.stream.allowUdp then pure .blocked
      else do
        let ipaddr ← parseHost packet.host
        let _ ← question (connections.udpBind ipaddr.isIpv4)
        let _ ← question (connections.udpConnect ipaddr packet.port)
        pure .udp
  | .other ty =>
      if config.twisp && ty = twispStreamType then
        if !config.stream.allowTwisp then pure .blocked
        else connectPty connections packet.host
      else pure .invalid

end ClientStream

def routeWispnet (servers : WispnetServers) (connections : Connections)
    (server : UInt32) (packet : ConnectPacket) : Outcome String ClientStream :=
  match servers.lookup server with
  | some client => do
      let _ ← context "failed to connect to wispnet server"
        (connections.newStream client packet)
      pure (.wispnet client.id)
  | none => pure .noResolvedAddrs

/-- Everything that a request finds outside of the server's own code. -/
structure Surroundings where
  lookups : Lookups
  connections : Connections
  servers : WispnetServers

/-- A failure of `connect` or `route_wispnet` closes the stream. -/
def orUnreachable {α : Type} : Outcome String α → Outcome CloseReason α
  | .ok value => .ok value
  | .err _ => .err .serverStreamUnreachable
  | .panic => .panic

/-- The stream that was requested, the one it resolved to and the open one, or
the reason that the multiplexed stream is closed with. -/
def resolveStream (config : Config) (around : Surroundings)
    (connect : ConnectPacket) :
    Outcome CloseReason (ConnectPacket × ConnectPacket × ClientStream) := do
  let resolved ←
    orUnreachable (ClientStream.resolve config around.lookups connect)
  match resolved with
  | .valid packet => do
      let stream ← orUnreachable
        (ClientStream.connect config around.connections packet)
      pure (connect, packet, stream)
  | .validWispnet server packet => do
      let stream ← orUnreachable
        (routeWispnet around.servers around.connections server packet)
      pure (connect, packet, stream)
  | .noResolvedAddrs => .err .serverStreamUnreachable
  | .blocked => .err .serverStreamBlockedAddress
  | .invalid => .err .serverStreamInvalidInfo

abbrev Uuid := Nat

/-- The requested and the resolved packet of each stream of a client. -/
abbrev Streams := AList fun _ : Uuid => ConnectPacket × ConnectPacket

structure Client where
  streams : Streams
  clientType : String

/-- `CLIENTS` -/
abbrev Clients := AList fun _ : String => Client

namespace Clients

/-- Change the streams of a client, if it is there. -/
def modify (clients : Clients) (id : String) (f : Streams → Streams) :
    Clients :=
  match clients.lookup id with
  | some client =>
      clients.insert id { client with streams := f client.streams }
  | none => clients

/-- Record a stream of a client. -/
def record (clients : Clients) (id : String) (uuid : Uuid)
    (entry : ConnectPacket × ConnectPacket) : Clients :=
  clients.modify id fun streams => streams.insert uuid entry

def forget (clients : Clients) (id : String) (uuid : Uuid) : Clients :=
  clients.modify id fun streams => streams.erase uuid

end Clients

def formatStreamType (config : Config) : StreamType → Outcome String String
  | .tcp => .ok "tcp"
  | .udp => .ok "udp"
  | .other ty =>
      if config.twisp && ty = ClientStream.twispStreamType then .ok "twisp"
      else .panic

structure StreamStats where
  streamType : String
  requested : String
  resolved : String
deriving Repr, DecidableEq

def hostAndPort (packet : ConnectPacket) : String :=
  packet.host ++ ":" ++ toString packet.port.toNat

def StreamStats.fromEntry (config : Config)
    (value : ConnectPacket × ConnectPacket) : Outcome String StreamStats := do
  let streamType ← formatStreamType config value.1.streamType
  pure ⟨streamType, hostAndPort value.1, hostAndPort value.2⟩

structure ClientStats where
  clientType : String
  streams : List (Uuid × StreamStats)
deriving Repr, DecidableEq

def ClientStats.fromClient (config : Config) (client : Client) :
    Outcome String ClientStats := do
  let streams ← client.streams.entries.mapM fun stream => do
    let stats ← StreamStats.fromEntry config stream.2
    pure (stream.1, stats)
  pure ⟨client.clientType, streams⟩

/-- The part of the statistics that is about the clients. -/
def generateStats (config : Config) (clients : Clients) :
    Outcome String (List (String × ClientStats)) :=
  clients.entries.mapM fun client => do
    let stats ← ClientStats.fromClient config client.2
    pure (client.1, stats)

end Epoxy.Server
