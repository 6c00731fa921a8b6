/-
What the server makes of a connect request: which destinations its stream
configuration lets through, and which address is chosen for the connection.
The regular expressions, the name resolver and the base64 decoder are
parameters, functions of what they are asked.
-/
import Epoxy.IpAddr
import Epoxy.Packet
import Epoxy.ServerConfig

namespace Epoxy.Server

open ByteCursor Net

def matchAddr (str : String) (allowed blocked : RegexSet) : Bool :=
  blocked str && !allowed str

namespace StreamConfig

variable (config : StreamConfig)

/-- The other stream types are `unreachable!()`. -/
def allowedSet : StreamType → Outcome String RegexSet
  | .tcp => .ok config.allowedTcpHosts
  | .udp => .ok config.allowedUdpHosts
  | .other _ => .panic

def blockedSet : StreamType → Outcome String RegexSet
  | .tcp => .ok config.blockedTcpHosts
  | .udp => .ok config.blockedUdpHosts
  | .other _ => .panic

def portBlocked (port : UInt16) : Bool :=
  config.blockedPorts.any (·.contains port) &&
    !config.allowedPorts.any (·.contains port)

end StreamConfig

def ipv4IsGlobal (addr : Ipv4Addr) : Bool :=
  !(addr.octet₀ = 0 || addr.isPrivate ||
    (addr.octet₀ = 100 && addr.octet₁ &&& 0b11000000 = 0b01000000) ||
    addr.isLoopback || addr.isLinkLocal ||
    (addr.octet₀ = 192 && addr.octet₁ = 0 && addr.octet₂ = 0 &&
      addr.octet₃ ≠ 9 && addr.octet₃ ≠ 10) ||
    addr.isDocumentation ||
    (addr.octet₀ = 198 && addr.octet₁ &&& 0xfe = 18) ||
    addr.octet₀ &&& 240 = 240 || addr.isBroadcast)

/-- The addresses of `2001::/23` that are reachable all the same. -/
def ipv6IsAssigned (addr : Ipv6Addr) : Bool :=
  addr.toU128 = 0x20010001000000000000000000000001 ||
    addr.toU128 = 0x20010001000000000000000000000002 ||
    (addr.segment 0 = 0x2001 && addr.segment 1 = 3) ||
    (addr.segment 0 = 0x2001 && addr.segment 1 = 4 &&
      addr.segment 2 = 0x112) ||
    (addr.segment 0 = 0x2001 && 0x20 ≤ addr.segment 1 &&
      addr.segment 1 ≤ 0x3f)

def ipv6IsGlobal (addr : Ipv6Addr) : Bool :=
  !(addr.isUnspecified || addr.isLoopback ||
    addr.segments.take 6 = [0, 0, 0, 0, 0, 0xffff] ||
    addr.segments.take 3 = [0x64, 0xff9b, 1] ||
    addr.segments.take 4 = [0x100, 0, 0, 0] ||
    (addr.segment 0 = 0x2001 && addr.segment 1 < 0x200 &&
      !ipv6IsAssigned addr) ||
    addr.segment 0 = 0x2002 ||
    (addr.segment 0 = 0x2001 && addr.segment 1 = 0xdb8) ||
    addr.segment 0 &&& 0xfe00 = 0xfc00 ||
    addr.segment 0 &&& 0xfe00 = 0xfc00)

def isGlobal : IpAddr → Bool
  | .v4 addr => ipv4IsGlobal addr
  | .v6 addr => ipv6IsGlobal addr

inductive ResolvedPacket where
  | valid (connect : ConnectPacket)
  | validWispnet (server : UInt32) (connect : ConnectPacket)
  | noResolvedAddrs
  | blocked
  | invalid
deriving Repr, DecidableEq

/-- The text before the first occurrence of the pattern. -/
def splitFirst (pattern : List Char) : List Char → List Char
  | [] => []
  | c :: rest =>
      if pattern.isPrefixOf (c :: rest) then []
      else c :: splitFirst pattern rest

/-- `u32::from_str` -/
def u32FromStr (text : String) : Option UInt32 :=
  let digits :=
    match text.toList with
    | '+' :: digits => digits
    | digits => digits
  if digits.isEmpty || !digits.all (NumberText.isDigit 10) then none
  else if NumberText.value 10 digits < 2 ^ 32 then
    some (UInt32.ofNat (NumberText.value 10 digits))
  else none

def dotWisp : List Char := ".wisp".toList

/-- What the server asks of others while it resolves a request. -/
structure Lookups where
  base64Decode : String → Option Bytes
  resolve : String → Option (List IpAddr)

namespace ClientStream

/-- `twisp::STREAM_TYPE` -/
def twispStreamType : UInt8 := 0x03

def resolveWispnet (lookups : Lookups) (packet : ConnectPacket) :
    Outcome String ResolvedPacket :=
  let wispnetServer := String.ofList (splitFirst dotWisp packet.host.toList)
  match lookups.base64Decode wispnetServer with
  | none => .err "failed to decode wispnet server"
  | some decoded =>
      match fromUtf8 decoded with
      | none => .err "wispnet server was not a string"
      | some text =>
          match u32FromStr text with
          | none => .err "failed to parse wispnet server from string"
          | some serverId => .ok (.validWispnet serverId packet)

/-- What is made of one resolved address. -/
def checkAddr (config : Config) (packet : ConnectPacket) (addr : IpAddr) :
    ResolvedPacket :=
  if addr.isLoopback && !config.stream.allowLoopback then .blocked
  else if addr.isMulticast && !config.stream.allowMulticast then .blocked
  else if (isGlobal addr && !config.stream.allowGlobal) ||
      (!isGlobal addr && !config.stream.allowNonGlobal) then .blocked
  else .valid { packet with host := addr.toString }

/-- The first address that is not left out decides. -/
def resolveAddrs (config : Config) (lookups : Lookups)
    (packet : ConnectPacket) : Outcome String ResolvedPacket :=
  match lookups.resolve packet.host with
  | none => .err "failed to resolve hostname"
  | some addrs =>
      let kept := addrs.filter fun addr => config.resolveIpv6 || addr.isIpv4
      .ok ((kept.map (checkAddr config packet)).head?.getD .noResolvedAddrs)

/-- The checks of the host name, and then the resolver. -/
def resolveHost (config : Config) (lookups : Lookups)
    (packet : ConnectPacket) : Outcome String ResolvedPacket := do
  let allowed ← config.stream.allowedSet packet.streamType
  let blocked ← config.stream.blockedSet packet.streamType
  if matchAddr packet.host allowed blocked then .ok .blocked
  else if matchAddr packet.host config.stream.allowedHosts
      config.stream.blockedHosts && !allowed packet.host then .ok .blocked
  else resolveAddrs config lookups packet

def isWispnet (config : Config) (packet : ConnectPacket) : Bool :=
  config.wisp.hasWispnet && dotWisp.isSuffixOf packet.host.toList

def resolve (config : Config) (lookups : Lookups) (packet : ConnectPacket) :
    Outcome String ResolvedPacket :=
  if isWispnet config packet then resolveWispnet lookups packet
  else
    match packet.streamType with
    | .other ty =>
        if config.twisp && ty = twispStreamType && config.stream.allowTwisp &&
            config.wisp.wispV2 then .ok (.valid packet)
        else .ok .invalid
    | streamType =>
        if !config.stream.allowUdp && streamType = .udp then .ok .blocked
        else if config.stream.portBlocked packet.port then .ok .blocked
        else if (IpAddr.fromStr packet.host).isSome &&
            !config.stream.allowDirectIp then .ok .blocked
        else resolveHost config lookups packet

end ClientStream

end Epoxy.Server
