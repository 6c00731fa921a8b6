/-
The configuration of the server.  The lists of hosts and ports of the stream
configuration stand here as the tables that are built from them once.
-/

namespace Epoxy.Server

/-- `is_match` of a set of regular expressions. -/
abbrev RegexSet := String → Bool

/-- `first..=last` -/
structure PortRange where
  first : UInt16
  last : UInt16
deriving Repr, DecidableEq

def PortRange.contains (range : PortRange) (port : UInt16) : Bool :=
  range.first ≤ port && port ≤ range.last

/-- The extensions a server can be configured with. -/
inductive ProtocolExtensionName where
  | udp
  | motd
  | wispnet
deriving Repr, DecidableEq

inductive ProtocolExtensionAuth where
  | password
  | certificate
deriving Repr, DecidableEq

structure WispConfig where
  allowWsproxy : Bool
  bufferSize : UInt32
  wispPrefix : String
  wispV2 : Bool
  extensions : List ProtocolExtensionName
  authExtension : Option ProtocolExtensionAuth
  passwordExtensionUsers : List (String × String)
  passwordExtensionRequired : Bool
  certificateExtensionKeys : List String
  certificateExtensionRequired : Bool
  motdExtension : String
deriving Repr, DecidableEq

namespace WispConfig

instance : Inhabited WispConfig where
  default := {
    allowWsproxy := true
    bufferSize := 128
    wispPrefix := ""
    wispV2 := true
    extensions := [.udp, .motd]
    authExtension := none
    passwordExtensionUsers := []
    passwordExtensionRequired := true
    certificateExtensionKeys := []
    certificateExtensionRequired := true
    motdExtension := "epoxy_server" }

def hasWispnet (config : WispConfig) : Bool :=
  config.extensions.contains .wispnet

end WispConfig

structure StreamConfig where
  tcpNodelay : Bool
  allowUdp : Bool
  allowWsproxyUdp : Bool
  allowTwisp : Bool
  allowDirectIp : Bool
  allowLoopback : Bool
  allowMulticast : Bool
  allowGlobal : Bool
  allowNonGlobal : Bool
  allowedTcpHosts : RegexSet
  blockedTcpHosts : RegexSet
  allowedUdpHosts : RegexSet
  blockedUdpHosts : RegexSet
  allowedHosts : RegexSet
  blockedHosts : RegexSet
  allowedPorts : List PortRange
  blockedPorts : List PortRange

/-- No list has an entry. -/
instance : Inhabited StreamConfig where
  default := {
    tcpNodelay := true
    allowUdp := true
    allowWsproxyUdp := false
    allowTwisp := false
    allowDirectIp := true
    allowLoopback := true
    allowMulticast := true
    allowGlobal := true
    allowNonGlobal := true
    allowedTcpHosts := fun _ => false
    blockedTcpHosts := fun _ => false
    allowedUdpHosts := fun _ => false
    blockedUdpHosts := fun _ => false
    allowedHosts := fun _ => false
    blockedHosts := fun _ => false
    allowedPorts := []
    blockedPorts := [] }

/-- `twisp` is the feature the server is built with, `resolveIpv6` the only
field of the server's own configuration that matters here. -/
structure Config where
  twisp : Bool
  resolveIpv6 : Bool
  wisp : WispConfig
  stream : StreamConfig

instance : Inhabited Config where
  default := ⟨false, false, default, default⟩

end Epoxy.Server
