/-
The address policy of the stream configuration, stated of the destination
that a connection reaches.  The checks look at the address as it was resolved;
an IPv4-mapped address is one more spelling of an IPv4 destination, and the
policy holds except for these.
-/
import Epoxy.StreamResolve

namespace Epoxy.Server

open ByteCursor Net

/-- Where the operating system connects to for an address. -/
def reached : IpAddr → IpAddr
  | .v4 addr => .v4 addr
  | .v6 addr =>
      match addr.toIpv4Mapped with
      | some ipv4 => .v4 ipv4
      | none => .v6 addr

namespace StreamConfig

variable (config : StreamConfig)

/-- What the configuration says about the destinations of streams. -/
structure AllowsAddr (addr : IpAddr) : Prop where
  loopback : addr.isLoopback = true → config.allowLoopback = true
  multicast : addr.isMulticast = true → config.allowMulticast = true
  globally : isGlobal addr = true → config.allowGlobal = true
  nonGlobally : isGlobal addr = false → config.allowNonGlobal = true

def AllowsPort (port : UInt16) : Prop :=
  (∃ range ∈ config.blockedPorts, range.contains port = true) →
    ∃ range ∈ config.allowedPorts, range.contains port = true

/-- The host name passes the checks of its stream type, whose lists these
are, and those of all streams. -/
def AllowsHost (host : String) (allowed blocked : RegexSet) : Prop :=
  matchAddr host allowed blocked = false ∧
    (matchAddr host config.allowedHosts config.blockedHosts = true →
      allowed host = true)

/-- The same, with the lists of the stream type. -/
def AllowsHostOf (ty : StreamType) (host : String) : Prop :=
  ∃ allowed blocked, config.allowedSet ty = .ok allowed ∧
    config.blockedSet ty = .ok blocked ∧
    config.AllowsHost host allowed blocked

/-- An IPv4 destination that is refused when it is spelled as one. -/
def Forbids (addr : Ipv4Addr) : Prop :=
  addr.isLoopback = true ∧ config.allowLoopback = false ∨
    addr.isMulticast = true ∧ config.allowMulticast = false ∨
    ipv4IsGlobal addr = true ∧ config.allowGlobal = false

/-- The policy as the checks of an address have it. -/
theorem allowsAddr_iff (addr : IpAddr) :
    config.AllowsAddr addr ↔
      (addr.isLoopback && !config.allowLoopback) = false ∧
      (addr.isMulticast && !config.allowMulticast) = false ∧
      ((isGlobal addr && !config.allowGlobal) ||
        (!isGlobal addr && !config.allowNonGlobal)) = false := by
  constructor
  · rintro ⟨hloopback, hmulticast, hglobally, hnonGlobally⟩
    refine ⟨by simpa using hloopback, by simpa using hmulticast, ?_⟩
    simpa using ⟨hglobally, hnonGlobally⟩
  · rintro ⟨hloopback, hmulticast, hglobal⟩
    simp only [Bool.or_eq_false_iff] at hglobal
    exact ⟨by simpa using hloopback, by simpa using hmulticast,
      by simpa using hglobal.1, by simpa using hglobal.2⟩

theorem portBlocked_eq_false (port : UInt16) :
    config.portBlocked port = false ↔ config.AllowsPort port := by
  simp only [portBlocked, AllowsPort, Bool.and_eq_false_iff,
    Bool.not_eq_false', List.any_eq_true]
  rw [← Bool.not_eq_true, List.any_eq_true, imp_iff_not_or]

theorem allowsAddr_toIpv6Mapped (addr : Ipv4Addr) :
    config.AllowsAddr (.v6 addr.toIpv6Mapped) ↔
      config.allowNonGlobal = true := by
  have hloopback : (IpAddr.v6 addr.toIpv6Mapped).isLoopback = false := by
    simp [IpAddr.isLoopback, Ipv6Addr.isLoopback, Ipv4Addr.toIpv6Mapped]
  have hmulticast : (IpAddr.v6 addr.toIpv6Mapped).isMulticast = false := by
    simp [IpAddr.isMulticast, Ipv6Addr.isMulticast, Ipv6Addr.segment,
      Ipv4Addr.toIpv6Mapped]
  have hglobal : isGlobal (.v6 addr.toIpv6Mapped) = false := by
    simp [isGlobal, ipv6IsGlobal, Ipv4Addr.toIpv6Mapped]
  constructor
  · intro h
    exact h.nonGlobally hglobal
  · intro h
    exact ⟨by simp [hloopback], by simp [hmulticast], by simp [hglobal],
      fun _ => h⟩

theorem allowsAddr_v4 {addr : Ipv4Addr}
    (hnonGlobal : config.allowNonGlobal = true) :
    config.AllowsAddr (.v4 addr) ↔ ¬ config.Forbids addr := by
  simp only [Forbids, not_or, not_and, Bool.not_eq_false]
  constructor
  · rintro ⟨hloopback, hmulticast, hglobal, -⟩
    exact ⟨hloopback, hmulticast, hglobal⟩
  · rintro ⟨hloopback, hmulticast, hglobal⟩
    exact ⟨hloopback, hmulticast, hglobal, fun _ => hnonGlobal⟩

/-- The checks of an address say of its destination what they should, unless
a mapped address hides a forbidden one. -/
theorem allowsAddr_reached {addr : IpAddr} (h : config.AllowsAddr addr) :
    config.AllowsAddr (reached addr) ↔
      ¬ ∃ ipv4 : Ipv4Addr, addr = .v6 ipv4.toIpv6Mapped ∧
        config.Forbids ipv4 := by
  cases addr with
  | v4 addr => simpa [reached] using h
  | v6 addr =>
      cases hmapped : addr.toIpv4Mapped with
      | none =>
          simp only [reached, hmapped]
          refine iff_of_true h ?_
          rintro ⟨ipv4, heq, -⟩
          rw [IpAddr.v6.inj heq] at hmapped
          simp at hmapped
      | some ipv4 =>
          obtain rfl := Ipv6Addr.toIpv4Mapped_eq_some hmapped
          have hnonGlobal := (config.allowsAddr_toIpv6Mapped ipv4).mp h
          simp only [reached, hmapped, config.allowsAddr_v4 hnonGlobal]
          constructor
          · rintro hallowed ⟨other, heq, hforbids⟩
            have hsame := congrArg Ipv6Addr.toIpv4Mapped (IpAddr.v6.inj heq)
            simp only [Ipv4Addr.toIpv4Mapped_toIpv6Mapped,
              Option.some.injEq] at hsame
            rw [hsame] at hallowed
            exact hallowed hforbids
          · intro hnone hforbids
            exact hnone ⟨ipv4, rfl, hforbids⟩

/-- The sets of host names are there for TCP and UDP. -/
theorem exists_hostSets (config : StreamConfig) {ty : StreamType}
    (hty : ty = .tcp ∨ ty = .udp) :
    ∃ allowed blocked, config.allowedSet ty = .ok allowed ∧
      config.blockedSet ty = .ok blocked := by
  rcases hty with rfl | rfl
  · exact ⟨_, _, rfl, rfl⟩
  · exact ⟨_, _, rfl, rfl⟩

end StreamConfig

namespace ClientStream

/-- The address that the checks are made for. -/
def firstKept (config : Config) (addrs : List IpAddr) : Option IpAddr :=
  (addrs.filter fun addr => config.resolveIpv6 || addr.isIpv4).head?

variable {config : Config} {lookups : Lookups} {packet : ConnectPacket}

theorem checkAddr_eq_valid {addr : IpAddr} {resolved : ConnectPacket} :
    checkAddr config packet addr = .valid resolved ↔
      config.stream.AllowsAddr addr ∧
        resolved = { packet with host := addr.toString } := by
  rw [config.stream.allowsAddr_iff, checkAddr]
  split
  · next hloopback => simp [hloopback]
  · next hloopback =>
      split
      · next hmulticast => simp [hmulticast]
      · next hmulticast =>
          split
          · next hglobal => simp [hglobal]
          · next hglobal => simp [hloopback, hmulticast, hglobal, eq_comm]

theorem resolveAddrs_eq_valid {resolved : ConnectPacket} :
    resolveAddrs config lookups packet = .ok (.valid resolved) ↔
      ∃ addrs addr, lookups.resolve packet.host = some addrs ∧
        firstKept config addrs = some addr ∧ config.stream.AllowsAddr addr ∧
        resolved = { packet with host := addr.toString } := by
  unfold resolveAddrs
  cases lookups.resolve packet.host with
  | none => simp
  | some addrs =>
      simp only [List.head?_map, Outcome.ok.injEq, Option.some.injEq]
      change ((firstKept config addrs).map _).getD _ = _ ↔ _
      cases hkept : firstKept config addrs with
      | none => simp [hkept]
      | some addr => simp [hkept, checkAddr_eq_valid]

/-- The request gets past everything that is checked before its host name is
resolved. -/
structure AsksResolver (config : Config) (packet : ConnectPacket) : Prop where
  wispnet : isWispnet config packet = false
  udp : packet.streamType = .udp → config.stream.allowUdp = true
  port : config.stream.AllowsPort packet.port
  directIp : (IpAddr.fromStr packet.host).isSome = true →
    config.stream.allowDirectIp = true
  host : ∃ allowed blocked,
    config.stream.allowedSet packet.streamType = .ok allowed ∧
      config.stream.blockedSet packet.streamType = .ok blocked ∧
      config.stream.AllowsHost packet.host allowed blocked

theorem resolveWispnet_ne_valid (resolved : ConnectPacket) :
    resolveWispnet lookups packet ≠ .ok (.valid resolved) := by
  unfold resolveWispnet
  dsimp only
  split
  · simp
  · split
    · simp
    · split
      · simp
      · simp

/-- The host name passes the checks and its addresses decide, or the request
is refused. -/
theorem resolveHost_cases
    (hty : packet.streamType = .tcp ∨ packet.streamType = .udp) :
    (config.stream.AllowsHostOf packet.streamType packet.host ∧
        resolveHost config lookups packet =
          resolveAddrs config lookups packet) ∨
      (¬ config.stream.AllowsHostOf packet.streamType packet.host ∧
        resolveHost config lookups packet = .ok .blocked) := by
  obtain ⟨allowed, blocked, hallowed, hblocked⟩ :=
    config.stream.exists_hostSets hty
  have hiff : config.stream.AllowsHostOf packet.streamType packet.host ↔
      config.stream.AllowsHost packet.host allowed blocked := by
    simp only [StreamConfig.AllowsHostOf, hallowed, hblocked,
      Outcome.ok.injEq]
    constructor
    · rintro ⟨_, _, rfl, rfl, hhost⟩
      exact hhost
    · intro hhost
      exact ⟨_, _, rfl, rfl, hhost⟩
  simp only [hiff, StreamConfig.AllowsHost, resolveHost, hallowed, hblocked,
    Outcome.bind_ok]
  split
  · next hmatch => simp [hmatch]
  · next hmatch =>
      split
      · next hmatch' =>
          simp only [Bool.and_eq_true, Bool.not_eq_true'] at hmatch'
          simp [hmatch'.1, hmatch'.2]
      · next hmatch' =>
          simp only [Bool.and_eq_true, Bool.not_eq_true', not_and,
            Bool.not_eq_false] at hmatch'
          exact .inl ⟨⟨by simpa using hmatch, hmatch'⟩, rfl⟩

/-- The checks in the order in which they are made. -/
theorem resolve_of_not_wispnet
    (hty : packet.streamType = .tcp ∨ packet.streamType = .udp)
    (hwispnet : isWispnet config packet = false) :
    resolve config lookups packet =
      if !config.stream.allowUdp && packet.streamType = .udp then
        .ok .blocked
      else if config.stream.portBlocked packet.port then .ok .blocked
      else if (IpAddr.fromStr packet.host).isSome &&
          !config.stream.allowDirectIp then .ok .blocked
      else resolveHost config lookups packet := by
  unfold resolve
  rcases hty with hty | hty
  · simp [hty, hwispnet]
  · simp [hty, hwispnet]

/-- A request is refused, or its host name is resolved and the addresses
decide. -/
theorem resolve_cases
    (hty : packet.streamType = .tcp ∨ packet.streamType = .udp)
    (hwispnet : isWispnet config packet = false) :
    (AsksResolver config packet ∧
        resolve config lookups packet = resolveAddrs config lookups packet) ∨
      (¬ AsksResolver config packet ∧
        resolve config lookups packet = .ok .blocked) := by
  rw [resolve_of_not_wispnet hty hwispnet]
  split
  · next hudp =>
      simp only [Bool.and_eq_true, Bool.not_eq_true',
        decide_eq_true_eq] at hudp
      refine .inr ⟨fun hasks => ?_, rfl⟩
      have hallowed := hasks.udp hudp.2
      rw [hudp.1] at hallowed
      cases hallowed
  · next hudp =>
      split
      · next hport =>
          refine .inr ⟨fun hasks => ?_, rfl⟩
          rw [(config.stream.portBlocked_eq_false packet.port).mpr
            hasks.port] at hport
          cases hport
      · next hport =>
          split
          · next hdirect =>
              simp only [Bool.and_eq_true, Bool.not_eq_true'] at hdirect
              refine .inr ⟨fun hasks => ?_, rfl⟩
              have hallowed := hasks.directIp hdirect.1
              rw [hdirect.2] at hallowed
              cases hallowed
          · next hdirect =>
              have hpassed := AsksResolver.mk hwispnet
                (fun hstream => by simpa [hstream] using hudp)
                ((config.stream.portBlocked_eq_false packet.port).mp
                  (by simpa using hport)) (by simpa using hdirect)
              rcases @resolveHost_cases config lookups packet hty with
                ⟨hhost, hresolved⟩ | ⟨hhost, hresolved⟩
              · exact .inl ⟨hpassed hhost, hresolved⟩
              · exact .inr ⟨fun hasks => hhost hasks.host, hresolved⟩

theorem resolve_eq_valid {resolved : ConnectPacket}
    (hty : packet.streamType = .tcp ∨ packet.streamType = .udp) :
    resolve config lookups packet = .ok (.valid resolved) ↔
      AsksResolver config packet ∧
        resolveAddrs config lookups packet = .ok (.valid resolved) := by
  cases hwispnet : isWispnet config packet with
  | true =>
      have hresolve : resolve config lookups packet =
          resolveWispnet lookups packet := by
        rw [resolve, hwispnet, if_pos rfl]
      rw [hresolve]
      refine iff_of_false (resolveWispnet_ne_valid resolved) ?_
      rintro ⟨hasks, -⟩
      rw [hasks.wispnet] at hwispnet
      cases hwispnet
  | false =>
      rcases @resolve_cases config lookups packet hty hwispnet with
        ⟨hasks, hresolve⟩ | ⟨hasks, hresolve⟩
      · simp [hasks, hresolve]
      · simp [hasks, hresolve]

/-- What a valid answer to a request promises: the connection goes to one of
the resolved addresses, and the configuration allows where it leads to. -/
structure PolicyHolds (config : Config) (addrs : List IpAddr)
    (resolved : ConnectPacket) : Prop where
  addr : ∃ addr ∈ addrs, resolved.host = addr.toString
  destination : ∀ addr, IpAddr.fromStr resolved.host = some addr →
    config.stream.AllowsAddr (reached addr)
  port : config.stream.AllowsPort resolved.port
  udp : resolved.streamType = .udp → config.stream.allowUdp = true

def ResolvesSoundly (config : Config) (lookups : Lookups)
    (packet : ConnectPacket) : Prop :=
  ∀ resolved, resolve config lookups packet = .ok (.valid resolved) →
    ∃ addrs, lookups.resolve packet.host = some addrs ∧
      PolicyHolds config addrs resolved

/-- The request is checked for a mapped address, which counts as non-global,
and not for the IPv4 destination behind it. -/
def Bypasses (config : Config) (lookups : Lookups) (packet : ConnectPacket) :
    Prop :=
  AsksResolver config packet ∧ config.stream.allowNonGlobal = true ∧
    ∃ addrs ipv4, lookups.resolve packet.host = some addrs ∧
      firstKept config addrs = some (.v6 ipv4.toIpv6Mapped) ∧
      config.stream.Forbids ipv4

/-- The policy holds exactly of the requests that do not come across a mapped
address of a forbidden destination. -/
theorem resolvesSoundly_iff (config : Config) (lookups : Lookups)
    {packet : ConnectPacket}
    (hty : packet.streamType = .tcp ∨ packet.streamType = .udp) :
    ResolvesSoundly config lookups packet ↔
      ¬ Bypasses config lookups packet := by
  constructor
  · rintro hsound ⟨hasks, hnonGlobal, addrs, ipv4, haddrs, hkept, hforbids⟩
    have hallows : config.stream.AllowsAddr (.v6 ipv4.toIpv6Mapped) :=
      (config.stream.allowsAddr_toIpv6Mapped ipv4).mpr hnonGlobal
    have hvalid := (resolve_eq_valid hty).mpr ⟨hasks,
      resolveAddrs_eq_valid.mpr ⟨addrs, _, haddrs, hkept, hallows, rfl⟩⟩
    obtain ⟨_, -, hholds⟩ := hsound _ hvalid
    have hreached := hholds.destination _ (IpAddr.fromStr_toString _)
    rw [config.stream.allowsAddr_reached hallows] at hreached
    exact hreached ⟨ipv4, rfl, hforbids⟩
  · intro hnone resolved hvalid
    obtain ⟨hasks, hresolved⟩ := (resolve_eq_valid hty).mp hvalid
    obtain ⟨addrs, addr, haddrs, hkept, hallows, rfl⟩ :=
      resolveAddrs_eq_valid.mp hresolved
    have hmem : addr ∈ addrs :=
      List.mem_of_mem_filter (List.mem_of_mem_head? hkept)
    refine ⟨addrs, haddrs, ⟨addr, hmem, rfl⟩, ?_, hasks.port, hasks.udp⟩
    intro destination hdestination
    rw [IpAddr.fromStr_toString] at hdestination
    obtain rfl := Option.some.inj hdestination
    rw [config.stream.allowsAddr_reached hallows]
    rintro ⟨ipv4, rfl, hforbids⟩
    have hnonGlobal := (config.stream.allowsAddr_toIpv6Mapped ipv4).mp hallows
    exact hnone ⟨hasks, hnonGlobal, addrs, ipv4, haddrs, hkept, hforbids⟩

/-- Every host, port and address is allowed. -/
def openConfig : Config := { (default : Config) with resolveIpv6 := true }

/-- Everything but loopback destinations. -/
def noLoopback : Config :=
  { openConfig with
    stream := { openConfig.stream with allowLoopback := false } }

def localhost : Ipv4Addr := ⟨127, 0, 0, 1⟩

/-- A resolver that knows one address. -/
def answering (addr : IpAddr) : Lookups := ⟨fun _ => none, fun _ => some [addr]⟩

theorem resolvesSoundly_of_plain_addr :
    ResolvesSoundly noLoopback (answering (.v4 localhost))
      ⟨.tcp, "localhost", 80⟩ := by
  refine (resolvesSoundly_iff noLoopback (answering (.v4 localhost))
    (.inl rfl)).mpr ?_
  rintro ⟨-, -, addrs, ipv4, haddrs, hkept, -⟩
  obtain rfl := Option.some.inj haddrs
  simp [firstKept, noLoopback, openConfig, IpAddr.isIpv4] at hkept

/-- `::ffff:127.0.0.1` is let through although loopback is not allowed. -/
theorem not_resolvesSoundly_of_mapped_loopback :
    ¬ ResolvesSoundly noLoopback (answering (.v6 localhost.toIpv6Mapped))
      ⟨.tcp, "::ffff:127.0.0.1", 80⟩ := by
  intro hsound
  obtain ⟨_, -, hholds⟩ := hsound ⟨.tcp, "::ffff:127.0.0.1", 80⟩ (by rfl)
  have hreached := hholds.destination (.v6 localhost.toIpv6Mapped) (by rfl)
  exact absurd (hreached.loopback rfl) (by decide)

end ClientStream

end Epoxy.Server
