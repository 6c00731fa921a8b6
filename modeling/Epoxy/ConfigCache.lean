/-
The stream configuration as it is written, and the tables that the server
builds from it once.  A configuration that permits more, by its flags, its
lists of ports or its lists of hosts, answers every request that a stricter
one lets through with the same destination.
-/
import Epoxy.AddressPolicy

namespace Epoxy.Server

open ByteCursor Net

/-- The regular expressions: which pattern matches which text, and when a set
of patterns compiles.  A set matches when any of its patterns does. -/
structure RegexCrate where
  isMatch : String → String → Bool
  newSet : List String → Option RegexSet
  newSet_eq : ∀ patterns set, newSet patterns = some set →
    ∀ text, set text = patterns.any fun pattern => isMatch pattern text

/-- `StreamConfig` before its lists are looked into. -/
structure StreamSettings where
  tcpNodelay : Bool
  allowUdp : Bool
  allowWsproxyUdp : Bool
  allowTwisp : Bool
  allowDirectIp : Bool
  allowLoopback : Bool
  allowMulticast : Bool
  allowGlobal : Bool
  allowNonGlobal : Bool
  allowTcpHosts : List String
  blockTcpHosts : List String
  allowUdpHosts : List String
  blockUdpHosts : List String
  allowHosts : List String
  blockHosts : List String
  allowPorts : List (List UInt16)
  blockPorts : List (List UInt16)
deriving Repr, DecidableEq

/-- `x[0]..=x[1]` -/
def portRange : List UInt16 → Outcome String PortRange
  | first :: last :: _ => .ok ⟨first, last⟩
  | _ => .panic

namespace RegexCrate

/-- `RegexSet::new(patterns).unwrap()` -/
def unwrapSet (regex : RegexCrate) (patterns : List String) :
    Outcome String RegexSet :=
  match regex.newSet patterns with
  | some set => .ok set
  | none => .panic

theorem any_of_unwrapSet {regex : RegexCrate} {patterns : List String}
    {set : RegexSet} (h : regex.unwrapSet patterns = .ok set) (text : String) :
    set text = patterns.any fun pattern => regex.isMatch pattern text := by
  unfold unwrapSet at h
  cases hset : regex.newSet patterns with
  | none =>
      rw [hset] at h
      cases h
  | some found =>
      rw [hset] at h
      cases h
      exact regex.newSet_eq patterns set hset text

end RegexCrate

namespace StreamSettings

variable (regex : RegexCrate)

/-- `CONFIG_CACHE`, beside the fields that are read as they are. -/
def cache (settings : StreamSettings) : Outcome String StreamConfig := do
  let allowedPorts ← settings.allowPorts.mapM portRange
  let blockedPorts ← settings.blockPorts.mapM portRange
  let allowedHosts ← regex.unwrapSet settings.allowHosts
  let blockedHosts ← regex.unwrapSet settings.blockHosts
  let allowedTcpHosts ← regex.unwrapSet settings.allowTcpHosts
  let blockedTcpHosts ← regex.unwrapSet settings.blockTcpHosts
  let allowedUdpHosts ← regex.unwrapSet settings.allowUdpHosts
  let blockedUdpHosts ← regex.unwrapSet settings.blockUdpHosts
  pure {
    tcpNodelay := settings.tcpNodelay
    allowUdp := settings.allowUdp
    allowWsproxyUdp := settings.allowWsproxyUdp
    allowTwisp := settings.allowTwisp
    allowDirectIp := settings.allowDirectIp
    allowLoopback := settings.allowLoopback
    allowMulticast := settings.allowMulticast
    allowGlobal := settings.allowGlobal
    allowNonGlobal := settings.allowNonGlobal
    allowedTcpHosts, blockedTcpHosts, allowedUdpHosts, blockedUdpHosts,
    allowedHosts, blockedHosts, allowedPorts, blockedPorts }

/-- The tables of a configuration, field by field. -/
structure Cached (settings : StreamSettings) (config : StreamConfig) :
    Prop where
  allowedPorts : settings.allowPorts.mapM portRange = .ok config.allowedPorts
  blockedPorts : settings.blockPorts.mapM portRange = .ok config.blockedPorts
  allowedHosts : regex.unwrapSet settings.allowHosts = .ok config.allowedHosts
  blockedHosts : regex.unwrapSet settings.blockHosts = .ok config.blockedHosts
  allowedTcpHosts : regex.unwrapSet settings.allowTcpHosts =
    .ok config.allowedTcpHosts
  blockedTcpHosts : regex.unwrapSet settings.blockTcpHosts =
    .ok config.blockedTcpHosts
  allowedUdpHosts : regex.unwrapSet settings.allowUdpHosts =
    .ok config.allowedUdpHosts
  blockedUdpHosts : regex.unwrapSet settings.blockUdpHosts =
    .ok config.blockedUdpHosts
  flags : config.tcpNodelay = settings.tcpNodelay ∧
    config.allowUdp = settings.allowUdp ∧
    config.allowTwisp = settings.allowTwisp ∧
    config.allowDirectIp = settings.allowDirectIp ∧
    config.allowLoopback = settings.allowLoopback ∧
    config.allowMulticast = settings.allowMulticast ∧
    config.allowGlobal = settings.allowGlobal ∧
    config.allowNonGlobal = settings.allowNonGlobal

variable {regex}

theorem cached_of_cache {settings : StreamSettings} {config : StreamConfig}
    (h : settings.cache regex = .ok config) : Cached regex settings config := by
  simp only [cache, Outcome.bind_eq_ok] at h
  obtain ⟨allowedPorts, hallowedPorts, blockedPorts, hblockedPorts,
    allowedHosts, hallowedHosts, blockedHosts, hblockedHosts,
    allowedTcp, hallowedTcp, blockedTcp, hblockedTcp,
    allowedUdp, hallowedUdp, blockedUdp, hblockedUdp, hconfig⟩ := h
  cases hconfig
  exact ⟨hallowedPorts, hblockedPorts, hallowedHosts, hblockedHosts,
    hallowedTcp, hblockedTcp, hallowedUdp, hblockedUdp,
    ⟨rfl, rfl, rfl, rfl, rfl, rfl, rfl, rfl⟩⟩

end StreamSettings

/-- A configuration that permits at least what another one does. -/
structure StreamConfig.Loosens (config looser : StreamConfig) : Prop where
  allowUdp : config.allowUdp = true → looser.allowUdp = true
  allowTwisp : looser.allowTwisp = config.allowTwisp
  allowDirectIp : config.allowDirectIp = true → looser.allowDirectIp = true
  allowLoopback : config.allowLoopback = true → looser.allowLoopback = true
  allowMulticast : config.allowMulticast = true → looser.allowMulticast = true
  allowGlobal : config.allowGlobal = true → looser.allowGlobal = true
  allowNonGlobal : config.allowNonGlobal = true → looser.allowNonGlobal = true
  allowedPorts : config.allowedPorts ⊆ looser.allowedPorts
  blockedPorts : looser.blockedPorts ⊆ config.blockedPorts
  allowedHosts : ∀ host, config.allowedHosts host = true →
    looser.allowedHosts host = true
  blockedHosts : ∀ host, looser.blockedHosts host = true →
    config.blockedHosts host = true
  allowedTcpHosts : ∀ host, config.allowedTcpHosts host = true →
    looser.allowedTcpHosts host = true
  blockedTcpHosts : ∀ host, looser.blockedTcpHosts host = true →
    config.blockedTcpHosts host = true
  allowedUdpHosts : ∀ host, config.allowedUdpHosts host = true →
    looser.allowedUdpHosts host = true
  blockedUdpHosts : ∀ host, looser.blockedUdpHosts host = true →
    config.blockedUdpHosts host = true

/-- A host that is let through stays so when more is allowed and less is
blocked. -/
theorem matchAddr_eq_false_of_looser {host : String}
    {allowed blocked allowed' blocked' : RegexSet}
    (hallowed : allowed host = true → allowed' host = true)
    (hblocked : blocked' host = true → blocked host = true)
    (h : matchAddr host allowed blocked = false) :
    matchAddr host allowed' blocked' = false := by
  simp only [matchAddr, Bool.and_eq_false_iff, Bool.not_eq_false'] at h ⊢
  rcases h with hfree | hlisted
  · left
    rw [Bool.eq_false_iff] at hfree ⊢
    exact fun hmatch => hfree (hblocked hmatch)
  · exact .inr (hallowed hlisted)

namespace StreamConfig.Loosens

variable {config looser : StreamConfig} (h : config.Loosens looser)
include h

theorem allowsAddr {addr : IpAddr} (hallows : config.AllowsAddr addr) :
    looser.AllowsAddr addr where
  loopback hloopback := h.allowLoopback (hallows.loopback hloopback)
  multicast hmulticast := h.allowMulticast (hallows.multicast hmulticast)
  globally hglobal := h.allowGlobal (hallows.globally hglobal)
  nonGlobally hglobal := h.allowNonGlobal (hallows.nonGlobally hglobal)

theorem allowsPort {port : UInt16} (hallows : config.AllowsPort port) :
    looser.AllowsPort port := by
  rintro ⟨range, hrange, hcontains⟩
  obtain ⟨allowed, hallowed, hport⟩ :=
    hallows ⟨range, h.blockedPorts hrange, hcontains⟩
  exact ⟨allowed, h.allowedPorts hallowed, hport⟩

/-- `allowed` and `blocked` are the lists of the stream type. -/
theorem allowsHost {host : String}
    {allowed blocked allowed' blocked' : RegexSet}
    (hallowed : allowed host = true → allowed' host = true)
    (hblocked : blocked' host = true → blocked host = true)
    (hallows : config.AllowsHost host allowed blocked) :
    looser.AllowsHost host allowed' blocked' := by
  refine ⟨matchAddr_eq_false_of_looser hallowed hblocked hallows.1, ?_⟩
  intro hmatch
  apply hallowed
  apply hallows.2
  -- the hosts of all streams are no more blocked than they were
  by_contra hfree
  rw [Bool.not_eq_true] at hfree
  rw [matchAddr_eq_false_of_looser (h.allowedHosts host) (h.blockedHosts host)
    hfree] at hmatch
  cases hmatch

/-- The checks of a stream type are those of its own two lists. -/
theorem allowsHost_of_streamType {ty : StreamType} {host : String}
    (hallows : config.AllowsHostOf ty host) : looser.AllowsHostOf ty host := by
  obtain ⟨allowed, blocked, hallowed, hblocked, hhost⟩ := hallows
  cases ty with
  | tcp =>
      cases hallowed
      cases hblocked
      exact ⟨_, _, rfl, rfl, h.allowsHost (h.allowedTcpHosts host)
        (h.blockedTcpHosts host) hhost⟩
  | udp =>
      cases hallowed
      cases hblocked
      exact ⟨_, _, rfl, rfl, h.allowsHost (h.allowedUdpHosts host)
        (h.blockedUdpHosts host) hhost⟩
  | other ty => cases hallowed

end StreamConfig.Loosens

namespace ClientStream

variable {config : Config} {lookups : Lookups} {packet resolved : ConnectPacket}

theorem AsksResolver.of_loosens {looser : StreamConfig}
    (h : config.stream.Loosens looser) (hasks : AsksResolver config packet) :
    AsksResolver { config with stream := looser } packet where
  wispnet := hasks.wispnet
  udp hudp := h.allowUdp (hasks.udp hudp)
  port := h.allowsPort hasks.port
  directIp hip := h.allowDirectIp (hasks.directIp hip)
  host := h.allowsHost_of_streamType hasks.host

/-- Streams of other types are answered by flags that stay as they are. -/
theorem resolve_of_other {looser : StreamConfig}
    (h : config.stream.Loosens looser) {ty : UInt8}
    (hty : packet.streamType = .other ty) :
    resolve { config with stream := looser } lookups packet =
      resolve config lookups packet := by
  simp only [resolve, hty, h.allowTwisp]
  rfl

theorem resolve_eq_valid_of_loosens {looser : StreamConfig}
    (h : config.stream.Loosens looser)
    (hvalid : resolve config lookups packet = .ok (.valid resolved)) :
    resolve { config with stream := looser } lookups packet =
      .ok (.valid resolved) := by
  by_cases hty : packet.streamType = .tcp ∨ packet.streamType = .udp
  · obtain ⟨hasks, haddrs⟩ := (resolve_eq_valid hty).mp hvalid
    obtain ⟨addrs, addr, hanswer, hkept, hallows, hresolved⟩ :=
      resolveAddrs_eq_valid.mp haddrs
    exact (resolve_eq_valid hty).mpr ⟨hasks.of_loosens h,
      resolveAddrs_eq_valid.mpr
        ⟨addrs, addr, hanswer, hkept, h.allowsAddr hallows, hresolved⟩⟩
  · cases hother : packet.streamType with
    | tcp => exact absurd (.inl hother) hty
    | udp => exact absurd (.inr hother) hty
    | other ty =>
        rw [resolve_of_other h hother]
        exact hvalid

end ClientStream

namespace StreamSettings

/-- More flags are set, allowing lists have more entries and blocking lists
have fewer; but for the wsproxy nothing else is changed. -/
structure Loosens (settings looser : StreamSettings) : Prop where
  tcpNodelay : looser.tcpNodelay = settings.tcpNodelay
  allowTwisp : looser.allowTwisp = settings.allowTwisp
  allowUdp : settings.allowUdp = true → looser.allowUdp = true
  allowDirectIp : settings.allowDirectIp = true → looser.allowDirectIp = true
  allowLoopback : settings.allowLoopback = true → looser.allowLoopback = true
  allowMulticast : settings.allowMulticast = true →
    looser.allowMulticast = true
  allowGlobal : settings.allowGlobal = true → looser.allowGlobal = true
  allowNonGlobal : settings.allowNonGlobal = true →
    looser.allowNonGlobal = true
  allowPorts : settings.allowPorts ⊆ looser.allowPorts
  blockPorts : looser.blockPorts ⊆ settings.blockPorts
  allowHosts : settings.allowHosts ⊆ looser.allowHosts
  blockHosts : looser.blockHosts ⊆ settings.blockHosts
  allowTcpHosts : settings.allowTcpHosts ⊆ looser.allowTcpHosts
  blockTcpHosts : looser.blockTcpHosts ⊆ settings.blockTcpHosts
  allowUdpHosts : settings.allowUdpHosts ⊆ looser.allowUdpHosts
  blockUdpHosts : looser.blockUdpHosts ⊆ settings.blockUdpHosts

theorem portRanges_subset {pairs more : List (List UInt16)}
    {ranges moreRanges : List PortRange} (hsubset : pairs ⊆ more)
    (hranges : pairs.mapM portRange = .ok ranges)
    (hmore : more.mapM portRange = .ok moreRanges) : ranges ⊆ moreRanges := by
  intro range hrange
  obtain ⟨pair, hpair, hok⟩ :=
    (Outcome.mem_of_mapM_eq_ok hranges range).mp hrange
  exact (Outcome.mem_of_mapM_eq_ok hmore range).mpr
    ⟨pair, hsubset hpair, hok⟩

variable {regex : RegexCrate}

theorem matches_of_subset {patterns more : List String}
    {set moreSet : RegexSet} (hsubset : patterns ⊆ more)
    (hset : regex.unwrapSet patterns = .ok set)
    (hmore : regex.unwrapSet more = .ok moreSet) (text : String)
    (hmatch : set text = true) : moreSet text = true := by
  rw [RegexCrate.any_of_unwrapSet hset, List.any_eq_true] at hmatch
  rw [RegexCrate.any_of_unwrapSet hmore, List.any_eq_true]
  obtain ⟨pattern, hpattern, htext⟩ := hmatch
  exact ⟨pattern, hsubset hpattern, htext⟩

/-- The tables of a looser configuration are looser. -/
theorem Loosens.cached {settings looser : StreamSettings}
    {config config' : StreamConfig} (h : settings.Loosens looser)
    (hconfig : Cached regex settings config)
    (hconfig' : Cached regex looser config') : config.Loosens config' := by
  obtain ⟨-, hudp, htwisp, hdirect, hloopback, hmulticast, hglobal,
    hnonGlobal⟩ := hconfig.flags
  obtain ⟨-, hudp', htwisp', hdirect', hloopback', hmulticast', hglobal',
    hnonGlobal'⟩ := hconfig'.flags
  exact {
    allowUdp := by rw [hudp, hudp']; exact h.allowUdp
    allowTwisp := by rw [htwisp, htwisp']; exact h.allowTwisp
    allowDirectIp := by rw [hdirect, hdirect']; exact h.allowDirectIp
    allowLoopback := by rw [hloopback, hloopback']; exact h.allowLoopback
    allowMulticast := by rw [hmulticast, hmulticast']; exact h.allowMulticast
    allowGlobal := by rw [hglobal, hglobal']; exact h.allowGlobal
    allowNonGlobal := by rw [hnonGlobal, hnonGlobal']; exact h.allowNonGlobal
    allowedPorts := portRanges_subset h.allowPorts hconfig.allowedPorts
      hconfig'.allowedPorts
    blockedPorts := portRanges_subset h.blockPorts hconfig'.blockedPorts
      hconfig.blockedPorts
    allowedHosts := matches_of_subset h.allowHosts hconfig.allowedHosts
      hconfig'.allowedHosts
    blockedHosts := matches_of_subset h.blockHosts hconfig'.blockedHosts
      hconfig.blockedHosts
    allowedTcpHosts := matches_of_subset h.allowTcpHosts
      hconfig.allowedTcpHosts hconfig'.allowedTcpHosts
    blockedTcpHosts := matches_of_subset h.blockTcpHosts
      hconfig'.blockedTcpHosts hconfig.blockedTcpHosts
    allowedUdpHosts := matches_of_subset h.allowUdpHosts
      hconfig.allowedUdpHosts hconfig'.allowedUdpHosts
    blockedUdpHosts := matches_of_subset h.blockUdpHosts
      hconfig'.blockedUdpHosts hconfig.blockedUdpHosts }

theorem exists_portRanges {pairs : List (List UInt16)}
    (hpairs : ∀ pair ∈ pairs, 2 ≤ pair.length) :
    ∃ ranges, pairs.mapM portRange = .ok ranges := by
  induction pairs with
  | nil => exact ⟨[], rfl⟩
  | cons pair rest ih =>
      obtain ⟨ranges, hranges⟩ :=
        ih fun other hother => hpairs other (List.mem_cons_of_mem pair hother)
      have hlength := hpairs pair List.mem_cons_self
      obtain ⟨range, hrange⟩ : ∃ range, portRange pair = .ok range := by
        rcases pair with _ | ⟨first, _ | ⟨last, others⟩⟩
        · simp at hlength
        · simp at hlength
        · exact ⟨⟨first, last⟩, rfl⟩
      refine ⟨range :: ranges, ?_⟩
      rw [List.mapM_cons, hrange, hranges]
      rfl

/-- Ports come in pairs and the patterns compile. -/
structure WellFormed (regex : RegexCrate) (settings : StreamSettings) :
    Prop where
  allowPorts : ∀ pair ∈ settings.allowPorts, 2 ≤ pair.length
  blockPorts : ∀ pair ∈ settings.blockPorts, 2 ≤ pair.length
  compiles : ∀ patterns ∈ [settings.allowHosts, settings.blockHosts,
    settings.allowTcpHosts, settings.blockTcpHosts, settings.allowUdpHosts,
    settings.blockUdpHosts], (regex.newSet patterns).isSome = true

/-- The tables of a well-formed configuration can be built. -/
theorem WellFormed.exists_cache {settings : StreamSettings}
    (h : settings.WellFormed regex) :
    ∃ config, settings.cache regex = .ok config := by
  obtain ⟨allowedPorts, hallowed⟩ := exists_portRanges h.allowPorts
  obtain ⟨blockedPorts, hblocked⟩ := exists_portRanges h.blockPorts
  have hsets : ∀ patterns, (regex.newSet patterns).isSome = true →
      ∃ set, regex.unwrapSet patterns = .ok set := by
    intro patterns hsome
    obtain ⟨set, hset⟩ := Option.isSome_iff_exists.mp hsome
    exact ⟨set, by rw [RegexCrate.unwrapSet, hset]⟩
  have hcompiles := h.compiles
  simp only [List.forall_mem_cons] at hcompiles
  obtain ⟨hosts, hosts', tcp, tcp', udp, udp', -⟩ := hcompiles
  obtain ⟨_, hosts⟩ := hsets _ hosts
  obtain ⟨_, hosts'⟩ := hsets _ hosts'
  obtain ⟨_, tcp⟩ := hsets _ tcp
  obtain ⟨_, tcp'⟩ := hsets _ tcp'
  obtain ⟨_, udp⟩ := hsets _ udp
  obtain ⟨_, udp'⟩ := hsets _ udp'
  simp only [cache, hallowed, hblocked, hosts, hosts', tcp, tcp', udp, udp',
    Outcome.bind_ok, Outcome.pure_eq_ok]
  exact ⟨_, rfl⟩

end StreamSettings

namespace ClientStream

/-- A request that is let through with some destination under one configuration
is let through with the same one under every looser configuration. -/
theorem resolve_valid_of_looser_settings {regex : RegexCrate}
    {settings looser : StreamSettings} {stream stream' : StreamConfig}
    (hloosens : settings.Loosens looser)
    (hstream : settings.cache regex = .ok stream)
    (hstream' : looser.cache regex = .ok stream') (config : Config)
    (lookups : Lookups) (packet resolved : ConnectPacket)
    (hvalid : resolve { config with stream } lookups packet =
      .ok (.valid resolved)) :
    resolve { config with stream := stream' } lookups packet =
      .ok (.valid resolved) := by
  have hcached := hloosens.cached (StreamSettings.cached_of_cache hstream)
    (StreamSettings.cached_of_cache hstream')
  exact @resolve_eq_valid_of_loosens { config with stream } lookups packet
    resolved stream' hcached hvalid

/-- The pattern's letters occur in the text, one after another. -/
def occursIn (pattern : List Char) : List Char → Bool
  | [] => pattern.isEmpty
  | c :: rest => pattern.isPrefixOf (c :: rest) || occursIn pattern rest

/-- Regular expressions of letters and digits only. -/
def plainPatterns : RegexCrate where
  isMatch pattern text := occursIn pattern.toList text.toList
  newSet patterns :=
    if patterns.all fun pattern => pattern.toList.all Char.isAlphanum then
      some fun text => patterns.any fun pattern =>
        occursIn pattern.toList text.toList
    else none
  newSet_eq patterns set hset text := by
    split at hset
    · cases hset
      rfl
    · cases hset

/-- Hosts with an `a` in their names are blocked. -/
def blocksA : StreamSettings where
  tcpNodelay := true
  allowUdp := false
  allowWsproxyUdp := false
  allowTwisp := false
  allowDirectIp := false
  allowLoopback := true
  allowMulticast := false
  allowGlobal := false
  allowNonGlobal := true
  allowTcpHosts := []
  blockTcpHosts := []
  allowUdpHosts := []
  blockUdpHosts := []
  allowHosts := []
  blockHosts := ["a"]
  allowPorts := [[80, 90]]
  blockPorts := [[0, 65535]]

/-- All hosts are let through, and all ports. -/
def blocksNothing : StreamSettings :=
  { blocksA with allowUdp := true, blockHosts := [], blockPorts := [] }

theorem resolve_valid_of_blocksNothing :
    ∃ stream, blocksNothing.cache plainPatterns = .ok stream ∧
      resolve { openConfig with stream } (answering (.v4 localhost))
        ⟨.tcp, "host", 80⟩ = .ok (.valid ⟨.tcp, "127.0.0.1", 80⟩) := by
  obtain ⟨stream, hstream⟩ : ∃ stream,
      blocksA.cache plainPatterns = .ok stream := ⟨_, rfl⟩
  obtain ⟨stream', hstream'⟩ : ∃ stream,
      blocksNothing.cache plainPatterns = .ok stream := ⟨_, rfl⟩
  refine ⟨stream', hstream', ?_⟩
  apply resolve_valid_of_looser_settings ?_ hstream hstream'
  · cases hstream
    rfl
  · exact {
      tcpNodelay := rfl
      allowTwisp := rfl
      allowUdp := fun _ => rfl
      allowDirectIp := id
      allowLoopback := id
      allowMulticast := id
      allowGlobal := id
      allowNonGlobal := id
      allowPorts := List.Subset.refl _
      blockPorts := List.nil_subset _
      allowHosts := List.Subset.refl _
      blockHosts := List.nil_subset _
      allowTcpHosts := List.Subset.refl _
      blockTcpHosts := List.Subset.refl _
      allowUdpHosts := List.Subset.refl _
      blockUdpHosts := List.Subset.refl _ }

end ClientStream

end Epoxy.Server
