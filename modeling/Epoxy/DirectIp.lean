/-
Literal addresses where no connections to addresses are allowed.  The check
reads the host as an address alone, the resolver of the operating system as an
address with a port; a host that only the resolver takes for an address, or
answers itself, gets past the check.
-/
import Epoxy.AddressPolicy
import Epoxy.SocketAddr

namespace Epoxy.Server

open ByteCursor Net

/-- What the operating system makes of a host: some spellings of addresses it
reads itself, such as `127.1`, the others it looks up. -/
structure SystemLookup where
  numeric : String → Option (List IpAddr)
  lookup : String → Option (List IpAddr)

/-- What hickory makes of a host: some hosts it answers itself, such as
addresses and `localhost`, for the others it asks a name server. -/
structure HickoryLookup where
  known : String → Option (List IpAddr)
  lookup : String → Option (List IpAddr)

inductive Resolver where
  | hickory (names : HickoryLookup)
  | system (os : SystemLookup)

namespace Resolver

/-- The addresses of a host that no name has to be looked up for. -/
def withoutLookup : Resolver → String → Option (List IpAddr)
  | .hickory names, host => names.known host
  | .system os, host =>
      match SocketAddr.fromStr (host ++ ":0") with
      | some addr => some [addr.ip]
      | none => os.numeric host

def resolve (resolver : Resolver) (host : String) : Option (List IpAddr) :=
  match resolver.withoutLookup host, resolver with
  | some addrs, _ => some addrs
  | none, .hickory names => names.lookup host
  | none, .system os => os.lookup host

theorem withoutLookup_of_parsed {os : SystemLookup} {host : String}
    {addr : SocketAddr} (h : SocketAddr.fromStr (host ++ ":0") = some addr) :
    (system os).withoutLookup host = some [addr.ip] := by
  unfold withoutLookup
  dsimp only
  rw [h]

theorem withoutLookup_of_not_parsed {os : SystemLookup} {host : String}
    (h : SocketAddr.fromStr (host ++ ":0") = none) :
    (system os).withoutLookup host = os.numeric host := by
  unfold withoutLookup
  dsimp only
  rw [h]

/-- The hosts that a resolver knows itself and that are no addresses alone. -/
inductive Respelled : Resolver → String → List IpAddr → Prop
  | known {names : HickoryLookup} {host : String} {addrs : List IpAddr}
      (hknown : names.known host = some addrs) :
      Respelled (.hickory names) host addrs
  | bracketed {os : SystemLookup} {host : String} {ip : Ipv6Addr}
      {scopeId : UInt32} (htext : Bracketed host.toList ip scopeId) :
      Respelled (.system os) host [.v6 ip]
  | numeric {os : SystemLookup} {host : String} {addrs : List IpAddr}
      (hparse : SocketAddr.fromStr (host ++ ":0") = none)
      (hnumeric : os.numeric host = some addrs) :
      Respelled (.system os) host addrs

theorem resolve_of_withoutLookup {resolver : Resolver} {host : String}
    {addrs : List IpAddr} (h : resolver.withoutLookup host = some addrs) :
    resolver.resolve host = some addrs := by
  unfold resolve
  rw [h]

theorem fromStr_append_port (host : String) (addr : SocketAddr) :
    SocketAddr.fromStr (host ++ ":0") = some addr ↔
      (∃ ip, IpAddr.fromStr host = some (.v4 ip) ∧ addr = ⟨.v4 ip, 0, 0⟩) ∨
        ∃ ip scopeId, Bracketed host.toList ip scopeId ∧
          addr = ⟨.v6 ip, 0, scopeId⟩ := by
  unfold SocketAddr.fromStr IpAddr.fromStr
  rw [String.toList_append]
  exact SocketAddr.fromText_append_portZero host.toList addr

/-- What is resolved without a lookup and is no address alone is one of the
hosts that the resolver knows itself. -/
theorem withoutLookup_of_not_literal {resolver : Resolver} {host : String}
    (hliteral : IpAddr.fromStr host = none) {addrs : List IpAddr} :
    resolver.withoutLookup host = some addrs ↔
      Respelled resolver host addrs := by
  cases resolver with
  | hickory names =>
      constructor
      · intro hknown
        exact .known hknown
      · rintro ⟨hknown⟩
        exact hknown
  | system os =>
      cases hparse : SocketAddr.fromStr (host ++ ":0") with
      | none =>
          rw [withoutLookup_of_not_parsed hparse]
          constructor
          · intro haddrs
            exact .numeric hparse haddrs
          · intro hspelled
            cases hspelled with
            | numeric _ haddrs => exact haddrs
            | bracketed htext =>
                have hsome := (fromStr_append_port host _).mpr
                  (.inr ⟨_, _, htext, rfl⟩)
                rw [hparse] at hsome
                cases hsome
      | some addr =>
          rw [withoutLookup_of_parsed hparse]
          rcases (fromStr_append_port host addr).mp hparse with
            ⟨ip, hip, -⟩ | ⟨ip, scopeId, htext, rfl⟩
          · rw [hliteral] at hip
            cases hip
          · constructor
            · intro haddrs
              cases haddrs
              exact .bracketed htext
            · intro hspelled
              cases hspelled with
              | numeric hnone =>
                  rw [hparse] at hnone
                  cases hnone
              | bracketed hother =>
                  have hsame := (fromStr_append_port host _).mpr
                    (.inr ⟨_, _, hother, rfl⟩)
                  rw [hparse] at hsame
                  cases hsame
                  rfl

end Resolver

namespace ClientStream

variable {config : Config} {lookups : Lookups} {packet : ConnectPacket}

theorem checkAddr_eq_blocked {addr : IpAddr} :
    checkAddr config packet addr = .blocked ↔
      ¬ config.stream.AllowsAddr addr := by
  constructor
  · intro hblocked hallows
    rw [checkAddr_eq_valid.mpr ⟨hallows, rfl⟩] at hblocked
    cases hblocked
  · intro hforbids
    rw [config.stream.allowsAddr_iff] at hforbids
    unfold checkAddr
    split
    · rfl
    · split
      · rfl
      · split
        · rfl
        · next hloopback hmulticast hglobal =>
            exact absurd ⟨by simpa using hloopback, by simpa using hmulticast,
              by simpa using hglobal⟩ hforbids

/-- The first address that is kept decides. -/
theorem resolveAddrs_eq_blocked {addrs : List IpAddr}
    (haddrs : lookups.resolve packet.host = some addrs) :
    resolveAddrs config lookups packet = .ok .blocked ↔
      ∃ addr, firstKept config addrs = some addr ∧
        ¬ config.stream.AllowsAddr addr := by
  unfold resolveAddrs
  simp only [haddrs, List.head?_map, Outcome.ok.injEq]
  change ((firstKept config addrs).map _).getD _ = _ ↔ _
  cases hkept : firstKept config addrs with
  | none => simp
  | some addr => simp [checkAddr_eq_blocked]

/-- What needs no lookup is refused. -/
def BlocksDirectIp (config : Config) (base64Decode : String → Option Bytes)
    (resolver : Resolver) (packet : ConnectPacket) : Prop :=
  ∀ addrs, resolver.withoutLookup packet.host = some addrs →
    resolve config ⟨base64Decode, resolver.resolve⟩ packet = .ok .blocked

/-- The resolver knows the host itself, the server does not take it for an
address, and nothing else is wrong with the request. -/
def SlipsThrough (config : Config) (resolver : Resolver)
    (packet : ConnectPacket) : Prop :=
  ∃ addrs, Resolver.Respelled resolver packet.host addrs ∧
    AsksResolver config packet ∧
    ∀ addr, firstKept config addrs = some addr → config.stream.AllowsAddr addr

/-- Direct connections to addresses are refused exactly of the requests whose
host the resolver does not know in a way that the check does not see. -/
theorem blocksDirectIp_iff (config : Config)
    (base64Decode : String → Option Bytes) (resolver : Resolver)
    (hty : packet.streamType = .tcp ∨ packet.streamType = .udp)
    (hwispnet : isWispnet config packet = false)
    (hdirect : config.stream.allowDirectIp = false) :
    BlocksDirectIp config base64Decode resolver packet ↔
      ¬ SlipsThrough config resolver packet := by
  let lookups : Lookups := ⟨base64Decode, resolver.resolve⟩
  have hliteral : AsksResolver config packet →
      IpAddr.fromStr packet.host = none := by
    intro hasks
    rw [← Option.not_isSome_iff_eq_none]
    intro hsome
    have hallowed := hasks.directIp hsome
    rw [hdirect] at hallowed
    cases hallowed
  constructor
  · rintro hblocks ⟨addrs, hspelled, hasks, hallows⟩
    have haddrs : resolver.withoutLookup packet.host = some addrs :=
      (Resolver.withoutLookup_of_not_literal (hliteral hasks)).mpr hspelled
    have hblocked := hblocks addrs haddrs
    rcases @resolve_cases config lookups packet hty hwispnet with
      ⟨-, hresolve⟩ | ⟨hrefused, -⟩
    · rw [hresolve, resolveAddrs_eq_blocked
        (Resolver.resolve_of_withoutLookup haddrs)] at hblocked
      obtain ⟨addr, hkept, hforbids⟩ := hblocked
      exact hforbids (hallows addr hkept)
    · exact hrefused hasks
  · intro hslips addrs haddrs
    rcases @resolve_cases config lookups packet hty hwispnet with
      ⟨hasks, hresolve⟩ | ⟨-, hblocked⟩
    · have hspelled :=
        (Resolver.withoutLookup_of_not_literal (hliteral hasks)).mp haddrs
      rw [hresolve, resolveAddrs_eq_blocked
        (Resolver.resolve_of_withoutLookup haddrs)]
      by_contra hnone
      apply hslips
      refine ⟨addrs, hspelled, hasks, fun addr hkept => ?_⟩
      by_contra hforbids
      exact hnone ⟨addr, hkept, hforbids⟩
    · exact hblocked

/-- Everything but connections to addresses is allowed. -/
def noDirectIp : Config :=
  { openConfig with
    stream := { openConfig.stream with allowDirectIp := false } }

/-- An operating system that reads no spelling itself and knows no name. -/
def nameless : SystemLookup := ⟨fun _ => none, fun _ => none⟩

theorem blocksDirectIp_of_plain_addr :
    BlocksDirectIp noDirectIp (fun _ => none) (.system nameless)
      ⟨.tcp, "127.0.0.1", 80⟩ := by
  refine (blocksDirectIp_iff noDirectIp (fun _ => none) (.system nameless)
    (.inl rfl) rfl rfl).mpr ?_
  rintro ⟨addrs, -, hasks, -⟩
  have hallowed := hasks.directIp (by decide)
  cases hallowed

/-- `[::1]` is parsed as an address by the resolver only. -/
theorem not_blocksDirectIp_of_brackets :
    (Resolver.system nameless).withoutLookup "[::1]" =
        some [.v6 ⟨[0, 0, 0, 0, 0, 0, 0, 1], rfl⟩] ∧
      ¬ BlocksDirectIp noDirectIp (fun _ => none) (.system nameless)
        ⟨.tcp, "[::1]", 80⟩ := by
  have haddrs : (Resolver.system nameless).withoutLookup "[::1]" =
      some [.v6 ⟨[0, 0, 0, 0, 0, 0, 0, 1], rfl⟩] := by rfl
  refine ⟨haddrs, fun hblocks => ?_⟩
  have hblocked := hblocks _ haddrs
  have hvalid : resolve noDirectIp
      ⟨fun _ => none, (Resolver.system nameless).resolve⟩
      ⟨.tcp, "[::1]", 80⟩ = .ok (.valid ⟨.tcp, "::1", 80⟩) := by rfl
  rw [hvalid] at hblocked
  cases hblocked

end ClientStream

end Epoxy.Server
