/-
How a stream request ends.  The checks of host names see TCP and UDP only, so
that resolving never panics; the terminal's command line is indexed without a
look at its length; and a stream that is routed to a wispnet server keeps
whatever stream type it was requested with.
-/
import Epoxy.AddressPolicy
import Epoxy.ClientStreams

namespace Epoxy.Server

open ByteCursor Net

/-- The statistics have a word for the stream type. -/
def Formattable (config : Config) (streamType : StreamType) : Prop :=
  ∃ text, formatStreamType config streamType = .ok text

/-- Neither TCP nor UDP, nor a terminal where the server has them. -/
def UnknownType (config : Config) (streamType : StreamType) : Prop :=
  ∃ ty, streamType = .other ty ∧
    (config.twisp = true → ty ≠ ClientStream.twispStreamType)

theorem not_formattable {config : Config} {streamType : StreamType} :
    ¬ Formattable config streamType ↔ UnknownType config streamType := by
  cases streamType with
  | tcp => simp [Formattable, formatStreamType, UnknownType]
  | udp => simp [Formattable, formatStreamType, UnknownType]
  | other ty =>
      simp only [Formattable, formatStreamType, UnknownType,
        StreamType.other.injEq, exists_eq_left']
      split
      · next htwisp => simpa using htwisp
      · next htwisp => simpa using htwisp

namespace ClientStream

variable {config : Config} {lookups : Lookups} {connections : Connections}
  {packet : ConnectPacket}

theorem resolveWispnet_ne_panic :
    resolveWispnet lookups packet ≠ .panic := by
  unfold resolveWispnet
  dsimp only
  split
  · simp
  · split
    · simp
    · split
      · simp
      · simp

theorem resolveAddrs_ne_panic :
    resolveAddrs config lookups packet ≠ .panic := by
  unfold resolveAddrs
  cases lookups.resolve packet.host with
  | none => simp
  | some addrs => simp

theorem resolveHost_ne_panic
    (hty : packet.streamType = .tcp ∨ packet.streamType = .udp) :
    resolveHost config lookups packet ≠ .panic := by
  rcases @resolveHost_cases config lookups packet hty with ⟨-, h⟩ | ⟨-, h⟩
  · rw [h]
    exact resolveAddrs_ne_panic
  · simp [h]

theorem resolve_ne_panic : resolve config lookups packet ≠ .panic := by
  unfold resolve
  split
  · exact resolveWispnet_ne_panic
  · split
    · split
      · simp
      · simp
    · next streamType hother =>
        have hty : packet.streamType = .tcp ∨ packet.streamType = .udp := by
          cases hstream : packet.streamType with
          | tcp => exact .inl rfl
          | udp => exact .inr rfl
          | other ty => exact absurd hstream (hother ty)
        split
        · simp
        · split
          · simp
          · split
            · simp
            · exact resolveHost_ne_panic hty

/-- The request is for a terminal, and there are no words in the command line
that it names. -/
structure EmptyCommand (config : Config) (connections : Connections)
    (packet : ConnectPacket) : Prop where
  twisp : config.twisp = true
  allowed : config.stream.allowTwisp = true
  streamType : packet.streamType = .other twispStreamType
  words : connections.splitWords packet.host = .ok []
  pty : connections.newPty = .ok ()

theorem question_eq_ok {α : Type} {x : Except String α} {value : α} :
    question x = .ok value ↔ x = .ok value := by
  cases x <;> simp [question]

@[simp] theorem question_ne_panic {α : Type} (x : Except String α) :
    question x ≠ .panic := by
  cases x <;> simp [question]

@[simp] theorem context_ne_panic {α : Type} (text : String)
    (x : Except String α) : context text x ≠ .panic := by
  cases x <;> simp [context]

@[simp] theorem parseHost_ne_panic (host : String) :
    parseHost host ≠ .panic := by
  unfold parseHost
  cases IpAddr.fromStr host with
  | none => simp
  | some ipaddr => simp

theorem connectPty_eq_panic {host : String} :
    connectPty connections host = .panic ↔
      connections.splitWords host = .ok [] ∧
        connections.newPty = .ok () := by
  unfold connectPty
  constructor
  · intro h
    rw [Outcome.bind_eq_panic] at h
    rcases h with h | ⟨cmdline, hwords, h⟩
    · exact absurd h (question_ne_panic _)
    · rw [Outcome.bind_eq_panic] at h
      rcases h with h | ⟨_, hpty, h⟩
      · exact absurd h (question_ne_panic _)
      · rw [question_eq_ok] at hwords hpty
        cases cmdline with
        | nil => exact ⟨hwords, hpty⟩
        | cons program args =>
            simp [Outcome.bind_eq_panic] at h
  · rintro ⟨hwords, hpty⟩
    simp only [hwords, hpty, question, Outcome.bind_ok]

/-- Nothing but the index into the command line panics. -/
theorem connect_eq_panic :
    connect config connections packet = .panic ↔
      EmptyCommand config connections packet := by
  constructor
  · intro h
    unfold connect at h
    cases hty : packet.streamType with
    | tcp =>
        rw [hty] at h
        simp [Outcome.bind_eq_panic] at h
    | udp =>
        rw [hty] at h
        dsimp only at h
        split at h
        · cases h
        · simp [Outcome.bind_eq_panic] at h
    | other ty =>
        rw [hty] at h
        dsimp only at h
        split at h
        · next htwisp =>
            simp only [Bool.and_eq_true, decide_eq_true_eq] at htwisp
            split at h
            · cases h
            · next hallowed =>
                obtain ⟨hwords, hpty⟩ := connectPty_eq_panic.mp h
                refine ⟨htwisp.1, by simpa using hallowed, ?_, hwords, hpty⟩
                rw [hty, htwisp.2]
        · cases h
  · rintro ⟨htwisp, hallowed, hty, hwords, hpty⟩
    simp only [connect, hty, htwisp, hallowed, Bool.true_and, decide_true,
      if_true, Bool.not_true, Bool.false_eq_true, if_false]
    exact connectPty_eq_panic.mpr ⟨hwords, hpty⟩

/-- The server that the host name stands for. -/
def wispnetServer (lookups : Lookups) (packet : ConnectPacket) :
    Option UInt32 := do
  let decoded ← lookups.base64Decode
    (String.ofList (splitFirst dotWisp packet.host.toList))
  let text ← fromUtf8 decoded
  u32FromStr text

theorem resolveWispnet_eq_ok {resolved : ResolvedPacket} :
    resolveWispnet lookups packet = .ok resolved ↔
      ∃ server, wispnetServer lookups packet = some server ∧
        resolved = .validWispnet server packet := by
  unfold resolveWispnet wispnetServer
  dsimp only
  cases lookups.base64Decode
    (String.ofList (splitFirst dotWisp packet.host.toList)) with
  | none => simp
  | some decoded =>
      cases htext : fromUtf8 decoded with
      | none => simp [htext]
      | some text =>
          cases hserver : u32FromStr text with
          | none => simp [htext, hserver]
          | some server => simp [htext, hserver, eq_comm]

theorem resolve_of_isWispnet (h : isWispnet config packet = true) :
    resolve config lookups packet = resolveWispnet lookups packet := by
  simp only [resolve, h, if_true]

theorem resolve_other {ty : UInt8} (hdirect : isWispnet config packet = false)
    (hty : packet.streamType = .other ty) :
    resolve config lookups packet =
      if config.twisp && ty = twispStreamType && config.stream.allowTwisp &&
          config.wisp.wispV2 then .ok (.valid packet)
      else .ok .invalid := by
  simp only [resolve, hdirect, Bool.false_eq_true, if_false, hty]

theorem isWispnet_of_resolve_eq_valid {resolved : ConnectPacket}
    (h : resolve config lookups packet = .ok (.valid resolved)) :
    isWispnet config packet = false := by
  by_contra hwispnet
  rw [resolve_of_isWispnet (by simpa using hwispnet)] at h
  obtain ⟨server, -, hresolved⟩ := resolveWispnet_eq_ok.mp h
  cases hresolved

theorem resolve_other_eq_valid {ty : UInt8} {resolved : ConnectPacket}
    (hty : packet.streamType = .other ty)
    (h : resolve config lookups packet = .ok (.valid resolved)) :
    resolved = packet ∧ config.twisp = true ∧ ty = twispStreamType ∧
      config.wisp.wispV2 = true := by
  rw [resolve_other (isWispnet_of_resolve_eq_valid h) hty] at h
  split at h
  · next htwisp =>
      simp only [Bool.and_eq_true, decide_eq_true_eq] at htwisp
      obtain rfl : packet = resolved := by simpa using h
      exact ⟨rfl, htwisp.1.1.1, htwisp.1.1.2, htwisp.2⟩
  · simp at h

theorem streamType_of_resolve_eq_valid {resolved : ConnectPacket}
    (h : resolve config lookups packet = .ok (.valid resolved)) :
    resolved.streamType = packet.streamType := by
  have hkept : packet.streamType = .tcp ∨ packet.streamType = .udp →
      resolved.streamType = packet.streamType := by
    intro hty
    obtain ⟨-, haddrs⟩ := (resolve_eq_valid hty).mp h
    obtain ⟨_, _, -, -, -, rfl⟩ := resolveAddrs_eq_valid.mp haddrs
    rfl
  cases hty : packet.streamType with
  | tcp =>
      rw [hkept (.inl hty), hty]
  | udp =>
      rw [hkept (.inr hty), hty]
  | other ty =>
      rw [(resolve_other_eq_valid hty h).1, hty]

/-- A request that is let through without wispnet has a stream type that the
statistics know. -/
theorem formattable_of_resolve_eq_valid {resolved : ConnectPacket}
    (h : resolve config lookups packet = .ok (.valid resolved)) :
    Formattable config packet.streamType := by
  cases hty : packet.streamType with
  | tcp => exact ⟨"tcp", rfl⟩
  | udp => exact ⟨"udp", rfl⟩
  | other ty =>
      obtain ⟨-, htwisp, rfl, -⟩ := resolve_other_eq_valid hty h
      refine ⟨"twisp", ?_⟩
      simp only [formatStreamType, htwisp, decide_true, Bool.and_self, if_true]

theorem checkAddr_ne_validWispnet {addr : IpAddr} {server : UInt32}
    {routed : ConnectPacket} :
    checkAddr config packet addr ≠ .validWispnet server routed := by
  unfold checkAddr
  split
  · simp
  · split
    · simp
    · split
      · simp
      · simp

theorem resolveHost_ne_validWispnet {server : UInt32}
    {routed : ConnectPacket} :
    resolveHost config lookups packet ≠
      .ok (.validWispnet server routed) := by
  unfold resolveHost
  intro h
  obtain ⟨allowed, -, h⟩ := Outcome.bind_eq_ok.mp h
  obtain ⟨blocked, -, h⟩ := Outcome.bind_eq_ok.mp h
  split at h
  · simp at h
  · split at h
    · simp at h
    · unfold resolveAddrs at h
      cases haddrs : lookups.resolve packet.host with
      | none => simp [haddrs] at h
      | some addrs =>
          simp only [haddrs, List.head?_map, Outcome.ok.injEq] at h
          cases hkept : (addrs.filter fun addr =>
              config.resolveIpv6 || addr.isIpv4).head? with
          | none => simp [hkept] at h
          | some addr =>
              simp only [hkept, Option.map_some, Option.getD_some] at h
              exact checkAddr_ne_validWispnet h

/-- Only host names of wispnet are routed. -/
theorem resolve_eq_validWispnet {server : UInt32} {routed : ConnectPacket} :
    resolve config lookups packet = .ok (.validWispnet server routed) ↔
      isWispnet config packet = true ∧
        wispnetServer lookups packet = some server ∧ routed = packet := by
  constructor
  · intro h
    by_cases hwispnet : isWispnet config packet = true
    · rw [resolve_of_isWispnet hwispnet] at h
      obtain ⟨_, hserver, hresolved⟩ := resolveWispnet_eq_ok.mp h
      cases hresolved
      exact ⟨hwispnet, hserver, rfl⟩
    · rw [resolve, if_neg hwispnet] at h
      split at h
      · split at h
        · simp at h
        · simp at h
      · split at h
        · simp at h
        · split at h
          · simp at h
          · split at h
            · simp at h
            · exact absurd h resolveHost_ne_validWispnet
  · rintro ⟨hwispnet, hserver, rfl⟩
    rw [resolve_of_isWispnet hwispnet]
    exact resolveWispnet_eq_ok.mpr ⟨server, hserver, rfl⟩

end ClientStream

variable {config : Config} {around : Surroundings} {connect : ConnectPacket}

/-- The request for a terminal gets as far as the command line without words
that is indexed. -/
structure StartsNoCommand (config : Config) (around : Surroundings)
    (connect : ConnectPacket) : Prop where
  direct : ClientStream.isWispnet config connect = false
  wispV2 : config.wisp.wispV2 = true
  command : ClientStream.EmptyCommand config around.connections connect

/-- The stream goes to a wispnet server, or to one that is not there, with a
stream type that the statistics have no word for. -/
structure RoutesUnknownType (config : Config) (around : Surroundings)
    (connect : ConnectPacket) : Prop where
  routed : ClientStream.isWispnet config connect = true
  server : ∃ server,
    ClientStream.wispnetServer around.lookups connect = some server ∧
      ∀ client, around.servers.lookup server = some client →
        around.connections.newStream client connect = .ok ()
  unknown : UnknownType config connect.streamType

@[simp] theorem orUnreachable_eq_panic {α : Type} {x : Outcome String α} :
    orUnreachable x = .panic ↔ x = .panic := by
  cases x <;> simp [orUnreachable]

@[simp] theorem orUnreachable_eq_ok {α : Type} {x : Outcome String α}
    {value : α} : orUnreachable x = .ok value ↔ x = .ok value := by
  cases x <;> simp [orUnreachable]

theorem routeWispnet_ne_panic (servers : WispnetServers)
    (connections : Connections) (server : UInt32) (packet : ConnectPacket) :
    routeWispnet servers connections server packet ≠ .panic := by
  unfold routeWispnet
  cases servers.lookup server with
  | none => simp
  | some client => simp [Outcome.bind_eq_panic]

theorem resolveStream_eq_panic :
    resolveStream config around connect = .panic ↔
      StartsNoCommand config around connect := by
  constructor
  · intro h
    rw [resolveStream, Outcome.bind_eq_panic, orUnreachable_eq_panic] at h
    rcases h with h | ⟨resolved, hresolved, h⟩
    · exact absurd h ClientStream.resolve_ne_panic
    · rw [orUnreachable_eq_ok] at hresolved
      cases resolved with
      | valid packet =>
          simp only [Outcome.bind_eq_panic, orUnreachable_eq_panic,
            Outcome.pure_eq_ok, reduceCtorEq, and_false, exists_false,
            or_false] at h
          have hcommand := ClientStream.connect_eq_panic.mp h
          have hty := ClientStream.streamType_of_resolve_eq_valid hresolved
          obtain ⟨rfl, -, -, hv2⟩ := ClientStream.resolve_other_eq_valid
            (hty.symm.trans hcommand.streamType) hresolved
          exact ⟨ClientStream.isWispnet_of_resolve_eq_valid hresolved, hv2,
            hcommand⟩
      | validWispnet server packet =>
          simp only [Outcome.bind_eq_panic, orUnreachable_eq_panic,
            Outcome.pure_eq_ok, reduceCtorEq, and_false, exists_false,
            or_false] at h
          exact absurd h (routeWispnet_ne_panic _ _ _ _)
      | noResolvedAddrs => cases h
      | blocked => cases h
      | invalid => cases h
  · rintro ⟨hdirect, hv2, hcommand⟩
    have hvalid : ClientStream.resolve config around.lookups connect =
        .ok (.valid connect) := by
      rw [ClientStream.resolve_other hdirect hcommand.streamType]
      simp [hcommand.twisp, hcommand.allowed, hv2]
    have hpanic := ClientStream.connect_eq_panic.mpr hcommand
    simp only [resolveStream, hvalid, hpanic, orUnreachable,
      Outcome.bind_ok, Outcome.bind_panic]

theorem routeWispnet_eq_ok {servers : WispnetServers}
    {connections : Connections} {server : UInt32} {packet : ConnectPacket} :
    (∃ stream, routeWispnet servers connections server packet = .ok stream) ↔
      ∀ client, servers.lookup server = some client →
        connections.newStream client packet = .ok () := by
  unfold routeWispnet
  cases servers.lookup server with
  | none => simp
  | some client =>
      cases hopen : connections.newStream client packet with
      | error error => simp [context, hopen]
      | ok value => simp [context, hopen]

/-- What is recorded of a stream has the stream type of the request, and the
statistics know it unless the stream is routed. -/
theorem streamType_of_resolveStream {requested resolved : ConnectPacket}
    {stream : ClientStream}
    (h : resolveStream config around connect =
      .ok (requested, resolved, stream)) :
    requested = connect ∧ resolved.streamType = connect.streamType ∧
      (Formattable config connect.streamType ∨
        RoutesUnknownType config around connect) := by
  rw [resolveStream, Outcome.bind_eq_ok] at h
  obtain ⟨answer, hanswer, h⟩ := h
  rw [orUnreachable_eq_ok] at hanswer
  cases answer with
  | valid packet =>
      obtain ⟨_, -, h⟩ := Outcome.bind_eq_ok.mp h
      cases h
      exact ⟨rfl, ClientStream.streamType_of_resolve_eq_valid hanswer,
        .inl (ClientStream.formattable_of_resolve_eq_valid hanswer)⟩
  | validWispnet server packet =>
      obtain ⟨open', hopen, h⟩ := Outcome.bind_eq_ok.mp h
      cases h
      rw [orUnreachable_eq_ok] at hopen
      obtain ⟨hwispnet, hserver, rfl⟩ :=
        ClientStream.resolve_eq_validWispnet.mp hanswer
      refine ⟨rfl, rfl, or_iff_not_imp_left.mpr fun hunknown => ?_⟩
      exact ⟨hwispnet, ⟨server, hserver,
        routeWispnet_eq_ok.mp ⟨_, hopen⟩⟩, not_formattable.mp hunknown⟩
  | noResolvedAddrs => cases h
  | blocked => cases h
  | invalid => cases h

theorem RoutesUnknownType.resolveStream
    (h : RoutesUnknownType config around connect) :
    ∃ stream, resolveStream config around connect =
      .ok (connect, connect, stream) := by
  obtain ⟨hwispnet, ⟨server, hserver, hopens⟩, -⟩ := h
  obtain ⟨stream, hopen⟩ := routeWispnet_eq_ok.mpr hopens
  have hanswer : ClientStream.resolve config around.lookups connect =
      .ok (.validWispnet server connect) :=
    ClientStream.resolve_eq_validWispnet.mpr ⟨hwispnet, hserver, rfl⟩
  refine ⟨stream, ?_⟩
  simp only [Server.resolveStream, hanswer, hopen, orUnreachable,
    Outcome.bind_ok, Outcome.pure_eq_ok]

end Epoxy.Server
