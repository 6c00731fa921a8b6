/-
The ways from a request to an upstream of the server.  A request is routed by
its path to a Wisp connection, to a wispnet, or to the legacy wsproxy; only a
Wisp connection asks for authentication, and only if it may be v2.
-/
import Epoxy.Multiplexor
import Epoxy.StreamResolve

namespace Epoxy.Server

open ByteCursor SessionNetwork
open ProtocolExtensionBuilder (buildFromBytes buildToExtension)

namespace WispConfig

variable {σ : Type} [CertCrates σ]

/-- The authentication builder with the ids that it makes required;
`getCertificatesFromPaths` reads the configured keys. -/
def authOpts
    (getCertificatesFromPaths : List String → Option (List (VerifyKey σ)))
    (config : WispConfig) :
    Option (List (AnyProtocolExtensionBuilder σ) × List UInt8) :=
  match config.authExtension with
  | some .password =>
      some ([.password (.serverBeforeClientInfo config.passwordExtensionUsers
          config.passwordExtensionRequired)],
        if config.passwordExtensionRequired then [0x02] else [])
  | some .certificate =>
      (getCertificatesFromPaths config.certificateExtensionKeys).map
        fun keys =>
          ([.certAuth (.serverBeforeChallenge keys
              config.certificateExtensionRequired)],
            if config.certificateExtensionRequired then [0x03] else [])
  | none => some ([], [])

def plainBuilders (config : WispConfig) :
    List (AnyProtocolExtensionBuilder σ) :=
  (if config.extensions.contains .udp then [.udp] else []) ++
    if config.extensions.contains .motd then
      [.motd (.server config.motdExtension)]
    else []

def toOpts
    (getCertificatesFromPaths : List String → Option (List (VerifyKey σ)))
    (config : WispConfig) :
    Option (Option (WispV2Handshake (AnyProtocolExtensionBuilder σ)) ×
      List UInt8 × UInt32) :=
  if config.wispV2 then
    (config.authOpts getCertificatesFromPaths).map fun (auth, required) =>
      (some (.new (config.plainBuilders ++ auth)), required, config.bufferSize)
  else some (none, [], config.bufferSize)

def RequiresAuth (config : WispConfig) : Prop :=
  (config.authExtension = some .password ∧
    config.passwordExtensionRequired = true) ∨
  (config.authExtension = some .certificate ∧
    config.certificateExtensionRequired = true)

end WispConfig

/-- What the routing reads of a request; `upgrades` if it is an upgrade
request with the headers of a WebSocket. -/
structure UpgradeRequest where
  upgrades : Bool
  path : String
  query : Option String
  hasWsProtocol : Bool
deriving Repr, DecidableEq

inductive HttpUpgradeResult where
  | wisp (hasWsProtocol isWispnet : Bool)
  | wsProxy (path : String) (udp : Bool)
deriving Repr, DecidableEq

def endsWithPrefix (config : WispConfig) (path : String) : Bool :=
  (config.wispPrefix ++ "/").toList.isSuffixOf path.toList

def wsUpgrade (config : WispConfig) (req : UpgradeRequest) :
    Option HttpUpgradeResult :=
  if !req.upgrades then none
  else if endsWithPrefix config req.path then
    some (.wisp req.hasWsProtocol
      (config.hasWispnet && req.query.getD "" == "net"))
  else if config.allowWsproxy then
    some (.wsProxy req.path (req.query.getD "" == "udp"))
  else none

inductive Upstream where
  | connect (packet : ConnectPacket)
  | routeWispnet (server : UInt32) (packet : ConnectPacket)
deriving Repr, DecidableEq

def requestedUpstream (resolve : ConnectPacket → Option ResolvedPacket)
    (connect : ConnectPacket) : Option Upstream :=
  match resolve connect with
  | some (.valid packet) => some (.connect packet)
  | some (.validWispnet server packet) => some (.routeWispnet server packet)
  | some .noResolvedAddrs => none
  | some .blocked => none
  | some .invalid => none
  | none => none

/-- `u16::from_str`: decimal digits, after a sign or not. -/
def parsePort (text : List Char) : Option UInt16 :=
  let digits := if text.head? = some '+' then text.tail else text
  if digits ≠ [] ∧ digits.all Char.isDigit then
    let value := digits.foldl (fun value digit =>
      10 * value + (digit.toNat - '0'.toNat)) 0
    if value < 2 ^ 16 then some (UInt16.ofNat value) else none
  else none

def wsproxyConnect (config : StreamConfig) (path : String) (udp : Bool) :
    Option ConnectPacket :=
  if udp && !config.allowWsproxyUdp then none
  else
    match (path.toList.splitOn '/').getLast?.map (·.splitOn ':') with
    | some (host :: port :: _) =>
        (parsePort port).map fun port =>
          ⟨if udp then .udp else .tcp, String.ofList host, port⟩
    | _ => none

def handleWisp {σ : Type} [CertCrates σ]
    (getCertificatesFromPaths : List String → Option (List (VerifyKey σ)))
    (closed : Multiplexor AnyProtocolExtension → Outcome WispError Unit)
    (twisp : Bool) (config : WispConfig) (isV2 : Bool) :
    Option (Handshake (Multiplexor AnyProtocolExtension)) :=
  (config.toOpts getCertificatesFromPaths).map
    fun (extensions, required, bufferSize) =>
      let extensions :=
        if twisp then extensions.map (·.addExtension .twisp) else extensions
      Multiplexor.newServer bufferSize (if isV2 then extensions else none) >>=
        fun mux => Handshake.lift
          (mux.withRequiredExtensions (closed mux) required)

/-- A client connection: its request, what the handshake received from it, and
the packets it sent after that. -/
structure ClientConnection where
  request : UpgradeRequest
  inputs : List (Option (Except WispError Bytes))
  later : List Packet

section Gate

variable {σ : Type}
  {getCertificatesFromPaths : List String → Option (List (VerifyKey σ))}
  {resolve : ConnectPacket → Option ResolvedPacket}
  {closed : Multiplexor AnyProtocolExtension → Outcome WispError Unit}

/-- A configuration that requires authentication has one builder for it, and
makes its id required. -/
theorem authOpts_of_requiresAuth {config : WispConfig}
    (hrequires : config.RequiresAuth)
    {auth : List (AnyProtocolExtensionBuilder σ)} {required : List UInt8}
    (hopts : config.authOpts getCertificatesFromPaths =
      some (auth, required)) :
    ∃ builder, auth = [builder] ∧ required = [builder.getId] ∧
      builder.getId ≠ 0x01 ∧ builder.getId ≠ 0x04 := by
  rcases hrequires with ⟨hauth, hrequired⟩ | ⟨hauth, hrequired⟩
  · simp only [WispConfig.authOpts, hauth, hrequired, if_true,
      Option.some.injEq, Prod.mk.injEq] at hopts
    obtain ⟨rfl, rfl⟩ := hopts
    exact ⟨_, rfl, rfl, by simp [AnyProtocolExtensionBuilder.getId],
      by simp [AnyProtocolExtensionBuilder.getId]⟩
  · simp only [WispConfig.authOpts, hauth, hrequired, if_true,
      Option.map_eq_some_iff, Prod.mk.injEq] at hopts
    obtain ⟨keys, -, rfl, rfl⟩ := hopts
    exact ⟨_, rfl, rfl, by simp [AnyProtocolExtensionBuilder.getId],
      by simp [AnyProtocolExtensionBuilder.getId]⟩

variable [CertCrates σ]

/-- The server calls this upstream on behalf of the connection: for a stream
that a Wisp client requested, or for a wsproxy.  A wispnet calls none. -/
inductive Reaches
    (getCertificatesFromPaths : List String → Option (List (VerifyKey σ)))
    (resolve : ConnectPacket → Option ResolvedPacket)
    (closed : Multiplexor AnyProtocolExtension → Outcome WispError Unit)
    (config : Config) (connection : ClientConnection)
    (upstream : Upstream) : Prop where
  | wisp {hasWsProtocol : Bool}
      {session : Handshake (Multiplexor AnyProtocolExtension)}
      {mux : Multiplexor AnyProtocolExtension} {packet : Packet}
      {connect : ConnectPacket}
      (hroute : wsUpgrade config.wisp connection.request =
        some (.wisp hasWsProtocol false))
      (hsession : handleWisp getCertificatesFromPaths closed config.twisp
        config.wisp hasWsProtocol = some session)
      (hended : session.Ends connection.inputs (.ok mux))
      (hpacket : packet ∈ mux.packet.toList ++ connection.later)
      (hconnect : packet.packetType = .connect connect)
      (hupstream : requestedUpstream resolve connect = some upstream)
  | wsproxy {path : String} {udp : Bool} {connect : ConnectPacket}
      (hroute : wsUpgrade config.wisp connection.request =
        some (.wsProxy path udp))
      (hconnect : wsproxyConnect config.stream path udp = some connect)
      (hupstream : requestedUpstream resolve connect = some upstream)

/-- The connection sent an INFO packet with a payload that the configured
authentication builder accepted. -/
def Authenticated
    (getCertificatesFromPaths : List String → Option (List (VerifyKey σ)))
    (config : WispConfig) (connection : ClientConnection) : Prop :=
  ∃ builder required message body payload extension,
    config.authOpts getCertificatesFromPaths = some ([builder], required) ∧
    connection.inputs = [some (.ok message)] ∧
    infoBody message = some body ∧
    (builder.getId, payload) ∈ InfoPacket.entries body ∧
    (buildFromBytes (buildToExtension builder .server).1 payload .server).2 =
      .ok extension

/-- Behind builders with other ids the authentication builder is the first one
with its id, changed by its own INFO entry. -/
theorem find_authBuilder {front rest : List (AnyProtocolExtensionBuilder σ)}
    {auth : AnyProtocolExtensionBuilder σ}
    (hfront : ∀ builder ∈ front, builder.getId ≠ auth.getId ∧
      ∃ extension,
        buildToExtension builder .server = (builder, .ok extension)) :
    (buildToExtensions .server (front ++ auth :: rest)).1.find?
        (ProtocolExtensionBuilder.getId · = auth.getId) =
      some (buildToExtension auth .server).1 := by
  induction front with
  | nil =>
      have hid : (buildToExtension auth .server).1.getId = auth.getId :=
        LawfulBuilders.getId_buildToExtension auth .server
      cases hbuilt : buildToExtension auth .server with
      | mk changed built =>
          rw [hbuilt] at hid
          cases built <;>
            simp [buildToExtensions, hbuilt, ProtocolExtensionBuilder.getId,
              hid]
  | cons builder front ih =>
      obtain ⟨hid, extension, hbuilt⟩ := hfront builder List.mem_cons_self
      have hrest := ih fun builder hbuilder =>
        hfront builder (List.mem_cons_of_mem _ hbuilder)
      simp only [List.cons_append, buildToExtensions, hbuilt, List.find?_cons,
        ProtocolExtensionBuilder.getId, hid, decide_false]
      exact hrest

theorem plainBuilders_build {config : WispConfig}
    {builder : AnyProtocolExtensionBuilder σ}
    (hmem : builder ∈ config.plainBuilders) :
    (builder.getId = 0x01 ∨ builder.getId = 0x04) ∧
      ∃ extension, buildToExtension builder .server =
        (builder, .ok extension) := by
  rcases List.mem_append.mp hmem with hudp | hmotd
  · split at hudp
    · obtain rfl := List.mem_singleton.mp hudp
      exact ⟨.inl rfl, _, rfl⟩
    · cases hudp
  · split at hmotd
    · obtain rfl := List.mem_singleton.mp hmotd
      exact ⟨.inr rfl, _, rfl⟩
    · cases hmotd

theorem accepted_of_handleWisp {twisp : Bool} {config : WispConfig}
    (hrequires : config.RequiresAuth) (hv2 : config.wispV2 = true)
    {isV2 : Bool} {session : Handshake (Multiplexor AnyProtocolExtension)}
    {mux : Multiplexor AnyProtocolExtension}
    {inputs : List (Option (Except WispError Bytes))}
    (hsession : handleWisp getCertificatesFromPaths closed twisp config isV2 =
      some session) (hended : session.Ends inputs (.ok mux)) :
    ∃ builder rest,
      config.authOpts getCertificatesFromPaths =
        some ([builder], [builder.getId]) ∧
      builder.getId ≠ 0x01 ∧ builder.getId ≠ 0x04 ∧
      Accepted (some (.new (config.plainBuilders ++ builder :: rest))) inputs
        builder.getId := by
  simp only [handleWisp, WispConfig.toOpts, hv2, if_true, Option.map_map,
    Option.map_eq_some_iff] at hsession
  obtain ⟨⟨auth, required⟩, hopts, rfl⟩ := hsession
  obtain ⟨builder, rfl, rfl, hudp, hmotd⟩ :=
    authOpts_of_requiresAuth hrequires hopts
  obtain ⟨hnew, hsupported⟩ := ends_of_usable hended
  rcases accepted_of_newServer hnew (hsupported _ List.mem_cons_self) with
    ⟨-, hid⟩ | haccepted
  · exact (hudp hid).elim
  · refine ⟨builder, if twisp then [.twisp] else [], hopts, hudp, hmotd, ?_⟩
    cases isV2 with
    | false =>
        obtain ⟨handshake, -, -, -, hnone, -⟩ := haccepted
        cases hnone
    | true =>
        cases twisp with
        | false => exact haccepted
        | true =>
            simpa [WispV2Handshake.new, WispV2Handshake.addExtension]
              using haccepted

/-- With v2 configured and authentication required, an upstream is called only
for a connection that was authenticated or that came in as a wsproxy. -/
theorem authenticated_of_reaches {config : Config}
    {connection : ClientConnection} {upstream : Upstream}
    (hrequires : config.wisp.RequiresAuth) (hv2 : config.wisp.wispV2 = true)
    (hreaches : Reaches getCertificatesFromPaths resolve closed config
      connection upstream) :
    Authenticated getCertificatesFromPaths config.wisp connection ∨
      (config.wisp.allowWsproxy = true ∧
        endsWithPrefix config.wisp connection.request.path = false) := by
  cases hreaches with
  | wisp hroute hsession hended hpacket hconnect hupstream =>
      left
      obtain ⟨builder, rest, hopts, hudp, hmotd, haccepted⟩ :=
        accepted_of_handleWisp hrequires hv2 hsession hended
      have hfront : ∀ other ∈
          (config.wisp.plainBuilders : List (AnyProtocolExtensionBuilder σ)),
          other.getId ≠ builder.getId ∧ ∃ extension,
            buildToExtension other .server = (other, .ok extension) := by
        intro other hother
        obtain ⟨hid, hbuild⟩ := plainBuilders_build hother
        refine ⟨fun heq => ?_, hbuild⟩
        rcases hid with hid | hid
        · exact hudp (heq ▸ hid)
        · exact hmotd (heq ▸ hid)
      obtain ⟨message, body, payload, extension, hinputs, hbody, hentry,
        hresult⟩ := haccepted.of_find (find_authBuilder hfront)
      exact ⟨builder, _, message, body, payload, extension, hopts, hinputs,
        hbody, hentry, hresult⟩
  | wsproxy hroute hconnect hupstream =>
      right
      rw [wsUpgrade] at hroute
      split at hroute
      · cases hroute
      · split at hroute
        · cases hroute
        · next hpath =>
            split at hroute
            · next hallowed => exact ⟨hallowed, by simpa using hpath⟩
            · cases hroute

end Gate

/-- A server whose only extension is a required password, with one user. -/
def passwordConfig : WispConfig :=
  { (default : WispConfig) with
    extensions := []
    authExtension := some .password
    passwordExtensionUsers := [("a", "b")] }

def gateConfig (wisp : WispConfig) : Config :=
  { (default : Config) with wisp }

def toAddress : ConnectPacket := ⟨.tcp, "93.184.215.14", 80⟩

def resolveAddress (connect : ConnectPacket) : Option ResolvedPacket :=
  some (.valid connect)

/-- A client that logs in with the user's password and requests a stream. -/
def loggedIn : ClientConnection where
  request := ⟨true, "/", none, true⟩
  inputs := [some (.ok (InfoPacket.header wispVersion ++
    InfoPacket.encodeEntries [(0x02, [1, 97, 98])]))]
  later := [⟨1, .connect toAddress⟩]

def noKeys (_ : List String) : Option (List (VerifyKey Empty)) := some []

theorem authenticated_of_loggedIn :
    Authenticated noKeys passwordConfig loggedIn := by
  let builder : PlainBuilder :=
    .password (.serverBeforeClientInfo [("a", "b")] true)
  let extension : AnyProtocolExtension :=
    .password (.serverAfterClientInfo "a" "b")
  have hfits : ∀ entry ∈ [((0x02, [1, 97, 98]) : UInt8 × Bytes)],
      InfoPacket.FitsLength entry.2 := by
    simp [InfoPacket.FitsLength]
  have hdecoded : MaybeInfoPacket.decode (InfoPacket.header wispVersion ++
      InfoPacket.encodeEntries [(0x02, [1, 97, 98])]) [builder] .server =
        .ok (.info ⟨wispVersion, [extension]⟩,
          [.password (.serverAfterClientInfo [("a", "b")] true)]) := by
    rw [InfoPacket.decode_header,
      InfoPacket.decodeExtensions_encodeEntries hfits]
    rfl
  let session : Handshake (Multiplexor AnyProtocolExtension) :=
    Multiplexor.newServer 128 (some (.new [builder])) >>= fun mux =>
      Handshake.lift (mux.withRequiredExtensions (.ok ()) [0x02])
  let mux : Multiplexor AnyProtocolExtension :=
    ⟨false, [extension], .new (.server .unbounded)
      (flowStreamTypes [extension]) 128, none⟩
  have hended : session.Ends loggedIn.inputs (.ok mux) := by
    simp only [session, Multiplexor.newServer, Multiplexor.create,
      ServerImpl.handshake, WispV2Handshake.new, ServerImpl.answer,
      sendInfoPacket, Handshake.bind_assoc, Handshake.pure_bind]
    refine Handshake.ends_lift_bind.mpr
      ⟨[.password (.serverBeforeClientInfo true)], rfl, ?_⟩
    refine Handshake.ends_lift_bind.mpr ⟨_, rfl, ?_⟩
    refine Handshake.ends_send_bind.mpr ?_
    refine Handshake.ends_lift_bind.mpr ⟨[builder], rfl, ?_⟩
    refine Handshake.ends_nextErroring_bind.mpr ⟨_, [], rfl, ?_⟩
    refine Handshake.ends_lift_bind.mpr ⟨_, hdecoded, ?_⟩
    simp only [handleHandshake_eq, Handshake.bind_assoc, Handshake.pure_bind]
    exact Handshake.ends_send_bind.mpr (Session.Ends.ret _)
  have hroute : wsUpgrade passwordConfig loggedIn.request =
      some (.wisp true false) := by
    decide
  have hsession : handleWisp noKeys (fun _ => .ok ()) false passwordConfig
      true = some session := rfl
  have hreaches : Reaches noKeys resolveAddress (fun _ => .ok ())
      (gateConfig passwordConfig) loggedIn (.connect toAddress) :=
    .wisp hroute hsession hended List.mem_cons_self rfl rfl
  rcases authenticated_of_reaches (.inl ⟨rfl, rfl⟩) rfl hreaches with
    hauthenticated | ⟨-, hpath⟩
  · exact hauthenticated
  · have hends : endsWithPrefix passwordConfig loggedIn.request.path =
        true := by
      decide
    change endsWithPrefix passwordConfig loggedIn.request.path = false at hpath
    rw [hends] at hpath
    cases hpath

def wsproxyClient : ClientConnection :=
  ⟨⟨true, "/93.184.215.14:80", none, false⟩, [], []⟩

def silentClient : ClientConnection :=
  ⟨⟨true, "/", none, true⟩, [], [⟨1, .connect toAddress⟩]⟩

/-- A required password guards neither the wsproxy nor a server without v2. -/
theorem unauthenticated_upstreams :
    (passwordConfig.RequiresAuth ∧
      Reaches noKeys resolveAddress (fun _ => .ok ())
        (gateConfig passwordConfig) wsproxyClient (.connect toAddress) ∧
      ¬ Authenticated noKeys passwordConfig wsproxyClient) ∧
    ({ passwordConfig with wispV2 := false }.RequiresAuth ∧
      Reaches noKeys resolveAddress (fun _ => .ok ())
        (gateConfig { passwordConfig with wispV2 := false }) silentClient
        (.connect toAddress) ∧
      ¬ Authenticated noKeys { passwordConfig with wispV2 := false }
        silentClient) := by
  refine ⟨⟨.inl ⟨rfl, rfl⟩, ?_, ?_⟩, .inl ⟨rfl, rfl⟩, ?_, ?_⟩
  · have hroute : wsUpgrade passwordConfig wsproxyClient.request =
        some (.wsProxy "/93.184.215.14:80" false) := by
      decide
    have hconnect : wsproxyConnect (gateConfig passwordConfig).stream
        "/93.184.215.14:80" false = some toAddress := by
      decide
    exact .wsproxy hroute hconnect rfl
  · rintro ⟨builder, required, message, body, payload, extension, -, hinputs, -⟩
    cases hinputs
  · let session : Handshake (Multiplexor AnyProtocolExtension) :=
      Multiplexor.newServer 128 (none : Option (WispV2Handshake PlainBuilder))
        >>= fun mux => Handshake.lift (mux.withRequiredExtensions (.ok ()) [])
    let mux : Multiplexor AnyProtocolExtension :=
      ⟨false, [.udp], .new (.server .unbounded)
        (flowStreamTypes ([.udp] : List AnyProtocolExtension)) 128, none⟩
    have hended : session.Ends [] (.ok mux) := by
      simp only [session, Multiplexor.newServer, Multiplexor.create,
        ServerImpl.handshake, Handshake.bind_assoc, Handshake.pure_bind]
      exact Handshake.ends_send_bind.mpr (Session.Ends.ret _)
    have hroute : wsUpgrade { passwordConfig with wispV2 := false }
        silentClient.request = some (.wisp true false) := by
      decide
    have hsession : handleWisp noKeys (fun _ => .ok ()) false
        { passwordConfig with wispV2 := false } true = some session := rfl
    exact .wisp hroute hsession hended List.mem_cons_self rfl rfl
  · rintro ⟨builder, required, message, body, payload, extension, -, hinputs, -⟩
    cases hinputs

end Epoxy.Server
