/-
What two successful handshakes agree on.  Each side filters the other's
extensions by the ids of its own builders, so that both arrive at the ids they
have in common, as long as no payload of the INFO packets outgrows its 32-bit
length.
-/
import Epoxy.ExtensionBuilders
import Epoxy.HandshakeRuns

namespace Epoxy

open ActionMachine ByteCursor SessionNetwork
open ProtocolExtensionBuilder (buildFromBytes buildToExtension)

/-- The id of an extension decides its stream types. -/
class LawfulExtensions (E : Type) [ProtocolExtension E] : Prop where
  congestion_of_getId {extension other : E} :
    ProtocolExtension.getId extension = ProtocolExtension.getId other →
      ProtocolExtension.getCongestionStreamTypes extension =
        ProtocolExtension.getCongestionStreamTypes other

/-- Every builder builds extensions with its own id and does not change this
id. -/
class LawfulBuilders (B : Type) (E : outParam Type) [ProtocolExtension E]
    [ProtocolExtensionBuilder B E] : Prop where
  getId_buildFromBytes (builder : B) (payload : Bytes) (role : Role) :
    ProtocolExtensionBuilder.getId (buildFromBytes builder payload role).1 =
      ProtocolExtensionBuilder.getId builder
  getId_buildToExtension (builder : B) (role : Role) :
    ProtocolExtensionBuilder.getId (buildToExtension builder role).1 =
      ProtocolExtensionBuilder.getId builder
  getId_of_buildFromBytes {builder : B} {payload : Bytes} {role : Role}
    {extension : E} :
    (buildFromBytes builder payload role).2 = .ok extension →
      ProtocolExtension.getId extension =
        ProtocolExtensionBuilder.getId builder
  getId_of_buildToExtension {builder : B} {role : Role} {extension : E} :
    (buildToExtension builder role).2 = .ok extension →
      ProtocolExtension.getId extension =
        ProtocolExtensionBuilder.getId builder

instance : LawfulExtensions AnyProtocolExtension where
  congestion_of_getId {extension other} hid := by
    cases extension <;> cases other <;> first | rfl | cases hid

namespace AnyProtocolExtensionBuilder

variable {σ : Type} [CertCrates σ]

theorem map_eq_ok {α β : Type} {f : α → β} {x : Outcome WispError α}
    {value : β} (h : x.map f = .ok value) : ∃ a, f a = value := by
  cases x with
  | ok a => exact ⟨a, Outcome.ok.inj h⟩
  | err error => cases h
  | panic => cases h

instance : LawfulBuilders (AnyProtocolExtensionBuilder σ)
    AnyProtocolExtension where
  getId_buildFromBytes builder payload role := by
    cases builder <;> rfl
  getId_buildToExtension builder role := by
    cases builder <;> rfl
  getId_of_buildFromBytes {builder payload role extension} hbuilt := by
    cases builder with
    | udp =>
        cases hbuilt
        rfl
    | twisp =>
        cases hbuilt
        rfl
    | motd inner =>
        obtain ⟨built, rfl⟩ := map_eq_ok hbuilt
        rfl
    | password inner =>
        obtain ⟨built, rfl⟩ := map_eq_ok hbuilt
        rfl
    | certAuth inner =>
        obtain ⟨built, rfl⟩ := map_eq_ok hbuilt
        rfl
    | wispnet id =>
        obtain ⟨built, rfl⟩ := map_eq_ok hbuilt
        rfl
  getId_of_buildToExtension {builder role extension} hbuilt := by
    cases builder with
    | udp =>
        cases hbuilt
        rfl
    | twisp =>
        cases hbuilt
        rfl
    | motd inner =>
        cases hbuilt
        rfl
    | wispnet id =>
        cases hbuilt
        rfl
    | password inner =>
        obtain ⟨built, rfl⟩ := map_eq_ok hbuilt
        rfl
    | certAuth inner =>
        obtain ⟨built, rfl⟩ := map_eq_ok hbuilt
        rfl

end AnyProtocolExtensionBuilder

instance : HasUdp AnyProtocolExtension := ⟨.udp, rfl⟩

/-- Every payload that a side puts in its INFO packet is shorter than 2^32
bytes; the client answers in the state in which the server's payloads left
its builders. -/
def OffersFit {E B : Type} [ProtocolExtension E]
    [ProtocolExtensionBuilder B E] : Option (List B) → Option (List B) → Prop
  | some server, some client =>
      ∀ offered, sentEntries .server server = .ok offered →
        (∀ entry ∈ offered, InfoPacket.FitsLength entry.2) ∧
        ∀ received, InfoPacket.buildEntries .client client offered =
            .ok received →
          ∀ answered, sentEntries .client received.1 = .ok answered →
            ∀ entry ∈ answered, InfoPacket.FitsLength entry.2
  | _, _ => True

section Ids

variable {E B : Type} [ProtocolExtension E] [ProtocolExtensionBuilder B E]

theorem mem_getSupportedExtensions {extensions : List E} {builders : List B}
    {id : UInt8} :
    id ∈ extensionIds (getSupportedExtensions extensions builders) ↔
      id ∈ extensionIds extensions ∧ id ∈ builderIds builders := by
  simp only [extensionIds, getSupportedExtensions, List.mem_map,
    List.mem_filter, List.contains_iff_mem]
  constructor
  · rintro ⟨extension, ⟨hmem, hid⟩, rfl⟩
    exact ⟨⟨extension, hmem, rfl⟩, hid⟩
  · rintro ⟨⟨extension, hmem, rfl⟩, hid⟩
    exact ⟨extension, ⟨hmem, hid⟩, rfl⟩

variable [LawfulBuilders B E]

theorem ids_of_buildToExtensions (role : Role) (builders : List B) :
    builderIds (buildToExtensions role builders).1 = builderIds builders ∧
      ∀ extensions, (buildToExtensions role builders).2 = .ok extensions →
        extensionIds extensions = builderIds builders := by
  induction builders with
  | nil =>
      refine ⟨rfl, fun extensions hbuilt => ?_⟩
      cases hbuilt
      rfl
  | cons builder rest ih =>
      have hid := LawfulBuilders.getId_buildToExtension builder role
      cases hbuilt : buildToExtension builder role with
      | mk left built =>
          rw [hbuilt] at hid
          simp only [builderIds] at ih
          cases built with
          | ok extension =>
              have hextension : ProtocolExtension.getId extension =
                  ProtocolExtensionBuilder.getId builder :=
                LawfulBuilders.getId_of_buildToExtension (by rw [hbuilt])
              simp only [buildToExtensions, hbuilt, builderIds, List.map_cons,
                hid, ih.1, true_and]
              intro extensions hextensions
              cases hrest : (buildToExtensions role rest).2 with
              | ok others =>
                  rw [hrest] at hextensions
                  cases hextensions
                  simp only [extensionIds, List.map_cons, hextension,
                    List.cons.injEq, true_and]
                  exact ih.2 others hrest
              | err error =>
                  rw [hrest] at hextensions
                  cases hextensions
              | panic =>
                  rw [hrest] at hextensions
                  cases hextensions
          | err error => simp [buildToExtensions, hbuilt, builderIds, hid]
          | panic => simp [buildToExtensions, hbuilt, builderIds, hid]

theorem ids_of_sentEntries {role : Role} {builders : List B}
    {sent : List (UInt8 × Bytes)}
    (hsent : sentEntries role builders = .ok sent) :
    sent.map Prod.fst = builderIds builders := by
  obtain ⟨extensions, hbuilt, hwire⟩ := Outcome.bind_eq_ok.mp hsent
  rw [InfoPacket.ids_of_wireEntries hwire]
  exact (ids_of_buildToExtensions role builders).2 extensions hbuilt

theorem builderIds_replace {id : UInt8} {builders before after : List B}
    {builder : B} (hfind : findBuilder id builders =
      some (before, builder, after)) (payload : Bytes) (role : Role) :
    builderIds (before ++ (buildFromBytes builder payload role).1 :: after) =
      builderIds builders := by
  rw [(findBuilder_eq_some hfind).1]
  simp only [builderIds, List.map_append, List.map_cons,
    LawfulBuilders.getId_buildFromBytes]

theorem ids_of_buildEntries {role : Role} {builders left : List B}
    {entries : List (UInt8 × Bytes)} {extensions : List E}
    (h : InfoPacket.buildEntries role builders entries =
      .ok (left, extensions)) :
    builderIds left = builderIds builders ∧
      extensionIds extensions =
        (entries.map Prod.fst).filter (builderIds builders).contains := by
  induction entries generalizing builders extensions with
  | nil =>
      cases h
      exact ⟨rfl, rfl⟩
  | cons entry rest ih =>
      obtain ⟨id, payload⟩ := entry
      rw [InfoPacket.buildEntries] at h
      cases hfind : findBuilder id builders with
      | none =>
          rw [hfind] at h
          have hmiss : (builderIds builders).contains id = false := by
            simpa [builderIds] using InfoPacket.findBuilder_eq_none hfind
          simp only [List.map_cons, List.filter_cons, hmiss,
            Bool.false_eq_true, if_false]
          exact ih h
      | some found =>
          obtain ⟨before, builder, after⟩ := found
          have hids := builderIds_replace hfind payload role
          obtain ⟨hsplit, hid⟩ := findBuilder_eq_some hfind
          have hhit : (builderIds builders).contains id = true := by
            simp [builderIds, hsplit, hid]
          rw [hfind] at h
          simp only [Outcome.bind_eq_ok] at h
          obtain ⟨extension, hbuilt, next, hnext, hpair⟩ := h
          cases hpair
          obtain ⟨hleft, hextensions⟩ := ih hnext
          rw [hids] at hleft hextensions
          refine ⟨hleft, ?_⟩
          simp only [List.map_cons, List.filter_cons, hhit, if_true,
            ← hextensions, extensionIds, List.cons.injEq, and_true]
          exact (LawfulBuilders.getId_of_buildFromBytes hbuilt).trans hid

/-- Both sides of an exchange end up with the ids they have in common. -/
theorem ids_of_exchange {server client : List B}
    {supported : List E × List E}
    (hexchange : exchange server client = .ok supported)
    (hfit : OffersFit (some server) (some client)) (id : UInt8) :
    (id ∈ extensionIds supported.1 ↔
      id ∈ builderIds server ∧ id ∈ builderIds client) ∧
    (id ∈ extensionIds supported.2 ↔
      id ∈ builderIds server ∧ id ∈ builderIds client) := by
  simp only [exchange, Outcome.bind_eq_ok] at hexchange
  obtain ⟨offered, hoffered, ⟨client', received⟩, hreceived, answered,
    hanswered, ⟨server', accepted⟩, haccepted, hsupported⟩ := hexchange
  obtain rfl := Outcome.ok.inj hsupported
  obtain ⟨hfitOffered, hfitRest⟩ := hfit offered hoffered
  rw [InfoPacket.decodeExtensions_encodeEntries hfitOffered] at hreceived
  have hfitAnswered := hfitRest _ hreceived answered hanswered
  rw [InfoPacket.decodeExtensions_encodeEntries hfitAnswered] at haccepted
  obtain ⟨hclient, hreceivedIds⟩ := ids_of_buildEntries hreceived
  obtain ⟨hserver, hacceptedIds⟩ := ids_of_buildEntries haccepted
  have hserver₀ := (ids_of_buildToExtensions .server server).1
  have hclient₀ := (ids_of_buildToExtensions .client client').1
  rw [ids_of_sentEntries hoffered] at hreceivedIds
  rw [ids_of_sentEntries hanswered, hserver₀, hclient] at hacceptedIds
  constructor
  · rw [mem_getSupportedExtensions, hserver, hserver₀, hacceptedIds,
      List.mem_filter, List.contains_iff_mem]
    tauto
  · rw [mem_getSupportedExtensions, hclient₀, hclient, hreceivedIds,
      List.mem_filter, List.contains_iff_mem]
    tauto

end Ids

def WispHandshakeResultKind.isV2 {E : Type} :
    WispHandshakeResultKind E → Bool
  | .v2 _ => true
  | .v1 _ => false

/-- What a server and a client that are both done with their handshakes have
in common. -/
structure Agreement {E : Type} [ProtocolExtension E] [HasUdp E]
    (net : HandshakeNetwork E) (server client : WispHandshakeResult E) :
    Prop where
  version : server.kind.isV2 = client.kind.isV2
  bufferSize : server.bufferSize = client.bufferSize
  extensions : ∀ id, id ∈ extensionIds server.kind.intoParts.1 ↔
    id ∈ extensionIds client.kind.intoParts.1
  consumed : net.toLeft = [] ∧ net.toRight = []
  flowControl : ∀ ty, ClientActor.getFlowControl ty
      (flowStreamTypes client.kind.intoParts.1) = .enabledTrackAmount ↔
    ServerActor.getFlowControl ty
      (flowStreamTypes server.kind.intoParts.1) = .enabledSendMessages

section Agreement

variable {E B : Type} [ProtocolExtension E] [LawfulExtensions E]

theorem mem_flowStreamTypes_of_ids {extensions others : List E}
    (hids : ∀ id, id ∈ extensionIds extensions → id ∈ extensionIds others)
    {ty : UInt8} (hty : ty ∈ flowStreamTypes extensions) :
    ty ∈ flowStreamTypes others := by
  simp only [flowStreamTypes, List.mem_append, List.mem_flatMap] at hty ⊢
  rcases hty with ⟨extension, hmem, hcongestion⟩ | htcp
  · have hid : ProtocolExtension.getId extension ∈ extensionIds others :=
      hids _ (List.mem_map_of_mem hmem)
    obtain ⟨other, hother, hsame⟩ := List.mem_map.mp hid
    rw [← LawfulExtensions.congestion_of_getId hsame] at hcongestion
    exact .inl ⟨other, hother, hcongestion⟩
  · exact .inr htcp

omit [ProtocolExtension E] [LawfulExtensions E] in
theorem getFlowControl_iff (ty : StreamType) (client server : List UInt8)
    (hsame : ty.toU8 ∈ client ↔ ty.toU8 ∈ server) :
    ClientActor.getFlowControl ty client = .enabledTrackAmount ↔
      ServerActor.getFlowControl ty server = .enabledSendMessages := by
  simp [ClientActor.getFlowControl, ServerActor.getFlowControl, hsame]

variable [HasUdp E] [ProtocolExtensionBuilder B E]

/-- Equal ids give the same flow control on both sides. -/
theorem Agreement.of_ids {bufferSize : UInt32}
    {server client : WispHandshakeResultKind E} {downgraded : Bool}
    (hversion : server.isV2 = client.isV2)
    (hids : ∀ id, id ∈ extensionIds server.intoParts.1 ↔
      id ∈ extensionIds client.intoParts.1) :
    Agreement (agreed bufferSize server client downgraded)
      ⟨server, false, bufferSize⟩ ⟨client, downgraded, bufferSize⟩ where
  version := hversion
  bufferSize := rfl
  extensions := hids
  consumed := ⟨rfl, rfl⟩
  flowControl ty := getFlowControl_iff ty _ _
    ⟨mem_flowStreamTypes_of_ids fun id => (hids id).mpr,
      mem_flowStreamTypes_of_ids fun id => (hids id).mp⟩

variable [LawfulBuilders B E]

/-- Whatever the versions, the builders and the schedule: when both handshakes
have succeeded, the two sides agree. -/
theorem agreement_of_ended {bufferSize : UInt32}
    {server client : Option (List B)} (hfit : OffersFit server client)
    {net : HandshakeNetwork E} {serverResult clientResult}
    (hreach : (Network.machine reliable).Reachable
      (connection bufferSize server client) net)
    (hserver : net.left = .ret (.ok serverResult))
    (hclient : net.right = .ret (.ok clientResult)) :
    Agreement net serverResult clientResult := by
  have hend : (Network.machine reliable).Terminal net := by
    rcases net with ⟨left, right, toLeft, toRight⟩
    obtain rfl : left = _ := hserver
    obtain rfl : right = _ := hclient
    exact Network.terminal_of_ret
  cases server with
  | none =>
      obtain rfl := Network.diamond.eq_of_terminal
        (terminal_agreed bufferSize (.v1 none) (.v1 none) client.isSome) hend
        ⟨_, run_of_v1_server bufferSize client⟩ hreach
      cases hserver
      cases hclient
      exact Agreement.of_ids rfl fun id => Iff.rfl
  | some server =>
      cases client with
      | none =>
          rw [not_ended_of_v1_client hreach hend hserver] at hclient
          cases hclient
      | some client =>
          obtain ⟨supported, hexchange⟩ :=
            exchange_of_leads hreach hend hserver hclient
          obtain rfl := Network.diamond.eq_of_terminal
            (terminal_agreed bufferSize (.v2 supported.1) (.v2 supported.2)
              false) hend ⟨_, run_of_exchange hexchange bufferSize⟩ hreach
          cases hserver
          cases hclient
          refine Agreement.of_ids rfl fun id => ?_
          have hids := ids_of_exchange hexchange hfit id
          exact hids.1.trans hids.2.symm

end Agreement

section Oversized

/-- The repository's builders, without certificates. -/
abbrev PlainBuilder : Type := AnyProtocolExtensionBuilder Empty

theorem exchange_udp :
    exchange ([.udp] : List PlainBuilder) [.udp] = .ok ([.udp], [.udp]) := by
  have hdecode : ∀ role, InfoPacket.decodeExtensions role
      ([.udp] : List PlainBuilder) (InfoPacket.encodeEntries [(0x01, [])]) =
        .ok ([.udp], [.udp]) := by
    intro role
    rw [InfoPacket.decodeExtensions_encodeEntries (by
      simp [InfoPacket.FitsLength])]
    rfl
  have hsent : ∀ role, sentEntries role ([.udp] : List PlainBuilder) =
      .ok [(0x01, [])] := fun _ => rfl
  have hleft : ∀ role, (buildToExtensions role
      ([.udp] : List PlainBuilder)).1 = [.udp] := fun _ => rfl
  simp only [exchange, hsent, hdecode, hleft, Outcome.bind_ok]
  rfl

theorem agreement_of_udp :
    Agreement (agreed 128 (.v2 [.udp]) (.v2 [.udp]) false)
      (⟨.v2 [.udp], false, 128⟩ : WispHandshakeResult AnyProtocolExtension)
      ⟨.v2 [.udp], false, 128⟩ := by
  have hfit : OffersFit (some [.udp] : Option (List PlainBuilder))
      (some [.udp]) := by
    intro offered hoffered
    cases hoffered
    refine ⟨by simp [InfoPacket.FitsLength], ?_⟩
    intro received hreceived answered hanswered
    cases hreceived
    cases hanswered
    simp [InfoPacket.FitsLength]
  exact agreement_of_ended hfit ⟨_, run_of_exchange exchange_udp 128⟩ rfl rfl

/-- A text that begins like the entry of the UDP extension and goes on with
zeros. -/
def entryMotd (zeros : Nat) : String :=
  String.ofList ('\x01' :: List.replicate zeros '\x00')

theorem asBytes_entryMotd (zeros : Nat) :
    asBytes (entryMotd zeros) = 0x01 :: List.replicate zeros 0x00 := by
  have hzeros : (List.replicate zeros '\x00').flatMap String.utf8EncodeChar =
      List.replicate zeros 0x00 := by
    induction zeros with
    | zero => rfl
    | succ n ih =>
        rw [List.replicate_succ, List.flatMap_cons, ih]
        rfl
  rw [asBytes, entryMotd, String.toUTF8_eq_toByteArray,
    String.toByteArray_ofList, List.utf8Encode, List.flatMap_cons, hzeros]
  simp
  rfl

/-- Zeros are empty entries of the id 0. -/
theorem decodeExtensions_zeros {builders : List PlainBuilder} (role : Role)
    (hnone : findBuilder 0x00 builders = none) (zeros : Nat) :
    InfoPacket.decodeExtensions role builders
      (List.replicate zeros 0x00) = .ok (builders, []) := by
  induction zeros using Nat.strong_induction_on with
  | _ zeros ih =>
      by_cases hlt : zeros < 5
      · exact InfoPacket.decodeExtensions_of_lt
          (by rwa [List.length_replicate])
      · obtain ⟨rest, rfl⟩ := Nat.exists_eq_add_of_le (Nat.le_of_not_lt hlt)
        rw [Nat.add_comm, InfoPacket.decodeExtensions_of_le (by simp)]
        have hnext : InfoPacket.nextEntry (List.replicate (rest + 5) 0x00) =
            some (0x00, [], List.replicate rest 0x00) := rfl
        rw [hnext]
        simp only [hnone]
        exact ih rest (by omega)

/-- A payload of 2^32 bytes has the length 0 on the wire, and the client goes
on with the entries inside of it. -/
theorem exchange_oversized {zeros : Nat}
    (hlength : UInt32.ofNat (zeros + 5) = 0) :
    exchange ([.motd (.server (entryMotd (zeros + 4)))] : List PlainBuilder)
      [.udp] = .ok ([], [.udp]) := by
  let server : List PlainBuilder := [.motd (.server (entryMotd (zeros + 4)))]
  have hoffered : sentEntries .server server =
      .ok [(0x04, asBytes (entryMotd (zeros + 4)))] := rfl
  have hwire : InfoPacket.encodeEntries
      [(0x04, asBytes (entryMotd (zeros + 4)))] =
        [0x04, 0, 0, 0, 0] ++ ([0x01, 0, 0, 0, 0] ++
          List.replicate zeros 0x00) := by
    have hlen : (asBytes (entryMotd (zeros + 4))).length = zeros + 5 := by
      simp [asBytes_entryMotd]
    simp only [InfoPacket.encodeEntries, InfoPacket.encodeEntry,
      List.flatMap_cons, List.flatMap_nil, hlen, hlength, List.append_nil]
    rw [asBytes_entryMotd]
    rfl
  have hreceived : InfoPacket.decodeExtensions .client
      ([.udp] : List PlainBuilder) (InfoPacket.encodeEntries
        [(0x04, asBytes (entryMotd (zeros + 4)))]) =
          .ok ([.udp], [.udp]) := by
    have hmotd : InfoPacket.nextEntry ([0x04, 0, 0, 0, 0] ++
        ([0x01, 0, 0, 0, 0] ++ List.replicate zeros 0x00)) =
          some (0x04, [], [0x01, 0, 0, 0, 0] ++
            List.replicate zeros 0x00) := rfl
    have hudp : InfoPacket.nextEntry ([0x01, 0, 0, 0, 0] ++
        List.replicate zeros 0x00) =
          some (0x01, [], List.replicate zeros 0x00) := rfl
    rw [hwire, InfoPacket.decodeExtensions_of_le (by simp), hmotd]
    have hskip : findBuilder 0x04 ([.udp] : List PlainBuilder) = none := rfl
    simp only [hskip]
    rw [InfoPacket.decodeExtensions_of_le (by simp), hudp]
    have hfound : findBuilder 0x01 ([.udp] : List PlainBuilder) =
        some ([], .udp, []) := rfl
    have hnone : findBuilder 0x00 ([.udp] : List PlainBuilder) = none := rfl
    have hzeros := decodeExtensions_zeros .client hnone zeros
    simp only [hfound]
    change (InfoPacket.decodeExtensions .client ([.udp] : List PlainBuilder)
      (List.replicate zeros 0x00) >>= _) = _
    rw [hzeros]
    rfl
  have hanswered : sentEntries .client ([.udp] : List PlainBuilder) =
      .ok [(0x01, [])] := rfl
  have haccepted : InfoPacket.decodeExtensions .server server
      (InfoPacket.encodeEntries [(0x01, [])]) = .ok (server, []) := by
    rw [InfoPacket.decodeExtensions_encodeEntries (by
      simp [InfoPacket.FitsLength])]
    rfl
  have hleft : (buildToExtensions .server server).1 = server := rfl
  change exchange server [.udp] = _
  simp only [exchange, hoffered, hreceived, hanswered, hleft, haccepted,
    Outcome.bind_ok]
  rfl

/-- A message of the day of 4 GiB that begins like a UDP entry: both sides
succeed, and only the client has the UDP extension. -/
theorem disagreement_of_oversized :
    ∃ net : HandshakeNetwork AnyProtocolExtension,
      (Network.machine reliable).Reachable
        (connection 128
          (some [.motd (.server (entryMotd (2 ^ 32 - 1)))])
          (some ([.udp] : List PlainBuilder))) net ∧
      net.left = .ret (.ok ⟨.v2 [], false, 128⟩) ∧
      net.right = .ret (.ok ⟨.v2 [.udp], false, 128⟩) ∧
      ¬Agreement net ⟨.v2 [], false, 128⟩ ⟨.v2 [.udp], false, 128⟩ := by
  have hlength : UInt32.ofNat (2 ^ 32 - 5 + 5) = 0 := by decide
  have hexchange := exchange_oversized hlength
  refine ⟨_, ⟨_, run_of_exchange hexchange 128⟩, rfl, rfl, fun hagree => ?_⟩
  have hudp := (hagree.extensions 0x01).mpr (by decide)
  simp [WispHandshakeResultKind.intoParts, extensionIds] at hudp

end Oversized

end Epoxy
