/-
Which pairings of versions complete.  A v1 server completes with every
client, and two v2 sides complete whenever their exchange does; a v2 server
never completes with a v1 client, which waits for a CONTINUE and is sent an
INFO packet.
-/
import Epoxy.HandshakeAgreement

namespace Epoxy

open ActionMachine ByteCursor SessionNetwork
open ProtocolExtensionBuilder (buildFromBytes buildToExtension)

section Completion

variable {E B : Type} [ProtocolExtension E] [ProtocolExtensionBuilder B E]

/-- A handshake that is not done, or is done with a result of this kind. -/
def NotFailed (v2 : Bool) (side : Handshake (WispHandshakeResult E)) : Prop :=
  ∀ outcome, side = .ret outcome →
    ∃ result, outcome = .ok result ∧ result.kind.isV2 = v2

/-- Both handshakes are done. -/
def BothEnded (net : HandshakeNetwork E) : Prop :=
  (∃ outcome, net.left = .ret outcome) ∧ ∃ outcome, net.right = .ret outcome

/-- Whatever the schedule, no side fails, nobody waits forever, the schedule
is bounded, and v2 is the outcome exactly where both sides asked for it. -/
structure Completes (bufferSize : UInt32) (server client : Option (List B)) :
    Prop where
  notFailed : ∀ net : HandshakeNetwork E,
    (Network.machine reliable).Reachable
      (connection bufferSize server client) net →
    NotFailed (server.isSome && client.isSome) net.left ∧
      NotFailed (server.isSome && client.isSome) net.right
  noDeadlock : ∀ net : HandshakeNetwork E,
    (Network.machine reliable).Reachable
      (connection bufferSize server client) net →
    (Network.machine reliable).Terminal net → BothEnded net
  bounded : ∃ n, ∀ schedule (net : HandshakeNetwork E),
    (Network.machine reliable).run
      (connection bufferSize server client) schedule = some net →
    schedule.length ≤ n

/-- The exchange that the pairing needs succeeds; a v2 server has none with a
v1 client. -/
def ExchangeSucceeds : Option (List B) → Option (List B) → Prop
  | none, _ => True
  | some _, none => False
  | some server, some client =>
      ∃ supported, exchange server client = .ok supported

/-- One run to a good end decides all schedules. -/
theorem Completes.of_run {bufferSize : UInt32}
    {server client : Option (List B)} {schedule : List Side}
    {serverKind clientKind : WispHandshakeResultKind E} {downgraded : Bool}
    (hrun : (Network.machine reliable).run
        (connection bufferSize server client) schedule =
      some (agreed bufferSize serverKind clientKind downgraded))
    (hserver : serverKind.isV2 = (server.isSome && client.isSome))
    (hclient : clientKind.isV2 = (server.isSome && client.isSome)) :
    Completes bufferSize server client where
  notFailed net hreach := by
    have hleads : Network.Leads reliable net
        (agreed bufferSize serverKind clientKind downgraded) :=
      Network.diamond.reachable_end (terminal_agreed bufferSize serverKind
        clientKind downgraded) ⟨schedule, hrun⟩ hreach
    constructor
    · intro outcome hleft
      have hresult := hleads.left hleft
      cases hresult
      exact ⟨_, rfl, hserver⟩
    · intro outcome hright
      have hresult := hleads.right hright
      cases hresult
      exact ⟨_, rfl, hclient⟩
  noDeadlock net hreach hend := by
    obtain rfl := Network.diamond.eq_of_terminal
      (terminal_agreed bufferSize serverKind clientKind downgraded) hend
      ⟨schedule, hrun⟩ hreach
    exact ⟨⟨_, rfl⟩, ⟨_, rfl⟩⟩
  bounded := by
    refine ⟨schedule.length, fun other net hother => ?_⟩
    obtain ⟨rest, -, hlength⟩ := Network.diamond.complete
      (terminal_agreed bufferSize serverKind clientKind downgraded) hrun hother
    omega

theorem Completes.exists_end {bufferSize : UInt32}
    {server client : Option (List B)}
    (hcompletes : Completes bufferSize server client) :
    ∃ (net : HandshakeNetwork E) (serverResult clientResult :
        WispHandshakeResult E),
      Network.Leads reliable (connection bufferSize server client) net ∧
      (Network.machine reliable).Terminal net ∧
      net.left = .ret (.ok serverResult) ∧
      net.right = .ret (.ok clientResult) := by
  obtain ⟨n, hbound⟩ := hcompletes.bounded
  obtain ⟨net, hreach, hend⟩ :=
    (Network.machine reliable).exists_terminal_of_bounded hbound
  obtain ⟨⟨left, hleft⟩, ⟨right, hright⟩⟩ :=
    hcompletes.noDeadlock net hreach hend
  obtain ⟨hserver, hclient⟩ := hcompletes.notFailed net hreach
  obtain ⟨serverResult, rfl, -⟩ := hserver left hleft
  obtain ⟨clientResult, rfl, -⟩ := hclient right hright
  exact ⟨net, serverResult, clientResult, hreach, hend, hleft, hright⟩

theorem completes_iff_exchangeSucceeds {bufferSize : UInt32}
    {server client : Option (List B)} :
    Completes bufferSize server client ↔ ExchangeSucceeds server client := by
  constructor
  · intro hcompletes
    obtain ⟨net, serverResult, clientResult, hleads, hend, hserver,
      hclient⟩ := hcompletes.exists_end
    cases server with
    | none => trivial
    | some server =>
        cases client with
        | none =>
            rw [not_ended_of_v1_client hleads hend hserver] at hclient
            cases hclient
        | some client => exact exchange_of_leads hleads hend hserver hclient
  · intro hexchange
    cases server with
    | none => exact .of_run (run_of_v1_server bufferSize client) rfl rfl
    | some server =>
        cases client with
        | none => exact hexchange.elim
        | some client =>
            obtain ⟨supported, hexchange⟩ := hexchange
            exact .of_run (run_of_exchange hexchange bufferSize) rfl rfl

/-- The extensions have encodings, and their payloads fit their lengths. -/
def Encodable (extensions : List E) : Prop :=
  ∃ entries, InfoPacket.wireEntries extensions = .ok entries ∧
    ∀ entry ∈ entries, InfoPacket.FitsLength entry.2

/-- The builds that two v2 sides call succeed: the server builds what it
offers, the client builds from that and then its answer, and the server
builds from the answer. -/
def BuildsSucceed : Option (List B) → Option (List B) → Prop
  | some server, some client =>
      ∃ offers, (buildToExtensions .server server).2 = .ok offers ∧
        ∀ offered, InfoPacket.wireEntries offers = .ok offered →
      ∃ received, InfoPacket.buildEntries .client client offered =
          .ok received ∧
      ∃ answers, (buildToExtensions .client received.1).2 = .ok answers ∧
        ∀ answered, InfoPacket.wireEntries answers = .ok answered →
      ∃ accepted, InfoPacket.buildEntries .server
          (buildToExtensions .server server).1 answered = .ok accepted
  | _, _ => True

/-- What two v2 sides send can be encoded. -/
def OffersEncodable : Option (List B) → Option (List B) → Prop
  | some server, some client =>
      ∀ offers, (buildToExtensions .server server).2 = .ok offers →
        Encodable offers ∧
        ∀ offered, InfoPacket.wireEntries offers = .ok offered →
        ∀ received, InfoPacket.buildEntries .client client offered =
          .ok received →
        ∀ answers, (buildToExtensions .client received.1).2 = .ok answers →
          Encodable answers
  | _, _ => True

theorem exchange_of_builds {server client : List B}
    (hbuilds : BuildsSucceed (some server) (some client))
    (hencodable : OffersEncodable (some server) (some client)) :
    ∃ supported, exchange server client = .ok supported := by
  obtain ⟨offers, hoffers, hclient⟩ := hbuilds
  obtain ⟨⟨offered, hoffered, hfitOffered⟩, hanswer⟩ :=
    hencodable offers hoffers
  obtain ⟨received, hreceived, answers, hanswers, hserver⟩ :=
    hclient offered hoffered
  obtain ⟨answered, hanswered, hfitAnswered⟩ :=
    hanswer offered hoffered received hreceived answers hanswers
  obtain ⟨accepted, haccepted⟩ := hserver answered hanswered
  have hsentOffer : sentEntries .server server = .ok offered := by
    rw [sentEntries, hoffers]
    exact hoffered
  have hsentAnswer : sentEntries .client received.1 = .ok answered := by
    rw [sentEntries, hanswers]
    exact hanswered
  rw [← InfoPacket.decodeExtensions_encodeEntries hfitOffered] at hreceived
  rw [← InfoPacket.decodeExtensions_encodeEntries hfitAnswered] at haccepted
  refine ⟨(getSupportedExtensions accepted.2 accepted.1,
    getSupportedExtensions received.2
      (buildToExtensions .client received.1).1), ?_⟩
  simp only [exchange, hsentOffer, hreceived, hsentAnswer, haccepted,
    Outcome.bind_ok]

/-- Where the builds succeed, a pairing completes when what is sent can be
encoded and the server is not v2 with a v1 client; and that pairing never
completes. -/
theorem completes_of_not_mixed {bufferSize : UInt32}
    {server client : Option (List B)} (hbuilds : BuildsSucceed server client) :
    (OffersEncodable server client → (server.isSome → client.isSome) →
      Completes bufferSize server client) ∧
    (Completes bufferSize server client →
      (server.isSome → client.isSome)) := by
  constructor
  · intro hencodable hversions
    rw [completes_iff_exchangeSucceeds]
    cases server with
    | none => trivial
    | some server =>
        cases client with
        | none => simp at hversions
        | some client => exact exchange_of_builds hbuilds hencodable
  · intro hcompletes hserver
    rw [completes_iff_exchangeSucceeds] at hcompletes
    cases server with
    | none => cases hserver
    | some server =>
        cases client with
        | none => exact hcompletes.elim
        | some client => rfl

end Completion

theorem completes_of_udp :
    Completes 128 (some ([.udp] : List PlainBuilder)) (some [.udp]) := by
  have hbuilds : BuildsSucceed (some ([.udp] : List PlainBuilder))
      (some [.udp]) := by
    refine ⟨[.udp], rfl, fun offered hoffered => ?_⟩
    cases hoffered
    refine ⟨([.udp], [.udp]), rfl, [.udp], rfl, fun answered hanswered => ?_⟩
    cases hanswered
    exact ⟨([.udp], [.udp]), rfl⟩
  have hencodable : OffersEncodable (some ([.udp] : List PlainBuilder))
      (some [.udp]) := by
    intro offers hoffers
    cases hoffers
    have hudp : Encodable ([.udp] : List AnyProtocolExtension) :=
      ⟨[(0x01, [])], rfl, by simp [InfoPacket.FitsLength]⟩
    refine ⟨hudp, fun offered hoffered received hreceived answers hanswers => ?_⟩
    cases hoffered
    cases hreceived
    cases hanswers
    exact hudp
  exact (completes_of_not_mixed hbuilds).1 hencodable fun _ => rfl

/-- A v2 server without extensions and a v1 client: the client fails on the
server's first message. -/
theorem v1_client_fails :
    BuildsSucceed (some ([] : List PlainBuilder)) none ∧
    ∃ net, (Network.machine reliable).run
        (connection 128 (some ([] : List PlainBuilder)) none)
        [.left, .right] = some net ∧
      net.right = .ret (.err (.invalidPacketType 0x05)) ∧
      ¬Completes 128 (some ([] : List PlainBuilder)) none := by
  refine ⟨trivial, _, rfl, rfl, fun hcompletes => ?_⟩
  obtain ⟨result, hresult, -⟩ := (hcompletes.notFailed _
    ⟨[.left, .right], rfl⟩).2 (.err (.invalidPacketType 0x05)) rfl
  cases hresult

end Epoxy
