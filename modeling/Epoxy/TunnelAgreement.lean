/-
What the two sides of a tunnel agree on.  The server's application is offered
the streams that the client asked for, each once and in the order of asking,
with the flow control that the client's end expects; and no stream of the
client gets in the way of another one.
-/
import Epoxy.StreamIsolation
import Epoxy.TunnelStreams

namespace Epoxy

open ActionMachine ByteCursor KeyDirectory PollChannel

/-- The requests that have arrived at the server. -/
def Tunnel.requests (tunnel : Tunnel) : List (UInt32 × ConnectPacket) :=
  connects (tunnel.client.endpoint.sent.take tunnel.server.received)

/-- What a step of a tunnel is for its client. -/
inductive Tunnel.ClientSteps (tunnel next : Tunnel) : Prop where
  | idle (hclient : next.client.endpoint = tunnel.client.endpoint)
  | act (action : EndpointAction)
      (hraw : ∀ stream packetType data answer,
        action ≠ .send stream packetType data answer)
      (hpeer : ∀ id connect send,
        action ≠ .mux (.event (.wispMessage ⟨id, .connect connect⟩) send))
      (hstep : tunnel.client.endpoint.step action =
        some next.client.endpoint)

/-- What a step of a tunnel is for its server. -/
inductive Tunnel.ServerSteps (tunnel next : Tunnel) : Prop where
  | idle (hserver : next.server.endpoint = tunnel.server.endpoint)
      (hrequests : next.requests = tunnel.requests)
  | act (action : EndpointAction)
      (hraw : ∀ stream packetType data answer,
        action ≠ .send stream packetType data answer)
      (hadd : ∀ id, tunnel.server.endpoint.directoryMove action ≠ .add id)
      (hstep : tunnel.server.endpoint.step action =
        some next.server.endpoint)
      (hrequests : next.requests = tunnel.requests)
  | connect (id : UInt32) (connect : ConnectPacket) (send : SendAnswer)
      (hstep : tunnel.server.endpoint.step
        (.mux (.event (.wispMessage ⟨id, .connect connect⟩) send)) =
          some next.server.endpoint)
      (hrequests : next.requests = tunnel.requests ++ [(id, connect)])

namespace TunnelInv

variable {tunnel next : Tunnel} {action : TunnelAction}

theorem clientSteps (h : TunnelInv tunnel)
    (hstep : tunnel.step action = some next) : tunnel.ClientSteps next := by
  cases action with
  | act side action =>
      cases side with
      | client =>
          simp only [Tunnel.step] at hstep
          split at hstep
          · next hlocal =>
              obtain ⟨client, hact, rfl⟩ := Option.map_eq_some_iff.mp hstep
              exact .act action (not_send_of_isLocal hlocal)
                (fun id connect send =>
                  not_wispMessage_of_isLocal hlocal _ send)
                (Party.act_eq_some hact).1
          · cases hstep
      | server =>
          simp only [Tunnel.step] at hstep
          split at hstep
          · obtain ⟨server, hact, rfl⟩ := Option.map_eq_some_iff.mp hstep
            exact .idle rfl
          · cases hstep
  | receive side send =>
      cases side with
      | client =>
          obtain ⟨client, hreceive, rfl⟩ := Option.map_eq_some_iff.mp hstep
          obtain ⟨message, left, hmessage, hact, rfl⟩ :=
            Party.receive_eq_some hreceive
          have hinner := Party.arrival_cases message send
          generalize Party.arrival message send = inner at hinner hact
          refine .act (.mux inner) (fun _ _ _ _ heq => by cases heq)
            (fun id connect send' heq => ?_) (Party.act_eq_some hact).1
          rcases hinner with ⟨packet, hdecode, rfl⟩ | ⟨-, rfl⟩
          · obtain ⟨rfl, -⟩ : packet = ⟨id, .connect connect⟩ ∧
                send = send' := by simpa using heq
            exact h.not_connect_of_serverSent hmessage
              (by rw [Packet.connectOf, hdecode])
          · cases heq
      | server =>
          obtain ⟨server, hreceive, rfl⟩ := Option.map_eq_some_iff.mp hstep
          exact .idle rfl

/-- What the client sends later does not change what has arrived. -/
theorem requests_of_sent (h : TunnelInv tunnel)
    (hserver : next.server.received = tunnel.server.received)
    (hsent : tunnel.client.endpoint.sent <+: next.client.endpoint.sent) :
    next.requests = tunnel.requests := by
  rw [Tunnel.requests, Tunnel.requests, hserver,
    take_of_prefix hsent h.serverReceived]

theorem serverSteps (h : TunnelInv tunnel)
    (hstep : tunnel.step action = some next) : tunnel.ServerSteps next := by
  cases action with
  | act side action =>
      cases side with
      | client =>
          simp only [Tunnel.step] at hstep
          split at hstep
          · next hlocal =>
              obtain ⟨client, hact, rfl⟩ := Option.map_eq_some_iff.mp hstep
              exact .idle rfl (h.requests_of_sent rfl (sent_step
                (not_send_of_isLocal hlocal) (Party.act_eq_some hact).1))
          · cases hstep
      | server =>
          simp only [Tunnel.step] at hstep
          split at hstep
          · next hlocal =>
              obtain ⟨server, hact, rfl⟩ := Option.map_eq_some_iff.mp hstep
              obtain ⟨hserver, hreceived⟩ := Party.act_eq_some hact
              refine .act action (not_send_of_isLocal hlocal)
                (fun id hadd => ?_) hserver
                (h.requests_of_sent hreceived (List.prefix_refl _))
              rcases directoryMove_add hadd with
                ⟨connect, channel, send, rfl, -⟩ | ⟨connect, send, rfl⟩
              · cases hlocal
              · cases hlocal
          · cases hstep
  | receive side send =>
      cases side with
      | client =>
          obtain ⟨client, hreceive, rfl⟩ := Option.map_eq_some_iff.mp hstep
          obtain ⟨message, left, -, hact, rfl⟩ :=
            Party.receive_eq_some hreceive
          exact .idle rfl (h.requests_of_sent rfl (sent_step
            (fun _ _ _ _ heq => by cases heq) (Party.act_eq_some hact).1))
      | server =>
          obtain ⟨server, hreceive, rfl⟩ := Option.map_eq_some_iff.mp hstep
          obtain ⟨message, left, hmessage, hact, rfl⟩ :=
            Party.receive_eq_some hreceive
          have hinner := Party.arrival_cases message send
          generalize Party.arrival message send = inner at hinner hact
          obtain ⟨hserver, hreceived⟩ := Party.act_eq_some hact
          have hrequests : connects (tunnel.client.endpoint.sent.take
              (tunnel.server.received + 1)) =
                tunnel.requests ++ connects [message] := by
            rw [take_succ_of_getElem? hmessage, connects_append,
              Tunnel.requests]
          have hquiet : Packet.connectOf message = none →
              (∀ id, tunnel.server.endpoint.directoryMove (.mux inner) ≠
                .add id) →
              tunnel.ServerSteps { tunnel with
                server := { left with
                  received := tunnel.server.received + 1 } } := by
            intro hnone hadd
            refine .act (.mux inner) (fun _ _ _ _ heq => by cases heq) hadd
              hserver ?_
            change connects _ = _
            rw [hrequests, connects, List.filterMap_cons_none hnone]
            exact List.append_nil _
          rcases hinner with ⟨⟨id, packetType⟩, hdecode, rfl⟩ | ⟨hbad, rfl⟩
          · cases packetType with
            | connect connect =>
                refine .connect id connect send hserver ?_
                change connects _ = _
                rw [hrequests]
                simp [connects, Packet.connectOf, hdecode]
            | data data =>
                exact hquiet (by simp [Packet.connectOf, hdecode])
                  fun id hadd => by cases hadd
            | cont cont =>
                exact hquiet (by simp [Packet.connectOf, hdecode])
                  fun id hadd => by cases hadd
            | close close =>
                refine hquiet (by simp [Packet.connectOf, hdecode])
                  fun id hadd => ?_
                rcases directoryMove_add hadd with
                  ⟨_, _, _, heq, -⟩ | ⟨_, _, heq⟩
                · cases heq
                · cases heq
          · refine hquiet ?_ fun id hadd => by cases hadd
            unfold Packet.connectOf
            split
            · next hdecode => exact absurd hdecode (hbad _)
            · rfl

end TunnelInv

/-- What the sides agree on, in every state of every run. -/
structure AgreementInv (clientTypes serverTypes : List UInt8)
    (tunnel : Tunnel) : Prop where
  ends : TunnelInv tunnel
  asked : RequestInv tunnel.client.endpoint
  clientSettings :
    tunnel.client.endpoint.world.mux.flowStreamTypes = clientTypes
  serverSettings :
    tunnel.server.endpoint.world.mux.flowStreamTypes = serverTypes
  offered : ∃ streamTx,
    tunnel.server.endpoint.world.mux.actor = .server streamTx ∧
      streamTx.capacity = none ∧ streamTx.receiver = true ∧
      streamTx.accepted = (tunnel.requests.map (·.2)).zipIdx
  flow : ∀ (number : Nat) (id : UInt32) (connect : ConnectPacket) (t : Stream),
    tunnel.requests[number]? = some (id, connect) →
    tunnel.server.endpoint.world.mux.heap[number]? = some t →
    t.info.flowStatus =
      ServerActor.getFlowControl connect.streamType serverTypes

namespace AgreementInv

variable {clientTypes serverTypes : List UInt8} {tunnel next : Tunnel}
  {action : TunnelAction}

theorem init (clientTypes serverTypes : List UInt8)
    (clientBuffer serverBuffer : UInt32) :
    AgreementInv clientTypes serverTypes
      (.init clientTypes serverTypes clientBuffer serverBuffer) where
  ends := TunnelInv.init clientTypes serverTypes clientBuffer serverBuffer
  asked := RequestInv.init clientTypes clientBuffer
  clientSettings := rfl
  serverSettings := rfl
  offered := ⟨.unbounded, rfl, rfl, rfl, rfl⟩
  flow number id connect t hrequest := by cases hrequest

/-- The server has a stream for each request that arrived. -/
theorem length_requests (h : AgreementInv clientTypes serverTypes tunnel) :
    tunnel.requests.length = tunnel.server.endpoint.world.mux.heap.length := by
  rw [← Endpoint.length_ids, h.ends.serverIds, List.length_map]
  rfl

/-- The client's part of a step. -/
theorem client_step (h : AgreementInv clientTypes serverTypes tunnel)
    (hstep : tunnel.step action = some next) :
    RequestInv next.client.endpoint ∧
      next.client.endpoint.world.mux.flowStreamTypes = clientTypes := by
  cases h.ends.clientSteps hstep with
  | idle hclient =>
      rw [hclient]
      exact ⟨h.asked, h.clientSettings⟩
  | act action hraw hpeer hclient =>
      have hsettings := Endpoint.sameSettings_step hclient hpeer
      exact ⟨h.asked.step h.ends.clientIds hraw hpeer hclient,
        hsettings.flowStreamTypes.trans h.clientSettings⟩

theorem step (h : AgreementInv clientTypes serverTypes tunnel)
    (hstep : tunnel.step action = some next) :
    AgreementInv clientTypes serverTypes next := by
  obtain ⟨hasked, hclientTypes⟩ := h.client_step hstep
  obtain ⟨streamTx, hactor, hcapacity, hreceiver, haccepted⟩ := h.offered
  have hlength := h.length_requests
  cases h.ends.serverSteps hstep with
  | idle hserver hrequests =>
      refine ⟨h.ends.step hstep, hasked, hclientTypes, ?_, ?_, ?_⟩
      · rw [hserver]
        exact h.serverSettings
      · rw [hserver, hrequests]
        exact h.offered
      · rw [hserver, hrequests]
        exact h.flow
  | act action hraw hadd hserver hrequests =>
      have hsettings := Endpoint.sameSettings_step hserver
        fun id connect send heq => hadd id (by rw [heq]; rfl)
      refine ⟨h.ends.step hstep, hasked, hclientTypes, ?_, ?_, ?_⟩
      · rw [hsettings.flowStreamTypes]
        exact h.serverSettings
      · rw [hsettings.actor, hrequests]
        exact h.offered
      · intro number id connect t hrequest ht
        rw [hrequests] at hrequest
        have hlt := (List.getElem?_eq_some_iff.mp hrequest).1
        rw [hlength] at hlt
        obtain ⟨s, hs, hsame⟩ := Endpoint.flowStatus_step hserver ht hlt
        rw [hsame]
        exact h.flow number id connect s hrequest hs
  | connect id connect send hserver hrequests =>
      have hmux := Endpoint.mux_step_event hserver
      obtain ⟨hnextActor, hnextTypes⟩ := MuxInner.actor_connect hactor
        hcapacity hreceiver id connect send
      rw [← hmux] at hnextActor hnextTypes
      refine ⟨h.ends.step hstep, hasked, hclientTypes,
        hnextTypes.trans h.serverSettings, ⟨_, hnextActor, ?_, ?_, ?_⟩, ?_⟩
      · rw [Channel.capacity_trySend, hcapacity]
      · rw [Channel.receiver_trySend, hreceiver]
      · have hsent := Channel.trySend_of_unbounded hcapacity hreceiver
          (connect, tunnel.server.endpoint.world.mux.heap.length)
        rw [Channel.accepted_trySend, if_pos hsent, haccepted, hrequests,
          List.map_append, List.zipIdx_append, List.length_map, hlength]
        rw [List.map_singleton, List.zipIdx_singleton, Nat.zero_add]
      · intro number other request t hrequest ht
        rw [hrequests] at hrequest
        rcases Nat.lt_or_ge number tunnel.requests.length with hlt | hge
        · rw [List.getElem?_append_left hlt] at hrequest
          rw [hlength] at hlt
          obtain ⟨s, hs, hsame⟩ := Endpoint.flowStatus_step hserver ht hlt
          rw [hsame]
          exact h.flow number other request s hrequest hs
        · rw [List.getElem?_append_right hge] at hrequest
          have hnumber := (List.getElem?_eq_some_iff.mp hrequest).1
          rw [List.length_singleton] at hnumber
          have hlast : number = tunnel.requests.length := by omega
          rw [hlast, Nat.sub_self] at hrequest
          obtain ⟨rfl, rfl⟩ := Prod.mk.inj (Option.some.inj hrequest)
          rw [hlast, hlength, hmux] at ht
          rw [MuxInner.flow_connect id connect send ht, MuxInner.flow,
            hactor, h.serverSettings]
          rfl

/-- The server's streams are the client's, so that no id is the control id and
none means two streams. -/
theorem serverIds (h : AgreementInv clientTypes serverTypes tunnel) :
    (tunnel.server.endpoint.ids.map UInt32.toNat).Sublist
      (List.range' 1 tunnel.client.endpoint.world.mux.currentId.toNat) := by
  have hsub : (connects (tunnel.client.endpoint.sent.take
      tunnel.server.received)).Sublist (connects tunnel.client.endpoint.sent) :=
    (List.take_sublist _ _).filterMap _
  rw [h.ends.serverIds, ← h.ends.clientIds]
  exact ((hsub.map _).trans h.asked.inOrder).map _

end AgreementInv

section Runs

variable {clientTypes serverTypes : List UInt8}
  {clientBuffer serverBuffer : UInt32} {actions : List TunnelAction}
  {tunnel : Tunnel}

end Runs

end Epoxy
