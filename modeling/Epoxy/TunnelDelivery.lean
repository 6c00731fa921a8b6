/-
What the two ends of a tunnel get from each other.  A client's ids are its
own, so that on both sides an id means one stream; the payloads that one end's
handles give to the transport are then the only ones that the other end's
reader can get, in their order.
-/
import Epoxy.TunnelParties

namespace Epoxy

open ActionMachine ByteCursor KeyDirectory PollChannel

/-- What holds of a tunnel in every state of every run. -/
structure TunnelInv (tunnel : Tunnel) : Prop where
  client : ClientInv tunnel.client.endpoint
  clientIds : tunnel.client.endpoint.ids.map UInt32.toNat =
    List.range' 1 tunnel.client.endpoint.world.mux.currentId.toNat
  clientWrote : ∀ report ∈ tunnel.client.endpoint.trace,
    tunnel.client.endpoint.Wrote report
  clientReceived :
    tunnel.client.received ≤ tunnel.server.endpoint.sent.length
  clientReceives : ∀ number, ∃ history,
    Receives .client tunnel.client
      (tunnel.server.endpoint.sent.take tunnel.client.received) number history
  serverKeyed : tunnel.server.endpoint.world.mux.directory.Keyed
  serverIds : tunnel.server.endpoint.ids =
    (connects (tunnel.client.endpoint.sent.take tunnel.server.received)).map
      (·.1)
  serverWrote : ∀ report ∈ tunnel.server.endpoint.trace,
    tunnel.server.endpoint.Wrote report
  /-- A server asks for no streams. -/
  serverQuiet : ∀ report ∈ tunnel.server.endpoint.trace, ∀ id,
    report.head ≠ some (0x01, id)
  serverReceived :
    tunnel.server.received ≤ tunnel.client.endpoint.sent.length
  serverReceives : ∀ number, ∃ history,
    Receives (.server .unbounded) tunnel.server
      (tunnel.client.endpoint.sent.take tunnel.server.received) number history

section Ids

variable {endpoint next : Endpoint} {action : EndpointAction}

/-- Nothing but a request or a connect packet adds a stream. -/
theorem directoryMove_add {id : UInt32}
    (h : endpoint.directoryMove action = .add id) :
    (∃ connect channel send,
      action = .mux (.event (.createStream connect channel) send) ∧
        id = endpoint.world.mux.currentId + 1 ∧
        endpoint.world.mux.currentId.toNat + 1 < 2 ^ 32) ∨
    ∃ connect send,
      action = .mux (.event (.wispMessage ⟨id, .connect connect⟩) send) := by
  cases action with
  | close stream close channel send =>
      simp only [Endpoint.directoryMove, Endpoint.muxAction] at h
      cases hinfo : endpoint.handleInfo stream with
      | none =>
          rw [hinfo] at h
          cases h
      | some info =>
          rw [hinfo] at h
          cases h
  | mux action =>
      cases action with
      | event event send =>
          change endpoint.world.mux.eventMove event = .add id at h
          cases event with
          | close other close channel => cases h
          | createStream connect channel =>
              simp only [MuxInner.eventMove] at h
              split at h
              · next hlt =>
                  cases h
                  exact .inl ⟨connect, channel, send, rfl, rfl, hlt⟩
              · cases h
          | wispMessage packet =>
              obtain ⟨other, packetType⟩ := packet
              cases packetType with
              | connect connect =>
                  cases h
                  exact .inr ⟨connect, send, rfl⟩
              | data data => cases h
              | cont cont => cases h
              | close close =>
                  simp only [MuxInner.eventMove] at h
                  split at h
                  · cases h
                  · cases h
          | endFut reason => cases h
      | finish => cases h
      | pollNext stream sink => cases h
      | pollReady stream cx sink => cases h
      | startSend stream item => cases h
      | pollFlush stream sink => cases h
      | dropRead stream => cases h
  | pollWrite stream write buf sink => cases h
  | send stream packetType data answer => cases h

theorem keys_move_of_not_add {move : Move UInt32} (d : Directory UInt32)
    (h : ∀ id, move ≠ .add id) : (d.move move).keys = d.keys := by
  cases move with
  | stay => rfl
  | add id => exact absurd rfl (h id)
  | remove id => rfl
  | clear => rfl

theorem ids_of_not_add (hstep : endpoint.step action = some next)
    (h : ∀ id, endpoint.directoryMove action ≠ .add id) :
    next.ids = endpoint.ids := by
  rw [Endpoint.ids_step hstep]
  exact keys_move_of_not_add _ h

/-- A client to which nobody sends a connect counts its ids up, in its loop
and after it. -/
theorem ClientInv.ids_step (h : ClientInv endpoint)
    (hids : endpoint.ids.map UInt32.toNat =
      List.range' 1 endpoint.world.mux.currentId.toNat)
    (hstep : endpoint.step action = some next)
    (hpeer : ∀ id connect send,
      action ≠ .mux (.event (.wispMessage ⟨id, .connect connect⟩) send)) :
    next.ids.map UInt32.toNat =
      List.range' 1 next.world.mux.currentId.toNat := by
  have hids' : endpoint.world.mux.directory.keys.map UInt32.toNat =
      List.range' 1 endpoint.world.mux.currentId.toNat := hids
  change next.world.mux.directory.keys.map UInt32.toNat = _
  cases clientStep_of_step h.client hstep with
  | quiet _ hsame =>
      rw [hsame.directory, hsame.currentId]
      exact hids'
  | handle _ _ _ _ _ _ _ hsame =>
      rw [hsame.directory, hsame.currentId]
      exact hids'
  | request _ _ _ _ hlt _ hcurrentId hdirectory =>
      rw [hdirectory, hcurrentId, UInt32.toNat_succ hlt,
        List.range'_1_concat, ← hids']
      simp only [Directory.move, List.map_append, List.map_singleton,
        UInt32.toNat_succ hlt]
      rw [Nat.add_comm 1]
  | close _ _ _ _ _ _ _ _ _ _ hcurrentId hdirectory =>
      rw [hdirectory, hcurrentId]
      exact hids'
  | peerClose _ _ _ _ hcurrentId hdirectory =>
      rw [hdirectory, hcurrentId]
      exact hids'
  | leave move _ _ hallocates _ hcurrentId =>
      have hkept := ids_of_not_add hstep fun id hadd => by
        rcases directoryMove_add hadd with
          ⟨connect, channel, send, rfl, -, hlt⟩ | ⟨connect, send, rfl⟩
        · obtain ⟨created, hcreated, -⟩ :=
            MuxInner.createStream_of_lt connect.streamType hlt
          simp only [Endpoint.allocates, hcreated] at hallocates
          cases hallocates
        · exact hpeer id connect send rfl
      rw [hcurrentId]
      change next.ids.map UInt32.toNat = _
      rw [hkept]
      exact hids

/-- A server whose step is not a request does not ask for a stream. -/
theorem quiet_step (hraw : ∀ stream packetType data answer,
      action ≠ .send stream packetType data answer)
    (hrequest : ∀ connect channel send,
      action ≠ .mux (.event (.createStream connect channel) send))
    (hquiet : ∀ report ∈ endpoint.trace, ∀ id,
      report.head ≠ some (0x01, id))
    (hstep : endpoint.step action = some next) :
    ∀ report ∈ next.trace, ∀ id, report.head ≠ some (0x01, id) := by
  obtain ⟨reports, htrace, hreports⟩ := Endpoint.reports_step hraw hstep
  intro report hreport id
  rw [htrace] at hreport
  rcases List.mem_append.mp hreport with hold | hnew
  · exact hquiet report hold id
  · cases hreports report hnew with
    | connect connect channel send haction =>
        exact absurd haction (hrequest connect channel send)
    | close packet hclose =>
        rw [Report.head, Packet.head_encode, hclose]
        intro heq
        cases heq
    | handle stream other packet _ hpacket =>
        rw [Report.head]
        intro heq
        rw [Packet.OfHandle, heq] at hpacket
        rcases hpacket with hty | hty
        · cases hty
        · cases hty
    | opened stream =>
        intro heq
        cases heq
    | closed stream =>
        intro heq
        cases heq

theorem sent_step (hraw : ∀ stream packetType data answer,
      action ≠ .send stream packetType data answer)
    (hstep : endpoint.step action = some next) :
    endpoint.sent <+: next.sent := by
  obtain ⟨reports, htrace, -⟩ := Endpoint.reports_step hraw hstep
  rw [Endpoint.sent, Endpoint.sent, htrace, sentIn_append]
  exact List.prefix_append _ _

end Ids

section Local

variable {side : Side} {action : EndpointAction}

theorem not_send_of_isLocal (h : action.isLocal side = true) :
    ∀ stream packetType data answer,
      action ≠ .send stream packetType data answer := by
  rintro stream packetType data answer rfl
  cases h

theorem not_wispMessage_of_isLocal (h : action.isLocal side = true)
    (packet : Packet) (send : SendAnswer) :
    action ≠ .mux (.event (.wispMessage packet) send) := by
  rintro rfl
  cases h

theorem not_createStream_of_isLocal (h : action.isLocal .server = true)
    (connect : ConnectPacket) (channel : Nat) (send : SendAnswer) :
    action ≠ .mux (.event (.createStream connect channel) send) := by
  rintro rfl
  cases h

end Local

theorem take_of_prefix {first second : List Bytes} (h : first <+: second)
    {k : Nat} (hle : k ≤ first.length) : second.take k = first.take k := by
  obtain ⟨more, rfl⟩ := h
  exact List.take_append_of_le_length hle

theorem take_succ_of_getElem? {messages : List Bytes} {k : Nat}
    {message : Bytes} (h : messages[k]? = some message) :
    messages.take (k + 1) = messages.take k ++ [message] := by
  rw [List.take_add_one, h]
  rfl

theorem dataFor_mono (id : UInt32) {first second : List Bytes}
    (h : first <+: second) : dataFor id first <+: dataFor id second := by
  obtain ⟨more, rfl⟩ := h
  rw [dataFor_append]
  exact List.prefix_append _ _

/-- Of the messages for a stream, the data comes after the request. -/
theorem dataFor_take_of_connect {endpoint : Endpoint}
    (hinv : ClientInv endpoint)
    (hids : endpoint.ids.map UInt32.toNat =
      List.range' 1 endpoint.world.mux.currentId.toNat)
    (hwrote : ∀ report ∈ endpoint.trace, endpoint.Wrote report)
    {k : Nat} {message : Bytes} {id : UInt32} {connect : ConnectPacket}
    (hmessage : endpoint.sent[k]? = some message)
    (hconnect : Packet.connectOf message = some (id, connect)) :
    dataFor id (endpoint.sent.take k) = [] := by
  obtain ⟨before, report, after, hsplit, hpacket, hbefore⟩ :=
    exists_split_of_filterMap hmessage
  by_contra hdata
  rw [Endpoint.sent, sentIn, ← hbefore] at hdata
  have hsub : before ⊆ endpoint.trace := by
    rw [hsplit]
    exact List.subset_append_left _ _
  obtain ⟨stream, packet, hwritten, hhead, hid⟩ :=
    exists_stream_of_data hwrote hsub hdata
  have hzero : id ≠ 0 := by
    rintro rfl
    have hmem : (0 : UInt32).toNat ∈ endpoint.ids.map UInt32.toNat :=
      List.mem_map_of_mem (List.mem_of_getElem? hid)
    rw [hids, List.mem_range'_1] at hmem
    cases hmem.1
  -- the data came after an earlier request with the same id
  obtain ⟨early, late, rfl⟩ := List.append_of_mem hwritten
  have hearly := hinv.connectFirst early (.handleWrote stream packet)
    (late ++ report :: after) id
    (by rw [hsplit, List.append_assoc, List.cons_append]) hzero (.inl hhead)
  have hreport : report = .actorWrote message := by
    rcases exists_report hwrote (by rw [hsplit]; simp) hpacket
        (Packet.head_of_connectOf hconnect) with
      ⟨heq, -⟩ | ⟨-, -, -, hty | hty⟩
    · exact heq
    · cases hty
    · cases hty
  have hlater : actorSent 0x01 id [report] = 1 := by
    simp [hreport, actorSent, Report.actorHead,
      Packet.head_of_connectOf hconnect]
  have hone := hinv.connects id
  have htotal : actorSent 0x01 id endpoint.trace =
      actorSent 0x01 id early +
        (actorSent 0x01 id (.handleWrote stream packet :: late) +
          (actorSent 0x01 id [report] + actorSent 0x01 id after)) := by
    rw [hsplit, List.append_assoc, actorSent_append, actorSent_append,
      ← actorSent_append 0x01 id [report] after]
    rfl
  omega

namespace TunnelInv

variable {tunnel next : Tunnel}

theorem init (clientTypes serverTypes : List UInt8)
    (clientBuffer serverBuffer : UInt32) :
    TunnelInv (.init clientTypes serverTypes clientBuffer serverBuffer) where
  client := ClientInv.init clientTypes clientBuffer
  clientIds := rfl
  clientWrote report hreport := by cases hreport
  clientReceived := Nat.le_refl _
  clientReceives number := by
    refine ⟨[], OrderInv.init .client clientTypes clientBuffer number, ?_, ?_⟩
    · exact fun id _ => List.nil_prefix
    · exact fun id hfind => by cases hfind
  serverKeyed := by
    change (MuxInner.new (.server .unbounded) serverTypes
      serverBuffer).directory.Keyed
    rw [MuxInner.directory_new]
    exact Directory.keyed_empty
  serverIds := rfl
  serverWrote report hreport := by cases hreport
  serverQuiet report hreport := by cases hreport
  serverReceived := Nat.le_refl _
  serverReceives number := by
    refine ⟨[], OrderInv.init (.server .unbounded) serverTypes serverBuffer
      number, ?_, ?_⟩
    · exact fun id _ => List.nil_prefix
    · exact fun id hfind => by cases hfind

/-- A server's streams are ones that the client asked for. -/
theorem mem_serverIds (h : TunnelInv tunnel) {stream : Nat} {id : UInt32}
    (hid : tunnel.server.endpoint.ids[stream]? = some id) :
    1 ≤ actorSent 0x01 id tunnel.client.endpoint.trace ∧
      id.toNat ≤ tunnel.client.endpoint.world.mux.currentId.toNat := by
  have hmem := List.mem_of_getElem? hid
  have hsub : (connects (tunnel.client.endpoint.sent.take
      tunnel.server.received)).Sublist (connects tunnel.client.endpoint.sent) :=
    (List.take_sublist _ _).filterMap _
  rw [h.serverIds] at hmem
  have hcount := List.count_pos_iff.mpr ((hsub.map (·.1)).subset hmem)
  have hsent := count_connects_le h.clientWrote id
  have hconnects := h.client.connects id
  omega

/-- No data comes for an id that the client has not allocated. -/
theorem dataFor_of_lt (h : TunnelInv tunnel) {id : UInt32}
    (hlt : tunnel.client.endpoint.world.mux.currentId.toNat < id.toNat)
    (k : Nat) : dataFor id (tunnel.server.endpoint.sent.take k) = [] := by
  have hnone : dataFor id tunnel.server.endpoint.sent = [] := by
    by_contra hdata
    obtain ⟨stream, -, -, -, hid⟩ :=
      exists_stream_of_data h.serverWrote (List.Subset.refl _) hdata
    exact absurd (h.mem_serverIds hid).2 (Nat.not_le.mpr hlt)
  rw [← List.prefix_nil, ← hnone]
  exact dataFor_mono id (List.take_prefix k _)

/-- The client's own steps. -/
theorem clientAct {action : EndpointAction} {client : Party}
    (h : TunnelInv tunnel) (hlocal : action.isLocal .client = true)
    (hact : tunnel.client.act action = some client) :
    TunnelInv { tunnel with client } := by
  obtain ⟨hstep, hreceived⟩ := Party.act_eq_some hact
  have hraw := not_send_of_isLocal hlocal
  have hsent := sent_step hraw hstep
  have htake := take_of_prefix hsent h.serverReceived
  refine ⟨h.client.step hstep, ?_, Endpoint.wrote_step hraw h.clientWrote hstep,
    ?_, fun number => ?_, h.serverKeyed, ?_, h.serverWrote, h.serverQuiet,
    Nat.le_trans h.serverReceived hsent.length_le, fun number => ?_⟩
  · exact h.client.ids_step h.clientIds hstep fun id connect send =>
      not_wispMessage_of_isLocal hlocal _ send
  · dsimp only
    rw [hreceived]
    exact h.clientReceived
  · obtain ⟨history, hreceives⟩ := h.clientReceives number
    dsimp only
    rw [hreceived]
    refine hreceives.act_local h.client.keyed hlocal hact fun id hadd => ?_
    rcases directoryMove_add hadd with
      ⟨connect, channel, send, -, rfl, hlt⟩ | ⟨connect, send, rfl⟩
    · refine h.dataFor_of_lt ?_ _
      rw [UInt32.toNat_succ hlt]
      exact Nat.lt_succ_self _
    · cases hlocal
  · dsimp only
    rw [htake]
    exact h.serverIds
  · dsimp only
    rw [htake]
    exact h.serverReceives number

/-- The server's own steps. -/
theorem serverAct {action : EndpointAction} {server : Party}
    (h : TunnelInv tunnel) (hlocal : action.isLocal .server = true)
    (hact : tunnel.server.act action = some server) :
    TunnelInv { tunnel with server } := by
  obtain ⟨hstep, hreceived⟩ := Party.act_eq_some hact
  have hraw := not_send_of_isLocal hlocal
  have hsent := sent_step hraw hstep
  have htake := take_of_prefix hsent h.clientReceived
  have hnotAdd : ∀ id,
      tunnel.server.endpoint.directoryMove action ≠ .add id := by
    intro id hadd
    rcases directoryMove_add hadd with
      ⟨connect, channel, send, rfl, -⟩ | ⟨connect, send, rfl⟩
    · cases hlocal
    · cases hlocal
  refine ⟨h.client, h.clientIds, h.clientWrote,
    Nat.le_trans h.clientReceived hsent.length_le, fun number => ?_, ?_, ?_,
    Endpoint.wrote_step hraw h.serverWrote hstep, ?_, ?_, fun number => ?_⟩
  · dsimp only
    rw [htake]
    exact h.clientReceives number
  · dsimp only
    rw [Endpoint.directory_step hstep]
    exact h.serverKeyed.move _
  · dsimp only
    rw [ids_of_not_add hstep hnotAdd, hreceived]
    exact h.serverIds
  · exact quiet_step hraw (not_createStream_of_isLocal hlocal) h.serverQuiet
      hstep
  · dsimp only
    rw [hreceived]
    exact h.serverReceived
  · obtain ⟨history, hreceives⟩ := h.serverReceives number
    dsimp only
    rw [hreceived]
    exact hreceives.act_local h.serverKeyed hlocal hact fun id hadd =>
      absurd hadd (hnotAdd id)

/-- What a server sends opens no stream. -/
theorem not_connect_of_serverSent (h : TunnelInv tunnel) {k : Nat}
    {message : Bytes} {id : UInt32} {connect : ConnectPacket}
    (hmessage : tunnel.server.endpoint.sent[k]? = some message) :
    Packet.connectOf message ≠ some (id, connect) := by
  intro hconnect
  obtain ⟨report, hreport, hpacket⟩ :=
    List.mem_filterMap.mp (List.mem_of_getElem? hmessage)
  refine h.serverQuiet report hreport id ?_
  rw [← Packet.head_of_connectOf hconnect]
  cases report with
  | actorWrote packet => exact congrArg Packet.head (Option.some.inj hpacket)
  | handleWrote stream packet =>
      exact congrArg Packet.head (Option.some.inj hpacket)
  | opened stream => cases hpacket
  | closed stream => cases hpacket

/-- A message of the server arrives. -/
theorem clientReceive {send : SendAnswer} {client : Party}
    (h : TunnelInv tunnel)
    (hreceive : tunnel.client.receive tunnel.server.endpoint.sent send =
      some client) : TunnelInv { tunnel with client } := by
  obtain ⟨message, left, hmessage, hact, rfl⟩ :=
    Party.receive_eq_some hreceive
  have hinner := Party.arrival_cases message send
  generalize Party.arrival message send = inner at hinner hact
  obtain ⟨hstep, -⟩ := Party.act_eq_some hact
  have hraw : ∀ stream packetType data answer,
      EndpointAction.mux inner ≠ .send stream packetType data answer := by
    intro stream packetType data answer heq
    cases heq
  have hsent := sent_step hraw hstep
  have htake := take_of_prefix hsent h.serverReceived
  have hpeer : ∀ id connect send', EndpointAction.mux inner ≠
      .mux (.event (.wispMessage ⟨id, .connect connect⟩) send') := by
    intro id connect send' heq
    rcases hinner with ⟨packet, hdecode, rfl⟩ | ⟨-, rfl⟩
    · obtain ⟨rfl, -⟩ : packet = ⟨id, .connect connect⟩ ∧ send = send' := by
        simpa using heq
      exact h.not_connect_of_serverSent hmessage
        (by rw [Packet.connectOf, hdecode])
    · cases heq
  have hlt := (List.getElem?_eq_some_iff.mp hmessage).1
  refine ⟨h.client.step hstep, h.client.ids_step h.clientIds hstep hpeer,
    Endpoint.wrote_step hraw h.clientWrote hstep, hlt, fun number => ?_,
    h.serverKeyed, ?_, h.serverWrote, h.serverQuiet,
    Nat.le_trans h.serverReceived hsent.length_le, fun number => ?_⟩
  · obtain ⟨history, hreceives⟩ := h.clientReceives number
    obtain ⟨hfound, hlost⟩ := Receives.handled_message h.client.keyed hinner
    obtain ⟨history, hnext⟩ := hreceives.act h.client.keyed hact hfound hlost
      fun id hadd => by
        rcases directoryMove_add hadd with
          ⟨connect, channel, send', heq, -⟩ | ⟨connect, send', heq⟩
        · rcases hinner with ⟨packet, -, rfl⟩ | ⟨-, rfl⟩
          · cases heq
          · cases heq
        · exact absurd heq (hpeer id connect send')
    rw [← take_succ_of_getElem? hmessage] at hnext
    exact ⟨history, ⟨hnext.order, hnext.arrived, hnext.current⟩⟩
  · dsimp only
    rw [htake]
    exact h.serverIds
  · dsimp only
    rw [htake]
    exact h.serverReceives number

/-- A message of the client arrives. -/
theorem serverReceive {send : SendAnswer} {server : Party}
    (h : TunnelInv tunnel)
    (hreceive : tunnel.server.receive tunnel.client.endpoint.sent send =
      some server) : TunnelInv { tunnel with server } := by
  obtain ⟨message, left, hmessage, hact, rfl⟩ :=
    Party.receive_eq_some hreceive
  have hinner := Party.arrival_cases message send
  generalize Party.arrival message send = inner at hinner hact
  obtain ⟨hstep, -⟩ := Party.act_eq_some hact
  have hraw : ∀ stream packetType data answer,
      EndpointAction.mux inner ≠ .send stream packetType data answer := by
    intro stream packetType data answer heq
    cases heq
  have hrequest : ∀ connect channel send', EndpointAction.mux inner ≠
      .mux (.event (.createStream connect channel) send') := by
    intro connect channel send' heq
    rcases hinner with ⟨packet, -, rfl⟩ | ⟨-, rfl⟩
    · cases heq
    · cases heq
  have hsent := sent_step hraw hstep
  have htake := take_of_prefix hsent h.clientReceived
  have hlt := (List.getElem?_eq_some_iff.mp hmessage).1
  have hnext := take_succ_of_getElem? hmessage
  -- the packets that add a stream are the requests
  have hadds : ∀ id,
      tunnel.server.endpoint.directoryMove (.mux inner) = .add id ↔
        ∃ connect, Packet.connectOf message = some (id, connect) := by
    intro id
    constructor
    · intro hadd
      rcases directoryMove_add hadd with
        ⟨connect, channel, send', heq, -⟩ | ⟨connect, send', heq⟩
      · exact absurd heq (hrequest connect channel send')
      · rcases hinner with ⟨packet, hdecode, rfl⟩ | ⟨-, rfl⟩
        · obtain ⟨rfl, -⟩ : packet = ⟨id, .connect connect⟩ ∧ send = send' :=
            by simpa using heq
          exact ⟨connect, by rw [Packet.connectOf, hdecode]⟩
        · cases heq
    · rintro ⟨connect, hconnect⟩
      unfold Packet.connectOf at hconnect
      split at hconnect
      · next other connect' hdecode =>
          obtain ⟨rfl, rfl⟩ := Prod.mk.inj (Option.some.inj hconnect)
          rcases hinner with ⟨packet, hdecode', rfl⟩ | ⟨hbad, -⟩
          · rw [hdecode] at hdecode'
            cases hdecode'
            rfl
          · exact absurd hdecode (hbad _)
      · cases hconnect
  refine ⟨h.client, h.clientIds, h.clientWrote,
    Nat.le_trans h.clientReceived hsent.length_le, fun number => ?_, ?_, ?_,
    Endpoint.wrote_step hraw h.serverWrote hstep,
    quiet_step hraw hrequest h.serverQuiet hstep, hlt, fun number => ?_⟩
  · dsimp only
    rw [htake]
    exact h.clientReceives number
  · dsimp only
    rw [Endpoint.directory_step hstep]
    exact h.serverKeyed.move _
  · dsimp only
    rw [hnext, connects_append, List.map_append, ← h.serverIds]
    cases hconnect : Packet.connectOf message with
    | none =>
        rw [ids_of_not_add hstep fun id hadd => by
          obtain ⟨connect, heq⟩ := (hadds id).mp hadd
          rw [hconnect] at heq
          cases heq]
        simp [connects, hconnect]
    | some pair =>
        rw [Endpoint.ids_step hstep, (hadds pair.1).mpr ⟨pair.2, hconnect⟩]
        simp [connects, hconnect, Directory.move, Endpoint.ids]
  · obtain ⟨history, hreceives⟩ := h.serverReceives number
    obtain ⟨hfound, hlost⟩ := Receives.handled_message h.serverKeyed hinner
    obtain ⟨history, hreceived⟩ := hreceives.act h.serverKeyed hact hfound
      hlost fun id hadd => by
        obtain ⟨connect, hconnect⟩ := (hadds id).mp hadd
        rw [dataFor_append, dataFor_take_of_connect h.client h.clientIds
          h.clientWrote hmessage hconnect, List.nil_append]
        refine dataFor_of_other fun data hdata => ?_
        have hhead := Packet.head_of_connectOf hconnect
        rw [Packet.head_of_dataOf hdata] at hhead
        cases hhead
    rw [← hnext] at hreceived
    exact ⟨history, ⟨hreceived.order, hreceived.arrived, hreceived.current⟩⟩

theorem step {action : TunnelAction} (h : TunnelInv tunnel)
    (hstep : tunnel.step action = some next) : TunnelInv next := by
  cases action with
  | act side action =>
      cases side with
      | client =>
          simp only [Tunnel.step] at hstep
          split at hstep
          · next hlocal =>
              obtain ⟨client, hact, rfl⟩ := Option.map_eq_some_iff.mp hstep
              exact h.clientAct hlocal hact
          · cases hstep
      | server =>
          simp only [Tunnel.step] at hstep
          split at hstep
          · next hlocal =>
              obtain ⟨server, hact, rfl⟩ := Option.map_eq_some_iff.mp hstep
              exact h.serverAct hlocal hact
          · cases hstep
  | receive side send =>
      cases side with
      | client =>
          obtain ⟨client, hreceive, rfl⟩ := Option.map_eq_some_iff.mp hstep
          exact h.clientReceive hreceive
      | server =>
          obtain ⟨server, hreceive, rfl⟩ := Option.map_eq_some_iff.mp hstep
          exact h.serverReceive hreceive

end TunnelInv

section Runs

variable {clientTypes serverTypes : List UInt8}
  {clientBuffer serverBuffer : UInt32} {actions : List TunnelAction}
  {tunnel : Tunnel}

end Runs

end Epoxy
