/-
Which streams the client of a tunnel asks for, and what a stream's flow control
is.  The requests go out in the order of the ids, and the flow control of a
stream is settled when it is added and stays.
-/
import Epoxy.TunnelDelivery

namespace Epoxy

open ActionMachine ByteCursor KeyDirectory PollChannel

namespace MuxInner

/-- The kind of flow control for streams of a type. -/
def flow (mux : MuxInner) (ty : StreamType) : FlowControl :=
  mux.actor.getFlowControl ty mux.flowStreamTypes

/-- Only the byte of the type counts. -/
theorem flow_named (mux : MuxInner) (ty : StreamType) :
    mux.flow ty.named = mux.flow ty := by
  cases hactor : mux.actor with
  | client =>
      simp only [flow, hactor, Actor.getFlowControl,
        ClientActor.getFlowControl, StreamType.toU8_named]
  | server streamTx =>
      simp only [flow, hactor, Actor.getFlowControl,
        ServerActor.getFlowControl, StreamType.toU8_named]

theorem flowStreamTypes_modify (mux : MuxInner) (id : UInt32)
    (f : Stream → Stream) :
    (mux.modify id f).flowStreamTypes = mux.flowStreamTypes := by
  unfold modify
  split
  · rfl
  · rfl

/-- The actor and the flow-controlled types are where they were. -/
structure SameSettings (mux next : MuxInner) : Prop where
  actor : next.actor = mux.actor
  flowStreamTypes : next.flowStreamTypes = mux.flowStreamTypes

theorem SameSettings.modify (mux : MuxInner) (id : UInt32)
    (f : Stream → Stream) : SameSettings mux (mux.modify id f) :=
  ⟨mux.actor_modify id f, mux.flowStreamTypes_modify id f⟩

theorem sameSettings_createStream (mux : MuxInner) (ty : StreamType) :
    SameSettings mux (mux.createStream ty).1 := by
  unfold createStream
  split
  · have hmodify := SameSettings.modify
      { mux with currentId := mux.currentId + 1 } (mux.currentId + 1)
      fun stream => { stream with channel := stream.channel.dropSender }
    exact ⟨hmodify.actor, hmodify.flowStreamTypes⟩
  · exact ⟨rfl, rfl⟩

/-- Only a connect packet concerns the actor itself. -/
theorem sameSettings_handleEvent {mux : MuxInner} {event : WsEvent}
    (send : SendAnswer)
    (h : ∀ id connect, event ≠ .wispMessage ⟨id, .connect connect⟩) :
    SameSettings mux (mux.handleEvent event send).mux := by
  cases event with
  | close id close channel =>
      simp only [handleEvent, handleClose]
      split
      · have hmodify := SameSettings.modify mux id
          fun stream => stream.close close
        exact ⟨hmodify.actor, hmodify.flowStreamTypes⟩
      · exact ⟨rfl, rfl⟩
  | createStream connect channel =>
      have hcreated := mux.sameSettings_createStream connect.streamType
      simp only [handleEvent, handleCreateStream]
      split
      · next created error heq =>
          rw [heq] at hcreated
          exact hcreated
      · next created stream id heq =>
          rw [heq] at hcreated
          split
          · exact ⟨hcreated.actor, hcreated.flowStreamTypes⟩
          · exact ⟨hcreated.actor, hcreated.flowStreamTypes⟩
  | wispMessage packet =>
      obtain ⟨id, packetType⟩ := packet
      cases packetType with
      | connect connect => exact absurd rfl (h id connect)
      | data data => exact .modify mux id _
      | cont cont =>
          simp only [handleEvent, handlePacket, handleContinuePacket]
          split
          · exact .modify mux id _
          · exact ⟨rfl, rfl⟩
      | close close =>
          simp only [handleEvent, handlePacket, handleClosePacket]
          split
          · exact ⟨rfl, rfl⟩
          · have hmodify := SameSettings.modify mux id
              fun stream => stream.close close
            exact ⟨hmodify.actor, hmodify.flowStreamTypes⟩
  | endFut reason =>
      cases reason with
      | none => exact ⟨rfl, rfl⟩
      | some reason => exact ⟨rfl, rfl⟩

/-- A server offers the stream of a connect packet to its application. -/
theorem actor_connect {mux : MuxInner}
    {streamTx : Channel (ConnectPacket × Nat)}
    (hactor : mux.actor = .server streamTx)
    (hcapacity : streamTx.capacity = none)
    (hreceiver : streamTx.receiver = true)
    (id : UInt32) (connect : ConnectPacket) (send : SendAnswer) :
    (mux.handleEvent (.wispMessage ⟨id, .connect connect⟩) send).mux.actor =
        .server (streamTx.trySend (connect, mux.heap.length)).1 ∧
      (mux.handleEvent (.wispMessage ⟨id, .connect connect⟩)
        send).mux.flowStreamTypes = mux.flowStreamTypes := by
  have hadded : (mux.addStream id connect.streamType).1.actor =
      .server streamTx := (mux.actor_modify id _).trans hactor
  have htypes : (mux.addStream id connect.streamType).1.flowStreamTypes =
      mux.flowStreamTypes := mux.flowStreamTypes_modify id _
  have hnumber : (mux.addStream id connect.streamType).2 =
      mux.heap.length := rfl
  have haccepted := Channel.trySend_of_unbounded hcapacity hreceiver
    (connect, mux.heap.length)
  simp only [handleEvent, handlePacket, handleConnectPacket, hadded, hnumber,
    haccepted, if_true]
  exact ⟨trivial, htypes⟩

/-- A new stream has the flow control of its type. -/
theorem flow_addStream (mux : MuxInner) (id : UInt32) (ty : StreamType) :
    ∃ t, (mux.addStream id ty).1.heap[mux.heap.length]? = some t ∧
      t.info.flowStatus = mux.flow ty := by
  have hlength := mux.length_heap_modify id fun stream =>
    { stream with channel := stream.channel.dropSender }
  refine ⟨.new id (mux.flow ty) mux.bufferSize, ?_, rfl⟩
  simp only [addStream, ← hlength]
  exact List.getElem?_concat_length

theorem flow_of_keptHeap {heap next : List Stream} {number : Nat}
    {flow : FlowControl} (h : KeptHeap heap next)
    (hflow : ∃ t, heap[number]? = some t ∧ t.info.flowStatus = flow)
    {u : Stream} (hu : next[number]? = some u) : u.info.flowStatus = flow := by
  obtain ⟨t, ht, htu⟩ := h number u hu
  obtain ⟨s, hs, rfl⟩ := hflow
  obtain rfl := Option.some.inj (hs.symm.trans ht)
  exact htu.same.info.flowStatus

theorem flow_connect {mux : MuxInner} (id : UInt32) (connect : ConnectPacket)
    (send : SendAnswer) {t : Stream}
    (ht : (mux.handleEvent (.wispMessage ⟨id, .connect connect⟩)
      send).mux.heap[mux.heap.length]? = some t) :
    t.info.flowStatus = mux.flow connect.streamType :=
  flow_of_keptHeap (keptHeap_handleConnectPacket _ _ _)
    (mux.flow_addStream id connect.streamType) ht

theorem flow_createStream {mux : MuxInner} (connect : ConnectPacket)
    (channel : Nat) (send : SendAnswer)
    (hlt : mux.currentId.toNat + 1 < 2 ^ 32) {t : Stream}
    (ht : (mux.handleEvent (.createStream connect channel)
      send).mux.heap[mux.heap.length]? = some t) :
    t.info.flowStatus = mux.flow connect.streamType := by
  have hadded := flow_addStream { mux with currentId := mux.currentId + 1 }
    (mux.currentId + 1) connect.streamType
  simp only [handleEvent, handleCreateStream, createStream, if_pos hlt] at ht
  cases hresult : send.result with
  | ok =>
      simp only [hresult] at ht
      exact flow_of_keptHeap (.refl _) hadded ht
  | error error =>
      simp only [hresult] at ht
      exact flow_of_keptHeap (.modify _ Kept.dropReceiver) hadded ht

end MuxInner

namespace MuxWorld

variable {world next : MuxWorld} {action : MuxAction} {seen : List Observation}

theorem sameSettings_step (h : world.step action = some (next, seen))
    (hno : ∀ id connect send,
      action ≠ .event (.wispMessage ⟨id, .connect connect⟩) send) :
    MuxInner.SameSettings world.mux next.mux := by
  have hupdate : ∀ {stream : Nat} {f : Stream → Stream × List Observation},
      world.update stream f = some (next, seen) →
      MuxInner.SameSettings world.mux next.mux := by
    intro stream f hupdate
    simp only [update, Option.map_eq_some_iff, Prod.mk.injEq] at hupdate
    obtain ⟨s, -, rfl, -⟩ := hupdate
    exact ⟨rfl, rfl⟩
  cases action with
  | event event send =>
      obtain ⟨-, hmux, -, -⟩ := stepEvent_eq_some h
      rw [hmux]
      exact MuxInner.sameSettings_handleEvent send fun id connect heq =>
        hno id connect send (by rw [heq])
  | finish =>
      obtain ⟨-, rfl, -⟩ := step_finish_eq_some h
      exact ⟨rfl, rfl⟩
  | pollNext => exact hupdate h
  | pollReady => exact hupdate h
  | startSend => exact hupdate h
  | pollFlush => exact hupdate h
  | dropRead => exact hupdate h

/-- A stream keeps its flow control. -/
theorem flowStatus_step (h : world.step action = some (next, seen))
    {number : Nat} {t : Stream} (ht : next.mux.heap[number]? = some t)
    (hlt : number < world.mux.heap.length) :
    ∃ s, world.mux.heap[number]? = some s ∧
      t.info.flowStatus = s.info.flowStatus := by
  have hupdate : ∀ {stream : Nat} {f : Stream → Stream × List Observation},
      (∀ s, SameStream s (f s).1) →
      world.update stream f = some (next, seen) →
      ∃ s, world.mux.heap[number]? = some s ∧
        t.info.flowStatus = s.info.flowStatus := by
    intro stream f hsame hupdate
    simp only [update, Option.map_eq_some_iff, Prod.mk.injEq] at hupdate
    obtain ⟨s, hs, rfl, -⟩ := hupdate
    by_cases heq : stream = number
    · subst heq
      simp only [List.getElem?_set_self hlt, Option.some.injEq] at ht
      exact ⟨s, hs, by rw [← ht, (hsame s).info.flowStatus]⟩
    · simp only [List.getElem?_set_ne heq] at ht
      exact ⟨t, ht, rfl⟩
  cases action with
  | event event send =>
      obtain ⟨-, hmux, -, -⟩ := stepEvent_eq_some h
      rw [hmux] at ht
      cases world.mux.origin_handleEvent event send ht with
      | kept s hs _ hkept => exact ⟨s, hs, hkept.same.info.flowStatus⟩
      | fed s data hs _ hfed =>
          refine ⟨s, hs, ?_⟩
          rw [hfed, (SameStream.handleDataPacket _ s data).info.flowStatus]
      | fresh id ty hs =>
          rw [List.getElem?_eq_none_iff] at hs
          exact absurd hlt (Nat.not_lt.mpr hs)
  | finish =>
      obtain ⟨-, rfl, -⟩ := step_finish_eq_some h
      obtain ⟨s, hs, hkept⟩ :=
        MuxInner.keptHeap_closeEntries _ world.mux.heap number t ht
      exact ⟨s, hs, hkept.same.info.flowStatus⟩
  | pollNext stream sink =>
      exact hupdate (fun s => SameStream.pollNext s sink) h
  | pollReady stream cx sink =>
      exact hupdate (fun s =>
        ⟨(s.write.polledReady s.info _ cx sink).sameInfo, rfl⟩) h
  | startSend stream item => exact hupdate (fun s => ⟨.refl s.info, rfl⟩) h
  | pollFlush stream sink =>
      exact hupdate (fun s =>
        ⟨(s.write.polledFlush s.info sink).sameInfo, rfl⟩) h
  | dropRead stream => exact hupdate (fun s => ⟨.refl s.info, rfl⟩) h

end MuxWorld

section Messages

/-- A request arrives as it was made, but for the form of its stream type. -/
theorem Packet.connectOf_encode (id : UInt32) (connect : ConnectPacket) :
    connectOf (Packet.encode ⟨id, .connect connect⟩) =
      some (id, { connect with
        streamType := connect.streamType.named }) := by
  rw [connectOf, decode_encode]
  rfl

theorem sentIn_replies (replies : List (Nat × Reply)) :
    sentIn (replies.flatMap fun reply => reply.2.reports) = [] := by
  refine List.filterMap_eq_nil_iff.mpr fun report hreport => ?_
  obtain ⟨⟨channel, reply⟩, -, hreply⟩ := List.mem_flatMap.mp hreport
  cases reply with
  | created stream =>
      cases stream with
      | ok stream =>
          rw [List.mem_singleton.mp hreply]
          rfl
      | error error => cases hreply
  | closed result => cases hreply

theorem sentIn_actorWrote (packets : List Bytes) :
    sentIn (packets.map .actorWrote) = packets := by
  induction packets with
  | nil => rfl
  | cons packet rest ih =>
      rw [List.map_cons, sentIn_cons, ih]
      rfl

theorem sentIn_of_silent {f : Nat → Report} (streams : List Nat)
    (hf : ∀ stream, (f stream).packet = none) :
    sentIn (streams.map f) = [] := by
  refine List.filterMap_eq_nil_iff.mpr fun report hreport => ?_
  obtain ⟨stream, -, rfl⟩ := List.mem_map.mp hreport
  exact hf stream

/-- What the creation of a stream has the actor ask for. -/
theorem MuxInner.connects_createStream (mux : MuxInner)
    (connect : ConnectPacket) (channel : Nat) (send : SendAnswer) :
    connects (mux.handleEvent (.createStream connect channel) send).sent =
        [] ∨
      mux.currentId.toNat + 1 < 2 ^ 32 ∧
        connects (mux.handleEvent (.createStream connect channel) send).sent =
          [(mux.currentId + 1, { connect with
            streamType := connect.streamType.named })] := by
  by_cases hlt : mux.currentId.toNat + 1 < 2 ^ 32
  · have htaken : ∀ {sent : List Bytes}, (send.result ≠ .ok () ∧ sent = []) ∨
        sent = [Packet.encode ⟨mux.currentId + 1, .connect connect⟩] →
        connects sent = [] ∨ mux.currentId.toNat + 1 < 2 ^ 32 ∧
          connects sent = [(mux.currentId + 1, { connect with
            streamType := connect.streamType.named })] := by
      intro sent hsent
      rcases hsent with ⟨-, rfl⟩ | rfl
      · exact .inl rfl
      · refine .inr ⟨hlt, ?_⟩
        rw [connects,
          List.filterMap_cons_some (Packet.connectOf_encode _ connect)]
        rfl
    obtain ⟨created, hcreated, -⟩ :=
      createStream_of_lt connect.streamType hlt
    simp only [handleEvent, handleCreateStream, hcreated]
    cases hresult : send.result with
    | ok =>
        exact htaken (taken_cases send _)
    | error error =>
        exact htaken (taken_cases send _)
  · have hfull := createStream_of_full connect.streamType hlt
    simp only [handleEvent, handleCreateStream, hfull]
    exact .inl rfl

end Messages

namespace Endpoint

variable {endpoint next : Endpoint} {action : EndpointAction}

theorem sameSettings_step (h : endpoint.step action = some next)
    (hno : ∀ id connect send,
      action ≠ .mux (.event (.wispMessage ⟨id, .connect connect⟩) send)) :
    MuxInner.SameSettings endpoint.world.mux next.world.mux := by
  rcases step_world h with ⟨inner, seen, haction, hinner⟩ | ⟨-, hworld⟩
  · refine MuxWorld.sameSettings_step hinner fun id connect send heq => ?_
    cases action with
    | close stream close channel send' =>
        obtain ⟨info, -, hevent⟩ := Option.map_eq_some_iff.mp haction
        rw [heq] at hevent
        cases hevent
    | mux action =>
        obtain rfl := Option.some.inj haction
        exact hno id connect send (by rw [heq])
    | pollWrite => cases haction
    | send => cases haction
  · rw [hworld]
    exact ⟨rfl, rfl⟩

theorem flowStatus_step (h : endpoint.step action = some next) {number : Nat}
    {t : Stream} (ht : next.world.mux.heap[number]? = some t)
    (hlt : number < endpoint.world.mux.heap.length) :
    ∃ s, endpoint.world.mux.heap[number]? = some s ∧
      t.info.flowStatus = s.info.flowStatus := by
  rcases step_world h with ⟨inner, seen, -, hinner⟩ | ⟨-, hworld⟩
  · exact MuxWorld.flowStatus_step hinner ht hlt
  · rw [hworld] at ht
    exact ⟨t, ht, rfl⟩

/-- The multiplexor after an event. -/
theorem mux_step_event {event : WsEvent} {send : SendAnswer}
    (h : endpoint.step (.mux (.event event send)) = some next) :
    next.world.mux = (endpoint.world.mux.handleEvent event send).mux := by
  obtain ⟨-, -, hmux⟩ := step_mux h
  exact (stepMux_event hmux).2.1

theorem connects_of_reports {reports : List Report}
    (hreports : ∀ report ∈ reports, endpoint.Reports action report)
    (hno : ∀ connect channel send,
      action ≠ .mux (.event (.createStream connect channel) send)) :
    connects (sentIn reports) = [] := by
  refine List.filterMap_eq_nil_iff.mpr fun message hmessage => ?_
  cases hof : Packet.connectOf message with
  | none => rfl
  | some pair =>
      have hhead := Packet.head_of_connectOf hof
      obtain ⟨report, hreport, hpacket⟩ := List.mem_filterMap.mp hmessage
      cases hreports report hreport with
      | connect connect channel send haction =>
          exact absurd haction (hno connect channel send)
      | close packet hclose =>
          obtain rfl := Option.some.inj hpacket
          rw [Packet.head_encode, hclose] at hhead
          cases hhead
      | handle stream id packet _ hkind =>
          obtain rfl := Option.some.inj hpacket
          rw [Packet.OfHandle, hhead] at hkind
          rcases hkind with hty | hty
          · cases hty
          · cases hty
      | opened stream => cases hpacket
      | closed stream => cases hpacket

/-- In an event nobody but the actor sends anything. -/
theorem sent_event {event : WsEvent} {send : SendAnswer}
    (h : endpoint.step (.mux (.event event send)) = some next) :
    next.sent = endpoint.sent ++
      (endpoint.world.mux.handleEvent event send).sent := by
  obtain ⟨-, -, hmux⟩ := step_mux h
  obtain ⟨-, -, -, htrace⟩ := stepMux_event hmux
  rw [sent, sent, htrace, sentIn_append, sentIn_append, sentIn_append,
    sentIn_append, sentIn_of_silent _ fun _ => rfl,
    sentIn_of_silent _ fun _ => rfl, sentIn_actorWrote, sentIn_replies,
    List.append_nil, List.nil_append, List.nil_append]

end Endpoint

/-- What a client has asked for: streams of its own, in the order of their
ids, each with the flow control of the type that it named. -/
structure RequestInv (endpoint : Endpoint) : Prop where
  inOrder : ((connects endpoint.sent).map (·.1)).Sublist endpoint.ids
  flow : ∀ id connect, (id, connect) ∈ connects endpoint.sent →
    ∀ (number : Nat) (s : Stream),
      endpoint.world.mux.heap[number]? = some s → s.info.id = id →
      s.info.flowStatus = endpoint.world.mux.flow connect.streamType

namespace RequestInv

variable {endpoint next : Endpoint} {action : EndpointAction}

/-- A stream that was asked for keeps its flow control, and later streams have
other ids. -/
theorem flow_step (h : RequestInv endpoint)
    (hstep : endpoint.step action = some next)
    (hsettings : MuxInner.SameSettings endpoint.world.mux next.world.mux)
    (hnew : ∀ (number : Nat) (id : UInt32), endpoint.ids.length ≤ number →
      next.ids[number]? = some id → id ∉ endpoint.ids)
    {id : UInt32} {connect : ConnectPacket}
    (hmem : (id, connect) ∈ connects endpoint.sent) {number : Nat} {t : Stream}
    (ht : next.world.mux.heap[number]? = some t) (hid : t.info.id = id) :
    t.info.flowStatus = next.world.mux.flow connect.streamType := by
  have hflow : next.world.mux.flow connect.streamType =
      endpoint.world.mux.flow connect.streamType := by
    rw [MuxInner.flow, MuxInner.flow, hsettings.actor,
      hsettings.flowStreamTypes]
  have hkey := Endpoint.ids_of_heap ht
  rcases Nat.lt_or_ge number endpoint.ids.length with hlt | hge
  · rw [Endpoint.length_ids] at hlt
    obtain ⟨s, hs, hsame⟩ := Endpoint.flowStatus_step hstep ht hlt
    have hold := Endpoint.getElem?_ids_step hstep (Endpoint.ids_of_heap hs)
    rw [hkey] at hold
    rw [hsame, hflow]
    exact h.flow id connect hmem number s hs
      ((Option.some.inj hold).symm.trans hid)
  · refine absurd ?_ (hnew number _ hge hkey)
    rw [hid]
    exact h.inOrder.subset (List.mem_map_of_mem hmem)

theorem createStream {connect : ConnectPacket} {channel : Nat}
    {send : SendAnswer} (h : RequestInv endpoint)
    (hids : endpoint.ids.map UInt32.toNat =
      List.range' 1 endpoint.world.mux.currentId.toNat)
    (hstep : endpoint.step
      (.mux (.event (.createStream connect channel) send)) = some next) :
    RequestInv next := by
  have hsent := Endpoint.sent_event hstep
  have hmux := Endpoint.mux_step_event hstep
  have hsettings := Endpoint.sameSettings_step hstep
    fun id connect send heq => by cases heq
  have hnextIds := Endpoint.ids_step hstep
  have hmove : endpoint.directoryMove
      (.mux (.event (.createStream connect channel) send)) =
        if endpoint.world.mux.currentId.toNat + 1 < 2 ^ 32
        then .add (endpoint.world.mux.currentId + 1) else .stay := rfl
  rw [hmove] at hnextIds
  have hfresh : endpoint.world.mux.currentId.toNat + 1 < 2 ^ 32 →
      endpoint.world.mux.currentId + 1 ∉ endpoint.ids := by
    intro hlt hmem
    have hold : (endpoint.world.mux.currentId + 1).toNat ∈
        endpoint.ids.map UInt32.toNat := List.mem_map_of_mem hmem
    rw [hids, List.mem_range'_1, UInt32.toNat_succ hlt] at hold
    omega
  have hnew : ∀ (number : Nat) (id : UInt32), endpoint.ids.length ≤ number →
      next.ids[number]? = some id → id ∉ endpoint.ids := by
    intro number id hge hid
    split at hnextIds
    · next hlt =>
        rw [hnextIds] at hid
        change (endpoint.ids ++ [_])[number]? = some id at hid
        rw [List.getElem?_append_right hge] at hid
        rw [← List.mem_singleton.mp (List.mem_of_getElem? hid)] at hfresh
        exact hfresh hlt
    · change next.ids = endpoint.ids at hnextIds
      rw [hnextIds, List.getElem?_eq_none hge] at hid
      cases hid
  rcases endpoint.world.mux.connects_createStream connect channel send with
    hnone | ⟨hlt, hone⟩
  · have hsame : connects next.sent = connects endpoint.sent := by
      rw [hsent, connects_append, hnone, List.append_nil]
    refine ⟨?_, fun id connect hmem number t ht hid => ?_⟩
    · rw [hsame]
      refine h.inOrder.trans ?_
      rw [hnextIds]
      exact (Directory.keys_move _ _).sublist
    · rw [hsame] at hmem
      exact h.flow_step hstep hsettings hnew hmem ht hid
  · rw [if_pos hlt] at hnextIds
    change next.ids =
      endpoint.ids ++ [endpoint.world.mux.currentId + 1] at hnextIds
    have hsame : connects next.sent = connects endpoint.sent ++
        [(endpoint.world.mux.currentId + 1, { connect with
          streamType := connect.streamType.named })] := by
      rw [hsent, connects_append, hone]
    refine ⟨?_, fun id request hmem number t ht hid => ?_⟩
    · rw [hsame, hnextIds, List.map_append]
      exact h.inOrder.append (List.Sublist.refl _)
    · rw [hsame] at hmem
      rcases List.mem_append.mp hmem with hold | hlast
      · exact h.flow_step hstep hsettings hnew hold ht hid
      · obtain ⟨rfl, rfl⟩ := Prod.mk.inj (List.mem_singleton.mp hlast)
        have hkey := Endpoint.ids_of_heap ht
        rw [hid, hnextIds] at hkey
        have hnumber : number = endpoint.world.mux.heap.length := by
          rw [← Endpoint.length_ids]
          rcases Nat.lt_or_ge number endpoint.ids.length with hlow | hge
          · rw [List.getElem?_append_left hlow] at hkey
            exact absurd (List.mem_of_getElem? hkey) (hfresh hlt)
          · have hbound := (List.getElem?_eq_some_iff.mp hkey).1
            rw [List.length_append, List.length_singleton] at hbound
            omega
        rw [hmux, hnumber] at ht
        rw [MuxInner.flow_createStream connect channel send hlt ht,
          MuxInner.flow_named, MuxInner.flow, MuxInner.flow, hsettings.actor,
          hsettings.flowStreamTypes]

theorem init (flowStreamTypes : List UInt8) (bufferSize : UInt32) :
    RequestInv (.init (.new .client flowStreamTypes bufferSize)) where
  inOrder := List.Sublist.refl _
  flow id connect hmem := by cases hmem

/-- A step that is neither a raw send nor a connect packet. -/
theorem step (h : RequestInv endpoint)
    (hids : endpoint.ids.map UInt32.toNat =
      List.range' 1 endpoint.world.mux.currentId.toNat)
    (hraw : ∀ stream packetType data answer,
      action ≠ .send stream packetType data answer)
    (hpeer : ∀ id connect send,
      action ≠ .mux (.event (.wispMessage ⟨id, .connect connect⟩) send))
    (hstep : endpoint.step action = some next) : RequestInv next := by
  by_cases hrequest : ∃ connect channel send,
      action = .mux (.event (.createStream connect channel) send)
  · obtain ⟨connect, channel, send, rfl⟩ := hrequest
    exact h.createStream hids hstep
  · have hno : ∀ connect channel send,
        action ≠ .mux (.event (.createStream connect channel) send) :=
      fun connect channel send heq => hrequest ⟨connect, channel, send, heq⟩
    have hkept : next.ids = endpoint.ids := by
      refine ids_of_not_add hstep fun id hadd => ?_
      rcases directoryMove_add hadd with
        ⟨connect, channel, send, heq, -⟩ | ⟨connect, send, heq⟩
      · exact hno connect channel send heq
      · exact hpeer id connect send heq
    obtain ⟨reports, htrace, hreports⟩ := Endpoint.reports_step hraw hstep
    have hsame : connects next.sent = connects endpoint.sent := by
      rw [Endpoint.sent, htrace, sentIn_append, connects_append,
        Endpoint.connects_of_reports hreports hno, List.append_nil,
        Endpoint.sent]
    refine ⟨?_, fun id connect hmem number t ht hid => ?_⟩
    · rw [hsame, hkept]
      exact h.inOrder
    · rw [hsame] at hmem
      refine h.flow_step hstep (Endpoint.sameSettings_step hstep hpeer)
        (fun number id hge hid => ?_) hmem ht hid
      rw [hkept, List.getElem?_eq_none hge] at hid
      cases hid

end RequestInv

end Epoxy
