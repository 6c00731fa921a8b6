/-
A client and a server of the protocol, joined by a transport that hands on
each side's messages to the other in the order in which it got them.  Every
step is one of a handle, of an actor or of the arrival of a message, and they
interleave in any way.  Raw sends of an application are left out, since they
may be any packet at all.
-/
import Epoxy.ClientLifecycle
import Epoxy.Demultiplexing
import Epoxy.PacketCodec

namespace Epoxy

open ActionMachine ByteCursor KeyDirectory PollChannel

inductive Side where
  | client
  | server
deriving Repr, DecidableEq

/-- What was given to the transport. -/
def Report.packet : Report → Option Bytes
  | .actorWrote packet => some packet
  | .handleWrote _ packet => some packet
  | .opened _ => none
  | .closed _ => none

namespace Packet

/-- The stream and the payload of a Data packet. -/
def dataOf (message : Bytes) : Option (UInt32 × Bytes) :=
  match decode message with
  | .ok ⟨id, .data data⟩ => some (id, data)
  | _ => none

/-- The stream and the request of a Connect packet. -/
def connectOf (message : Bytes) : Option (UInt32 × ConnectPacket) :=
  match decode message with
  | .ok ⟨id, .connect connect⟩ => some (id, connect)
  | _ => none

end Packet

/-- The payloads for this stream, in order. -/
def dataFor (id : UInt32) (messages : List Bytes) : List Bytes :=
  (messages.filterMap Packet.dataOf).filterMap fun pair =>
    if pair.1 = id then some pair.2 else none

/-- The streams that are asked for, in order. -/
def connects (messages : List Bytes) : List (UInt32 × ConnectPacket) :=
  messages.filterMap Packet.connectOf

/-- The messages given to the transport, in order. -/
def sentIn (trace : List Report) : List Bytes :=
  trace.filterMap Report.packet

namespace Endpoint

def sent (endpoint : Endpoint) : List Bytes := sentIn endpoint.trace

/-- What the handles and the actor are observed to do in a step. -/
def observed (endpoint : Endpoint) (action : EndpointAction) :
    List Observation :=
  match endpoint.muxAction action with
  | some action => ((endpoint.world.step action).map (·.2)).getD []
  | none => []

/-- The stream ids by number. -/
def ids (endpoint : Endpoint) : List UInt32 :=
  endpoint.world.mux.directory.keys

end Endpoint

/-- What a side's own handles and its actor can do; only a client has streams
created for it, and packets of the peer come from the transport. -/
def EndpointAction.isLocal (side : Side) : EndpointAction → Bool
  | .mux (.event (.wispMessage _) _) => false
  | .mux (.event (.createStream _ _) _) => side = .client
  | .send _ _ _ _ => false
  | _ => true

/-- One side, with what was observed of it and the number of messages of the
other side that it has received. -/
structure Party where
  endpoint : Endpoint
  seen : List Observation
  received : Nat

namespace Party

def init (mux : MuxInner) : Party := ⟨.init mux, [], 0⟩

def act (party : Party) (action : EndpointAction) : Option Party :=
  (party.endpoint.step action).map fun next =>
    { party with
      endpoint := next
      seen := party.seen ++ party.endpoint.observed action }

/-- What a message is for the actor that gets it; one that is no packet ends
the actor's loop. -/
def arrival (message : Bytes) (send : SendAnswer) : MuxAction :=
  match Packet.decode message with
  | .ok packet => .event (.wispMessage packet) send
  | _ => .finish

/-- The next message of the other side is handled. -/
def receive (party : Party) (sent : List Bytes) (send : SendAnswer) :
    Option Party :=
  (sent[party.received]?).bind fun message =>
    (party.act (.mux (arrival message send))).map fun next =>
      { next with received := party.received + 1 }

end Party

structure Tunnel where
  client : Party
  server : Party

inductive TunnelAction where
  | act (side : Side) (action : EndpointAction)
  | receive (side : Side) (send : SendAnswer)

namespace Tunnel

/-- Each side has its own flow control and buffers. -/
def init (clientTypes serverTypes : List UInt8)
    (clientBuffer serverBuffer : UInt32) : Tunnel :=
  ⟨.init (.new .client clientTypes clientBuffer),
    .init (.new (.server .unbounded) serverTypes serverBuffer)⟩

def step (tunnel : Tunnel) : TunnelAction → Option Tunnel
  | .act .client action =>
      if action.isLocal .client then
        (tunnel.client.act action).map fun client => { tunnel with client }
      else none
  | .act .server action =>
      if action.isLocal .server then
        (tunnel.server.act action).map fun server => { tunnel with server }
      else none
  | .receive .client send =>
      (tunnel.client.receive tunnel.server.endpoint.sent send).map
        fun client => { tunnel with client }
  | .receive .server send =>
      (tunnel.server.receive tunnel.client.endpoint.sent send).map
        fun server => { tunnel with server }

def machine : Machine Tunnel TunnelAction := ⟨step⟩

end Tunnel

section Messages

theorem dataFor_append (id : UInt32) (first second : List Bytes) :
    dataFor id (first ++ second) = dataFor id first ++ dataFor id second := by
  simp [dataFor]

theorem dataFor_singleton (id : UInt32) (message : Bytes) :
    dataFor id [message] = ((Packet.dataOf message).bind fun pair =>
      if pair.1 = id then some pair.2 else none).toList := by
  cases h : Packet.dataOf message with
  | none => simp [dataFor, h]
  | some pair =>
      simp only [dataFor, List.filterMap_cons, h, List.filterMap_nil,
        Option.bind_some]
      cases hid : (if pair.1 = id then some pair.2 else none) with
      | none => rfl
      | some data => rfl

theorem dataFor_of_other {id : UInt32} {message : Bytes}
    (h : ∀ data, Packet.dataOf message ≠ some (id, data)) :
    dataFor id [message] = [] := by
  rw [dataFor_singleton]
  cases hdata : Packet.dataOf message with
  | none => rfl
  | some pair =>
      have hne : pair.1 ≠ id := by
        rintro rfl
        exact h pair.2 hdata
      simp [hne]

theorem connects_append (first second : List Bytes) :
    connects (first ++ second) = connects first ++ connects second :=
  List.filterMap_append

theorem sentIn_append (first second : List Report) :
    sentIn (first ++ second) = sentIn first ++ sentIn second :=
  List.filterMap_append

theorem sentIn_cons (report : Report) (rest : List Report) :
    sentIn (report :: rest) = report.packet.toList ++ sentIn rest := by
  cases hpacket : report.packet with
  | none => rw [sentIn, List.filterMap_cons_none hpacket]; rfl
  | some packet => rw [sentIn, List.filterMap_cons_some hpacket]; rfl

theorem Packet.head_of_decode {message : Bytes} {packet : Packet}
    (h : Packet.decode message = .ok packet) :
    Packet.head message =
      some (packet.packetType.getType, packet.streamId) := by
  obtain ⟨rest, rfl, -⟩ := Packet.encode_of_decode h
  rw [Packet.encode_eq, List.append_assoc, Packet.head_frame]

theorem Packet.head_of_dataOf {message : Bytes} {id : UInt32} {data : Bytes}
    (h : Packet.dataOf message = some (id, data)) :
    Packet.head message = some (0x02, id) := by
  unfold Packet.dataOf at h
  split at h
  · next hdecode =>
      obtain ⟨rfl, rfl⟩ := Prod.mk.inj (Option.some.inj h)
      exact Packet.head_of_decode hdecode
  · cases h

theorem Packet.head_of_connectOf {message : Bytes} {id : UInt32}
    {connect : ConnectPacket}
    (h : Packet.connectOf message = some (id, connect)) :
    Packet.head message = some (0x01, id) := by
  unfold Packet.connectOf at h
  split at h
  · next hdecode =>
      obtain ⟨rfl, rfl⟩ := Prod.mk.inj (Option.some.inj h)
      exact Packet.head_of_decode hdecode
  · cases h

theorem exists_of_dataFor {id : UInt32} {messages : List Bytes}
    (h : dataFor id messages ≠ []) :
    ∃ message ∈ messages, Packet.head message = some (0x02, id) := by
  obtain ⟨data, hdata⟩ := List.exists_mem_of_ne_nil _ h
  obtain ⟨⟨other, payload⟩, hpair, hsome⟩ := List.mem_filterMap.mp hdata
  obtain ⟨message, hmessage, hof⟩ := List.mem_filterMap.mp hpair
  split at hsome
  · next heq =>
      dsimp only at heq
      subst heq
      exact ⟨message, hmessage, Packet.head_of_dataOf hof⟩
  · cases hsome

end Messages

/-- What a handle of a stream gives to the transport: data or credit, under
the id of the stream. -/
def Packet.OfHandle (id : UInt32) (packet : Bytes) : Prop :=
  Packet.head packet = some (0x02, id) ∨ Packet.head packet = some (0x03, id)

section Handles

theorem Packet.ofHandle_newData (id : UInt32) (data : Bytes) :
    Packet.OfHandle id (Packet.newData id data).encode :=
  .inl (Packet.head_encode (.newData id data))

theorem Packet.ofHandle_newContinue (id amt : UInt32) :
    Packet.OfHandle id (Packet.newContinue id amt).encode :=
  .inr (Packet.head_encode (.newContinue id amt))

theorem ofHandle_of_data {id : UInt32} {chunk packet : Bytes}
    (h : packet ∈ [(Packet.newData id chunk).encode]) :
    Packet.OfHandle id packet := by
  rw [List.mem_singleton.mp h]
  exact Packet.ofHandle_newData id chunk

theorem Stream.ofHandle_pollNext {s : Stream} {sink : SinkAnswers}
    {packet : Bytes} (h : packet ∈ (s.pollNext sink).2.2) :
    Packet.OfHandle s.info.id packet := by
  have hdelivered : ∀ {read channel chunk result},
      MuxStreamRead.Delivered read channel s.info chunk sink result →
      packet ∈ result.sent → Packet.OfHandle s.info.id packet := by
    intro read channel chunk result hdelivered hpacket
    cases hdelivered with
    | settled | lockTaken | notReady | failed | refused => cases hpacket
    | announced =>
        rw [List.mem_singleton.mp hpacket]
        exact Packet.ofHandle_newContinue _ _
  have hpolled := s.read.polledNext s.channel s.info sink
  unfold Stream.pollNext at h
  generalize s.read.pollNext s.channel s.info sink = result at hpolled h
  cases hpolled with
  | disconnected | empty => cases h
  | saved _ _ _ _ hresult => exact hdelivered hresult h
  | popped _ _ _ _ _ _ hresult => exact hdelivered hresult h

variable {write : MuxStreamWrite} {info : StreamInfo} {sink : SinkAnswers}
  {result : WritePoll} {packet : Bytes}

theorem MuxStreamWrite.LockedWritten.ofHandle
    (h : LockedWritten write info sink result)
    (hpacket : packet ∈ result.sent) :
    Packet.OfHandle info.id packet := by
  cases h with
  | notReady | failed | refused | nothing => cases hpacket
  | written => exact ofHandle_of_data hpacket

theorem MuxStreamWrite.PolledReady.ofHandle {actorGone : Bool} {cx : Waker}
    (h : PolledReady write info actorGone cx sink result)
    (hpacket : packet ∈ result.sent) : Packet.OfHandle info.id packet := by
  cases h with
  | closed | parked | nothing | lockTaken => cases hpacket
  | kept _ _ _ _ _ hwritten => exact hwritten.ofHandle hpacket
  | written => exact ofHandle_of_data hpacket

theorem MuxStreamWrite.PolledFlush.ofHandle
    (h : PolledFlush write info sink result) (hpacket : packet ∈ result.sent) :
    Packet.OfHandle info.id packet := by
  cases h with
  | lockTaken | nothing => cases hpacket
  | kept _ _ _ hwritten => exact hwritten.ofHandle hpacket
  | written => exact ofHandle_of_data hpacket

theorem MuxStreamAsyncWrite.ofHandle_pollWrite {write : MuxStreamAsyncWrite}
    {buf : Bytes} (hpacket : packet ∈ (write.pollWrite info buf sink).sent) :
    Packet.OfHandle info.id packet := by
  unfold pollWrite at hpacket
  split at hpacket
  · cases hpacket
  · split at hpacket
    · cases hpacket
    · cases hpacket
    · split at hpacket
      · cases hpacket
      · exact ofHandle_of_data hpacket

end Handles

/-- What a step can report. -/
inductive Endpoint.Reports (endpoint : Endpoint) (action : EndpointAction) :
    Report → Prop where
  | connect (connect : ConnectPacket) (channel : Nat) (send : SendAnswer)
      (haction : action = .mux (.event (.createStream connect channel) send)) :
      Reports endpoint action (.actorWrote (Packet.encode
        ⟨endpoint.world.mux.currentId + 1, .connect connect⟩))
  | close (packet : Packet) (hclose : packet.packetType.getType = 0x04) :
      Reports endpoint action (.actorWrote packet.encode)
  | handle (stream : Nat) (id : UInt32) (packet : Bytes)
      (hid : endpoint.ids[stream]? = some id)
      (hpacket : Packet.OfHandle id packet) :
      Reports endpoint action (.handleWrote stream packet)
  | opened (stream : Nat) : Reports endpoint action (.opened stream)
  | closed (stream : Nat) : Reports endpoint action (.closed stream)

/-- What an event has the actor send. -/
theorem MuxInner.sent_handleEvent {mux : MuxInner} {event : WsEvent}
    {send : SendAnswer} {message : Bytes}
    (h : message ∈ (mux.handleEvent event send).sent) :
    (∃ connect channel, event = .createStream connect channel ∧
      message = Packet.encode ⟨mux.currentId + 1, .connect connect⟩) ∨
    ∃ packet : Packet, packet.packetType.getType = 0x04 ∧
      message = packet.encode := by
  have heq : ∀ {packet : Packet} {sent : List Bytes},
      (send.result ≠ .ok () ∧ sent = []) ∨ sent = [packet.encode] →
      message ∈ sent → message = packet.encode := by
    intro packet sent hsent hmem
    rcases hsent with ⟨-, rfl⟩ | rfl
    · cases hmem
    · exact List.mem_singleton.mp hmem
  cases event with
  | close id close channel =>
      simp only [handleEvent, handleClose] at h
      split at h
      · exact .inr ⟨_, rfl, heq (taken_cases send _) h⟩
      · cases h
  | createStream connect channel =>
      left
      refine ⟨connect, channel, rfl, ?_⟩
      by_cases hlt : mux.currentId.toNat + 1 < 2 ^ 32
      · obtain ⟨created, hcreated, -⟩ :=
          createStream_of_lt connect.streamType hlt
        simp only [handleEvent, handleCreateStream, hcreated] at h
        cases hresult : send.result with
        | ok =>
            simp only [hresult] at h
            exact heq (taken_cases send _) h
        | error error =>
            simp only [hresult] at h
            exact heq (taken_cases send _) h
      · have hfull := createStream_of_full connect.streamType hlt
        simp only [handleEvent, handleCreateStream, hfull] at h
        cases h
  | wispMessage packet => cases h
  | endFut reason =>
      cases reason with
      | none => cases h
      | some reason => exact .inr ⟨_, rfl, heq (taken_cases send _) h⟩

namespace Endpoint

variable {endpoint next : Endpoint}

theorem ids_of_heap {stream : Nat} {s : Stream}
    (hs : endpoint.world.mux.heap[stream]? = some s) :
    endpoint.ids[stream]? = some s.info.id := by
  simp [ids, MuxInner.directory, hs]

/-- What an event of the actor reports. -/
theorem reports_event {event : WsEvent} {send : SendAnswer}
    (h : endpoint.stepMux (.event event send) = some next)
    {action : EndpointAction}
    (haction : ∀ connect channel, event = .createStream connect channel →
      action = .mux (.event event send)) :
    ∃ reports, next.trace = endpoint.trace ++ reports ∧
      ∀ report ∈ reports, endpoint.Reports action report := by
  obtain ⟨-, -, -, htrace⟩ := stepMux_event h
  refine ⟨_, htrace, fun report hreport => ?_⟩
  simp only [List.mem_append, List.mem_map, List.mem_flatMap] at hreport
  rcases hreport with ⟨stream, -, rfl⟩ |
    (⟨stream, -, rfl⟩ | ⟨message, hmessage, rfl⟩) | ⟨reply, -, hreply⟩
  · exact .opened stream
  · exact .closed stream
  · rcases MuxInner.sent_handleEvent hmessage with
      ⟨connect, channel, rfl, rfl⟩ | ⟨packet, hclose, rfl⟩
    · exact .connect connect channel send (haction connect channel rfl)
    · exact .close packet hclose
  · rcases reply with ⟨channel, stream | result⟩
    · cases stream with
      | error error => cases hreply
      | ok stream =>
          rw [List.mem_singleton.mp hreply]
          exact .opened stream
    · cases hreply

/-- What a step of a handle reports. -/
theorem reports_update {action : MuxAction} {stream : Nat}
    {outer : EndpointAction} {f : Stream → Stream × List Observation}
    (hhandle : action.handle = some stream)
    (hstep : endpoint.world.step action = endpoint.world.update stream f)
    (hoffered : endpoint.world.offered action = [])
    (hseen : ∀ s, ∀ observation ∈ (f s).2,
      (∃ answer, observation = .polled stream answer) ∨
      ∃ packet, observation = .wrote packet ∧
        Packet.OfHandle s.info.id packet)
    (h : endpoint.stepMux action = some next) :
    ∃ reports, next.trace = endpoint.trace ++ reports ∧
      ∀ report ∈ reports, endpoint.Reports outer report := by
  obtain ⟨seen, htaken, htrace⟩ := stepMux_eq_some h
  rw [hstep] at htaken
  simp only [MuxWorld.update, Option.map_eq_some_iff, Prod.mk.injEq] at htaken
  obtain ⟨s, hs, -, rfl⟩ := htaken
  refine ⟨_, htrace, fun report hreport => ?_⟩
  rw [hoffered, List.map_nil, List.nil_append, List.mem_flatMap] at hreport
  obtain ⟨observation, hobservation, hreport⟩ := hreport
  rcases hseen s observation hobservation with
    ⟨answer, rfl⟩ | ⟨packet, rfl, hpacket⟩
  · cases hreport
  · simp only [MuxWorld.report, hhandle, List.mem_singleton] at hreport
    subst hreport
    exact .handle stream s.info.id packet (ids_of_heap hs) hpacket

/-- What a write that bypasses the multiplexor reports. -/
theorem reports_write {action : EndpointAction} {stream : Nat}
    {info : StreamInfo} {packets : List Bytes}
    (hinfo : endpoint.handleInfo stream = some info)
    (hpackets : ∀ packet ∈ packets, Packet.OfHandle info.id packet) :
    ∀ report ∈ packets.map (Report.handleWrote stream),
      endpoint.Reports action report := by
  intro report hreport
  obtain ⟨packet, hpacket, rfl⟩ := List.mem_map.mp hreport
  obtain ⟨-, s, hs, rfl⟩ := handleInfo_eq_some hinfo
  exact .handle stream s.info.id packet (ids_of_heap hs)
    (hpackets packet hpacket)

theorem reports_step {action : EndpointAction}
    (hraw : ∀ stream packetType data answer,
      action ≠ .send stream packetType data answer)
    (h : endpoint.step action = some next) :
    ∃ reports, next.trace = endpoint.trace ++ reports ∧
      ∀ report ∈ reports, endpoint.Reports action report := by
  cases action with
  | close stream close channel send =>
      simp only [step, Option.bind_eq_some_iff, Option.map_eq_some_iff] at h
      obtain ⟨info, -, mid, hmid, rfl⟩ := h
      have hevent : ∃ reports, mid.trace = endpoint.trace ++ reports ∧
          ∀ report ∈ reports,
            endpoint.Reports (.close stream close channel send) report :=
        reports_event hmid fun connect channel heq => by cases heq
      obtain ⟨reports, htrace, hreports⟩ := hevent
      refine ⟨reports ++ endpoint.closeReport stream info.id send, ?_, ?_⟩
      · simp only [htrace, List.append_assoc]
      · intro report hreport
        rcases List.mem_append.mp hreport with hmem | hmem
        · exact hreports report hmem
        · unfold closeReport at hmem
          split at hmem
          · rw [List.mem_singleton.mp hmem]
            exact .closed stream
          · cases hmem
  | mux action =>
      obtain ⟨-, -, hmux⟩ := step_mux h
      cases action with
      | event event send => exact reports_event hmux fun _ _ _ => rfl
      | finish =>
          obtain ⟨seen, hstep, htrace⟩ := stepMux_eq_some hmux
          obtain ⟨-, -, rfl⟩ := MuxWorld.step_finish_eq_some hstep
          refine ⟨_, htrace, fun report hreport => ?_⟩
          simp [MuxWorld.offered, MuxWorld.report] at hreport
      | pollNext stream sink =>
          refine reports_update rfl rfl rfl (fun s observation hmem => ?_) hmux
          rcases List.mem_cons.mp hmem with rfl | hmem
          · exact .inl ⟨_, rfl⟩
          · obtain ⟨packet, hpacket, rfl⟩ := List.mem_map.mp hmem
            exact .inr ⟨packet, rfl, Stream.ofHandle_pollNext hpacket⟩
      | pollReady stream cx sink =>
          refine reports_update rfl rfl rfl (fun s observation hmem => ?_) hmux
          obtain ⟨packet, hpacket, rfl⟩ := List.mem_map.mp hmem
          exact .inr ⟨packet, rfl,
            (s.write.polledReady s.info _ cx sink).ofHandle hpacket⟩
      | startSend stream item =>
          exact reports_update rfl rfl rfl
            (fun s observation hmem => by cases hmem) hmux
      | pollFlush stream sink =>
          refine reports_update rfl rfl rfl (fun s observation hmem => ?_) hmux
          obtain ⟨packet, hpacket, rfl⟩ := List.mem_map.mp hmem
          exact .inr ⟨packet, rfl,
            (s.write.polledFlush s.info sink).ofHandle hpacket⟩
      | dropRead stream =>
          exact reports_update rfl rfl rfl
            (fun s observation hmem => by cases hmem) hmux
  | pollWrite stream write buf sink =>
      simp only [step, Option.map_eq_some_iff] at h
      obtain ⟨info, hinfo, rfl⟩ := h
      exact ⟨_, rfl, reports_write hinfo fun packet hpacket =>
        write.ofHandle_pollWrite hpacket⟩
  | send stream packetType data answer => exact absurd rfl (hraw _ _ _ _)

end Endpoint

end Epoxy
