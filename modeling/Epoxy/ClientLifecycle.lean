/-
The life of a client's streams on the wire.  Ids are counted up and never used
again, each stream is announced before anything else is sent for it, and the
actor closes it at most once.
-/
import Epoxy.StreamIsolation

namespace Epoxy

open ActionMachine ByteCursor KeyDirectory PollChannel

namespace Report

/-- The kind and the stream of a packet. -/
def head : Report → Option (UInt8 × UInt32)
  | .actorWrote packet => Packet.head packet
  | .handleWrote _ packet => Packet.head packet
  | .opened _ => none
  | .closed _ => none

/-- The same, of a packet of the actor. -/
def actorHead : Report → Option (UInt8 × UInt32)
  | .actorWrote packet => Packet.head packet
  | _ => none

end Report

/-- How often the actor gave the transport a packet of this kind for this
stream. -/
def actorSent (ty : UInt8) (id : UInt32) (trace : List Report) : Nat :=
  trace.countP fun report => report.actorHead = some (ty, id)

/-- The ids that an action allocates. -/
def Endpoint.allocates (endpoint : Endpoint) : EndpointAction → List UInt32
  | .mux (.event (.createStream connect _) _) =>
      match (endpoint.world.mux.createStream connect.streamType).2 with
      | .ok (_, id) => [id]
      | .error _ => []
  | _ => []

/-- Data and closes of a stream come after its connect. -/
def ConnectFirst (trace : List Report) : Prop :=
  ∀ before report after id, trace = before ++ report :: after → id ≠ 0 →
    report.head = some (0x02, id) ∨ report.head = some (0x04, id) →
    1 ≤ actorSent 0x01 id before

/-- The lifecycle that a run of a client which led to this state obeyed. -/
structure ClientLifecycle (init : Endpoint) (actions : List EndpointAction)
    (endpoint : Endpoint) : Prop where
  /-- The ids are 1, 2, 3, and so on. -/
  allocated : (Endpoint.machine.collect Endpoint.allocates init actions).map
    UInt32.toNat = List.range' 1 endpoint.world.mux.currentId.toNat
  /-- When all ids are used up a request is refused and changes nothing. -/
  full : endpoint.world.mux.currentId.toNat + 1 = 2 ^ 32 →
    ∀ connect channel send,
      endpoint.world.mux.handleEvent (.createStream connect channel) send =
        ⟨endpoint.world.mux, .ok false, [],
          [(channel, .created (.error .maxStreamCountReached))]⟩
  keys : endpoint.world.phase = .running → ∀ id number,
    endpoint.world.mux.streams.lookup id = some number →
      1 ≤ id.toNat ∧ id.toNat ≤ endpoint.world.mux.currentId.toNat ∧
        ∃ s, endpoint.world.mux.heap[number]? = some s ∧ s.info.id = id
  connectOnce : ∀ id, actorSent 0x01 id endpoint.trace ≤ 1
  closeOnce : ∀ id, actorSent 0x04 id endpoint.trace ≤ 1
  connectFirst : ConnectFirst endpoint.trace
  /-- The actor does not close what the peer closed after its id was
  allocated. -/
  closedByPeer : ∀ before after id close send mid,
    actions =
      before ++ .mux (.event (.wispMessage ⟨id, .close close⟩) send) :: after →
    Endpoint.machine.run init before = some mid →
    id.toNat ≤ mid.world.mux.currentId.toNat →
    actorSent 0x04 id endpoint.trace = actorSent 0x04 id mid.trace

theorem actorSent_append (ty : UInt8) (id : UInt32)
    (first second : List Report) :
    actorSent ty id (first ++ second) =
      actorSent ty id first + actorSent ty id second := List.countP_append

theorem actorSent_of_silent {ty : UInt8} {id : UInt32} {reports : List Report}
    (h : ∀ report ∈ reports, report.actorHead = none) :
    actorSent ty id reports = 0 := by
  refine List.countP_eq_zero.mpr fun report hreport => ?_
  rw [h report hreport]
  simp

theorem actorSent_wrote (ty : UInt8) (id : UInt32) (packet : Packet) :
    actorSent ty id [.actorWrote packet.encode] =
      if (packet.packetType.getType, packet.streamId) = (ty, id) then 1
      else 0 := by
  simp only [actorSent, List.countP_singleton, Report.actorHead,
    Packet.head_encode, Option.some.injEq, decide_eq_true_eq]

theorem ConnectFirst.append {trace reports : List Report}
    (h : ConnectFirst trace)
    (hreports : ∀ report ∈ reports, ∀ id, id ≠ 0 →
      report.head = some (0x02, id) ∨ report.head = some (0x04, id) →
      1 ≤ actorSent 0x01 id trace) : ConnectFirst (trace ++ reports) := by
  intro before report after id hsplit hid hhead
  rcases List.append_eq_append_iff.mp hsplit with
    ⟨rest, rfl, hrest⟩ | ⟨rest, hrest, hlast⟩
  · have hconnect := hreports report (by simp [hrest]) id hid hhead
    rw [actorSent_append]
    exact Nat.le_add_right_of_le hconnect
  · cases rest with
    | nil =>
        rw [List.append_nil] at hrest
        rw [List.nil_append] at hlast
        rw [← hrest]
        exact hreports report (by simp [← hlast]) id hid hhead
    | cons first rest =>
        obtain ⟨rfl, -⟩ := List.cons.inj hlast
        exact h before report rest id hrest hid hhead

namespace MuxInner

theorem currentId_closeStream (mux : MuxInner) (id : UInt32)
    (close : ClosePacket) :
    (mux.closeStream id close).currentId = mux.currentId :=
  mux.currentId_modify id _

theorem createStream_of_lt {mux : MuxInner} (ty : StreamType)
    (hlt : mux.currentId.toNat + 1 < 2 ^ 32) :
    ∃ created, mux.createStream ty =
        (created, .ok (mux.heap.length, mux.currentId + 1)) ∧
      created.currentId = mux.currentId + 1 := by
  simp only [createStream, if_pos hlt]
  exact ⟨_, rfl, currentId_modify _ _ _⟩

/-- A client refuses to have a stream opened for it. -/
theorem handlePacket_connect_of_client {mux : MuxInner} (id : UInt32)
    (connect : ConnectPacket) (hclient : mux.actor = .client) :
    ∃ added, mux.handlePacket ⟨id, .connect connect⟩ =
        (added, .error (.invalidPacketType 0x01)) ∧
      added.currentId = mux.currentId := by
  have hactor : (mux.addStream id connect.streamType).1.actor = .client := by
    rw [← hclient]
    exact mux.actor_modify id _
  simp only [handlePacket, handleConnectPacket, hactor]
  exact ⟨_, rfl, mux.currentId_modify id _⟩

theorem createStream_of_full {mux : MuxInner} (ty : StreamType)
    (hfull : ¬ mux.currentId.toNat + 1 < 2 ^ 32) :
    mux.createStream ty = (mux, .error .maxStreamCountReached) := by
  simp only [createStream, if_neg hfull]

end MuxInner

/-- The streams, the ids and the actor are where they were. -/
structure SameStreams (world next : MuxWorld) : Prop where
  currentId : next.mux.currentId = world.mux.currentId
  phase : next.phase = world.phase
  directory : next.mux.directory = world.mux.directory

/-- Reports that are about no packet and no new stream. -/
def Quiet (reports : List Report) : Prop :=
  ∀ report ∈ reports, ∃ stream, report = .closed stream

namespace Quiet

variable {reports : List Report}

theorem not_opened (h : Quiet reports) (stream : Nat) :
    .opened stream ∉ reports := by
  intro hmem
  obtain ⟨other, hother⟩ := h _ hmem
  cases hother

theorem head_eq_none (h : Quiet reports) {report : Report}
    (hreport : report ∈ reports) : report.head = none := by
  obtain ⟨stream, rfl⟩ := h report hreport
  rfl

theorem actorSent_eq_zero (h : Quiet reports) (ty : UInt8) (id : UInt32) :
    actorSent ty id reports = 0 := by
  refine actorSent_of_silent fun report hreport => ?_
  obtain ⟨stream, rfl⟩ := h report hreport
  rfl

end Quiet

/-- What a step of a client can do, as far as its lifecycle goes. -/
inductive ClientStep (endpoint : Endpoint) (action : EndpointAction)
    (next : Endpoint) : Prop where
  | quiet
      (hallocates : endpoint.allocates action = [])
      (hsame : SameStreams endpoint.world next.world)
      (htrace : next.trace = endpoint.trace)
  | handle (stream : Nat) (id : UInt32) (packets : List Bytes)
      (hallocates : endpoint.allocates action = [])
      (hopened : .opened stream ∈ endpoint.trace)
      (hid : endpoint.world.mux.directory.keys[stream]? = some id)
      (hnames : ∀ packet ∈ packets, Packet.Names id packet)
      (hsame : SameStreams endpoint.world next.world)
      (htrace : next.trace =
        endpoint.trace ++ packets.map (.handleWrote stream))
  | request (connect : ConnectPacket) (sent opened : List Report)
      (hallocates : endpoint.allocates action =
        [endpoint.world.mux.currentId + 1])
      (hlt : endpoint.world.mux.currentId.toNat + 1 < 2 ^ 32)
      (hrunning : endpoint.world.phase = .running)
      (hcurrentId : next.world.mux.currentId =
        endpoint.world.mux.currentId + 1)
      (hdirectory : next.world.mux.directory = endpoint.world.mux.directory.move
        (.add (endpoint.world.mux.currentId + 1)))
      (hsent : sent = [] ∨ sent = [.actorWrote
        (Packet.encode ⟨endpoint.world.mux.currentId + 1, .connect connect⟩)])
      (hopened : opened = [] ∨ sent ≠ [] ∧
        opened = [.opened endpoint.world.mux.directory.keys.length])
      (htrace : next.trace = endpoint.trace ++ (sent ++ opened))
  | close (stream : Nat) (id : UInt32) (close : ClosePacket)
      (sent noise : List Report)
      (hallocates : endpoint.allocates action = [])
      (hrunning : endpoint.world.phase = .running)
      (hopened : .opened stream ∈ endpoint.trace)
      (hid : endpoint.world.mux.directory.keys[stream]? = some id)
      (hfound : endpoint.world.mux.directory.find id ≠ none)
      (hcurrentId : next.world.mux.currentId = endpoint.world.mux.currentId)
      (hdirectory : next.world.mux.directory =
        endpoint.world.mux.directory.move (.remove id))
      (hsent : sent = [] ∨
        sent = [.actorWrote (Packet.encode ⟨id, .close close⟩)])
      (hnoise : Quiet noise)
      (htrace : next.trace = endpoint.trace ++ (sent ++ noise))
  | peerClose (id : UInt32) (noise : List Report)
      (hallocates : endpoint.allocates action = [])
      (hrunning : endpoint.world.phase = .running)
      (hcurrentId : next.world.mux.currentId = endpoint.world.mux.currentId)
      (hdirectory : next.world.mux.directory =
        endpoint.world.mux.directory.move (.remove id))
      (hnoise : Quiet noise)
      (htrace : next.trace = endpoint.trace ++ noise)
  | leave (move : Move UInt32) (sent noise : List Report)
      (hallocates : endpoint.allocates action = [])
      (hphase : next.world.phase ≠ .running)
      (hcurrentId : next.world.mux.currentId = endpoint.world.mux.currentId)
      (hdirectory : next.world.mux.directory =
        endpoint.world.mux.directory.move move)
      (hsent : sent = [] ∨ endpoint.world.phase = .running ∧
        ∃ reason, sent = [.actorWrote (Packet.newClose 0 reason).encode])
      (hnoise : Quiet noise)
      (htrace : next.trace = endpoint.trace ++ (sent ++ noise))

namespace ClientStep

variable {endpoint next : Endpoint}

theorem of_createStream {connect : ConnectPacket} {channel : Nat}
    {send : SendAnswer}
    (h : endpoint.stepMux (.event (.createStream connect channel) send) =
      some next) :
    ClientStep endpoint (.mux (.event (.createStream connect channel) send))
      next := by
  obtain ⟨hrunning, hmux, hphase, htrace⟩ := Endpoint.stepMux_event h
  have hmove := endpoint.world.mux.directory_handleEvent
    (.createStream connect channel) send
  rw [← hmux] at hmove
  by_cases hlt : endpoint.world.mux.currentId.toNat + 1 < 2 ^ 32
  · obtain ⟨created, hcreated, hcurrentId⟩ :=
      MuxInner.createStream_of_lt connect.streamType hlt
    have hallocates : endpoint.allocates
        (.mux (.event (.createStream connect channel) send)) =
          [endpoint.world.mux.currentId + 1] := by
      simp only [Endpoint.allocates, hcreated]
    have hlength : endpoint.world.mux.directory.keys.length =
        endpoint.world.mux.heap.length := List.length_map _
    simp only [MuxInner.eventMove, if_pos hlt] at hmove
    simp only [MuxInner.handleEvent, MuxInner.handleCreateStream, hcreated]
      at hmux htrace
    cases hresult : send.result with
    | ok =>
        simp only [hresult] at hmux htrace
        rcases MuxInner.taken_cases send
            ⟨endpoint.world.mux.currentId + 1, .connect connect⟩ with
          ⟨hfailed, -⟩ | htaken
        · exact absurd hresult hfailed
        · refine .request connect _ [.opened _] hallocates hlt hrunning ?_ hmove
            (.inr rfl) (.inr ⟨List.cons_ne_nil _ _, rfl⟩) ?_
          · rw [hmux]
            exact hcurrentId
          · rw [htrace, htaken, hlength]
            rfl
    | error error =>
        simp only [hresult] at hmux htrace
        have hcurrent : next.world.mux.currentId =
            endpoint.world.mux.currentId + 1 := by
          rw [hmux]
          exact hcurrentId
        rcases MuxInner.taken_cases send
            ⟨endpoint.world.mux.currentId + 1, .connect connect⟩ with
          ⟨-, htaken⟩ | htaken
        · refine .request connect [] [] hallocates hlt hrunning hcurrent hmove
            (.inl rfl) (.inl rfl) ?_
          rw [htrace, htaken]
          rfl
        · refine .request connect _ [] hallocates hlt hrunning hcurrent hmove
            (.inr rfl) (.inl rfl) ?_
          rw [htrace, htaken]
          rfl
  · have hfull := MuxInner.createStream_of_full connect.streamType hlt
    simp only [MuxInner.handleEvent, MuxInner.handleCreateStream, hfull]
      at hmux hphase htrace
    refine .quiet ?_ ⟨?_, ?_, ?_⟩ ?_
    · simp only [Endpoint.allocates, hfull]
    · rw [hmux]
    · rw [hrunning]
      exact hphase.mpr trivial
    · rw [hmux]
    · rw [htrace]
      exact List.append_nil _

theorem of_close {stream channel : Nat} {close : ClosePacket}
    {send : SendAnswer}
    (h : endpoint.step (.close stream close channel send) = some next) :
    ClientStep endpoint (.close stream close channel send) next := by
  obtain ⟨s, hopened, hs, -, hmux, -⟩ := Endpoint.step_close h
  simp only [Endpoint.step, Option.bind_eq_some_iff,
    Option.map_eq_some_iff] at h
  obtain ⟨info, hinfo, mid, hmid, rfl⟩ := h
  obtain ⟨-, t, ht, rfl⟩ := Endpoint.handleInfo_eq_some hinfo
  obtain rfl := Option.some.inj (hs.symm.trans ht)
  obtain ⟨hrunning, -, hphase, htrace⟩ := Endpoint.stepMux_event hmid
  have hmove := endpoint.world.mux.directory_handleEvent
    (.close s.info.id close channel) send
  have hid : endpoint.world.mux.directory.keys[stream]? = some s.info.id := by
    simp [MuxInner.directory, hs]
  simp only [MuxInner.handleEvent, MuxInner.handleClose]
    at hmux hphase htrace hmove
  cases hfind : endpoint.world.mux.streams.lookup s.info.id with
  | none =>
      simp only [hfind] at hmux hphase htrace
      refine .quiet rfl ⟨?_, ?_, ?_⟩ ?_
      · exact congrArg MuxInner.currentId hmux
      · exact (hphase.mpr trivial).trans hrunning.symm
      · exact congrArg MuxInner.directory hmux
      · simp only [Endpoint.closeReport, hfind, List.append_nil]
        rw [htrace]
        exact List.append_nil _
  | some number =>
      simp only [hfind] at hmux hphase htrace hmove
      have hcurrentId : mid.world.mux.currentId =
          endpoint.world.mux.currentId := by
        rw [hmux]
        exact endpoint.world.mux.currentId_closeStream s.info.id close
      have hfound : endpoint.world.mux.directory.find s.info.id ≠ none := by
        rw [show endpoint.world.mux.directory.find s.info.id = some number
          from hfind]
        exact Option.some_ne_none number
      have hnoise : Quiet (endpoint.closeReport stream s.info.id send) := by
        intro report hreport
        simp only [Endpoint.closeReport] at hreport
        split at hreport
        · exact ⟨stream, List.mem_singleton.mp hreport⟩
        · cases hreport
      rw [← hmux] at hmove
      rcases MuxInner.taken_cases send ⟨s.info.id, .close close⟩ with
        ⟨-, htaken⟩ | htaken
      · refine .close stream s.info.id close [] _ rfl hrunning hopened hid
          hfound hcurrentId hmove (.inl rfl) hnoise ?_
        rw [htrace, htaken]
        simp [MuxWorld.offered, MuxWorld.peerEnds, Reply.reports]
      · refine .close stream s.info.id close _ _ rfl hrunning hopened hid
          hfound hcurrentId hmove (.inr rfl) hnoise ?_
        rw [htrace, htaken]
        simp [MuxWorld.offered, MuxWorld.peerEnds, Reply.reports]

/-- A packet of the peer is refused, ends the actor, removes its stream, or
leaves all streams where they are. -/
theorem of_wispMessage {packet : Packet} {send : SendAnswer}
    (hclient : endpoint.world.mux.actor = .client)
    (h : endpoint.stepMux (.event (.wispMessage packet) send) = some next) :
    ClientStep endpoint (.mux (.event (.wispMessage packet) send)) next := by
  obtain ⟨hrunning, hmux, hphase, htrace⟩ := Endpoint.stepMux_event h
  have hmove := endpoint.world.mux.directory_handleEvent
    (.wispMessage packet) send
  rw [← hmux] at hmove
  obtain ⟨id, packetType⟩ := packet
  simp only [MuxInner.handleEvent] at hmux hphase htrace
  cases packetType with
  | connect connect =>
      obtain ⟨added, hadded, hcurrentId⟩ :=
        MuxInner.handlePacket_connect_of_client id connect hclient
      simp only [hadded] at hmux hphase htrace
      refine .leave _ [] [] rfl ?_ ?_ hmove (.inl rfl) ?_ ?_
      · intro hleft
        cases hphase.mp hleft
      · rw [hmux]
        exact hcurrentId
      · intro report hreport
        cases hreport
      · rw [htrace]
        simp only [MuxWorld.offered, hadded]
        rfl
  | data data =>
      refine .quiet rfl ⟨?_, ?_, ?_⟩ ?_
      · rw [hmux]
        exact MuxInner.currentId_modify _ _ _
      · rw [hrunning]
        exact hphase.mpr rfl
      · exact hmove
      · rw [htrace]
        exact List.append_nil _
  | cont cont =>
      have hhandled : endpoint.world.mux.handlePacket ⟨id, .cont cont⟩ =
          (endpoint.world.mux.modify id fun stream =>
            ClientActor.handleContinuePacket stream cont, .ok false) := by
        simp only [MuxInner.handlePacket, MuxInner.handleContinuePacket,
          hclient]
        rfl
      rw [hhandled] at hmux hphase
      refine .quiet rfl ⟨?_, ?_, ?_⟩ ?_
      · rw [hmux]
        exact MuxInner.currentId_modify _ _ _
      · rw [hrunning]
        exact hphase.mpr rfl
      · exact hmove
      · rw [htrace]
        exact List.append_nil _
  | close close =>
      have hnoise : Quiet ((endpoint.world.peerEnds
          (.event (.wispMessage ⟨id, .close close⟩) send)).map .closed) := by
        intro report hreport
        obtain ⟨stream, -, rfl⟩ := List.mem_map.mp hreport
        exact ⟨stream, rfl⟩
      have htrace' : next.trace = endpoint.trace ++ (endpoint.world.peerEnds
          (.event (.wispMessage ⟨id, .close close⟩) send)).map .closed := by
        rw [htrace]
        simp [MuxWorld.offered]
      by_cases hid : id = 0
      · subst hid
        refine .leave _ [] _ rfl ?_ ?_ hmove (.inl rfl) hnoise htrace'
        · intro hleft
          cases hphase.mp hleft
        · rw [hmux]
          rfl
      · have hhandled : endpoint.world.mux.handlePacket ⟨id, .close close⟩ =
            (endpoint.world.mux.closeStream id close, .ok false) := by
          simp only [MuxInner.handlePacket, MuxInner.handleClosePacket,
            if_neg hid]
        refine .peerClose id _ rfl hrunning ?_ ?_ hnoise htrace'
        · rw [hmux, hhandled]
          exact MuxInner.currentId_closeStream _ _ _
        · rw [hmove]
          simp only [MuxInner.eventMove, if_neg hid]

theorem of_endFut {reason : Option CloseReason} {send : SendAnswer}
    (h : endpoint.stepMux (.event (.endFut reason) send) = some next) :
    ClientStep endpoint (.mux (.event (.endFut reason) send)) next := by
  obtain ⟨hrunning, hmux, hphase, htrace⟩ := Endpoint.stepMux_event h
  have hmove := endpoint.world.mux.directory_handleEvent (.endFut reason) send
  rw [← hmux] at hmove
  cases reason with
  | none =>
      refine .leave _ [] [] rfl ?_ ?_ hmove (.inl rfl) nofun ?_
      · intro hleft
        exact nomatch hphase.mp hleft
      · rw [hmux]
        rfl
      · rw [htrace]
        rfl
  | some reason =>
      have hleft : next.world.phase ≠ .running := fun hrunning =>
        nomatch hphase.mp hrunning
      have hcurrentId : next.world.mux.currentId =
          endpoint.world.mux.currentId := by
        rw [hmux]
        rfl
      simp only [MuxInner.handleEvent] at htrace
      rcases MuxInner.taken_cases send (.newClose 0 reason) with
        ⟨-, htaken⟩ | htaken
      · refine .leave _ [] [] rfl hleft hcurrentId hmove (.inl rfl) nofun ?_
        rw [htrace, htaken]
        rfl
      · refine .leave _ _ [] rfl hleft hcurrentId hmove
          (.inr ⟨hrunning, reason, rfl⟩) nofun ?_
        rw [htrace, htaken]
        rfl

theorem of_finish (h : endpoint.stepMux .finish = some next) :
    ClientStep endpoint (.mux .finish) next := by
  obtain ⟨seen, hstep, htrace⟩ := Endpoint.stepMux_eq_some h
  have hmove := MuxWorld.directory_step hstep
  obtain ⟨-, hworld, rfl⟩ := MuxWorld.step_finish_eq_some hstep
  refine .leave _ [] [] rfl ?_ ?_ hmove (.inl rfl) ?_ ?_
  · rw [hworld]
    intro hleft
    cases hleft
  · rw [hworld]
    rfl
  · intro report hreport
    cases hreport
  · rw [htrace, List.flatMap_map]
    simp [MuxWorld.offered, MuxWorld.report]

/-- A handle's poll changes its own stream, and writes for no other. -/
theorem of_update {action : MuxAction} {stream : Nat}
    {f : Stream → Stream × List Observation} (sent : Stream → List Bytes)
    (hallocates : endpoint.allocates (.mux action) = [])
    (hoffered : endpoint.world.offered action = [])
    (hopened : .opened stream ∈ endpoint.trace)
    (hstep : endpoint.world.step action = endpoint.world.update stream f)
    (hsame : ∀ s, SameStream s (f s).1)
    (hnames : ∀ s, ∀ packet ∈ sent s, Packet.Names s.info.id packet)
    (hreports : ∀ s, (f s).2.flatMap (MuxWorld.report action) =
      (sent s).map (.handleWrote stream))
    (h : endpoint.stepMux action = some next) :
    ClientStep endpoint (.mux action) next := by
  obtain ⟨seen, hseen, htrace⟩ := Endpoint.stepMux_eq_some h
  rw [hstep] at hseen
  have hdirectory := MuxWorld.directory_update hsame hseen
  simp only [MuxWorld.update, Option.map_eq_some_iff, Prod.mk.injEq] at hseen
  obtain ⟨s, hs, hworld, rfl⟩ := hseen
  refine .handle stream s.info.id (sent s) hallocates hopened ?_ (hnames s)
    ⟨?_, ?_, hdirectory⟩ ?_
  · simp [MuxInner.directory, hs]
  · rw [← hworld]
  · rw [← hworld]
  · rw [htrace, hoffered, hreports s]
    rfl

theorem of_handle {action : MuxAction} {stream : Nat}
    (hhandle : action.handle = some stream)
    (hopened : .opened stream ∈ endpoint.trace)
    (h : endpoint.stepMux action = some next) :
    ClientStep endpoint (.mux action) next := by
  have hwrote : ∀ sent : List Bytes,
      (sent.map Observation.wrote).flatMap (MuxWorld.report action) =
        sent.map (.handleWrote stream) := by
    intro sent
    rw [List.flatMap_map, List.map_eq_flatMap]
    simp only [MuxWorld.report, hhandle]
  cases action with
  | event event send => cases hhandle
  | finish => cases hhandle
  | pollNext number sink =>
      obtain rfl := Option.some.inj hhandle
      exact .of_update (fun s => (s.pollNext sink).2.2) rfl rfl hopened rfl
        (fun s => SameStream.pollNext s sink) (fun s => s.names_pollNext sink)
        (fun s => hwrote _) h
  | pollReady number cx sink =>
      obtain rfl := Option.some.inj hhandle
      exact .of_update (fun s => (s.write.pollReady s.info _ cx sink).sent)
        rfl rfl hopened rfl
        (fun s => ⟨(s.write.polledReady s.info _ cx sink).sameInfo, rfl⟩)
        (fun s => (s.write.polledReady s.info _ cx sink).names)
        (fun s => hwrote _) h
  | startSend number item =>
      obtain rfl := Option.some.inj hhandle
      exact .of_update (fun _ => []) rfl rfl hopened rfl
        (fun s => ⟨.refl s.info, rfl⟩)
        (fun _ packet hpacket => by cases hpacket) (fun _ => rfl) h
  | pollFlush number sink =>
      obtain rfl := Option.some.inj hhandle
      exact .of_update (fun s => (s.write.pollFlush s.info sink).sent)
        rfl rfl hopened rfl
        (fun s => ⟨(s.write.polledFlush s.info sink).sameInfo, rfl⟩)
        (fun s => (s.write.polledFlush s.info sink).names)
        (fun s => hwrote _) h
  | dropRead number =>
      obtain rfl := Option.some.inj hhandle
      exact .of_update (fun _ => []) rfl rfl hopened rfl
        (fun s => ⟨.refl s.info, rfl⟩)
        (fun _ packet hpacket => by cases hpacket) (fun _ => rfl) h

/-- The writers that bypass the multiplexor write for their own stream. -/
theorem of_write {action : EndpointAction} {stream : Nat} {info : StreamInfo}
    {packets : List Bytes}
    (hallocates : endpoint.allocates action = [])
    (hinfo : endpoint.handleInfo stream = some info)
    (hnames : ∀ packet ∈ packets, Packet.Names info.id packet) :
    ClientStep endpoint action
      { endpoint with
        trace := endpoint.trace ++ packets.map (.handleWrote stream) } := by
  obtain ⟨hopened, s, hs, rfl⟩ := Endpoint.handleInfo_eq_some hinfo
  refine .handle stream s.info.id packets hallocates hopened ?_ hnames
    ⟨rfl, rfl, rfl⟩ rfl
  simp [MuxInner.directory, hs]

end ClientStep

namespace MuxWorld

/-- The actor gives the transport no more closes for this id. -/
def Silent (world : MuxWorld) (id : UInt32) : Prop :=
  world.phase ≠ .running ∨ id ≠ 0 ∧
    id.toNat ≤ world.mux.currentId.toNat ∧ world.mux.directory.find id = none

end MuxWorld

theorem clientStep_of_step {endpoint next : Endpoint}
    {action : EndpointAction} (hclient : endpoint.world.mux.actor = .client)
    (h : endpoint.step action = some next) :
    ClientStep endpoint action next := by
  cases action with
  | close stream close channel send => exact .of_close h
  | mux action =>
      obtain ⟨hclose, hopened, hmux⟩ := Endpoint.step_mux h
      cases hhandle : action.handle with
      | some stream => exact .of_handle hhandle (hopened stream hhandle) hmux
      | none =>
          cases action with
          | event event send =>
              cases event with
              | close id close channel => cases hclose
              | createStream connect channel => exact .of_createStream hmux
              | wispMessage packet => exact .of_wispMessage hclient hmux
              | endFut reason => exact .of_endFut hmux
          | finish => exact .of_finish hmux
          | pollNext stream sink => cases hhandle
          | pollReady stream cx sink => cases hhandle
          | startSend stream item => cases hhandle
          | pollFlush stream sink => cases hhandle
          | dropRead stream => cases hhandle
  | pollWrite stream write buf sink =>
      simp only [Endpoint.step, Option.map_eq_some_iff] at h
      obtain ⟨info, hinfo, rfl⟩ := h
      exact .of_write rfl hinfo (write.names_pollWrite info buf sink)
  | send stream packetType data answer =>
      simp only [Endpoint.step, Option.map_eq_some_iff] at h
      obtain ⟨info, hinfo, rfl⟩ := h
      split
      · exact .quiet rfl ⟨rfl, rfl, rfl⟩ rfl
      · split
        · refine @ClientStep.of_write _ _ _ _ [_] rfl hinfo
            fun packet hpacket => ?_
          rw [List.mem_singleton.mp hpacket]
          exact names_extensionPacket packetType info.id data
        · exact .quiet rfl ⟨rfl, rfl, rfl⟩ (List.append_nil _)

theorem UInt32.toNat_succ {id : UInt32} (hlt : id.toNat + 1 < 2 ^ 32) :
    (id + 1).toNat = id.toNat + 1 := by
  rw [UInt32.toNat_add]
  exact Nat.mod_eq_of_lt hlt

/-- What the lifecycle of a client's streams rests on. -/
structure ClientInv (endpoint : Endpoint) : Prop where
  client : endpoint.world.mux.actor = .client
  ids : endpoint.world.phase = .running →
    endpoint.world.mux.directory.keys.map UInt32.toNat =
      List.range' 1 endpoint.world.mux.currentId.toNat
  keyed : endpoint.world.mux.directory.Keyed
  opened : ∀ stream, .opened stream ∈ endpoint.trace →
    ∃ id, endpoint.world.mux.directory.keys[stream]? = some id ∧
      1 ≤ actorSent 0x01 id endpoint.trace
  connects : ∀ id, actorSent 0x01 id endpoint.trace = 0 ∨
    actorSent 0x01 id endpoint.trace = 1 ∧
      id.toNat ≤ endpoint.world.mux.currentId.toNat
  closes : ∀ id, actorSent 0x04 id endpoint.trace = 0 ∨
    actorSent 0x04 id endpoint.trace = 1 ∧ endpoint.world.Silent id
  connectFirst : ConnectFirst endpoint.trace

namespace ClientStep

variable {endpoint next : Endpoint} {action : EndpointAction}

theorem currentId_le (h : ClientStep endpoint action next) :
    endpoint.world.mux.currentId.toNat ≤ next.world.mux.currentId.toNat := by
  cases h with
  | quiet _ hsame => rw [hsame.currentId]
  | handle _ _ _ _ _ _ _ hsame => rw [hsame.currentId]
  | request _ _ _ _ hlt _ hcurrentId =>
      rw [hcurrentId, UInt32.toNat_succ hlt]
      exact Nat.le_succ _
  | close _ _ _ _ _ _ _ _ _ _ hcurrentId => rw [hcurrentId]
  | peerClose _ _ _ _ hcurrentId => rw [hcurrentId]
  | leave _ _ _ _ _ hcurrentId => rw [hcurrentId]

/-- An id that is silent stays so. -/
theorem silent (h : ClientStep endpoint action next) {id : UInt32}
    (hsilent : endpoint.world.Silent id) : next.world.Silent id := by
  have hle := h.currentId_le
  cases h with
  | quiet _ hsame =>
      unfold MuxWorld.Silent
      rw [hsame.phase, hsame.currentId, hsame.directory]
      exact hsilent
  | handle _ _ _ _ _ _ _ hsame =>
      unfold MuxWorld.Silent
      rw [hsame.phase, hsame.currentId, hsame.directory]
      exact hsilent
  | request connect _ _ _ hlt hrunning hcurrentId hdirectory =>
      rcases hsilent with hphase | ⟨hzero, hid, hfind⟩
      · exact absurd hrunning hphase
      · refine .inr ⟨hzero, Nat.le_trans hid hle, ?_⟩
        have hne : id ≠ endpoint.world.mux.currentId + 1 := by
          rintro rfl
          rw [UInt32.toNat_succ hlt] at hid
          omega
        rw [hdirectory]
        simp only [Directory.move, Function.update_of_ne hne]
        exact hfind
  | close _ other _ _ _ _ hrunning _ _ _ _ hdirectory =>
      rcases hsilent with hphase | ⟨hzero, hid, hfind⟩
      · exact absurd hrunning hphase
      · refine .inr ⟨hzero, Nat.le_trans hid hle, ?_⟩
        rw [hdirectory]
        exact Directory.find_move_remove_eq_none hfind other
  | peerClose other _ _ hrunning _ hdirectory =>
      rcases hsilent with hphase | ⟨hzero, hid, hfind⟩
      · exact absurd hrunning hphase
      · refine .inr ⟨hzero, Nat.le_trans hid hle, ?_⟩
        rw [hdirectory]
        exact Directory.find_move_remove_eq_none hfind other
  | leave _ _ _ _ hphase => exact .inl hphase

/-- The actor writes nothing, or one packet: the connect of a new id, or a
close, after which the id is silent. -/
theorem actorSent_cases (h : ClientStep endpoint action next)
    (hinv : ClientInv endpoint) :
    (∀ ty id, actorSent ty id next.trace = actorSent ty id endpoint.trace) ∨
    ∃ packet : Packet,
      (∀ ty id, actorSent ty id next.trace = actorSent ty id endpoint.trace +
        if (packet.packetType.getType, packet.streamId) = (ty, id) then 1
        else 0) ∧
      ((packet.packetType.getType = 0x01 ∧
          packet.streamId = endpoint.world.mux.currentId + 1 ∧
          endpoint.world.mux.currentId.toNat + 1 < 2 ^ 32 ∧
          next.world.mux.currentId = packet.streamId) ∨
        (packet.packetType.getType = 0x04 ∧
          ¬ endpoint.world.Silent packet.streamId ∧
          next.world.Silent packet.streamId)) := by
  cases h with
  | quiet _ _ htrace => exact .inl fun ty id => by rw [htrace]
  | handle stream _ packets _ _ _ _ _ htrace =>
      refine .inl fun ty id => ?_
      have hsilent :
          actorSent ty id (packets.map (.handleWrote stream)) = 0 := by
        refine actorSent_of_silent fun report hreport => ?_
        obtain ⟨packet, -, rfl⟩ := List.mem_map.mp hreport
        rfl
      rw [htrace, actorSent_append, hsilent, Nat.add_zero]
  | request connect sent opened _ hlt _ hcurrentId _ hsent hopened htrace =>
      have hsilent : ∀ ty id, actorSent ty id opened = 0 := by
        intro ty id
        refine actorSent_of_silent fun report hreport => ?_
        rcases hopened with rfl | ⟨-, rfl⟩
        · cases hreport
        · rw [List.mem_singleton.mp hreport]
          rfl
      rcases hsent with rfl | rfl
      · refine .inl fun ty id => ?_
        rw [htrace, actorSent_append, List.nil_append, hsilent, Nat.add_zero]
      · refine .inr ⟨⟨_, .connect connect⟩, fun ty id => ?_,
          .inl ⟨rfl, rfl, hlt, hcurrentId⟩⟩
        rw [htrace, actorSent_append, actorSent_append, hsilent,
          actorSent_wrote, Nat.add_zero]
  | close stream id close sent noise _ hrunning hopened hid hfound hcurrentId
      hdirectory hsent hnoise htrace =>
      rcases hsent with rfl | rfl
      · refine .inl fun ty id => ?_
        rw [htrace, actorSent_append, List.nil_append, hnoise.actorSent_eq_zero,
          Nat.add_zero]
      · refine .inr ⟨⟨id, .close close⟩, fun ty id => ?_, .inr ⟨rfl, ?_, ?_⟩⟩
        · rw [htrace, actorSent_append, actorSent_append,
            hnoise.actorSent_eq_zero, actorSent_wrote, Nat.add_zero]
        · rintro (hphase | ⟨-, -, hfind⟩)
          · exact hphase hrunning
          · exact hfound hfind
        · have hrange : id.toNat ∈
              List.range' 1 endpoint.world.mux.currentId.toNat := by
            rw [← hinv.ids hrunning]
            exact List.mem_map_of_mem (List.mem_of_getElem? hid)
          rw [List.mem_range'_1] at hrange
          refine .inr ⟨?_, ?_, ?_⟩
          · rintro rfl
            exact absurd hrange.1 (by decide)
          · rw [hcurrentId]
            change id.toNat ≤ _
            omega
          · rw [hdirectory]
            exact Function.update_self _ _ _
  | peerClose _ noise _ _ _ _ hnoise htrace =>
      refine .inl fun ty id => ?_
      rw [htrace, actorSent_append, hnoise.actorSent_eq_zero, Nat.add_zero]
  | leave move sent noise _ hphase _ _ hsent hnoise htrace =>
      rcases hsent with rfl | ⟨hrunning, reason, rfl⟩
      · refine .inl fun ty id => ?_
        rw [htrace, actorSent_append, List.nil_append, hnoise.actorSent_eq_zero,
          Nat.add_zero]
      · refine .inr ⟨.newClose 0 reason, fun ty id => ?_,
          .inr ⟨rfl, ?_, .inl hphase⟩⟩
        · rw [htrace, actorSent_append, actorSent_append,
            hnoise.actorSent_eq_zero, actorSent_wrote, Nat.add_zero]
        · rintro (hleft | ⟨hzero, -, -⟩)
          · exact hleft hrunning
          · exact hzero rfl

theorem actorSent_le (h : ClientStep endpoint action next)
    (hinv : ClientInv endpoint) (ty : UInt8) (id : UInt32) :
    actorSent ty id endpoint.trace ≤ actorSent ty id next.trace := by
  rcases h.actorSent_cases hinv with hsame | ⟨packet, hsent, -⟩
  · rw [hsame]
  · rw [hsent]
    exact Nat.le_add_right _ _

theorem ids (h : ClientStep endpoint action next) (hinv : ClientInv endpoint)
    (hrunning : next.world.phase = .running) :
    next.world.mux.directory.keys.map UInt32.toNat =
      List.range' 1 next.world.mux.currentId.toNat := by
  cases h with
  | quiet _ hsame =>
      rw [hsame.directory, hsame.currentId]
      exact hinv.ids (hsame.phase.symm.trans hrunning)
  | handle _ _ _ _ _ _ _ hsame =>
      rw [hsame.directory, hsame.currentId]
      exact hinv.ids (hsame.phase.symm.trans hrunning)
  | request _ _ _ _ hlt hbefore hcurrentId hdirectory =>
      have hids := hinv.ids hbefore
      rw [hdirectory, hcurrentId, UInt32.toNat_succ hlt,
        List.range'_1_concat, ← hids]
      simp only [Directory.move, List.map_append, List.map_singleton,
        UInt32.toNat_succ hlt]
      rw [Nat.add_comm 1]
  | close _ _ _ _ _ _ hbefore _ _ _ hcurrentId hdirectory =>
      rw [hdirectory, hcurrentId]
      exact hinv.ids hbefore
  | peerClose _ _ _ hbefore hcurrentId hdirectory =>
      rw [hdirectory, hcurrentId]
      exact hinv.ids hbefore
  | leave _ _ _ _ hphase => exact absurd hrunning hphase

theorem keys_subset (h : ClientStep endpoint action next) {stream : Nat}
    {id : UInt32} (hid : endpoint.world.mux.directory.keys[stream]? = some id) :
    next.world.mux.directory.keys[stream]? = some id := by
  cases h with
  | quiet _ hsame =>
      rw [hsame.directory]
      exact hid
  | handle _ _ _ _ _ _ _ hsame =>
      rw [hsame.directory]
      exact hid
  | request _ _ _ _ _ _ _ hdirectory =>
      rw [hdirectory]
      exact Directory.getElem?_keys_move hid _
  | close _ _ _ _ _ _ _ _ _ _ _ hdirectory =>
      rw [hdirectory]
      exact Directory.getElem?_keys_move hid _
  | peerClose _ _ _ _ _ hdirectory =>
      rw [hdirectory]
      exact Directory.getElem?_keys_move hid _
  | leave _ _ _ _ _ _ hdirectory =>
      rw [hdirectory]
      exact Directory.getElem?_keys_move hid _

/-- A stream is given away in the step that sends its connect. -/
theorem opened_cases (h : ClientStep endpoint action next) {stream : Nat}
    (hopened : .opened stream ∈ next.trace) :
    .opened stream ∈ endpoint.trace ∨
      next.world.mux.directory.keys[stream]? =
          some (endpoint.world.mux.currentId + 1) ∧
        1 ≤ actorSent 0x01 (endpoint.world.mux.currentId + 1) next.trace := by
  cases h with
  | quiet _ _ htrace =>
      rw [htrace] at hopened
      exact .inl hopened
  | handle _ _ packets _ _ _ _ _ htrace =>
      rw [htrace, List.mem_append] at hopened
      refine hopened.imp_right fun hopened => ?_
      obtain ⟨packet, -, hpacket⟩ := List.mem_map.mp hopened
      cases hpacket
  | request connect sent given _ _ _ _ hdirectory hsent hgiven htrace =>
      rw [htrace, List.mem_append, List.mem_append] at hopened
      rcases hopened with hopened | hopened | hopened
      · exact .inl hopened
      · rcases hsent with rfl | rfl
        · cases hopened
        · cases List.mem_singleton.mp hopened
      · rcases hgiven with rfl | ⟨hne, rfl⟩
        · cases hopened
        · obtain rfl := Report.opened.inj (List.mem_singleton.mp hopened)
          refine .inr ⟨?_, ?_⟩
          · rw [hdirectory]
            exact List.getElem?_concat_length
          · rcases hsent with rfl | rfl
            · exact absurd rfl hne
            · rw [htrace, actorSent_append, actorSent_append, actorSent_wrote]
              simp only [PacketType.getType, ↓reduceIte]
              omega
  | close _ _ _ sent noise _ _ _ _ _ _ _ hsent hquiet htrace =>
      rw [htrace, List.mem_append, List.mem_append] at hopened
      rcases hopened with hopened | hopened | hopened
      · exact .inl hopened
      · rcases hsent with rfl | rfl
        · cases hopened
        · cases List.mem_singleton.mp hopened
      · exact absurd hopened (hquiet.not_opened stream)
  | peerClose _ noise _ _ _ _ hquiet htrace =>
      rw [htrace, List.mem_append] at hopened
      exact hopened.imp_right fun hopened =>
        absurd hopened (hquiet.not_opened stream)
  | leave _ sent noise _ _ _ _ hsent hquiet htrace =>
      rw [htrace, List.mem_append, List.mem_append] at hopened
      rcases hopened with hopened | hopened | hopened
      · exact .inl hopened
      · rcases hsent with rfl | ⟨-, reason, rfl⟩
        · cases hopened
        · cases List.mem_singleton.mp hopened
      · exact absurd hopened (hquiet.not_opened stream)

theorem opened (h : ClientStep endpoint action next)
    (hinv : ClientInv endpoint) {stream : Nat}
    (hopened : .opened stream ∈ next.trace) :
    ∃ id, next.world.mux.directory.keys[stream]? = some id ∧
      1 ≤ actorSent 0x01 id next.trace := by
  rcases h.opened_cases hopened with hold | hnew
  · obtain ⟨id, hid, hconnect⟩ := hinv.opened stream hold
    exact ⟨id, h.keys_subset hid,
      Nat.le_trans hconnect (h.actorSent_le hinv 0x01 id)⟩
  · exact ⟨_, hnew⟩

theorem connectFirst (h : ClientStep endpoint action next)
    (hinv : ClientInv endpoint) : ConnectFirst next.trace := by
  have hconnected : ∀ {stream id}, .opened stream ∈ endpoint.trace →
      endpoint.world.mux.directory.keys[stream]? = some id →
      1 ≤ actorSent 0x01 id endpoint.trace := by
    intro stream id hopened hid
    obtain ⟨other, hother, hconnect⟩ := hinv.opened stream hopened
    obtain rfl := Option.some.inj (hid.symm.trans hother)
    exact hconnect
  cases h with
  | quiet _ _ htrace =>
      rw [htrace]
      exact hinv.connectFirst
  | handle stream id packets _ hopened hid hnames _ htrace =>
      rw [htrace]
      refine hinv.connectFirst.append fun report hreport other _ hhead => ?_
      obtain ⟨packet, hpacket, rfl⟩ := List.mem_map.mp hreport
      obtain ⟨ty, hty⟩ := hnames packet hpacket
      simp only [Report.head, hty, Option.some.injEq, Prod.mk.injEq] at hhead
      rcases hhead with ⟨-, rfl⟩ | ⟨-, rfl⟩
      · exact hconnected hopened hid
      · exact hconnected hopened hid
  | request connect sent given _ _ _ _ _ hsent hgiven htrace =>
      rw [htrace]
      refine hinv.connectFirst.append fun report hreport other _ hhead => ?_
      have hnone : report.head = none ∨
          ∃ id, report.head = some (0x01, id) := by
        rcases List.mem_append.mp hreport with hmem | hmem
        · rcases hsent with rfl | rfl
          · cases hmem
          · rw [List.mem_singleton.mp hmem]
            exact .inr ⟨_, Packet.head_encode ⟨_, .connect connect⟩⟩
        · rcases hgiven with rfl | ⟨-, rfl⟩
          · cases hmem
          · rw [List.mem_singleton.mp hmem]
            exact .inl rfl
      rcases hnone with hnone | ⟨id, hnone⟩
      · simp [hnone] at hhead
      · simp [hnone] at hhead
  | close stream id close sent noise _ _ hopened hid _ _ _ hsent hquiet htrace =>
      rw [htrace]
      refine hinv.connectFirst.append fun report hreport other _ hhead => ?_
      rcases List.mem_append.mp hreport with hmem | hmem
      · rcases hsent with rfl | rfl
        · cases hmem
        · rw [List.mem_singleton.mp hmem] at hhead
          simp only [Report.head, Packet.head_encode, Option.some.injEq,
            Prod.mk.injEq] at hhead
          rcases hhead with ⟨-, rfl⟩ | ⟨-, rfl⟩
          · exact hconnected hopened hid
          · exact hconnected hopened hid
      · simp [hquiet.head_eq_none hmem] at hhead
  | peerClose _ noise _ _ _ _ hquiet htrace =>
      rw [htrace]
      refine hinv.connectFirst.append fun report hreport other _ hhead => ?_
      simp [hquiet.head_eq_none hreport] at hhead
  | leave _ sent noise _ _ _ _ hsent hquiet htrace =>
      rw [htrace]
      refine hinv.connectFirst.append fun report hreport other hid hhead => ?_
      rcases List.mem_append.mp hreport with hmem | hmem
      · rcases hsent with rfl | ⟨-, reason, rfl⟩
        · cases hmem
        · rw [List.mem_singleton.mp hmem] at hhead
          simp only [Report.head, Packet.head_encode, Option.some.injEq,
            Prod.mk.injEq] at hhead
          rcases hhead with ⟨-, hzero⟩ | ⟨-, hzero⟩
          · exact absurd hzero.symm hid
          · exact absurd hzero.symm hid
      · simp [hquiet.head_eq_none hmem] at hhead

end ClientStep

namespace ClientInv

theorem init (flowStreamTypes : List UInt8) (bufferSize : UInt32) :
    ClientInv (.init (.new .client flowStreamTypes bufferSize)) where
  client := rfl
  ids _ := rfl
  keyed := by
    change (MuxInner.new .client flowStreamTypes bufferSize).directory.Keyed
    rw [MuxInner.directory_new]
    exact Directory.keyed_empty
  opened stream hmem := by cases hmem
  connects id := .inl rfl
  closes id := .inl rfl
  connectFirst := by
    intro before report after id hsplit
    have hlength := congrArg List.length hsplit
    simp [Endpoint.init] at hlength

theorem step {endpoint next : Endpoint} {action : EndpointAction}
    (h : ClientInv endpoint) (hstep : endpoint.step action = some next) :
    ClientInv next := by
  have hclient := clientStep_of_step h.client hstep
  constructor
  · rcases Endpoint.step_world hstep with ⟨inner, seen, -, hinner⟩ | ⟨-, hworld⟩
    · exact MuxWorld.actor_step_of_client h.client hinner
    · rw [hworld]
      exact h.client
  · exact hclient.ids h
  · rw [Endpoint.directory_step hstep]
    exact h.keyed.move _
  · exact fun stream => hclient.opened h
  · intro id
    have hold := h.connects id
    have hle := hclient.currentId_le
    rcases hclient.actorSent_cases h with
      hsame | ⟨packet, hsent, ⟨hty, hid, hlt, hnext⟩ | ⟨hty, -⟩⟩
    · rw [hsame]
      omega
    · rw [hsent, hty]
      split
      · next heq =>
          obtain rfl := (Prod.mk.inj heq).2
          rw [hnext]
          rw [hid, UInt32.toNat_succ hlt] at hold
          rw [hid, UInt32.toNat_succ hlt]
          omega
      · omega
    · have hne : ((0x04 : UInt8), packet.streamId) ≠ (0x01, id) := fun heq =>
        absurd (Prod.mk.inj heq).1 (by decide)
      rw [hsent, hty, if_neg hne]
      omega
  · intro id
    have hkept : actorSent 0x04 id next.trace =
        actorSent 0x04 id endpoint.trace →
        actorSent 0x04 id next.trace = 0 ∨
          actorSent 0x04 id next.trace = 1 ∧ next.world.Silent id := by
      intro hsame
      rcases h.closes id with hzero | ⟨hone, hsilent⟩
      · exact .inl (hsame.trans hzero)
      · exact .inr ⟨hsame.trans hone, hclient.silent hsilent⟩
    rcases hclient.actorSent_cases h with
      hsame | ⟨packet, hsent, ⟨hty, -⟩ | ⟨hty, hloud, hsilent⟩⟩
    · exact hkept (hsame 0x04 id)
    · have hne : ((0x01 : UInt8), packet.streamId) ≠ (0x04, id) := fun heq =>
        absurd (Prod.mk.inj heq).1 (by decide)
      refine hkept ?_
      rw [hsent, hty, if_neg hne]
      rfl
    · by_cases heq : packet.streamId = id
      · subst heq
        rcases h.closes packet.streamId with hzero | ⟨-, hbefore⟩
        · refine .inr ⟨?_, hsilent⟩
          rw [hsent, hty, hzero, if_pos rfl]
        · exact absurd hbefore hloud
      · have hne : ((0x04 : UInt8), packet.streamId) ≠ (0x04, id) :=
          fun hpair => heq (Prod.mk.inj hpair).2
        refine hkept ?_
        rw [hsent, hty, if_neg hne]
        rfl
  · exact hclient.connectFirst h

/-- Nothing is closed twice: no further close is sent for a silent id. -/
theorem closes_of_silent {endpoint next : Endpoint} {action : EndpointAction}
    (h : ClientInv endpoint) (hstep : endpoint.step action = some next)
    {id : UInt32} (hsilent : endpoint.world.Silent id) :
    actorSent 0x04 id next.trace = actorSent 0x04 id endpoint.trace := by
  rcases (clientStep_of_step h.client hstep).actorSent_cases h with
    hsame | ⟨packet, hsent, ⟨hty, -⟩ | ⟨hty, hloud, -⟩⟩
  · exact hsame 0x04 id
  · have hne : ((0x01 : UInt8), packet.streamId) ≠ (0x04, id) := fun heq =>
      absurd (Prod.mk.inj heq).1 (by decide)
    rw [hsent, hty, if_neg hne]
    rfl
  · have hne : ((0x04 : UInt8), packet.streamId) ≠ (0x04, id) := by
      intro heq
      obtain rfl := (Prod.mk.inj heq).2
      exact hloud hsilent
    rw [hsent, hty, if_neg hne]
    rfl

end ClientInv

/-- After the peer's close of an allocated id the actor is silent on it. -/
theorem silent_of_peerClose {endpoint next : Endpoint} {id : UInt32}
    {close : ClosePacket} {send : SendAnswer}
    (hle : id.toNat ≤ endpoint.world.mux.currentId.toNat)
    (hstep : endpoint.step
      (.mux (.event (.wispMessage ⟨id, .close close⟩) send)) = some next) :
    next.world.Silent id ∧
      actorSent 0x04 id next.trace = actorSent 0x04 id endpoint.trace := by
  obtain ⟨-, -, hmux⟩ := Endpoint.step_mux hstep
  obtain ⟨-, hworld, hphase, htrace⟩ := Endpoint.stepMux_event hmux
  simp only [MuxInner.handleEvent] at hworld hphase htrace
  constructor
  · by_cases hid : id = 0
    · subst hid
      refine .inl fun hrunning => ?_
      cases hphase.mp hrunning
    · have hhandled : endpoint.world.mux.handlePacket ⟨id, .close close⟩ =
          (endpoint.world.mux.closeStream id close, .ok false) := by
        simp only [MuxInner.handlePacket, MuxInner.handleClosePacket,
          if_neg hid]
      rw [hhandled] at hworld
      refine .inr ⟨hid, ?_, ?_⟩
      · rw [hworld, MuxInner.currentId_closeStream]
        exact hle
      · rw [hworld, MuxInner.directory_closeStream]
        exact Function.update_self _ _ _
  · rw [htrace, actorSent_append]
    refine Nat.add_eq_left.mpr (actorSent_of_silent fun report hreport => ?_)
    simp only [MuxWorld.offered, List.map_nil, List.nil_append,
      List.append_nil, List.flatMap_nil, List.mem_map] at hreport
    obtain ⟨stream, -, rfl⟩ := hreport
    rfl

theorem allocated_step {endpoint next : Endpoint} {action : EndpointAction}
    {history : List UInt32} (hinv : ClientInv endpoint)
    (hhistory : history.map UInt32.toNat =
      List.range' 1 endpoint.world.mux.currentId.toNat)
    (hstep : endpoint.step action = some next) :
    (history ++ endpoint.allocates action).map UInt32.toNat =
      List.range' 1 next.world.mux.currentId.toNat := by
  rw [List.map_append, hhistory]
  cases clientStep_of_step hinv.client hstep with
  | quiet hallocates hsame => simp [hallocates, hsame.currentId]
  | handle _ _ _ hallocates _ _ _ hsame => simp [hallocates, hsame.currentId]
  | request _ _ _ hallocates hlt _ hcurrentId =>
      rw [hallocates, hcurrentId, UInt32.toNat_succ hlt, List.range'_1_concat,
        List.map_singleton, UInt32.toNat_succ hlt, Nat.add_comm 1]
  | close _ _ _ _ _ hallocates _ _ _ _ hcurrentId =>
      simp [hallocates, hcurrentId]
  | peerClose _ _ hallocates _ hcurrentId => simp [hallocates, hcurrentId]
  | leave _ _ _ hallocates _ hcurrentId => simp [hallocates, hcurrentId]

/-- Every run of a client obeys the lifecycle. -/
theorem clientLifecycle_of_run (flowStreamTypes : List UInt8)
    (bufferSize : UInt32) {actions : List EndpointAction} {endpoint : Endpoint}
    (hrun : Endpoint.machine.run
      (.init (.new .client flowStreamTypes bufferSize)) actions =
        some endpoint) :
    ClientLifecycle (.init (.new .client flowStreamTypes bufferSize)) actions
      endpoint := by
  have hinit := ClientInv.init flowStreamTypes bufferSize
  have hstep : ∀ s action t, ClientInv s →
      Endpoint.machine.step s action = some t → ClientInv t :=
    fun s action t hs hnext => hs.step hnext
  have hinv := Endpoint.machine.run_invariant hstep hinit hrun
  constructor
  · let Counted (s : Endpoint) (history : List UInt32) : Prop :=
      ClientInv s ∧ history.map UInt32.toNat =
        List.range' 1 s.world.mux.currentId.toNat
    have hcounted : ∀ s action t history, Counted s history →
        Endpoint.machine.step s action = some t →
        Counted t (history ++ s.allocates action) :=
      fun s action t history hs hnext =>
        ⟨hs.1.step hnext, allocated_step hs.1 hs.2 hnext⟩
    have hstart :
        Counted (.init (.new .client flowStreamTypes bufferSize)) [] :=
      ⟨hinit, rfl⟩
    exact (Endpoint.machine.run_collect_invariant hcounted hstart hrun).2
  · intro hfull connect channel send
    have hcreate := MuxInner.createStream_of_full connect.streamType
      (Nat.not_lt.mpr (Nat.le_of_eq hfull.symm))
    simp only [MuxInner.handleEvent, MuxInner.handleCreateStream, hcreate]
  · intro hrunning id number hfind
    have hkey := hinv.keyed id number hfind
    have hrange : id.toNat ∈
        List.range' 1 endpoint.world.mux.currentId.toNat := by
      rw [← hinv.ids hrunning]
      exact List.mem_map_of_mem (List.mem_of_getElem? hkey)
    rw [List.mem_range'_1] at hrange
    refine ⟨hrange.1, by omega, ?_⟩
    simp only [MuxInner.directory, List.getElem?_map,
      Option.map_eq_some_iff] at hkey
    exact hkey
  · intro id
    have := hinv.connects id
    omega
  · intro id
    have := hinv.closes id
    omega
  · exact hinv.connectFirst
  · rintro before after id close send mid rfl hbefore hle
    rw [Endpoint.machine.run_append, hbefore] at hrun
    obtain ⟨closed, hclosed, hafter⟩ := Endpoint.machine.run_cons_eq_some hrun
    have hmid := Endpoint.machine.run_invariant hstep hinit hbefore
    obtain ⟨hsilent, hcount⟩ := silent_of_peerClose hle hclosed
    let Closed (s : Endpoint) : Prop := ClientInv s ∧ s.world.Silent id ∧
      actorSent 0x04 id s.trace = actorSent 0x04 id mid.trace
    have hkept : ∀ s action t, Closed s →
        Endpoint.machine.step s action = some t → Closed t :=
      fun s action t hs hnext => ⟨hs.1.step hnext,
        (clientStep_of_step hs.1.client hnext).silent hs.2.1,
        (hs.1.closes_of_silent hnext hs.2.1).trans hs.2.2⟩
    have hstart : Closed closed :=
      ⟨hstep _ _ _ hmid hclosed, hsilent, hcount⟩
    exact (Endpoint.machine.run_invariant hkept hstart hafter).2.2

/-- A client without streams, and credit for one packet. -/
def quietClient : Endpoint := .init (.new .client [0x01] 1)

/-- The application asks for a stream, and the packet goes out. -/
def requested : EndpointAction :=
  .mux (.event (.createStream ⟨.tcp, "a", 80⟩ 0) ⟨true, .ok (), fun _ => rfl⟩)

theorem clientLifecycle_of_one_stream :
    ∃ endpoint, Endpoint.machine.run quietClient
        [requested, closedBy 0, received ⟨1, .close ⟨.voluntary⟩⟩] =
          some endpoint ∧
      ClientLifecycle quietClient
        [requested, closedBy 0, received ⟨1, .close ⟨.voluntary⟩⟩] endpoint :=
  ⟨_, rfl, clientLifecycle_of_run _ _ rfl⟩

/-- A close for an id that is not in use yet is ignored and forgotten: the
stream that gets the id later is closed all the same. -/
theorem closed_after_early_peerClose :
    ∃ mid endpoint,
      Endpoint.machine.run quietClient
        [received ⟨1, .close ⟨.voluntary⟩⟩] = some mid ∧
      Endpoint.machine.run mid [requested, closedBy 0] = some endpoint ∧
      actorSent 0x04 1 mid.trace = 0 ∧ actorSent 0x04 1 endpoint.trace = 1 :=
  ⟨_, _, rfl, rfl, by decide, by decide⟩

end Epoxy
