/-
The multiplexor actor.  It maps stream ids to streams, hands packets to the
stream they are for, and serves the events of the local handles.  Streams are
numbered in the order in which they were added and keep their number when the
map forgets them, since their handles live on.
-/
import Epoxy.ActionMachine
import Epoxy.MuxStream
import Mathlib.Data.List.AList

namespace Epoxy

open ActionMachine ByteCursor PollChannel

abbrev StreamMap := AList fun _ : UInt32 => Nat

namespace ClientActor

def handleConnectPacket : Except WispError Unit :=
  .error (.invalidPacketType 0x01)

/-- On the client data goes to the channel, and a full or abandoned channel
drops it. -/
def handleDataPacket (stream : Stream) (pkt : Bytes) : Stream :=
  { stream with channel := (stream.channel.trySend pkt).1 }

def handleContinuePacket (stream : Stream) (pkt : ContinuePacket) : Stream :=
  if stream.info.flowStatus = .enabledTrackAmount then
    { stream with info := (stream.info.flowSet pkt.bufferRemaining).flowWake.1 }
  else stream

def getFlowControl (ty : StreamType) (flowStreamTypes : List UInt8) :
    FlowControl :=
  if flowStreamTypes.contains ty.toU8 then .enabledTrackAmount else .disabled

end ClientActor

namespace ServerActor

/-- Accepted data is paid for. -/
def handleDataPacket (stream : Stream) (pkt : Bytes) : Stream :=
  let (channel, accepted) := stream.channel.trySend pkt
  if accepted then { stream with channel, info := stream.info.flowDec }
  else { stream with channel }

def handleContinuePacket : Except WispError Unit :=
  .error (.invalidPacketType 0x03)

def getFlowControl (ty : StreamType) (flowStreamTypes : List UInt8) :
    FlowControl :=
  if flowStreamTypes.contains ty.toU8 then .enabledSendMessages else .disabled

end ServerActor

/-- The side the actor is on; the server keeps the channel on which it offers
new streams to the application. -/
inductive Actor where
  | client
  | server (streamTx : Channel (ConnectPacket × Nat))

namespace Actor

def getFlowControl : Actor → StreamType → List UInt8 → FlowControl
  | .client => ClientActor.getFlowControl
  | .server _ => ServerActor.getFlowControl

def handleDataPacket : Actor → Stream → Bytes → Stream
  | .client => ClientActor.handleDataPacket
  | .server _ => ServerActor.handleDataPacket

end Actor

structure MuxInner where
  actor : Actor
  flowStreamTypes : List UInt8
  streams : StreamMap
  currentId : UInt32
  bufferSize : UInt32
  /-- The actor's own handle holds the lock on the shared sink. -/
  txLocked : Bool
  /-- Every stream ever added, by its number. -/
  heap : List Stream

/-- What `send` on the shared sink answers; an item may have been taken
although the send failed. -/
structure SendAnswer where
  taken : Bool
  result : Except WispError Unit
  taken_of_ok : result = .ok () → taken = true

/-- A failed send claims nothing. -/
theorem SendAnswer.taken_of_error {error : WispError} :
    (.error error : Except WispError Unit) = .ok () → false = true := by
  intro h
  cases h

/-- The requests of the local handles; `channel` is where the reply goes. -/
inductive WsEvent where
  | close (id : UInt32) (close : ClosePacket) (channel : Nat)
  | createStream (connect : ConnectPacket) (channel : Nat)
  | wispMessage (packet : Packet)
  | endFut (reason : Option CloseReason)
deriving Repr, DecidableEq

inductive Reply where
  | created (stream : Except WispError Nat)
  | closed (result : Except WispError Unit)

/-- One round of the loop: `result` says whether it leaves the loop. -/
structure EventResult where
  mux : MuxInner
  result : Except WispError Bool
  sent : List Bytes
  replies : List (Nat × Reply)

namespace MuxInner

def new (actor : Actor) (flowStreamTypes : List UInt8) (bufferSize : UInt32) :
    MuxInner :=
  ⟨actor, flowStreamTypes, ∅, 0, bufferSize, false, []⟩

/-- Change the stream of a map entry, if there is one. -/
def modify (mux : MuxInner) (id : UInt32) (f : Stream → Stream) : MuxInner :=
  match mux.streams.lookup id with
  | some number => { mux with heap := mux.heap.modify number f }
  | none => mux

/-- Dropping the replaced entry drops its sender, nothing else. -/
def addStream (mux : MuxInner) (id : UInt32) (ty : StreamType) :
    MuxInner × Nat :=
  let flow := mux.actor.getFlowControl ty mux.flowStreamTypes
  let dropped := mux.modify id fun stream =>
    { stream with channel := stream.channel.dropSender }
  ({ dropped with
      streams := mux.streams.insert id mux.heap.length
      heap := dropped.heap ++ [.new id flow mux.bufferSize] },
    mux.heap.length)

def createStream (mux : MuxInner) (ty : StreamType) :
    MuxInner × Except WispError (Nat × UInt32) :=
  if mux.currentId.toNat + 1 < 2 ^ 32 then
    let id := mux.currentId + 1
    let (mux, stream) := { mux with currentId := id }.addStream id ty
    (mux, .ok (stream, id))
  else (mux, .error .maxStreamCountReached)

/-- Take the entry out of the map and close its stream. -/
def closeStream (mux : MuxInner) (id : UInt32) (close : ClosePacket) :
    MuxInner :=
  { mux.modify id fun stream => stream.close close with
    streams := mux.streams.erase id }

def handleClosePacket (mux : MuxInner) (streamId : UInt32)
    (close : ClosePacket) : MuxInner × Bool :=
  if streamId = 0 then (mux, true) else (mux.closeStream streamId close, false)

/-- Offer a new stream to the application; the client has no use for one, and
a stream that nobody takes loses its handles. -/
def handleConnectPacket (mux : MuxInner) (stream : Nat)
    (pkt : ConnectPacket) : MuxInner × Except WispError Unit :=
  let dropped := { mux with
    heap := mux.heap.modify stream fun stream =>
      { stream with channel := stream.channel.dropReceiver } }
  match mux.actor with
  | .client => (dropped, ClientActor.handleConnectPacket)
  | .server streamTx =>
      let (streamTx, sent) := streamTx.trySend (pkt, stream)
      if sent then ({ mux with actor := .server streamTx }, .ok ())
      else (dropped, .error .muxMessageFailedToSend)

def handleContinuePacket (mux : MuxInner) (id : UInt32)
    (pkt : ContinuePacket) : MuxInner × Except WispError Unit :=
  match mux.actor with
  | .client =>
      (mux.modify id fun stream =>
        ClientActor.handleContinuePacket stream pkt, .ok ())
  | .server _ => (mux, ServerActor.handleContinuePacket)

def handlePacket (mux : MuxInner) (packet : Packet) :
    MuxInner × Except WispError Bool :=
  match packet.packetType with
  | .connect connect =>
      let (mux, stream) := mux.addStream packet.streamId connect.streamType
      let (mux, result) := mux.handleConnectPacket stream connect
      (mux, result.map fun _ => false)
  | .data data =>
      (mux.modify packet.streamId fun stream =>
        mux.actor.handleDataPacket stream data, .ok false)
  | .cont cont =>
      let (mux, result) := mux.handleContinuePacket packet.streamId cont
      (mux, result.map fun _ => false)
  | .close close =>
      let (mux, shouldBreak) := mux.handleClosePacket packet.streamId close
      (mux, .ok shouldBreak)

private def taken (send : SendAnswer) (packet : Packet) : List Bytes :=
  if send.taken then [packet.encode] else []

theorem taken_cases (send : SendAnswer) (packet : Packet) :
    (send.result ≠ .ok () ∧ taken send packet = []) ∨
      taken send packet = [packet.encode] := by
  unfold taken
  split
  · exact .inr rfl
  · next htaken => exact .inl ⟨fun hok => htaken (send.taken_of_ok hok), rfl⟩

/-- A stream whose connect packet cannot be sent loses its handles; its map
entry stays, and so does the lock. -/
def handleCreateStream (mux : MuxInner) (connect : ConnectPacket)
    (channel : Nat) (send : SendAnswer) : EventResult :=
  match mux.createStream connect.streamType with
  | (mux, .error error) =>
      ⟨mux, .ok false, [], [(channel, .created (.error error))]⟩
  | (mux, .ok (stream, streamId)) =>
      let sent := taken send ⟨streamId, .connect connect⟩
      match send.result with
      | .ok () =>
          ⟨{ mux with txLocked := false }, .ok false, sent,
            [(channel, .created (.ok stream))]⟩
      | .error error =>
          ⟨{ mux with
              txLocked := true
              heap := mux.heap.modify stream fun stream =>
                { stream with channel := stream.channel.dropReceiver } },
            .ok false, sent, [(channel, .created (.error error))]⟩

def handleClose (mux : MuxInner) (id : UInt32) (close : ClosePacket)
    (channel : Nat) (send : SendAnswer) : EventResult :=
  match mux.streams.lookup id with
  | some _ =>
      ⟨{ mux.closeStream id close with txLocked := false }, .ok false,
        taken send ⟨id, .close close⟩, [(channel, .closed send.result)]⟩
  | none =>
      ⟨mux, .ok false, [], [(channel, .closed (.error (.invalidStreamId id)))]⟩

/-- The body of the actor's loop. -/
def handleEvent (mux : MuxInner) (event : WsEvent) (send : SendAnswer) :
    EventResult :=
  match event with
  | .createStream connect channel =>
      mux.handleCreateStream connect channel send
  | .close id close channel => mux.handleClose id close channel send
  | .endFut none => ⟨mux, .ok true, [], []⟩
  | .endFut (some reason) =>
      ⟨{ mux with txLocked := false }, .ok true,
        taken send (.newClose 0 reason), []⟩
  | .wispMessage packet =>
      let (mux, result) := mux.handlePacket packet
      ⟨mux, result, [], []⟩

/-- Close the stream of every entry. -/
def closeEntries : List (Sigma fun _ : UInt32 => Nat) → List Stream → List Stream
  | [], heap => heap
  | entry :: rest, heap =>
      closeEntries rest
        (heap.modify entry.2 fun stream => stream.close ⟨.unknown⟩)

/-- What the actor does once its loop has ended. -/
def drain (mux : MuxInner) : MuxInner :=
  { mux with
    streams := ∅
    txLocked := false
    heap := closeEntries mux.streams.entries mux.heap }

end MuxInner

end Epoxy
