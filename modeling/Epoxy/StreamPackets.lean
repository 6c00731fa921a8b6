/-
The packets that the handles of a stream give to the transport.  Whatever a
handle does, its packets carry the id of its own stream.
-/
import Epoxy.StreamPolls

namespace Epoxy

open ByteCursor PollChannel

/-- The packet is one of this stream. -/
def Packet.Names (id : UInt32) (packet : Bytes) : Prop :=
  ∃ ty, Packet.head packet = some (ty, id)

theorem Packet.names_encode (packet : Packet) :
    Packet.Names packet.streamId packet.encode :=
  ⟨_, Packet.head_encode packet⟩

/-- The packet of an extension stream. -/
def extensionPacket (packetType : UInt8) (id : UInt32) (data : Bytes) : Bytes :=
  [packetType] ++ putU32Le id ++ data

theorem names_extensionPacket (packetType : UInt8) (id : UInt32)
    (data : Bytes) : Packet.Names id (extensionPacket packetType id data) :=
  ⟨packetType, Packet.head_frame packetType id data⟩

theorem MuxStreamRead.Delivered.names {read : MuxStreamRead}
    {channel : Channel Bytes} {info : StreamInfo} {chunk : Bytes}
    {sink : SinkAnswers} {result : ReadPoll}
    (h : Delivered read channel info chunk sink result) :
    ∀ packet ∈ result.sent, Packet.Names info.id packet := by
  intro packet hpacket
  cases h with
  | settled | lockTaken | notReady | failed | refused => cases hpacket
  | announced =>
      rw [List.mem_singleton.mp hpacket]
      exact Packet.names_encode (.newContinue _ _)

theorem Stream.names_pollNext (s : Stream) (sink : SinkAnswers) :
    ∀ packet ∈ (s.pollNext sink).2.2, Packet.Names s.info.id packet := by
  have hpolled := s.read.polledNext s.channel s.info sink
  unfold Stream.pollNext
  generalize s.read.pollNext s.channel s.info sink = result at hpolled ⊢
  intro packet hpacket
  cases hpolled with
  | disconnected | empty => cases hpacket
  | saved _ _ _ _ hdelivered => exact hdelivered.names packet hpacket
  | popped _ _ _ _ _ _ hdelivered => exact hdelivered.names packet hpacket

namespace MuxStreamWrite

variable {write : MuxStreamWrite} {info : StreamInfo} {sink : SinkAnswers}
  {result : WritePoll}

theorem names_newData (id : UInt32) (chunk : Bytes) :
    ∀ packet ∈ [(Packet.newData id chunk).encode],
      Packet.Names id packet := by
  intro packet hpacket
  rw [List.mem_singleton.mp hpacket]
  exact Packet.names_encode (.newData _ _)

theorem LockedWritten.names (h : LockedWritten write info sink result) :
    ∀ packet ∈ result.sent, Packet.Names info.id packet := by
  cases h with
  | notReady | failed | refused | nothing =>
      intro packet hpacket
      cases hpacket
  | written chunk => exact names_newData info.id chunk

theorem PolledReady.names {actorGone : Bool} {cx : Waker}
    (h : PolledReady write info actorGone cx sink result) :
    ∀ packet ∈ result.sent, Packet.Names info.id packet := by
  cases h with
  | closed | parked | nothing | lockTaken =>
      intro packet hpacket
      cases hpacket
  | kept _ _ _ _ _ hwritten => exact hwritten.names
  | written chunk => exact names_newData info.id chunk

theorem PolledFlush.names (h : PolledFlush write info sink result) :
    ∀ packet ∈ result.sent, Packet.Names info.id packet := by
  cases h with
  | lockTaken | nothing =>
      intro packet hpacket
      cases hpacket
  | kept _ _ _ hwritten => exact hwritten.names
  | written chunk => exact names_newData info.id chunk

end MuxStreamWrite

theorem MuxStreamAsyncWrite.names_pollWrite (write : MuxStreamAsyncWrite)
    (info : StreamInfo) (buf : Bytes) (sink : SinkAnswers) :
    ∀ packet ∈ (write.pollWrite info buf sink).sent,
      Packet.Names info.id packet := by
  intro packet hpacket
  unfold pollWrite at hpacket
  split at hpacket
  · cases hpacket
  · split at hpacket
    · cases hpacket
    · cases hpacket
    · split at hpacket
      · cases hpacket
      · simp only [List.mem_singleton] at hpacket
        subst hpacket
        exact Packet.names_encode (.newData _ _)

end Epoxy
