/-
The streams of a multiplexor as a directory.  The actor adds, finds and removes
streams by their ids, and nothing else changes which stream an id finds; what
a stream's record says about its id and its flow control never changes.
-/
import Epoxy.KeyDirectory
import Epoxy.MuxRun
import Epoxy.StreamPolls

namespace Epoxy

open ActionMachine ByteCursor KeyDirectory PollChannel

/-- What no operation on the record changes. -/
structure SameInfo (info next : StreamInfo) : Prop where
  id : next.id = info.id
  flowStatus : next.flowStatus = info.flowStatus
  targetFlowControl : next.targetFlowControl = info.targetFlowControl

theorem SameInfo.refl (info : StreamInfo) : SameInfo info info :=
  ⟨rfl, rfl, rfl⟩

theorem SameInfo.trans {info mid next : StreamInfo} (h₁ : SameInfo info mid)
    (h₂ : SameInfo mid next) : SameInfo info next :=
  ⟨h₂.id.trans h₁.id, h₂.flowStatus.trans h₁.flowStatus,
    h₂.targetFlowControl.trans h₁.targetFlowControl⟩

theorem SameInfo.paid (info : StreamInfo) : SameInfo info info.paid := by
  unfold StreamInfo.paid
  split
  · exact ⟨rfl, rfl, rfl⟩
  · exact .refl info

section Polls

variable {info : StreamInfo} {sink : SinkAnswers}

theorem MuxStreamRead.Delivered.sameInfo {read : MuxStreamRead}
    {channel : Channel Bytes} {chunk : Bytes} {result : ReadPoll}
    (h : Delivered read channel info chunk sink result) :
    SameInfo info result.info := by
  cases h with
  | settled | lockTaken | notReady | failed => exact .refl info
  | refused | announced => exact ⟨rfl, rfl, rfl⟩

variable {write : MuxStreamWrite} {result : WritePoll}

theorem MuxStreamWrite.LockedWritten.sameInfo
    (h : LockedWritten write info sink result) :
    SameInfo info result.info := by
  cases h with
  | notReady | failed | refused | nothing => exact .refl info
  | written => exact .paid info

theorem MuxStreamWrite.PolledReady.sameInfo {actorGone : Bool} {cx : Waker}
    (h : PolledReady write info actorGone cx sink result) :
    SameInfo info result.info := by
  cases h with
  | closed | nothing | lockTaken => exact .refl info
  | parked => exact ⟨rfl, rfl, rfl⟩
  | kept _ _ _ _ _ hwritten => exact hwritten.sameInfo
  | written => exact .paid info

theorem MuxStreamWrite.PolledFlush.sameInfo
    (h : PolledFlush write info sink result) :
    SameInfo info result.info := by
  cases h with
  | lockTaken | nothing => exact .refl info
  | kept _ _ _ hwritten => exact hwritten.sameInfo
  | written => exact .paid info

end Polls

/-- Two states of one stream. -/
structure SameStream (s t : Stream) : Prop where
  info : SameInfo s.info t.info
  capacity : t.channel.capacity = s.channel.capacity

namespace SameStream

theorem refl (s : Stream) : SameStream s s := ⟨.refl s.info, rfl⟩

theorem trans {s t u : Stream} (hst : SameStream s t) (htu : SameStream t u) :
    SameStream s u :=
  ⟨hst.info.trans htu.info, htu.capacity.trans hst.capacity⟩

theorem close (s : Stream) (close : ClosePacket) :
    SameStream s (s.close close) := ⟨⟨rfl, rfl, rfl⟩, rfl⟩

theorem handleDataPacket (actor : Actor) (s : Stream) (data : Bytes) :
    SameStream s (actor.handleDataPacket s data) := by
  have hcapacity := s.channel.capacity_trySend data
  cases actor with
  | client => exact ⟨.refl s.info, hcapacity⟩
  | server streamTx =>
      simp only [Actor.handleDataPacket, ServerActor.handleDataPacket]
      split
      · exact ⟨⟨rfl, rfl, rfl⟩, hcapacity⟩
      · exact ⟨.refl s.info, hcapacity⟩

theorem handleContinuePacket (s : Stream) (cont : ContinuePacket) :
    SameStream s (ClientActor.handleContinuePacket s cont) := by
  unfold ClientActor.handleContinuePacket
  split
  · exact ⟨⟨rfl, rfl, rfl⟩, rfl⟩
  · exact .refl s

theorem pollNext (s : Stream) (sink : SinkAnswers) :
    SameStream s (s.pollNext sink).1 := by
  have hpolled := s.read.polledNext s.channel s.info sink
  have hcapacity := s.channel.capacity_pollNext
  unfold Stream.pollNext
  generalize s.read.pollNext s.channel s.info sink = result at hpolled ⊢
  cases hpolled with
  | disconnected => exact .refl s
  | empty => exact ⟨.refl s.info, hcapacity⟩
  | saved _ _ _ _ hdelivered =>
      exact ⟨hdelivered.sameInfo, congrArg Channel.capacity hdelivered.channel⟩
  | popped _ _ _ _ _ _ hdelivered =>
      exact ⟨hdelivered.sameInfo,
        (congrArg Channel.capacity hdelivered.channel).trans hcapacity⟩

end SameStream

namespace MuxInner

/-- The streams by id. -/
def directory (mux : MuxInner) : Directory UInt32 :=
  ⟨mux.heap.map fun s => s.info.id, mux.streams.lookup⟩

theorem directory_new (actor : Actor) (flowStreamTypes : List UInt8)
    (bufferSize : UInt32) :
    (new actor flowStreamTypes bufferSize).directory = .empty := rfl

/-- What an event does to the directory. -/
def eventMove (mux : MuxInner) : WsEvent → Move UInt32
  | .createStream _ _ =>
      if mux.currentId.toNat + 1 < 2 ^ 32 then .add (mux.currentId + 1)
      else .stay
  | .close id _ _ => .remove id
  | .wispMessage ⟨streamId, .connect _⟩ => .add streamId
  | .wispMessage ⟨streamId, .close _⟩ =>
      if streamId = 0 then .stay else .remove streamId
  | .wispMessage _ => .stay
  | .endFut _ => .stay

theorem ids_modify {heap : List Stream} {number : Nat} {f : Stream → Stream}
    (hf : ∀ s, (f s).info.id = s.info.id) :
    (heap.modify number f).map (fun s => s.info.id) =
      heap.map fun s => s.info.id := by
  refine List.ext_getElem? fun other => ?_
  simp only [List.getElem?_map, List.getElem?_modify]
  by_cases heq : number = other
  · cases heap[other]? with
    | none => rfl
    | some s => simp [heq, hf]
  · cases heap[other]? with
    | none => rfl
    | some s => simp [heq]

theorem directory_modify (mux : MuxInner) (id : UInt32) {f : Stream → Stream}
    (hf : ∀ s, (f s).info.id = s.info.id) :
    (mux.modify id f).directory = mux.directory := by
  unfold modify
  split
  · simp only [directory, ids_modify hf]
  · rfl

/-- Only the stream that the id finds is changed. -/
theorem getElem?_heap_modify {mux : MuxInner} {id : UInt32} {number : Nat}
    (f : Stream → Stream) (hother : mux.streams.lookup id ≠ some number) :
    (mux.modify id f).heap[number]? = mux.heap[number]? := by
  unfold modify
  split
  · next found hfound =>
      have hne : found ≠ number := fun heq => hother (heq ▸ hfound)
      simp [hne]
  · rfl

theorem directory_dropReceiver (mux : MuxInner) (number : Nat) :
    directory { mux with
      heap := mux.heap.modify number fun stream =>
        { stream with channel := stream.channel.dropReceiver } } =
      mux.directory := by
  have hids := @ids_modify mux.heap number
    (fun stream => { stream with channel := stream.channel.dropReceiver })
    fun _ => rfl
  simp only [directory, hids]

theorem directory_addStream (mux : MuxInner) (id : UInt32) (ty : StreamType) :
    (mux.addStream id ty).1.directory = mux.directory.move (.add id) := by
  have hdropped := @directory_modify mux id
    (fun stream => { stream with channel := stream.channel.dropSender })
    fun _ => rfl
  have hids := congrArg Directory.keys hdropped
  simp only [directory] at hids
  simp only [directory, addStream, Directory.move, List.map_append, hids,
    List.length_map, Directory.mk.injEq]
  refine ⟨rfl, ?_⟩
  funext other
  by_cases heq : other = id
  · subst heq
    rw [AList.lookup_insert, Function.update_self]
  · rw [AList.lookup_insert_ne heq, Function.update_of_ne heq]

theorem directory_closeStream (mux : MuxInner) (id : UInt32)
    (close : ClosePacket) :
    (mux.closeStream id close).directory = mux.directory.move (.remove id) := by
  have hclosed := @directory_modify mux id
    (fun stream => stream.close close) fun _ => rfl
  have hids := congrArg Directory.keys hclosed
  simp only [directory] at hids
  simp only [directory, closeStream, Directory.move, hids,
    Directory.mk.injEq, true_and]
  funext other
  by_cases heq : other = id
  · subst heq
    rw [AList.lookup_erase, Function.update_self]
  · rw [AList.lookup_erase_ne heq, Function.update_of_ne heq]

theorem ids_closeEntries (entries : List (Sigma fun _ : UInt32 => Nat))
    (heap : List Stream) :
    (closeEntries entries heap).map (fun s => s.info.id) =
      heap.map fun s => s.info.id := by
  induction entries generalizing heap with
  | nil => rfl
  | cons entry rest ih =>
      rw [closeEntries, ih]
      exact ids_modify fun s => (SameStream.close s ⟨.unknown⟩).info.id

theorem directory_drain (mux : MuxInner) :
    mux.drain.directory = mux.directory.move .clear := by
  simp only [directory, drain, ids_closeEntries, Directory.move,
    Directory.mk.injEq, true_and]
  funext id
  exact AList.lookup_empty id

theorem directory_handleConnectPacket (mux : MuxInner) (stream : Nat)
    (pkt : ConnectPacket) :
    (mux.handleConnectPacket stream pkt).1.directory = mux.directory := by
  have hdropped := mux.directory_dropReceiver stream
  unfold handleConnectPacket
  split
  · exact hdropped
  · dsimp only
    split
    · rfl
    · exact hdropped

theorem directory_handlePacket (mux : MuxInner) (packet : Packet) :
    (mux.handlePacket packet).1.directory =
      mux.directory.move (mux.eventMove (.wispMessage packet)) := by
  obtain ⟨streamId, ty⟩ := packet
  cases ty with
  | connect connect =>
      simp only [handlePacket, directory_handleConnectPacket,
        directory_addStream, eventMove]
  | data data =>
      exact mux.directory_modify streamId fun s =>
        (SameStream.handleDataPacket mux.actor s data).info.id
  | cont cont =>
      simp only [handlePacket, handleContinuePacket, eventMove]
      split
      · exact mux.directory_modify streamId fun s =>
          (SameStream.handleContinuePacket s cont).info.id
      · rfl
  | close close =>
      simp only [handlePacket, handleClosePacket, eventMove]
      split
      · rfl
      · exact mux.directory_closeStream streamId close

theorem directory_createStream (mux : MuxInner) (ty : StreamType) :
    (mux.createStream ty).1.directory =
      mux.directory.move
        (if mux.currentId.toNat + 1 < 2 ^ 32 then .add (mux.currentId + 1)
        else .stay) := by
  unfold createStream
  split
  · exact directory_addStream _ _ ty
  · rfl

theorem getElem?_heap_handleClose {mux : MuxInner} {id : UInt32}
    {number : Nat} (close : ClosePacket) (channel : Nat) (send : SendAnswer)
    (hother : mux.streams.lookup id ≠ some number) :
    (mux.handleClose id close channel send).mux.heap[number]? =
      mux.heap[number]? := by
  unfold handleClose
  split
  · exact getElem?_heap_modify _ hother
  · rfl

theorem directory_handleEvent (mux : MuxInner) (event : WsEvent)
    (send : SendAnswer) :
    (mux.handleEvent event send).mux.directory =
      mux.directory.move (mux.eventMove event) := by
  cases event with
  | close id close channel =>
      simp only [handleEvent, handleClose, eventMove]
      split
      · exact mux.directory_closeStream id close
      · next hnone =>
          have hfind : mux.directory.find id = none := hnone
          simp only [Directory.move, ← hfind, Function.update_eq_self]
  | createStream connect channel =>
      have hcreate := mux.directory_createStream connect.streamType
      simp only [handleEvent, handleCreateStream, eventMove]
      split
      · next created error heq =>
          rw [heq] at hcreate
          exact hcreate
      · next created stream streamId heq =>
          rw [heq] at hcreate
          split
          · exact hcreate
          · exact (created.directory_dropReceiver stream).trans hcreate
  | wispMessage packet => exact mux.directory_handlePacket packet
  | endFut reason =>
      cases reason with
      | none => rfl
      | some reason => rfl

theorem currentId_modify (mux : MuxInner) (id : UInt32) (f : Stream → Stream) :
    (mux.modify id f).currentId = mux.currentId := by
  unfold modify
  split
  · rfl
  · rfl

theorem actor_modify (mux : MuxInner) (id : UInt32) (f : Stream → Stream) :
    (mux.modify id f).actor = mux.actor := by
  unfold modify
  split
  · rfl
  · rfl

theorem actor_handleEvent_of_client {mux : MuxInner}
    (hclient : mux.actor = .client) (event : WsEvent) (send : SendAnswer) :
    (mux.handleEvent event send).mux.actor = .client := by
  cases event with
  | close id close channel =>
      simp only [handleEvent, handleClose]
      split
      · exact (mux.actor_modify id _).trans hclient
      · exact hclient
  | createStream connect channel =>
      have hcreated : (mux.createStream connect.streamType).1.actor =
          .client := by
        unfold createStream
        split
        · exact (actor_modify _ _ _).trans hclient
        · exact hclient
      simp only [handleEvent, handleCreateStream]
      split
      · next created error heq =>
          rw [heq] at hcreated
          exact hcreated
      · next created stream id heq =>
          rw [heq] at hcreated
          split
          · exact hcreated
          · exact hcreated
  | wispMessage packet =>
      obtain ⟨id, packetType⟩ := packet
      simp only [handleEvent]
      cases packetType with
      | connect connect =>
          have hadded : (mux.addStream id connect.streamType).1.actor =
              .client := (mux.actor_modify id _).trans hclient
          simp only [handlePacket, handleConnectPacket, hadded]
      | data data => exact (mux.actor_modify id _).trans hclient
      | cont cont =>
          simp only [handlePacket, handleContinuePacket, hclient]
          exact (mux.actor_modify id _).trans hclient
      | close close =>
          simp only [handlePacket, handleClosePacket]
          split
          · exact hclient
          · exact (mux.actor_modify id _).trans hclient
  | endFut reason =>
      cases reason with
      | none => exact hclient
      | some reason => exact hclient

end MuxInner

namespace MuxWorld

/-- What an action does to the directory. -/
def directoryMove (world : MuxWorld) : MuxAction → Move UInt32
  | .event event _ => world.mux.eventMove event
  | .finish => .clear
  | _ => .stay

/-- A poll changes its stream and no stream's identity. -/
theorem directory_update {α : Type} {world next : MuxWorld} {stream : Nat}
    {f : Stream → Stream × α} {seen : α}
    (hf : ∀ s, SameStream s (f s).1)
    (h : world.update stream f = some (next, seen)) :
    next.mux.directory = world.mux.directory := by
  simp only [update, Option.map_eq_some_iff, Prod.mk.injEq] at h
  obtain ⟨s, hs, rfl, rfl⟩ := h
  have hids : (world.mux.heap.set stream (f s).1).map (fun s => s.info.id) =
      world.mux.heap.map fun s => s.info.id := by
    rw [List.map_set, (hf s).info.id]
    have hkey : (world.mux.heap.map fun s => s.info.id)[stream]? =
        some s.info.id := by
      rw [List.getElem?_map, hs]
      rfl
    obtain ⟨hlt, hget⟩ := List.getElem?_eq_some_iff.mp hkey
    rw [← hget, List.set_getElem_self]
  simp only [MuxInner.directory, hids]

theorem directory_step {world next : MuxWorld} {action : MuxAction}
    {seen : List Observation} (h : world.step action = some (next, seen)) :
    next.mux.directory =
      world.mux.directory.move (world.directoryMove action) := by
  cases action with
  | event event send =>
      obtain ⟨-, hmux, -, -⟩ := stepEvent_eq_some h
      rw [hmux]
      exact world.mux.directory_handleEvent event send
  | finish =>
      obtain ⟨-, rfl, -⟩ := step_finish_eq_some h
      exact world.mux.directory_drain
  | pollNext stream sink =>
      refine directory_update (fun s => ?_) h
      exact SameStream.pollNext s sink
  | pollReady stream cx sink =>
      refine directory_update (fun s => ⟨?_, rfl⟩) h
      exact (s.write.polledReady s.info _ cx sink).sameInfo
  | startSend stream item =>
      exact directory_update (fun s => ⟨.refl s.info, rfl⟩) h
  | pollFlush stream sink =>
      refine directory_update (fun s => ⟨?_, rfl⟩) h
      exact (s.write.polledFlush s.info sink).sameInfo
  | dropRead stream =>
      exact directory_update (fun s => ⟨.refl s.info, rfl⟩) h

theorem actor_update {α : Type} {world next : MuxWorld} {stream : Nat}
    {f : Stream → Stream × α} {seen : α}
    (h : world.update stream f = some (next, seen)) :
    next.mux.actor = world.mux.actor := by
  simp only [update, Option.map_eq_some_iff, Prod.mk.injEq] at h
  obtain ⟨s, -, rfl, -⟩ := h
  rfl

theorem actor_step_of_client {world next : MuxWorld}
    {action : MuxAction} {seen : List Observation}
    (hclient : world.mux.actor = .client)
    (h : world.step action = some (next, seen)) :
    next.mux.actor = .client := by
  cases action with
  | event event send =>
      obtain ⟨-, hmux, -, -⟩ := stepEvent_eq_some h
      rw [hmux]
      exact world.mux.actor_handleEvent_of_client hclient event send
  | finish =>
      obtain ⟨-, rfl, -⟩ := step_finish_eq_some h
      exact hclient
  | pollNext stream sink => exact (actor_update h).trans hclient
  | pollReady stream cx sink => exact (actor_update h).trans hclient
  | startSend stream item => exact (actor_update h).trans hclient
  | pollFlush stream sink => exact (actor_update h).trans hclient
  | dropRead stream => exact (actor_update h).trans hclient

end MuxWorld

end Epoxy
