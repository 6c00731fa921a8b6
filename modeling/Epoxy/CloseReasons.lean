/-
The close reason as the handles of a stream report it.  The actor closes a
stream in two steps, and handles look in between; the reader asks whether its
channel has lost its sender, the others ask whether the actor is still there,
and all of them read the reason from the stream's record.
-/
import Epoxy.MuxDirectory

namespace Epoxy

open ActionMachine ByteCursor KeyDirectory PollChannel

/-- The reason of the record, once a channel is disconnected. -/
def reasonOnceDisconnected (disconnected : Bool) (info : StreamInfo) :
    Option CloseReason :=
  if disconnected then some info.getReason else none

def MuxStream.getCloseReason (channel : Channel Bytes) (info : StreamInfo) :
    Option CloseReason := MuxStreamRead.getCloseReason channel info

def MuxStreamWrite.getCloseReason (actorGone : Bool) (info : StreamInfo) :
    Option CloseReason := reasonOnceDisconnected actorGone info

def MuxStreamAsyncWrite.getCloseReason (actorGone : Bool) (info : StreamInfo) :
    Option CloseReason := reasonOnceDisconnected actorGone info

def MuxStreamCloser.getCloseReason (actorGone : Bool) (info : StreamInfo) :
    Option CloseReason := reasonOnceDisconnected actorGone info

/-- What the accessors see of a stream. -/
structure CloseMark where
  reason : UInt8
  sender : Bool
deriving Repr, DecidableEq

def Stream.mark (stream : Stream) : CloseMark :=
  ⟨stream.info.closeReason, stream.channel.sender⟩

namespace CloseMark

/-- A stream that has just been added. -/
def fresh : CloseMark := ⟨CloseReason.unknown.toU8, true⟩

def dropSender (mark : CloseMark) : CloseMark := { mark with sender := false }

def setReason (mark : CloseMark) (reason : CloseReason) : CloseMark :=
  { mark with reason := reason.toU8 }

end CloseMark

@[simp] theorem Stream.mark_new (id : UInt32) (flow : FlowControl)
    (bufferSize : UInt32) :
    (Stream.new id flow bufferSize).mark = .fresh := by
  unfold Stream.mark Stream.new
  split
  · rfl
  · rfl

section Polls

variable {info : StreamInfo} {sink : SinkAnswers}

theorem closeReason_paid (info : StreamInfo) :
    info.paid.closeReason = info.closeReason := by
  unfold StreamInfo.paid
  split
  · rfl
  · rfl

theorem MuxStreamRead.Delivered.closeReason {read : MuxStreamRead}
    {channel : Channel Bytes} {chunk : Bytes} {result : ReadPoll}
    (h : Delivered read channel info chunk sink result) :
    result.info.closeReason = info.closeReason := by
  cases h with
  | settled | lockTaken | notReady | failed | refused | announced => rfl

theorem Stream.mark_pollNext (stream : Stream) (sink : SinkAnswers) :
    (stream.pollNext sink).1.mark = stream.mark := by
  have hpolled := stream.read.polledNext stream.channel stream.info sink
  have hsender := stream.channel.sender_pollNext
  simp only [Stream.pollNext, Stream.mark, CloseMark.mk.injEq]
  generalize stream.read.pollNext stream.channel stream.info sink = result
    at hpolled ⊢
  cases hpolled with
  | disconnected => exact ⟨rfl, rfl⟩
  | empty => exact ⟨rfl, hsender⟩
  | saved _ _ _ _ hdelivered =>
      exact ⟨hdelivered.closeReason,
        congrArg Channel.sender hdelivered.channel⟩
  | popped _ _ _ _ _ _ hdelivered =>
      exact ⟨hdelivered.closeReason,
        (congrArg Channel.sender hdelivered.channel).trans hsender⟩

variable {write : MuxStreamWrite} {result : WritePoll}

theorem MuxStreamWrite.LockedWritten.closeReason
    (h : LockedWritten write info sink result) :
    result.info.closeReason = info.closeReason := by
  cases h with
  | notReady | failed | refused | nothing => rfl
  | written => exact closeReason_paid info

theorem MuxStreamWrite.PolledReady.closeReason {actorGone : Bool} {cx : Waker}
    (h : PolledReady write info actorGone cx sink result) :
    result.info.closeReason = info.closeReason := by
  cases h with
  | closed | nothing | lockTaken | parked => rfl
  | kept _ _ _ _ _ hwritten => exact hwritten.closeReason
  | written => exact closeReason_paid info

theorem MuxStreamWrite.PolledFlush.closeReason
    (h : PolledFlush write info sink result) :
    result.info.closeReason = info.closeReason := by
  cases h with
  | lockTaken | nothing => rfl
  | kept _ _ _ hwritten => exact hwritten.closeReason
  | written => exact closeReason_paid info

end Polls

theorem mark_handleDataPacket (actor : Actor) (stream : Stream) (data : Bytes) :
    (actor.handleDataPacket stream data).mark = stream.mark := by
  have hsender := stream.channel.sender_trySend data
  unfold Stream.mark
  cases actor with
  | client =>
      simp only [Actor.handleDataPacket, ClientActor.handleDataPacket, hsender]
  | server streamTx =>
      simp only [Actor.handleDataPacket, ServerActor.handleDataPacket]
      split
      · rw [hsender]
        rfl
      · rw [hsender]

theorem mark_handleContinuePacket (stream : Stream) (cont : ContinuePacket) :
    (ClientActor.handleContinuePacket stream cont).mark = stream.mark := by
  unfold ClientActor.handleContinuePacket
  split
  · rfl
  · rfl

namespace MuxInner

/-- What the accessors see of every stream, by its number. -/
def marks (mux : MuxInner) : List CloseMark := mux.heap.map Stream.mark

theorem map_mark_modify {heap : List Stream} {number : Nat}
    {f : Stream → Stream} {g : CloseMark → CloseMark}
    (hf : ∀ s, (f s).mark = g s.mark) :
    (heap.modify number f).map Stream.mark =
      (heap.map Stream.mark).modify number g := by
  refine List.ext_getElem? fun other => ?_
  simp only [List.getElem?_map, List.getElem?_modify]
  cases heap[other]? with
  | none => simp
  | some s =>
      by_cases heq : number = other
      · simp [heq, hf]
      · simp [heq]

theorem marks_modify (mux : MuxInner) (streamId : UInt32)
    {f : Stream → Stream} (hf : ∀ s, (f s).mark = s.mark) :
    (mux.modify streamId f).marks = mux.marks := by
  unfold modify
  split
  · next number _ =>
      have hmap : (mux.heap.modify number f).map Stream.mark =
          mux.marks.modify number id := map_mark_modify hf
      exact hmap.trans (List.modify_id number mux.marks)
  · rfl

theorem marks_dropReceiver (mux : MuxInner) (number : Nat) :
    marks { mux with
      heap := mux.heap.modify number fun stream =>
        { stream with channel := stream.channel.dropReceiver } } =
      mux.marks := by
  have hmap : (mux.heap.modify number fun stream =>
      { stream with channel := stream.channel.dropReceiver }).map Stream.mark =
      mux.marks.modify number id := map_mark_modify fun _ => rfl
  exact hmap.trans (List.modify_id number mux.marks)

end MuxInner

/-- The stream that a move takes out of the directory. -/
def removedBy (d : Directory UInt32) : Move UInt32 → Option Nat
  | .add key => d.find key
  | .remove key => d.find key
  | _ => none

/-- The stream taken out has lost its sender, and a new one is as new. -/
def markMove (d : Directory UInt32) (m : Move UInt32)
    (marks : List CloseMark) : List CloseMark :=
  let left :=
    match removedBy d m with
    | some number => marks.modify number .dropSender
    | none => marks
  match m with
  | .add _ => left ++ [.fresh]
  | _ => left

namespace MuxInner

/-- The first half of `close_stream`: the entry is taken out of the map and its
sender dropped. -/
def beginClose (mux : MuxInner) (id : UInt32) : MuxInner :=
  { mux.modify id fun stream =>
      { stream with channel := stream.channel.dropSender } with
    streams := mux.streams.erase id }

theorem marks_dropSender (mux : MuxInner) (id : UInt32) :
    (mux.modify id fun stream =>
      { stream with channel := stream.channel.dropSender }).marks =
      markMove mux.directory (.remove id) mux.marks := by
  unfold modify markMove removedBy
  simp only [directory]
  cases mux.streams.lookup id with
  | some number => exact map_mark_modify fun _ => rfl
  | none => rfl

theorem marks_beginClose (mux : MuxInner) (id : UInt32) :
    (mux.beginClose id).marks =
      markMove mux.directory (.remove id) mux.marks :=
  mux.marks_dropSender id

theorem directory_beginClose (mux : MuxInner) (id : UInt32) :
    (mux.beginClose id).directory = mux.directory.move (.remove id) := by
  have hids := congrArg Directory.keys (@directory_modify mux id
    (fun stream => { stream with channel := stream.channel.dropSender })
    fun _ => rfl)
  have herased := congrArg Directory.find
    (mux.directory_closeStream id ⟨.unknown⟩)
  simp only [directory] at hids herased
  simp only [directory, beginClose, hids, Directory.move,
    Directory.mk.injEq, true_and]
  exact herased

theorem marks_addStream (mux : MuxInner) (id : UInt32) (ty : StreamType) :
    (mux.addStream id ty).1.marks =
      markMove mux.directory (.add id) mux.marks := by
  have hdropped := mux.marks_dropSender id
  simp only [marks] at hdropped
  simp only [marks, addStream, List.map_append, hdropped, List.map_cons,
    List.map_nil, Stream.mark_new]
  rfl

theorem marks_createStream (mux : MuxInner) (ty : StreamType) :
    (mux.createStream ty).1.marks =
      markMove mux.directory
        (if mux.currentId.toNat + 1 < 2 ^ 32 then .add (mux.currentId + 1)
        else .stay) mux.marks := by
  unfold createStream
  split
  · exact marks_addStream _ _ ty
  · rfl

theorem marks_handleConnectPacket (mux : MuxInner) (stream : Nat)
    (pkt : ConnectPacket) :
    (mux.handleConnectPacket stream pkt).1.marks = mux.marks := by
  have hdropped := mux.marks_dropReceiver stream
  unfold handleConnectPacket
  split
  · exact hdropped
  · dsimp only
    split
    · rfl
    · exact hdropped

/-- The second half of `close_stream`, and the unlocking that follows it when
a handle has asked for the close. -/
structure Halfway where
  number : Nat
  reason : CloseReason
  unlocks : Bool
deriving Repr, DecidableEq

def endClose (mux : MuxInner) (half : Halfway) : MuxInner :=
  { mux with
    heap := mux.heap.modify half.number fun stream =>
      { stream with info := stream.info.setReason half.reason }
    txLocked := mux.txLocked && !half.unlocks }

/-- The stream that an event closes, its id, and what is left to do for it. -/
def closingOf (mux : MuxInner) : WsEvent → Option (UInt32 × Halfway)
  | .close id close _ =>
      (mux.streams.lookup id).map fun number =>
        (id, ⟨number, close.reason, true⟩)
  | .wispMessage ⟨streamId, .close close⟩ =>
      if streamId = 0 then none
      else
        (mux.streams.lookup streamId).map fun number =>
          (streamId, ⟨number, close.reason, false⟩)
  | _ => none

theorem lookup_of_closingOf {mux : MuxInner} {event : WsEvent} {id : UInt32}
    {half : Halfway} (h : mux.closingOf event = some (id, half)) :
    mux.streams.lookup id = some half.number := by
  unfold closingOf at h
  split at h
  · obtain ⟨number, hnumber, heq⟩ := Option.map_eq_some_iff.mp h
    cases heq
    exact hnumber
  · split at h
    · cases h
    · obtain ⟨number, hnumber, heq⟩ := Option.map_eq_some_iff.mp h
      cases heq
      exact hnumber
  · cases h

/-- The two halves are `close_stream`. -/
theorem endClose_beginClose (mux : MuxInner) {id : UInt32} {half : Halfway}
    (hnumber : mux.streams.lookup id = some half.number) :
    (mux.beginClose id).endClose half =
      { mux.closeStream id ⟨half.reason⟩ with
        txLocked := mux.txLocked && !half.unlocks } := by
  simp only [endClose, beginClose, closeStream, Stream.close, modify, hnumber,
    List.modify_modify_eq]
  rfl

/-- A round that closes a stream is its two halves. -/
theorem handleEvent_of_closingOf {mux : MuxInner} {event : WsEvent}
    {id : UInt32} {half : Halfway}
    (h : mux.closingOf event = some (id, half)) (send : SendAnswer) :
    (mux.handleEvent event send).mux = (mux.beginClose id).endClose half ∧
      (mux.handleEvent event send).result = .ok false := by
  rw [endClose_beginClose mux (lookup_of_closingOf h)]
  unfold closingOf at h
  split at h
  · obtain ⟨number, hnumber, heq⟩ := Option.map_eq_some_iff.mp h
    cases heq
    simp [handleEvent, handleClose, hnumber]
  · split at h
    · cases h
    · next hzero =>
        obtain ⟨number, hnumber, heq⟩ := Option.map_eq_some_iff.mp h
        cases heq
        simp [handleEvent, handlePacket, handleClosePacket, hzero,
          closeStream, modify, hnumber]
  · cases h

theorem eventMove_ne_clear (mux : MuxInner) (event : WsEvent) :
    mux.eventMove event ≠ .clear := by
  unfold eventMove
  repeat' split
  all_goals simp

/-- Any other round, as the accessors see it. -/
theorem marks_handleEvent {mux : MuxInner} {event : WsEvent}
    (h : mux.closingOf event = none) (send : SendAnswer) :
    (mux.handleEvent event send).mux.marks =
      markMove mux.directory (mux.eventMove event) mux.marks := by
  cases event with
  | close id close channel =>
      have hnone : mux.streams.lookup id = none := by
        simpa [closingOf] using h
      simp [handleEvent, handleClose, eventMove, markMove, removedBy,
        directory, hnone]
  | createStream connect channel =>
      have hcreate := mux.marks_createStream connect.streamType
      simp only [handleEvent, handleCreateStream, eventMove]
      split
      · next created error heq =>
          rw [heq] at hcreate
          exact hcreate
      · next created stream streamId heq =>
          rw [heq] at hcreate
          split
          · exact hcreate
          · exact (created.marks_dropReceiver stream).trans hcreate
  | endFut reason =>
      cases reason with
      | none => rfl
      | some reason => rfl
  | wispMessage packet =>
      obtain ⟨streamId, packetType⟩ := packet
      simp only [handleEvent]
      cases packetType with
      | connect connect =>
          simp only [handlePacket, marks_handleConnectPacket,
            marks_addStream, eventMove]
      | data data =>
          exact mux.marks_modify streamId fun s =>
            mark_handleDataPacket mux.actor s data
      | cont cont =>
          simp only [handlePacket, handleContinuePacket, eventMove]
          split
          · exact mux.marks_modify streamId fun s =>
              mark_handleContinuePacket s cont
          · rfl
      | close close =>
          simp only [handlePacket, handleClosePacket, eventMove]
          split
          · rfl
          · next hzero =>
              have hnone : mux.streams.lookup streamId = none := by
                simpa [closingOf, hzero] using h
              simp [closeStream, modify, marks, markMove, removedBy,
                directory, hnone]

end MuxInner

namespace MuxAction

/-- A handle of a stream acts, not the actor. -/
def byHandle : MuxAction → Bool
  | .event _ _ => false
  | .finish => false
  | _ => true

end MuxAction

namespace MuxWorld

theorem marks_update {α : Type} {world next : MuxWorld} {stream : Nat}
    {f : Stream → Stream × α} {seen : α} (hf : ∀ s, (f s).1.mark = s.mark)
    (h : world.update stream f = some (next, seen)) :
    next.mux.marks = world.mux.marks ∧ next.phase = world.phase := by
  simp only [update, Option.map_eq_some_iff, Prod.mk.injEq] at h
  obtain ⟨s, hs, rfl, rfl⟩ := h
  refine ⟨?_, rfl⟩
  have hmark : world.mux.marks[stream]? = some s.mark := by
    rw [MuxInner.marks, List.getElem?_map, hs]
    rfl
  obtain ⟨hlt, hget⟩ := List.getElem?_eq_some_iff.mp hmark
  have hset : world.mux.marks.set stream s.mark = world.mux.marks := by
    rw [← hget, List.set_getElem_self]
  simp only [MuxInner.marks, List.map_set, hf]
  exact hset

/-- A handle changes nothing that the accessors see. -/
theorem marks_step_of_byHandle {world next : MuxWorld} {action : MuxAction}
    {seen : List Observation} (hhandle : action.byHandle = true)
    (h : world.step action = some (next, seen)) :
    next.mux.marks = world.mux.marks ∧ next.phase = world.phase := by
  cases action with
  | event event send => cases hhandle
  | finish => cases hhandle
  | pollNext stream sink =>
      refine marks_update (fun s => ?_) h
      exact s.mark_pollNext sink
  | pollReady stream cx sink =>
      refine marks_update (fun s => ?_) h
      have hpolled :=
        s.write.polledReady s.info (world.phase ≠ .running) cx sink
      simp only [Stream.mark, hpolled.closeReason]
  | startSend stream item => exact marks_update (fun s => rfl) h
  | pollFlush stream sink =>
      refine marks_update (fun s => ?_) h
      have hpolled := s.write.polledFlush s.info sink
      simp only [Stream.mark, hpolled.closeReason]
  | dropRead stream => exact marks_update (fun s => rfl) h

theorem directory_step_of_byHandle {world next : MuxWorld} {action : MuxAction}
    {seen : List Observation} (hhandle : action.byHandle = true)
    (h : world.step action = some (next, seen)) :
    next.mux.directory = world.mux.directory := by
  have hmoved := directory_step h
  cases action with
  | event event send => cases hhandle
  | finish => cases hhandle
  | _ => exact hmoved

end MuxWorld

/-- A multiplexor whose actor may be between the two halves of closing a
stream.  `closedBy` has the reason for which the stream of each number was
closed; a stream whose entry another one took over was closed for none. -/
structure ClosingWorld where
  world : MuxWorld
  halfway : Option MuxInner.Halfway
  closedBy : Nat → Option CloseReason

/-- The drain takes the entries of the map in any order. -/
inductive ClosingAction where
  | poll (action : MuxAction)
  | round (event : WsEvent) (send : SendAnswer)
  | endClose
  | leave
  | drain (id : UInt32)
  | finish

namespace ClosingWorld

def init (mux : MuxInner) : ClosingWorld :=
  ⟨.init mux, none, fun _ => none⟩

def noteClosed (closedBy : Nat → Option CloseReason) (reason : CloseReason) :
    Option Nat → Nat → Option CloseReason
  | some number => Function.update closedBy number (some reason)
  | none => closedBy

def beginClose (closing : ClosingWorld) (id : UInt32)
    (half : MuxInner.Halfway) : ClosingWorld where
  world := { closing.world with mux := closing.world.mux.beginClose id }
  halfway := some half
  closedBy := noteClosed closing.closedBy half.reason half.number

/-- Another stream may have taken over an entry. -/
def afterRound (closing : ClosingWorld) (event : WsEvent) (world : MuxWorld) :
    ClosingWorld :=
  let mux := closing.world.mux
  { closing with
    world
    closedBy := noteClosed closing.closedBy .unknown
      (removedBy mux.directory (mux.eventMove event)) }

def stepRound (closing : ClosingWorld) (event : WsEvent) (send : SendAnswer) :
    Option ClosingWorld :=
  match closing.world.mux.closingOf event with
  | some (id, half) =>
      if closing.world.phase = .running then some (closing.beginClose id half)
      else none
  | none =>
      (closing.world.stepEvent event send).map fun next =>
        closing.afterRound event next.1

def step (closing : ClosingWorld) (action : ClosingAction) :
    Option ClosingWorld :=
  match action, closing.halfway with
  | .poll action, _ =>
      if action.byHandle then
        (closing.world.step action).map fun next =>
          { closing with world := next.1 }
      else none
  | .endClose, some half =>
      some { closing with
        world := { closing.world with
          mux := closing.world.mux.endClose half }
        halfway := none }
  | .round event send, none => closing.stepRound event send
  | .leave, none =>
      if closing.world.phase = .running then
        some { closing with
          world := { closing.world with phase := .left true } }
      else none
  | .drain id, none =>
      if closing.world.phase = .running then none
      else
        (closing.world.mux.streams.lookup id).map fun number =>
          closing.beginClose id ⟨number, .unknown, false⟩
  | .finish, none =>
      if closing.world.phase = .running ∨ closing.world.phase = .done ∨
          closing.world.mux.streams ≠ ∅ then none
      else
        some { closing with
          world := ⟨{ closing.world.mux with txLocked := false }, .done⟩ }
  | _, _ => none

def machine : Machine ClosingWorld ClosingAction := ⟨step⟩

/-- The stream has its entry in the map. -/
def Open (closing : ClosingWorld) (number : Nat) : Prop :=
  ∃ id, closing.world.mux.streams.lookup id = some number

/-- An open stream is as new.  A stream that is not in the map has lost its
sender and has the reason it was closed for, unless it is the one that the
actor is about to note it for; past the loop this reason is the one that it
has already. -/
structure Consistent (closing : ClosingWorld) : Prop where
  keyed : closing.world.mux.directory.Keyed
  mapped : ∀ id number, closing.world.mux.streams.lookup id = some number →
    closing.world.mux.marks[number]? = some .fresh ∧
      closing.closedBy number = none
  lost : ∀ number mark, closing.world.mux.marks[number]? = some mark →
    closing.world.mux.directory.Lost number →
    ∃ reason, closing.closedBy number = some reason ∧ mark.sender = false ∧
      (mark.reason = reason.toU8 ∨
        ∃ half, closing.halfway = some half ∧ half.number = number)
  unused : ∀ number, closing.world.mux.marks.length ≤ number →
    closing.closedBy number = none
  halfway : ∀ half, closing.halfway = some half →
    closing.world.mux.directory.Lost half.number ∧
      closing.closedBy half.number = some half.reason ∧
      closing.world.mux.marks[half.number]? =
        some ⟨CloseReason.unknown.toU8, false⟩ ∧
      (closing.world.phase ≠ .running → half.reason = .unknown)

theorem consistent_init (actor : Actor) (flowStreamTypes : List UInt8)
    (bufferSize : UInt32) :
    (init (.new actor flowStreamTypes bufferSize)).Consistent where
  keyed := Directory.keyed_empty
  mapped id number h := by cases h
  lost number mark h := by cases h
  unused number h := rfl
  halfway half h := by cases h

theorem length_marks (mux : MuxInner) :
    mux.marks.length = mux.directory.keys.length := by
  simp [MuxInner.marks, MuxInner.directory]

theorem getElem?_markMove_of_lt {d : Directory UInt32} {m : Move UInt32}
    {marks : List CloseMark} {number : Nat} (hlt : number < marks.length)
    (hother : removedBy d m ≠ some number) :
    (markMove d m marks)[number]? = marks[number]? := by
  have hleft : ∀ left : List CloseMark, left =
      (match removedBy d m with
      | some number => marks.modify number .dropSender
      | none => marks) → left[number]? = marks[number]? ∧
        number < left.length := by
    rintro left rfl
    split
    · next removed heq =>
        have hne : removed ≠ number := fun h => hother (h ▸ heq)
        simp [hne, hlt]
    · exact ⟨rfl, hlt⟩
  obtain ⟨hget, hlength⟩ := hleft _ rfl
  unfold markMove
  cases m with
  | add key => exact (List.getElem?_append_left hlength).trans hget
  | stay => exact hget
  | remove key => exact hget
  | clear => exact hget

theorem getElem?_markMove_removed {d : Directory UInt32} {m : Move UInt32}
    {marks : List CloseMark} {number : Nat} {mark : CloseMark}
    (hmark : marks[number]? = some mark)
    (hremoved : removedBy d m = some number) :
    (markMove d m marks)[number]? = some mark.dropSender := by
  have hmodified : (marks.modify number .dropSender)[number]? =
      some mark.dropSender := by
    simp [hmark]
  unfold markMove
  rw [hremoved]
  cases m with
  | add key =>
      have hlt := (List.getElem?_eq_some_iff.mp hmodified).1
      exact (List.getElem?_append_left hlt).trans hmodified
  | stay => exact hmodified
  | remove key => exact hmodified
  | clear => exact hmodified

theorem getElem?_markMove_new (d : Directory UInt32) (key : UInt32)
    (marks : List CloseMark) :
    (markMove d (.add key) marks)[marks.length]? = some .fresh := by
  unfold markMove
  split
  · simp
  · simp

theorem length_markMove (d : Directory UInt32) (m : Move UInt32)
    (marks : List CloseMark) :
    marks.length ≤ (markMove d m marks).length := by
  unfold markMove
  cases m with
  | add key =>
      simp only [List.length_append]
      split
      · simp
      · simp
  | remove key =>
      dsimp only
      split
      · simp
      · simp
  | stay => simp [removedBy]
  | clear => simp [removedBy]

/-- The entry that a move takes out of the directory is the only one that is
lost with it. -/
theorem lost_move_cases {d : Directory UInt32} (hkeyed : d.Keyed)
    {m : Move UInt32} (hm : m ≠ .clear) {number : Nat}
    (hlt : number < d.keys.length) :
    (d.move m).Lost number ↔ d.Lost number ∨ removedBy d m = some number := by
  constructor
  · intro hlost
    by_cases hfound : d.Lost number
    · exact .inl hfound
    · simp only [Directory.Lost, not_forall, not_not] at hfound
      obtain ⟨key, hkey⟩ := hfound
      rcases Directory.eq_of_lost_move hkey hlost with rfl | rfl | rfl
      · exact .inr hkey
      · exact .inr hkey
      · exact absurd rfl hm
  · rintro (hlost | hremoved)
    · intro key hkey
      rcases Directory.find_move hkey with hold | ⟨-, rfl⟩
      · exact hlost key hold
      · exact Nat.lt_irrefl _ hlt
    · cases m with
      | add key => exact hkeyed.lost_move hremoved (.inl rfl)
      | remove key => exact hkeyed.lost_move hremoved (.inr (.inl rfl))
      | stay => cases hremoved
      | clear => cases hremoved

theorem noteClosed_self (closedBy : Nat → Option CloseReason)
    (reason : CloseReason) (number : Nat) :
    noteClosed closedBy reason (some number) number = some reason := by
  simp [noteClosed]

theorem noteClosed_of_ne {closedBy : Nat → Option CloseReason}
    {reason : CloseReason} {removed : Option Nat} {number : Nat}
    (hne : removed ≠ some number) :
    noteClosed closedBy reason removed number = closedBy number := by
  cases removed with
  | none => rfl
  | some other =>
      exact Function.update_of_ne (fun heq => hne (congrArg some heq.symm)) _ _

/-- What an action leaves behind that takes at most one stream out of the map:
it has noted why, and the actor is halfway through closing it unless there is
no reason to store. -/
structure Moved (closing next : ClosingWorld) (m : Move UInt32)
    (reason : CloseReason) : Prop where
  free : closing.halfway = none
  notClear : m ≠ .clear
  directory : next.world.mux.directory = closing.world.mux.directory.move m
  marks : next.world.mux.marks =
    markMove closing.world.mux.directory m closing.world.mux.marks
  closedBy : next.closedBy = noteClosed closing.closedBy reason
    (removedBy closing.world.mux.directory m)
  halfway : (next.halfway = none ∧ reason = .unknown) ∨
    ∃ half, next.halfway = some half ∧ half.reason = reason ∧
      removedBy closing.world.mux.directory m = some half.number ∧
      (next.world.phase ≠ .running → reason = .unknown)

theorem lost_iff_not_open {closing : ClosingWorld} {number : Nat} :
    closing.world.mux.directory.Lost number ↔ ¬ closing.Open number := by
  simp only [Directory.Lost, Open, MuxInner.directory, not_exists]

variable {closing next : ClosingWorld}

section Moved

variable {m : Move UInt32} {reason : CloseReason}

/-- The stream that is taken out was as new until now. -/
theorem Consistent.fresh_of_removed (h : closing.Consistent) {number : Nat}
    (hremoved : removedBy closing.world.mux.directory m = some number) :
    closing.world.mux.marks[number]? = some .fresh ∧
      number < closing.world.mux.marks.length := by
  obtain ⟨key, hkey⟩ : ∃ key, closing.world.mux.streams.lookup key =
      some number := by
    cases m with
    | add key => exact ⟨key, hremoved⟩
    | remove key => exact ⟨key, hremoved⟩
    | stay => cases hremoved
    | clear => cases hremoved
  have hfresh := (h.mapped key number hkey).1
  exact ⟨hfresh, (List.getElem?_eq_some_iff.mp hfresh).1⟩

theorem Consistent.lost_iff (h : closing.Consistent)
    (hmoved : closing.Moved next m reason) {number : Nat}
    (hlt : number < closing.world.mux.marks.length) :
    next.world.mux.directory.Lost number ↔
      closing.world.mux.directory.Lost number ∨
        removedBy closing.world.mux.directory m = some number := by
  rw [length_marks] at hlt
  rw [hmoved.directory]
  exact lost_move_cases h.keyed hmoved.notClear hlt

theorem Consistent.mapped_moved (h : closing.Consistent)
    (hmoved : closing.Moved next m reason) {id : UInt32} {number : Nat}
    (hid : next.world.mux.streams.lookup id = some number) :
    next.world.mux.marks[number]? = some .fresh ∧
      next.closedBy number = none := by
  have hfind : (closing.world.mux.directory.move m).find id =
      some number := by
    rw [← hmoved.directory]
    exact hid
  rw [hmoved.marks, hmoved.closedBy]
  rcases Directory.find_move hfind with hold | ⟨rfl, rfl⟩
  · have hopen := h.mapped id number hold
    have hlt := (List.getElem?_eq_some_iff.mp hopen.1).1
    have hne : removedBy closing.world.mux.directory m ≠ some number := by
      intro hgone
      exact (h.lost_iff hmoved hlt).mpr (.inr hgone) id hid
    exact ⟨(getElem?_markMove_of_lt hlt hne).trans hopen.1,
      (noteClosed_of_ne hne).trans hopen.2⟩
  · rw [← length_marks]
    refine ⟨getElem?_markMove_new _ id _, ?_⟩
    rw [noteClosed_of_ne fun hgone => ?_]
    · exact h.unused _ (Nat.le_refl _)
    · exact Nat.lt_irrefl _ (h.fresh_of_removed hgone).2

/-- Of the lost streams, the one that was just taken out is the only one whose
record may not say why yet. -/
theorem Consistent.lost_moved (h : closing.Consistent)
    (hmoved : closing.Moved next m reason) {number : Nat} {mark : CloseMark}
    (hmark : next.world.mux.marks[number]? = some mark)
    (hgone : next.world.mux.directory.Lost number) :
    ∃ stored, next.closedBy number = some stored ∧ mark.sender = false ∧
      (mark.reason = stored.toU8 ∨
        ∃ half, next.halfway = some half ∧ half.number = number) := by
  have hlt : number < closing.world.mux.marks.length := by
    by_contra hnew
    have hkeys : number < next.world.mux.directory.keys.length := by
      rw [← length_marks]
      exact (List.getElem?_eq_some_iff.mp hmark).1
    rw [hmoved.directory] at hgone hkeys
    rw [length_marks, Nat.not_lt] at hnew
    exact Directory.not_lost_move_of_new hnew hkeys hgone
  rw [hmoved.marks] at hmark
  rw [hmoved.closedBy]
  by_cases hout : removedBy closing.world.mux.directory m = some number
  · have hfresh := (h.fresh_of_removed hout).1
    rw [getElem?_markMove_removed hfresh hout] at hmark
    cases hmark
    rw [hout, noteClosed_self]
    refine ⟨reason, rfl, rfl, ?_⟩
    rcases hmoved.halfway with ⟨-, rfl⟩ | ⟨half, hhalf, -, hnumber, -⟩
    · exact .inl rfl
    · rw [hout] at hnumber
      exact .inr ⟨half, hhalf, (Option.some.inj hnumber).symm⟩
  · rw [getElem?_markMove_of_lt hlt hout] at hmark
    have hbefore : closing.world.mux.directory.Lost number :=
      ((h.lost_iff hmoved hlt).mp hgone).resolve_right hout
    obtain ⟨stored, hstored, hsender, hreason⟩ :=
      h.lost number mark hmark hbefore
    rw [noteClosed_of_ne hout]
    refine ⟨stored, hstored, hsender, hreason.elim .inl ?_⟩
    rintro ⟨half, hhalf, -⟩
    rw [hmoved.free] at hhalf
    cases hhalf

theorem Consistent.unused_moved (h : closing.Consistent)
    (hmoved : closing.Moved next m reason) {number : Nat}
    (hle : next.world.mux.marks.length ≤ number) :
    next.closedBy number = none := by
  rw [hmoved.marks] at hle
  have hunused := Nat.le_trans (length_markMove _ _ _) hle
  rw [hmoved.closedBy, noteClosed_of_ne fun hgone => ?_]
  · exact h.unused number hunused
  · exact Nat.not_lt.mpr hunused (h.fresh_of_removed hgone).2

theorem Consistent.halfway_moved (h : closing.Consistent)
    (hmoved : closing.Moved next m reason) {half : MuxInner.Halfway}
    (hhalf : next.halfway = some half) :
    next.world.mux.directory.Lost half.number ∧
      next.closedBy half.number = some half.reason ∧
      next.world.mux.marks[half.number]? =
        some ⟨CloseReason.unknown.toU8, false⟩ ∧
      (next.world.phase ≠ .running → half.reason = .unknown) := by
  rcases hmoved.halfway with ⟨hnone, -⟩ |
    ⟨other, hother, hreason, hout, hleft⟩
  · rw [hnone] at hhalf
    cases hhalf
  · obtain rfl : other = half := Option.some.inj (hother.symm.trans hhalf)
    obtain ⟨hfresh, hlt⟩ := h.fresh_of_removed hout
    refine ⟨(h.lost_iff hmoved hlt).mpr (.inr hout), ?_, ?_, ?_⟩
    · rw [hmoved.closedBy, hout, noteClosed_self, hreason]
    · rw [hmoved.marks, getElem?_markMove_removed hfresh hout]
      rfl
    · rw [hreason]
      exact hleft

theorem Consistent.moved (h : closing.Consistent)
    (hmoved : closing.Moved next m reason) : next.Consistent where
  keyed := by
    rw [hmoved.directory]
    exact h.keyed.move m
  mapped _ _ hid := h.mapped_moved hmoved hid
  lost _ _ hmark hgone := h.lost_moved hmoved hmark hgone
  unused _ hle := h.unused_moved hmoved hle
  halfway _ hhalf := h.halfway_moved hmoved hhalf

end Moved

theorem Consistent.of_eq (h : closing.Consistent)
    (hmarks : next.world.mux.marks = closing.world.mux.marks)
    (hdirectory : next.world.mux.directory = closing.world.mux.directory)
    (hclosed : next.closedBy = closing.closedBy)
    (hhalfway : next.halfway = closing.halfway)
    (hphase : closing.halfway = none ∨
      next.world.phase = closing.world.phase) : next.Consistent := by
  have hlookup : ∀ id, next.world.mux.streams.lookup id =
      closing.world.mux.streams.lookup id :=
    congrFun (congrArg Directory.find hdirectory)
  refine ⟨?_, ?_, ?_, ?_, ?_⟩
  · rw [hdirectory]
    exact h.keyed
  · intro id number hid
    rw [hlookup] at hid
    rw [hmarks, hclosed]
    exact h.mapped id number hid
  · rw [hmarks, hdirectory, hclosed, hhalfway]
    exact h.lost
  · rw [hmarks, hclosed]
    exact h.unused
  · intro half hhalf
    rw [hhalfway] at hhalf
    rw [hmarks, hdirectory, hclosed]
    rcases hphase with hnone | hphase
    · rw [hnone] at hhalf
      cases hhalf
    · rw [hphase]
      exact h.halfway half hhalf

theorem Consistent.beginClose (h : closing.Consistent)
    (hfree : closing.halfway = none) {id : UInt32} {half : MuxInner.Halfway}
    (hid : closing.world.mux.streams.lookup id = some half.number)
    (hleft : closing.world.phase ≠ .running → half.reason = .unknown) :
    (closing.beginClose id half).Consistent := by
  have hremoved : removedBy closing.world.mux.directory (.remove id) =
      some half.number := hid
  apply h.moved
  exact {
    free := hfree
    notClear := by simp
    directory := closing.world.mux.directory_beginClose id
    marks := closing.world.mux.marks_beginClose id
    closedBy := by
      rw [hremoved]
      rfl
    halfway := .inr ⟨half, rfl, rfl, hremoved, hleft⟩ }

/-- The reason is stored for the stream that was closed last. -/
theorem Consistent.endClose (h : closing.Consistent) {half : MuxInner.Halfway}
    (hhalf : closing.halfway = some half) :
    Consistent { closing with
      world := { closing.world with mux := closing.world.mux.endClose half }
      halfway := none } := by
  obtain ⟨hgone, hstored, hmark, -⟩ := h.halfway half hhalf
  have hmarks : (closing.world.mux.endClose half).marks =
      closing.world.mux.marks.modify half.number (.setReason · half.reason) :=
    MuxInner.map_mark_modify fun _ => rfl
  have hids : (closing.world.mux.endClose half).directory =
      closing.world.mux.directory := by
    have hkeys := @MuxInner.ids_modify closing.world.mux.heap half.number
      (fun s => { s with info := s.info.setReason half.reason }) fun _ => rfl
    simp only [MuxInner.directory, MuxInner.endClose, hkeys]
  have hother : ∀ number, number ≠ half.number →
      (closing.world.mux.endClose half).marks[number]? =
        closing.world.mux.marks[number]? := by
    intro number hne
    rw [hmarks]
    simp [Ne.symm hne]
  refine ⟨?_, ?_, ?_, ?_, ?_⟩
  · dsimp only
    rw [hids]
    exact h.keyed
  · intro id number hid
    have hopen := h.mapped id number hid
    have hne : number ≠ half.number := by
      rintro rfl
      exact hgone id hid
    exact ⟨(hother number hne).trans hopen.1, hopen.2⟩
  · dsimp only
    rw [hids]
    intro number mark hmarked hlost
    by_cases heq : number = half.number
    · subst heq
      rw [hmarks] at hmarked
      simp only [List.getElem?_modify_eq, hmark] at hmarked
      cases hmarked
      exact ⟨half.reason, hstored, rfl, .inl rfl⟩
    · rw [hother number heq] at hmarked
      obtain ⟨reason, hreason, hsender, hcode⟩ :=
        h.lost number mark hmarked hlost
      refine ⟨reason, hreason, hsender, hcode.elim .inl ?_⟩
      rintro ⟨other, hsome, rfl⟩
      rw [hhalf] at hsome
      cases hsome
      exact absurd rfl heq
  · intro number hle
    apply h.unused number
    dsimp only at hle
    rw [hmarks, List.length_modify] at hle
    exact hle
  · intro other hsome
    cases hsome

theorem Consistent.round (h : closing.Consistent)
    (hfree : closing.halfway = none) {event : WsEvent} {send : SendAnswer}
    (hother : closing.world.mux.closingOf event = none) {world : MuxWorld}
    {seen : List Observation}
    (hstep : closing.world.stepEvent event send = some (world, seen)) :
    (closing.afterRound event world).Consistent := by
  obtain ⟨-, hmux, -, -⟩ := MuxWorld.stepEvent_eq_some hstep
  apply h.moved
  exact {
    free := hfree
    notClear := closing.world.mux.eventMove_ne_clear event
    directory := (congrArg MuxInner.directory hmux).trans
      (closing.world.mux.directory_handleEvent event send)
    marks := (congrArg MuxInner.marks hmux).trans
      (MuxInner.marks_handleEvent hother send)
    closedBy := rfl
    halfway := .inl ⟨hfree, rfl⟩ }

theorem Consistent.step (h : closing.Consistent) {action : ClosingAction}
    (hstep : closing.step action = some next) : next.Consistent := by
  cases action with
  | poll action =>
      simp only [ClosingWorld.step] at hstep
      split at hstep
      · next hhandle =>
          obtain ⟨⟨world, seen⟩, hworld, rfl⟩ := Option.map_eq_some_iff.mp hstep
          obtain ⟨hmarks, hphase⟩ :=
            MuxWorld.marks_step_of_byHandle hhandle hworld
          have hdirectory :=
            MuxWorld.directory_step_of_byHandle hhandle hworld
          exact h.of_eq hmarks hdirectory rfl rfl (.inr hphase)
      · cases hstep
  | round event send =>
      cases hfree : closing.halfway with
      | some half => simp [ClosingWorld.step, hfree] at hstep
      | none =>
          simp only [ClosingWorld.step, hfree, stepRound] at hstep
          split at hstep
          · next id half hclosing =>
              split at hstep
              · next hrunning =>
                  cases hstep
                  exact h.beginClose hfree
                    (MuxInner.lookup_of_closingOf hclosing)
                    fun hleft => absurd hrunning hleft
              · cases hstep
          · next hother =>
              obtain ⟨⟨world, seen⟩, hworld, rfl⟩ :=
                Option.map_eq_some_iff.mp hstep
              exact h.round hfree hother hworld
  | endClose =>
      cases hhalf : closing.halfway with
      | none => simp [ClosingWorld.step, hhalf] at hstep
      | some half =>
          simp only [ClosingWorld.step, hhalf, Option.some.injEq] at hstep
          subst hstep
          exact h.endClose hhalf
  | leave =>
      cases hfree : closing.halfway with
      | some half => simp [ClosingWorld.step, hfree] at hstep
      | none =>
          simp only [ClosingWorld.step, hfree] at hstep
          split at hstep
          · cases hstep
            exact h.of_eq rfl rfl rfl hfree.symm (.inl hfree)
          · cases hstep
  | drain id =>
      cases hfree : closing.halfway with
      | some half => simp [ClosingWorld.step, hfree] at hstep
      | none =>
          simp only [ClosingWorld.step, hfree] at hstep
          split at hstep
          · cases hstep
          · obtain ⟨number, hid, rfl⟩ := Option.map_eq_some_iff.mp hstep
            exact h.beginClose hfree hid fun _ => rfl
  | finish =>
      cases hfree : closing.halfway with
      | some half => simp [ClosingWorld.step, hfree] at hstep
      | none =>
          simp only [ClosingWorld.step, hfree] at hstep
          split at hstep
          · cases hstep
          · cases hstep
            exact h.of_eq rfl rfl rfl hfree.symm (.inl hfree)

theorem consistent_of_reachable {actor : Actor} {flowStreamTypes : List UInt8}
    {bufferSize : UInt32}
    (hreach : machine.Reachable (init (.new actor flowStreamTypes bufferSize))
      closing) : closing.Consistent := by
  apply hreach.invariant (fun _ _ _ h hstep => Consistent.step h hstep)
  exact consistent_init actor flowStreamTypes bufferSize

/-- Every accessor of the stream gives this answer. -/
structure Reports (closing : ClosingWorld) (stream : Stream)
    (answer : Option CloseReason) : Prop where
  whole : MuxStream.getCloseReason stream.channel stream.info = answer
  read : MuxStreamRead.getCloseReason stream.channel stream.info = answer
  write : MuxStreamWrite.getCloseReason (closing.world.phase ≠ .running)
    stream.info = answer
  asyncWrite : MuxStreamAsyncWrite.getCloseReason
    (closing.world.phase ≠ .running) stream.info = answer
  closer : MuxStreamCloser.getCloseReason (closing.world.phase ≠ .running)
    stream.info = answer

/-- None while the stream is open, then the reason it was closed for. -/
structure ReportsRightly (closing : ClosingWorld) (number : Nat)
    (stream : Stream) : Prop where
  of_open : closing.Open number → closing.Reports stream none
  of_closed : ¬ closing.Open number → ∃ reason,
    closing.closedBy number = some reason ∧
      closing.Reports stream (some reason)

theorem reports_iff {stream : Stream} {answer : Option CloseReason} :
    closing.Reports stream answer ↔
      reasonOnceDisconnected (!stream.channel.sender) stream.info = answer ∧
      reasonOnceDisconnected (closing.world.phase ≠ .running) stream.info =
        answer := by
  constructor
  · intro h
    exact ⟨h.read, h.write⟩
  · rintro ⟨hread, hwrite⟩
    exact ⟨hread, hread, hwrite, hwrite, hwrite⟩

theorem reportsRightly_iff_of_open (h : closing.Consistent) {number : Nat}
    {stream : Stream} (hstream : closing.world.mux.heap[number]? = some stream)
    (hopen : closing.Open number) :
    closing.ReportsRightly number stream ↔ closing.world.phase = .running := by
  obtain ⟨id, hid⟩ := hopen
  have hfresh := (h.mapped id number hid).1
  rw [MuxInner.marks, List.getElem?_map, hstream] at hfresh
  have hsender : stream.channel.sender = true :=
    congrArg CloseMark.sender (Option.some.inj hfresh)
  constructor
  · intro hright
    by_contra hleft
    have hwrite := (reports_iff.mp (hright.of_open ⟨id, hid⟩)).2
    simp [reasonOnceDisconnected, hleft] at hwrite
  · intro hrunning
    refine ⟨fun _ => reports_iff.mpr ?_, fun hclosed => ?_⟩
    · simp [reasonOnceDisconnected, hsender, hrunning]
    · exact absurd ⟨id, hid⟩ hclosed

theorem reportsRightly_iff_of_closed (h : closing.Consistent) {number : Nat}
    {stream : Stream} (hstream : closing.world.mux.heap[number]? = some stream)
    (hclosed : ¬ closing.Open number) :
    closing.ReportsRightly number stream ↔
      closing.world.phase ≠ .running ∧
        ∀ reason, closing.closedBy number = some reason →
          CloseReason.ofU8 reason.toU8 = reason := by
  have hmark : closing.world.mux.marks[number]? = some stream.mark := by
    rw [MuxInner.marks, List.getElem?_map, hstream]
    rfl
  obtain ⟨reason, hreason, hsender, hcode⟩ :=
    h.lost number stream.mark hmark (lost_iff_not_open.mpr hclosed)
  have hsender : stream.channel.sender = false := hsender
  -- past the loop the reason has been stored, or is the one stored before
  have hstored : closing.world.phase ≠ .running →
      stream.info.getReason = .ofU8 reason.toU8 := by
    intro hleft
    rcases hcode with hcode | ⟨half, hhalf, rfl⟩
    · exact congrArg CloseReason.ofU8 hcode
    · obtain ⟨-, hnoted, hfirst, hunknown⟩ := h.halfway half hhalf
      rw [hmark] at hfirst
      rw [hreason] at hnoted
      have hcode := congrArg CloseMark.reason (Option.some.inj hfirst)
      rw [Option.some.inj hnoted, hunknown hleft]
      exact congrArg CloseReason.ofU8 hcode
  constructor
  · intro hright
    obtain ⟨answer, hanswer, hreports⟩ := hright.of_closed hclosed
    obtain ⟨hread, hwrite⟩ := reports_iff.mp hreports
    have hleft : closing.world.phase ≠ .running := by
      intro hrunning
      simp [reasonOnceDisconnected, hrunning] at hwrite
    refine ⟨hleft, fun noted hnoted => ?_⟩
    obtain rfl : reason = noted := Option.some.inj (hreason.symm.trans hnoted)
    obtain rfl : reason = answer :=
      Option.some.inj (hreason.symm.trans hanswer)
    rw [← hstored hleft]
    simpa [reasonOnceDisconnected, hsender] using hread
  · rintro ⟨hleft, hcodes⟩
    refine ⟨fun hopen => absurd hopen hclosed, fun _ => ⟨reason, hreason, ?_⟩⟩
    apply reports_iff.mpr
    simp [reasonOnceDisconnected, hsender, hleft, hstored hleft,
      hcodes reason hreason]

/-- The accessors agree and are right exactly for a stream that is open while
the actor is in its loop, and for one that is closed once it has left it, if
the reason is written as it will be read. -/
theorem reportsRightly_iff {actor : Actor} {flowStreamTypes : List UInt8}
    {bufferSize : UInt32} {number : Nat} {stream : Stream}
    (hreach : machine.Reachable (init (.new actor flowStreamTypes bufferSize))
      closing)
    (hstream : closing.world.mux.heap[number]? = some stream) :
    closing.ReportsRightly number stream ↔
      (closing.Open number ↔ closing.world.phase = .running) ∧
        ∀ reason, closing.closedBy number = some reason →
          CloseReason.ofU8 reason.toU8 = reason := by
  have h := consistent_of_reachable hreach
  by_cases hopen : closing.Open number
  · rw [reportsRightly_iff_of_open h hstream hopen]
    obtain ⟨id, hid⟩ := hopen
    have hnone := (h.mapped id number hid).2
    constructor
    · intro hrunning
      refine ⟨iff_of_true ⟨id, hid⟩ hrunning, fun reason hreason => ?_⟩
      rw [hnone] at hreason
      cases hreason
    · rintro ⟨hiff, -⟩
      exact hiff.mp ⟨id, hid⟩
  · rw [reportsRightly_iff_of_closed h hstream hopen]
    simp only [hopen, false_iff, ne_eq]

/-- A client with a buffer of eight packets. -/
def quietClient : ClosingWorld := init (.new .client [0x01] 8)

def sendsOk : SendAnswer := ⟨true, .ok (), fun _ => rfl⟩

def created : ClosingAction :=
  .round (.createStream ⟨.tcp, "a", 80⟩ 0) sendsOk

/-- A handle of the first stream has asked for its end. -/
def closed : ClosingAction := .round (.close 1 ⟨.voluntary⟩ 1) sendsOk

theorem reportsRightly_of_open_stream :
    ∃ closing stream, machine.run quietClient [created] = some closing ∧
      closing.world.mux.heap[0]? = some stream ∧
      closing.ReportsRightly 0 stream := by
  obtain ⟨closing, hrun⟩ : ∃ closing,
      machine.run quietClient [created] = some closing := ⟨_, rfl⟩
  refine ⟨closing, Stream.new 1 .enabledTrackAmount 8, hrun, ?_, ?_⟩
  · cases hrun
    rfl
  · refine (reportsRightly_iff ⟨[created], hrun⟩ ?_).mpr ⟨?_, ?_⟩
    · cases hrun
      rfl
    · cases hrun
      exact iff_of_true ⟨1, rfl⟩ rfl
    · cases hrun
      intro reason hreason
      cases hreason

/-- The stream of the client is closed and its writing half says nothing; or
the actor has only begun to close it, and the reading half gives no reason; or
the loop has been left, and the writing half of the open stream gives one. -/
theorem not_reportsRightly_of_closed_stream :
    (∃ closing stream,
      machine.run quietClient [created, closed, .endClose] = some closing ∧
        closing.world.mux.heap[0]? = some stream ∧
        ¬ closing.ReportsRightly 0 stream) ∧
    (∃ closing stream,
      machine.run quietClient [created, closed] = some closing ∧
        closing.world.mux.heap[0]? = some stream ∧
        ¬ closing.ReportsRightly 0 stream) ∧
    ∃ closing stream,
      machine.run quietClient [created, .leave] = some closing ∧
        closing.world.mux.heap[0]? = some stream ∧
        ¬ closing.ReportsRightly 0 stream := by
  refine ⟨⟨_, _, rfl, rfl, ?_⟩, ⟨_, _, rfl, rfl, ?_⟩, _, _, rfl, rfl, ?_⟩
  · intro hright
    obtain ⟨reason, -, hreports⟩ := hright.of_closed (by
      rintro ⟨id, hid⟩
      cases hid)
    have hcloser : none = some reason := hreports.closer
    cases hcloser
  · intro hright
    obtain ⟨reason, hreason, hreports⟩ := hright.of_closed (by
      rintro ⟨id, hid⟩
      cases hid)
    have hread : some .unknown = some reason := hreports.read
    have hnoted : some .voluntary = some reason := hreason
    rw [← hread] at hnoted
    cases hnoted
  · intro hright
    have hwrite : some CloseReason.unknown = none :=
      (hright.of_open ⟨1, rfl⟩).write
    cases hwrite

/-- Both halves in a row. -/
theorem exists_run_closing {action : ClosingAction} {id : UInt32}
    {half : MuxInner.Halfway}
    (hbegin : machine.step closing action = some (closing.beginClose id half)) :
    ∃ actions last, machine.run closing actions = some last ∧
      last.world = { closing.world with
        mux := (closing.world.mux.beginClose id).endClose half } ∧
      last.halfway = none := by
  let last : ClosingWorld := {
    world := { closing.world with
      mux := (closing.world.mux.beginClose id).endClose half }
    halfway := none
    closedBy := noteClosed closing.closedBy half.reason half.number }
  refine ⟨[action, .endClose], last, ?_, rfl, rfl⟩
  rw [Machine.run_cons, hbegin]
  rfl

/-- A round of the actor, in one piece or in two. -/
theorem exists_run_stepEvent (hfree : closing.halfway = none)
    {event : WsEvent} {send : SendAnswer} {world : MuxWorld}
    {seen : List Observation}
    (hstep : closing.world.stepEvent event send = some (world, seen)) :
    ∃ actions last, machine.run closing actions = some last ∧
      last.world = world ∧ last.halfway = none := by
  cases hclosing : closing.world.mux.closingOf event with
  | none =>
      have hround : machine.step closing (.round event send) =
          some (closing.afterRound event world) := by
        simp only [machine, step, hfree, stepRound, hclosing, hstep]
        rfl
      refine ⟨[.round event send], closing.afterRound event world, ?_, rfl,
        hfree⟩
      rw [Machine.run_cons, hround]
      rfl
  | some found =>
      obtain ⟨id, half⟩ := found
      obtain ⟨hmux, hresult⟩ :=
        MuxInner.handleEvent_of_closingOf hclosing send
      simp only [MuxWorld.stepEvent] at hstep
      split at hstep
      · next hrunning =>
          cases hstep
          have hbegin : machine.step closing (.round event send) =
              some (closing.beginClose id half) := by
            simp only [machine, step, hfree, stepRound, hclosing, hrunning]
            rfl
          obtain ⟨actions, last, hrun, hworld, hlast⟩ :=
            exists_run_closing hbegin
          refine ⟨actions, last, hrun, hworld.trans ?_, hlast⟩
          simp only [hresult, hmux, hrunning]
      · cases hstep

/-- The drain, an entry at a time. -/
theorem exists_run_drain {entries : List (Sigma fun _ : UInt32 => Nat)}
    (hfree : closing.halfway = none) (hleft : closing.world.phase ≠ .running)
    (hentries : closing.world.mux.streams.entries = entries) :
    ∃ actions last, machine.run closing actions = some last ∧
      last.world = { closing.world with mux := { closing.world.mux with
        streams := ∅
        heap := MuxInner.closeEntries entries closing.world.mux.heap } } ∧
      last.halfway = none := by
  induction entries generalizing closing with
  | nil =>
      have hempty : closing.world.mux.streams = ∅ := AList.ext hentries
      refine ⟨[], closing, rfl, ?_, hfree⟩
      rw [← hempty]
      rfl
  | cons entry rest ih =>
      have hid : closing.world.mux.streams.lookup entry.1 = some entry.2 := by
        rw [AList.lookup, hentries]
        exact List.dlookup_cons_eq rest entry.1 entry.2
      have hbegin : machine.step closing (.drain entry.1) =
          some (closing.beginClose entry.1 ⟨entry.2, .unknown, false⟩) := by
        simp only [machine, step, hfree, hleft, hid, if_false]
        rfl
      obtain ⟨first, mid, hfirst, hmid, hnone⟩ := exists_run_closing hbegin
      have hmux : (closing.world.mux.beginClose entry.1).endClose
          ⟨entry.2, .unknown, false⟩ =
          { closing.world.mux with
            streams := closing.world.mux.streams.erase entry.1
            heap := closing.world.mux.heap.modify entry.2 fun stream =>
              stream.close ⟨.unknown⟩ } := by
        rw [MuxInner.endClose_beginClose _ hid]
        simp [MuxInner.closeStream, MuxInner.modify, hid]
      rw [hmux] at hmid
      have hrest : (closing.world.mux.streams.erase entry.1).entries =
          rest := by
        change closing.world.mux.streams.entries.kerase entry.1 = rest
        rw [hentries]
        exact List.kerase_cons_eq rfl
      obtain ⟨actions, last, hrun, hworld, hlast⟩ :=
        @ih mid hnone (by rw [hmid]; exact hleft) (by rw [hmid]; exact hrest)
      refine ⟨_, last, machine.run_append_of_eq_some hfirst hrun, ?_, hlast⟩
      rw [hworld, hmid]
      rfl

/-- Where a finer run has left the loop, it can come to the same end. -/
theorem exists_run_finish (hfree : closing.halfway = none)
    (hdone : closing.world.phase ≠ .done) :
    ∃ actions last, machine.run closing actions = some last ∧
      last.world = ⟨closing.world.mux.drain, .done⟩ ∧ last.halfway = none := by
  -- leave the loop first, if the transport ended in it
  obtain ⟨first, mid, hfirst, hmux, hleft, hdone, hmid⟩ : ∃ first mid,
      machine.run closing first = some mid ∧
      mid.world.mux = closing.world.mux ∧ mid.world.phase ≠ .running ∧
      mid.world.phase ≠ .done ∧ mid.halfway = none := by
    by_cases hrunning : closing.world.phase = .running
    · refine ⟨[.leave], { closing with
        world := { closing.world with phase := .left true } }, ?_, rfl,
        by simp, by simp, hfree⟩
      simp only [Machine.run_cons, machine, step, hfree, hrunning]
      rfl
    · exact ⟨[], closing, rfl, rfl, hrunning, hdone, hfree⟩
  obtain ⟨actions, last, hrun, hworld, hlast⟩ :=
    exists_run_drain hmid hleft rfl
  have hfinish : machine.step last .finish = some { last with
      world := ⟨closing.world.mux.drain, .done⟩ } := by
    simp only [machine, step, hlast, hworld, hleft, hdone, hmux, ne_eq,
      not_true, or_self, if_false]
    rfl
  refine ⟨first ++ (actions ++ [.finish]), { last with
      world := ⟨closing.world.mux.drain, .done⟩ },
    machine.run_append_of_eq_some hfirst
      (machine.run_append_of_eq_some hrun ?_), rfl, hlast⟩
  rw [Machine.run_cons, hfinish]
  rfl

theorem exists_run_step (hfree : closing.halfway = none) {action : MuxAction}
    {world : MuxWorld} {seen : List Observation}
    (hstep : closing.world.step action = some (world, seen)) :
    ∃ actions last, machine.run closing actions = some last ∧
      last.world = world ∧ last.halfway = none := by
  by_cases hhandle : action.byHandle = true
  · refine ⟨[.poll action], { closing with world }, ?_, rfl, hfree⟩
    simp only [Machine.run_cons, machine, step, hhandle, hstep]
    rfl
  · cases action with
    | event event send => exact exists_run_stepEvent hfree hstep
    | finish =>
        obtain ⟨hdone, rfl, -⟩ := MuxWorld.step_finish_eq_some hstep
        exact exists_run_finish hfree hdone
    | _ => exact absurd rfl hhandle

/-- Every run of the multiplexor is one in which the actor closes each stream
in two steps with nothing between them. -/
theorem exists_reachable {mux : MuxInner} {world : MuxWorld}
    {trace : List Observation}
    (hreach : MuxWorld.machine.Reachable (.init mux, []) (world, trace)) :
    ∃ closing, machine.Reachable (init mux) closing ∧
      closing.world = world ∧ closing.halfway = none := by
  refine Machine.Reachable.simulate
    (fun s (closing : ClosingWorld) =>
      closing.world = s.1 ∧ closing.halfway = none) ?_ ?_ hreach
  · rintro s closing action s' ⟨hworld, hfree⟩ hstep
    obtain ⟨seen, hstep, -⟩ := recording_step_eq_some hstep
    rw [← hworld] at hstep
    exact exists_run_step hfree hstep
  · exact ⟨rfl, rfl⟩

end ClosingWorld

end Epoxy
