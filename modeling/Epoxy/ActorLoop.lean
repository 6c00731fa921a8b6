/-
The loop of the multiplexor actor.  It selects between the packets that the
transport delivers, decoded by an unfolded stream, and the requests of the
local handles, until one of the two streams ends or a packet or a request
ends the loop.
-/
import Epoxy.MuxInner
import Epoxy.Twisp
import Epoxy.UnfairSelect

namespace Epoxy

open ByteCursor PollChannel

/-- The state of the unfolded read stream.  `incoming` are the messages that
have arrived, `live` says that the closure has not returned `None` yet, and
`sent` is a history of what the handlers of extensions sent. -/
structure ReadStream (E : Type) where
  incoming : List (Except WispError Bytes)
  ended : Bool
  extensions : List E
  live : Bool
  sent : List Bytes

namespace ReadStream

variable {E : Type} [ProtocolExtension E] [PacketHandler E]

def handle (stream : ReadStream E) (before : List E) (extension : E)
    (after : List E) (ty : UInt8) (packet : Bytes) :
    ReadStream E × Outcome WispError (Option WsEvent) :=
  let result :=
    PacketHandler.handlePacket extension ty packet stream.incoming
  ({ stream with
      incoming := result.incoming
      extensions := before ++ result.extension :: after
      sent := stream.sent ++ result.sent },
    result.result.map fun _ => none)

def nextEvent (stream : ReadStream E) :
    ReadStream E × Poll (Outcome WispError (Option WsEvent)) :=
  match stream.incoming with
  | [] =>
      if stream.ended then (stream, .ready (.ok none)) else (stream, .pending)
  | message :: incoming =>
      let stream := { stream with incoming }
      match message with
      | .error error => (stream, .ready (.err error))
      | .ok message =>
          match MaybeExtensionPacket.decode message stream.extensions with
          | .ok (.packet packet) =>
              (stream, .ready (.ok (some (.wispMessage packet))))
          | .ok (.handle before extension after ty packet) =>
              let (stream, result) :=
                stream.handle before extension after ty packet
              (stream, .ready result)
          | .err error => (stream, .ready (.err error))
          | .panic => (stream, .ready .panic)

/-- A closure that returns `None` ends the unfolded stream. -/
def pollNext (stream : ReadStream E) :
    ReadStream E × Poll (Option (Outcome WispError WsEvent)) :=
  if stream.live then
    match stream.nextEvent with
    | (stream, .pending) => (stream, .pending)
    | (stream, .ready result) =>
        match result.transpose with
        | none => ({ stream with live := false }, .ready none)
        | some item => (stream, .ready (some item))
  else (stream, .ready none)

end ReadStream

/-- The requests that wait in the actor's channel; the actor itself keeps a
sender, so that the channel never ends. -/
def pollEvents (events : List WsEvent) :
    List WsEvent × Poll (Option (Outcome WispError WsEvent)) :=
  match events with
  | [] => ([], .pending)
  | event :: rest => (rest, .ready (some (.ok event)))

/-- `sent` and `replies` are histories; `result` is there once the loop has
ended. -/
structure ActorLoop (E : Type) where
  mux : MuxInner
  select : UnfairSelect (ReadStream E) (List WsEvent)
  sent : List Bytes
  replies : List (Nat × Reply)
  result : Option (Outcome WispError Unit)

/-- A message arrives, the transport ends, a handle makes a request, or the
actor is polled for one round of its loop. -/
inductive LoopAction where
  | receive (message : Except WispError Bytes)
  | transportEnd
  | request (event : WsEvent)
  | poll (send : SendAnswer)

namespace ActorLoop

variable {E : Type}

def new (mux : MuxInner) (extensions : List E) : ActorLoop E :=
  ⟨mux, unfairSelect ⟨[], false, extensions, true, []⟩ [], [], [], none⟩

def finish (loop : ActorLoop E) (result : Outcome WispError Unit) :
    ActorLoop E :=
  { loop with mux := loop.mux.drain, result := some result }

def handleEvent (loop : ActorLoop E) (event : WsEvent) (send : SendAnswer) :
    ActorLoop E :=
  let result := loop.mux.handleEvent event send
  let loop := { loop with
    mux := result.mux
    sent := loop.sent ++ result.sent
    replies := loop.replies ++ result.replies }
  match result.result with
  | .ok false => loop
  | .ok true => loop.finish (.ok ())
  | .error error => loop.finish (.err error)

variable [ProtocolExtension E] [PacketHandler E]

/-- One round of `while let Some(msg) = stream.next().await`. -/
def poll (loop : ActorLoop E) (send : SendAnswer) : ActorLoop E :=
  let (select, answer) :=
    loop.select.pollNext ReadStream.pollNext pollEvents
  let loop := { loop with select }
  match answer with
  | .pending => loop
  | .ready none => loop.finish (.ok ())
  | .ready (some (.ok event)) => loop.handleEvent event send
  | .ready (some (.err error)) => loop.finish (.err error)
  | .ready (some .panic) => loop.finish .panic

def mapRead (loop : ActorLoop E) (f : ReadStream E → ReadStream E) :
    ActorLoop E :=
  { loop with
    select := { loop.select with stream1 := f loop.select.stream1 } }

def step (loop : ActorLoop E) (action : LoopAction) : ActorLoop E :=
  match loop.result with
  | some _ => loop
  | none =>
      match action with
      | .receive message =>
          loop.mapRead fun read =>
            { read with incoming := read.incoming ++ [message] }
      | .transportEnd => loop.mapRead fun read => { read with ended := true }
      | .request event =>
          { loop with
            select :=
              { loop.select with stream2 := loop.select.stream2 ++ [event] } }
      | .poll send => loop.poll send

def run (loop : ActorLoop E) (actions : List LoopAction) : ActorLoop E :=
  actions.foldl step loop

def Handles (loop : ActorLoop E) (message : Bytes) : Prop :=
  ∃ before extension after ty packet,
    MaybeExtensionPacket.decode message loop.select.stream1.extensions =
        .ok (.handle before extension after ty packet) ∧
      (PacketHandler.handlePacket extension ty packet []).result = .ok ()

def handled (loop : ActorLoop E) (message : Bytes) : ActorLoop E :=
  match MaybeExtensionPacket.decode message loop.select.stream1.extensions with
  | .ok (.handle before extension after ty packet) =>
      loop.mapRead fun read => (read.handle before extension after ty packet).1
  | _ => loop

structure Waiting (loop : ActorLoop E) : Prop where
  result : loop.result = none
  finished : loop.select.finished = false
  live : loop.select.stream1.live = true
  ended : loop.select.stream1.ended = false
  incoming : loop.select.stream1.incoming = []
  events : loop.select.stream2 = []

/-- What a loop has done: its streams, what it sent and answered, and whether
it has ended. -/
def observe (loop : ActorLoop E) :
    MuxInner × List Bytes × List (Nat × Reply) ×
      Option (Outcome WispError Unit) :=
  (loop.mux, loop.sent, loop.replies, loop.result)

/-- Whatever comes later, the loop does after the packet what it would have
done without it, apart from the handler's own effects. -/
def ContinuesAfter (loop : ActorLoop E) (message : Bytes)
    (send : SendAnswer) : Prop :=
  ∀ later, (loop.run (.receive (.ok message) :: .poll send :: later)).observe =
    ((loop.handled message).run later).observe

variable {loop : ActorLoop E} {message : Bytes}

theorem run_of_finished {result : Outcome WispError Unit}
    (hresult : loop.result = some result) (actions : List LoopAction) :
    loop.run actions = loop := by
  induction actions with
  | nil => rfl
  | cons action rest ih =>
      have hstep : loop.step action = loop := by simp [step, hresult]
      rw [run, List.foldl_cons, hstep]
      exact ih

/-- The handler's success reads as the end of the transport. -/
theorem pollNext_of_handles {read : ReadStream E} {before after : List E}
    {extension : E} {ty : UInt8} {packet : Bytes}
    (hlive : read.live = true) (hincoming : read.incoming = [.ok message])
    (hdecode : MaybeExtensionPacket.decode message read.extensions =
      .ok (.handle before extension after ty packet))
    (hhandled : (PacketHandler.handlePacket extension ty packet []).result =
      .ok ()) :
    read.pollNext.2 = .ready none := by
  simp [ReadStream.pollNext, hlive, ReadStream.nextEvent, hincoming, hdecode,
    ReadStream.handle, hhandled, Outcome.map, Outcome.transpose]

theorem poll_of_end (loop : ActorLoop E) (send : SendAnswer)
    (hfinished : loop.select.finished = false)
    (hevents : loop.select.stream2 = [])
    (hread : loop.select.stream1.pollNext.2 = .ready none) :
    (loop.poll send).observe =
      (loop.mux.drain, loop.sent, loop.replies, some (.ok ())) := by
  have hidle : pollEvents loop.select.stream2 =
      (loop.select.stream2, .pending) := by
    rw [hevents]
    rfl
  have hselect := UnfairSelect.pollNext_of_right_pending
    ReadStream.pollNext hfinished hidle
  simp only [poll, hselect, hread]
  rfl

/-- After an extension's packet the loop has ended, and has neither sent nor
answered anything; what comes later is lost. -/
theorem observe_run_of_handles (hwaiting : loop.Waiting)
    (hhandles : loop.Handles message) (send : SendAnswer)
    (later : List LoopAction) :
    (loop.run (.receive (.ok message) :: .poll send :: later)).observe =
      (loop.mux.drain, loop.sent, loop.replies, some (.ok ())) := by
  obtain ⟨before, extension, after, ty, packet, hdecode, hhandled⟩ := hhandles
  let received := loop.step (.receive (.ok message))
  have hreceived : received = loop.mapRead fun read =>
      { read with incoming := read.incoming ++ [.ok message] } := by
    simp only [received, step, hwaiting.result]
  have hread : received.select.stream1.pollNext.2 = .ready none := by
    rw [hreceived]
    refine pollNext_of_handles hwaiting.live ?_ hdecode hhandled
    simp [mapRead, hwaiting.incoming]
  have hpolled : received.step (.poll send) = received.poll send := by
    rw [hreceived]
    simp [step, mapRead, hwaiting.result]
  have hend : (received.poll send).observe =
      (loop.mux.drain, loop.sent, loop.replies, some (.ok ())) := by
    have hfinished : received.select.finished = false := by
      rw [hreceived]
      exact hwaiting.finished
    have hevents : received.select.stream2 = [] := by
      rw [hreceived]
      exact hwaiting.events
    rw [poll_of_end received send hfinished hevents hread, hreceived]
    rfl
  have hlater : (received.poll send).run later = received.poll send :=
    run_of_finished (congrArg (fun seen => seen.2.2.2) hend) later
  change (((loop.step _).step _).run later).observe = _
  rw [hpolled, hlater]
  exact hend

/-- An extension's packet ends the connection, in every state. -/
theorem not_continuesAfter (loop : ActorLoop E) (message : Bytes)
    (send : SendAnswer) (hwaiting : loop.Waiting)
    (hhandles : loop.Handles message) :
    ¬loop.ContinuesAfter message send := by
  intro hcontinues
  have hended := observe_run_of_handles hwaiting hhandles send []
  have hresult : (loop.handled message).result = none := by
    unfold handled
    split
    · exact hwaiting.result
    · exact hwaiting.result
  have hsame := (hended.symm.trans (hcontinues []))
  have hnone : some (Outcome.ok ()) = (loop.handled message).result :=
    congrArg (fun seen => seen.2.2.2) hsame
  rw [hresult] at hnone
  cases hnone

section Resize

def takes : SendAnswer := ⟨true, .ok (), fun _ => rfl⟩

def terminalServer : ActorLoop TWispServerProtocolExtension :=
  let connect : Packet := ⟨5, .connect ⟨.tcp, "term", 22⟩⟩
  (ActorLoop.new (.new (.server .unbounded) [0x03, 0x01] 8) [⟨∅, []⟩]).run
    [.receive (.ok connect.encode), .poll takes]

def resize : Bytes := [0xF0, 5, 0, 0, 0, 5, 0, 0, 0, 24, 0, 80, 0]

theorem not_continuesAfter_resize :
    ¬terminalServer.ContinuesAfter resize takes :=
  not_continuesAfter terminalServer resize takes
    ⟨rfl, rfl, rfl, rfl, rfl, rfl⟩
    ⟨[], ⟨∅, []⟩, [], 0xF0, [5, 0, 0, 0, 24, 0, 80, 0], rfl, rfl⟩

/-- Without the resize the data reaches the stream; after it the loop has
ended and the stream is closed. -/
theorem data_lost_after_resize :
    let later := [.receive (.ok (Packet.newData 5 [1]).encode), .poll takes]
    let without := (terminalServer.handled resize).run later
    let after := terminalServer.run
      (.receive (.ok resize) :: .poll takes :: later)
    without.result = none ∧
      without.mux.heap.map (fun stream => stream.channel.queue) = [[[1]]] ∧
      after.result = some (.ok ()) ∧ after.mux.streams = ∅ ∧
      after.mux.heap.map (fun stream => stream.channel.queue) = [[]] ∧
      ¬terminalServer.ContinuesAfter resize takes := by
  refine ⟨rfl, rfl, rfl, rfl, rfl, fun hcontinues => ?_⟩
  have hended : (terminalServer.run
      [.receive (.ok resize), .poll takes]).observe.2.2.2 =
        some (.ok ()) := rfl
  rw [hcontinues []] at hended
  cases hended

end Resize

end ActorLoop

end Epoxy
