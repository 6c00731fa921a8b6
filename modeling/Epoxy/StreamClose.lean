/-
Closing a stream through its writing half.  The half flushes, hands a close
event to the actor, and then waits for the actor's reply; the channel to the
actor and the reply are inputs of the poll.
-/
import Epoxy.MuxInner

namespace Epoxy

open ByteCursor PollChannel

/-- The answers of the actor's channel during one poll: to `poll_ready` and
`start_send` on its sending end, and to the poll of the reply. -/
structure ActorAnswers where
  ready : Poll (Except Unit Unit)
  send : Except Unit Unit
  reply : Poll (Except Unit (Except WispError Unit))

/-- What the second half of `poll_close` comes to. -/
structure CloseRequest where
  answer : Poll (Except WispError Unit)
  oneshot : Bool
  event : Option WsEvent

namespace ActorAnswers

/-- The reply, once it is waited for. -/
def pollReply (actor : ActorAnswers) : CloseRequest :=
  match actor.reply with
  | .pending => ⟨.pending, true, none⟩
  | .ready (.error ()) => ⟨.ready (.error .muxMessageFailedToSend), false, none⟩
  | .ready (.ok result) => ⟨.ready result, false, none⟩

/-- The close event; `channel` is where its reply goes. -/
def requestClose (actor : ActorAnswers) (id : UInt32) (channel : Nat) :
    CloseRequest :=
  match actor.ready with
  | .pending => ⟨.pending, false, none⟩
  | .ready (.error ()) => ⟨.ready (.error .muxMessageFailedToSend), false, none⟩
  | .ready (.ok ()) =>
      match actor.send with
      | .error () => ⟨.ready (.error .muxMessageFailedToSend), true, none⟩
      | .ok () => ⟨.pending, true, some (.close id ⟨.unknown⟩ channel)⟩

end ActorAnswers

/-- A poll of the writing half, and what it means for the close. -/
structure ClosePoll where
  poll : WritePoll
  oneshot : Bool
  event : Option WsEvent

/-- `oneshot` says that the reply to a close is waited for. -/
def MuxStreamWrite.pollClose (write : MuxStreamWrite) (oneshot : Bool)
    (info : StreamInfo) (sink : SinkAnswers) (actor : ActorAnswers)
    (channel : Nat) : ClosePoll :=
  if oneshot then
    let request := actor.pollReply
    ⟨⟨write, info, request.answer, []⟩, request.oneshot, request.event⟩
  else
    let flushed := write.pollFlush info sink
    match flushed.answer with
    | .ready (.ok ()) =>
        let request := actor.requestClose info.id channel
        ⟨{ flushed with answer := request.answer }, request.oneshot,
          request.event⟩
    | _ => ⟨flushed, false, none⟩

structure AsyncClosePoll where
  poll : AsyncWritePoll Unit
  oneshot : Bool
  event : Option WsEvent

def MuxStreamAsyncWrite.pollClose (write : MuxStreamAsyncWrite)
    (oneshot : Bool) (info : StreamInfo) (sink : SinkAnswers)
    (actor : ActorAnswers) (channel : Nat) : AsyncClosePoll :=
  if oneshot then
    let request := actor.pollReply
    ⟨⟨write, info, request.answer, []⟩, request.oneshot, request.event⟩
  else
    let flushed := write.pollFlush info sink
    match flushed.answer with
    | .ready (.ok ()) =>
        let request := actor.requestClose info.id channel
        ⟨{ flushed with answer := request.answer }, request.oneshot,
          request.event⟩
    | _ => ⟨flushed, false, none⟩

end Epoxy
