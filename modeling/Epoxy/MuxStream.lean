/-
The two halves of a multiplexed stream.  A handle acts through polls; in each
of them the shared sink is asked at most once for the lock, for readiness, to
take a packet and to flush, and what it answers is an input of the poll.
-/
import Epoxy.StreamInfo

namespace Epoxy

open ByteCursor PollChannel

/-- The answers of the lock and of the sink behind it during one poll. -/
structure SinkAnswers where
  lock : Poll Unit
  ready : Poll (Except WispError Unit)
  send : Except WispError Unit
  flush : Poll (Except WispError Unit)

namespace SinkAnswers

/-- A handle that already holds the lock does not ask for it again. -/
def pollLock (sink : SinkAnswers) (locked : Bool) : Poll Unit :=
  if locked then .ready () else sink.lock

/-- No error, whatever is asked. -/
def Reliable (sink : SinkAnswers) : Prop :=
  (∀ error, sink.ready ≠ .ready (.error error)) ∧
    (∀ error, sink.send ≠ .error error) ∧
    ∀ error, sink.flush ≠ .ready (.error error)

/-- Every call succeeds at once. -/
def prompt : SinkAnswers :=
  ⟨.ready (), .ready (.ok ()), .ok (), .ready (.ok ())⟩

theorem prompt_reliable : prompt.Reliable := by
  simp [Reliable, prompt]

end SinkAnswers

/-- The answers of a transport that reports no errors. -/
structure CalmSink where
  lock : Poll Unit
  ready : Poll Unit
  flush : Poll Unit

namespace CalmSink

def answers (sink : CalmSink) : SinkAnswers :=
  ⟨sink.lock, sink.ready.map .ok, .ok (), sink.flush.map .ok⟩

def prompt : CalmSink := ⟨.ready (), .ready (), .ready ()⟩

@[simp] theorem answers_prompt : prompt.answers = .prompt := rfl

/-- Whoever asks for the lock waits for it or has it. -/
theorem pollLock_cases (sink : SinkAnswers) (locked : Bool) :
    (locked = false ∧ sink.pollLock locked = .pending) ∨
      sink.pollLock locked = .ready () := by
  unfold SinkAnswers.pollLock
  cases locked with
  | true => exact .inr rfl
  | false =>
      cases sink.lock with
      | pending => exact .inl ⟨rfl, rfl⟩
      | ready => exact .inr rfl

end CalmSink

/-- `locked` is that of the half's own handle on the shared sink. -/
structure MuxStreamRead where
  readCnt : UInt32
  chunk : Option Bytes
  locked : Bool
deriving Repr, DecidableEq

structure ReadPoll where
  read : MuxStreamRead
  channel : Channel Bytes
  info : StreamInfo
  answer : Poll (Option (Except WispError Bytes))
  sent : List Bytes

namespace MuxStreamRead

def new : MuxStreamRead := ⟨0, none, false⟩

/-- Enough has been read for the credit to be announced. -/
def announces (read : MuxStreamRead) (info : StreamInfo) : Bool :=
  info.flowStatus = .enabledSendMessages &&
    info.targetFlowControl < read.readCnt

/-- Yield the chunk, but announce the credit first when it is due; a chunk
that has to wait for the sink is saved. -/
def deliver (read : MuxStreamRead) (channel : Channel Bytes)
    (info : StreamInfo) (chunk : Bytes) (sink : SinkAnswers) : ReadPoll :=
  if read.announces info then
    match sink.pollLock read.locked with
    | .pending => ⟨{ read with chunk := some chunk }, channel, info, .pending, []⟩
    | .ready () =>
        match sink.ready with
        | .pending =>
            ⟨{ read with chunk := some chunk, locked := true }, channel, info,
              .pending, []⟩
        | .ready (.error error) =>
            ⟨{ read with locked := false }, channel, info,
              .ready (some (.error error)), []⟩
        | .ready (.ok ()) =>
            let info := info.flowAdd read.readCnt
            let pkt := (Packet.newContinue info.id info.flowControl).encode
            match sink.send with
            | .error error =>
                ⟨{ read with locked := false }, channel, info,
                  .ready (some (.error error)), []⟩
            | .ok () =>
                ⟨{ read with locked := false, readCnt := 0 }, channel, info,
                  .ready (some (.ok chunk)), [pkt]⟩
  else ⟨read, channel, info, .ready (some (.ok chunk)), []⟩

/-- One more payload has been read, where that is counted. -/
def count (read : MuxStreamRead) (info : StreamInfo) : MuxStreamRead :=
  if info.flowStatus = .enabledSendMessages then
    { read with readCnt := read.readCnt + 1 }
  else read

def pollNext (read : MuxStreamRead) (channel : Channel Bytes)
    (info : StreamInfo) (sink : SinkAnswers) : ReadPoll :=
  if channel.isDisconnected then ⟨read, channel, info, .ready none, []⟩
  else
    match read.chunk with
    | some chunk =>
        { read with chunk := none }.deliver channel info chunk sink
    | none =>
        match channel.pollNext with
        | (channel, .pending) => ⟨read, channel, info, .pending, []⟩
        | (channel, .ready none) => ⟨read, channel, info, .ready none, []⟩
        | (channel, .ready (some chunk)) =>
            (read.count info).deliver channel info chunk sink

section PollNext

variable {read : MuxStreamRead} {channel : Channel Bytes} {info : StreamInfo}
  {sink : SinkAnswers}

/-- Nothing comes out of a channel whose sender is gone. -/
theorem pollNext_of_disconnected (hsender : channel.sender = false) :
    read.pollNext channel info sink =
      ⟨read, channel, info, .ready none, []⟩ := by
  simp [pollNext, Channel.isDisconnected, hsender]

theorem pollNext_of_saved {chunk : Bytes} (hsender : channel.sender = true)
    (hchunk : read.chunk = some chunk) :
    read.pollNext channel info sink =
      { read with chunk := none }.deliver channel info chunk sink := by
  simp [pollNext, Channel.isDisconnected, hsender, hchunk]

theorem pollNext_of_queued {chunk : Bytes} {rest : List Bytes}
    (hsender : channel.sender = true) (hchunk : read.chunk = none)
    (hqueue : channel.queue = chunk :: rest) :
    read.pollNext channel info sink =
      (read.count info).deliver channel.pollNext.1 info chunk sink := by
  have hanswer := Channel.answer_pollNext_of_queued hqueue
  cases hpoll : channel.pollNext with
  | mk left answer =>
      rw [hpoll] at hanswer
      dsimp only at hanswer
      subst hanswer
      simp [pollNext, Channel.isDisconnected, hsender, hchunk, hpoll]

theorem pollNext_of_empty (hsender : channel.sender = true)
    (hchunk : read.chunk = none) (hqueue : channel.queue = []) :
    read.pollNext channel info sink =
      ⟨read, channel.pollNext.1, info, .pending, []⟩ := by
  have hanswer : channel.pollNext.2 = .pending := by
    rcases channel.pollNext_cases with
      ⟨message, _, hmessage, _⟩ | ⟨_, _, _, hanswer⟩
    · rw [hqueue] at hmessage
      cases hmessage
    · rw [hanswer, hsender, if_pos rfl]
  cases hpoll : channel.pollNext with
  | mk left answer =>
      rw [hpoll] at hanswer
      dsimp only at hanswer
      subst hanswer
      simp [pollNext, Channel.isDisconnected, hsender, hchunk, hpoll]

/-- Nothing is due: the chunk is handed on. -/
theorem deliver_of_settled {chunk : Bytes}
    (hdue : read.announces info = false) :
    read.deliver channel info chunk sink =
      ⟨read, channel, info, .ready (some (.ok chunk)), []⟩ := by
  simp [deliver, hdue]

/-- The chunk is saved until the sink is free, and the credit announced. -/
theorem deliver_of_due (channel : Channel Bytes) (chunk : Bytes)
    (sink : CalmSink) (hdue : read.announces info = true) :
    (∃ locked, read.deliver channel info chunk sink.answers =
      ⟨{ read with chunk := some chunk, locked }, channel, info, .pending,
        []⟩) ∨
    read.deliver channel info chunk sink.answers =
      ⟨{ read with locked := false, readCnt := 0 }, channel,
        info.flowAdd read.readCnt, .ready (some (.ok chunk)),
        [(Packet.newContinue info.id
          (info.flowAdd read.readCnt).flowControl).encode]⟩ := by
  rw [deliver, if_pos hdue]
  rcases CalmSink.pollLock_cases sink.answers read.locked with
    ⟨hlocked, hwait⟩ | hlock
  · rw [hwait]
    exact .inl ⟨read.locked, rfl⟩
  · rw [hlock]
    cases hready : sink.ready with
    | pending => exact .inl ⟨true, by simp [CalmSink.answers, hready, Poll.map]⟩
    | ready => exact .inr (by simp [CalmSink.answers, hready, Poll.map]; rfl)

theorem deliver_of_prompt (channel : Channel Bytes) (chunk : Bytes)
    (hdue : read.announces info = true) :
    read.deliver channel info chunk .prompt =
      ⟨{ read with locked := false, readCnt := 0 }, channel,
        info.flowAdd read.readCnt, .ready (some (.ok chunk)),
        [(Packet.newContinue info.id
          (info.flowAdd read.readCnt).flowControl).encode]⟩ := by
  rw [deliver, if_pos hdue]
  cases hlocked : read.locked <;> simp [SinkAnswers.prompt,
    SinkAnswers.pollLock] <;> rfl

end PollNext

@[simp] theorem chunk_count (read : MuxStreamRead) (info : StreamInfo) :
    (read.count info).chunk = read.chunk := by
  unfold count
  split <;> rfl

@[simp] theorem locked_count (read : MuxStreamRead) (info : StreamInfo) :
    (read.count info).locked = read.locked := by
  unfold count
  split <;> rfl

/-- Why the close reason is not known yet, or what it is. -/
def getCloseReason (channel : Channel Bytes) (info : StreamInfo) :
    Option CloseReason :=
  if channel.isDisconnected then some info.getReason else none

end MuxStreamRead

structure MuxStreamWrite where
  chunk : Option Bytes
  locked : Bool
deriving Repr, DecidableEq

structure WritePoll where
  write : MuxStreamWrite
  info : StreamInfo
  answer : Poll (Except WispError Unit)
  sent : List Bytes

namespace MuxStreamWrite

def new : MuxStreamWrite := ⟨none, false⟩

/-- Hand the saved chunk to the sink and pay for it; a chunk that the sink
refuses is gone. -/
def maybeWrite (write : MuxStreamWrite) (info : StreamInfo)
    (sink : SinkAnswers) :
    MuxStreamWrite × StreamInfo × Except WispError Unit × List Bytes :=
  match write.chunk with
  | none => (write, info, .ok (), [])
  | some chunk =>
      match sink.send with
      | .error error => ({ write with chunk := none }, info, .error error, [])
      | .ok () =>
          ({ write with chunk := none },
            if info.flowStatus = .enabledTrackAmount then info.flowDec
            else info,
            .ok (), [(Packet.newData info.id chunk).encode])

/-- The lock is ours: wait for the sink, then write.  The lock is kept on
success and while waiting, and given back on an error. -/
def lockedWrite (write : MuxStreamWrite) (info : StreamInfo)
    (sink : SinkAnswers) : WritePoll :=
  match sink.ready with
  | .pending => ⟨{ write with locked := true }, info, .pending, []⟩
  | .ready (.error error) =>
      ⟨{ write with locked := false }, info, .ready (.error error), []⟩
  | .ready (.ok ()) =>
      let (write, info, result, sent) := write.maybeWrite info sink
      match result with
      | .error error =>
          ⟨{ write with locked := false }, info, .ready (.error error), sent⟩
      | .ok () => ⟨{ write with locked := true }, info, .ready (.ok ()), sent⟩

/-- `actorGone` says that the receiving end of the actor's events is gone. -/
def pollReady (write : MuxStreamWrite) (info : StreamInfo) (actorGone : Bool)
    (cx : Waker) (sink : SinkAnswers) : WritePoll :=
  if actorGone then
    ⟨write, info, .ready (.error .streamAlreadyClosed), []⟩
  else if info.flowStatus = .enabledTrackAmount ∧ info.flowEmpty then
    ⟨write, info.flowRegister cx, .pending, []⟩
  else if write.chunk.isSome then
    match sink.pollLock write.locked with
    | .pending => ⟨write, info, .pending, []⟩
    | .ready () =>
        let result := write.lockedWrite info sink
        match result.answer with
        | .ready (.ok ()) =>
            { result with write := { result.write with locked := false } }
        | _ => result
  else ⟨write, info, .ready (.ok ()), []⟩

def startSend (write : MuxStreamWrite) (item : Bytes) : MuxStreamWrite :=
  { write with chunk := some item }

/-- The end of `pollFlush`, with the lock held. -/
def lockedFlush (result : WritePoll) (sink : SinkAnswers) : WritePoll :=
  match sink.flush with
  | .pending =>
      { result with
        write := { result.write with locked := true }, answer := .pending }
  | .ready answer =>
      { result with
        write := { result.write with locked := false },
        answer := .ready answer }

def pollFlush (write : MuxStreamWrite) (info : StreamInfo)
    (sink : SinkAnswers) : WritePoll :=
  match sink.pollLock write.locked with
  | .pending => ⟨write, info, .pending, []⟩
  | .ready () =>
      if write.chunk.isSome then
        let result := write.lockedWrite info sink
        match result.answer with
        | .ready (.ok ()) => lockedFlush result sink
        | _ => result
      else lockedFlush ⟨write, info, .ready (.ok ()), []⟩ sink

section Calm

variable {write : MuxStreamWrite} {info : StreamInfo} {cx : Waker}

theorem pollReady_of_flowEmpty {sink : SinkAnswers}
    (hflow : info.flowStatus = .enabledTrackAmount)
    (hempty : info.flowEmpty = true) :
    write.pollReady info false cx sink =
      ⟨write, info.flowRegister cx, .pending, []⟩ := by
  simp [pollReady, hflow, hempty]

theorem pollReady_of_credit {sink : SinkAnswers} (hchunk : write.chunk = none)
    (hcredit : info.flowEmpty = false) :
    write.pollReady info false cx sink =
      ⟨write, info, .ready (.ok ()), []⟩ := by
  simp [pollReady, hchunk, hcredit]

theorem lockedFlush_of_calm (result : WritePoll) (sink : CalmSink) :
    ∃ locked answer, (∀ error, answer ≠ .ready (.error error)) ∧
      lockedFlush result sink.answers =
        { result with write := { result.write with locked }, answer } := by
  cases hflush : sink.flush with
  | pending =>
      refine ⟨true, .pending, nofun, ?_⟩
      simp [lockedFlush, CalmSink.answers, hflush, Poll.map]
  | ready =>
      refine ⟨false, .ready (.ok ()), nofun, ?_⟩
      simp [lockedFlush, CalmSink.answers, hflush, Poll.map]

/-- Without a chunk to write only the flush is left. -/
theorem pollFlush_of_none (info : StreamInfo) (sink : CalmSink)
    (hchunk : write.chunk = none) :
    ∃ locked answer, (∀ error, answer ≠ .ready (.error error)) ∧
      write.pollFlush info sink.answers =
        ⟨{ write with locked }, info, answer, []⟩ := by
  rcases CalmSink.pollLock_cases sink.answers write.locked with
    ⟨hlocked, hwait⟩ | hlock
  · exact ⟨write.locked, .pending, nofun, by simp [pollFlush, hwait]⟩
  · simpa [pollFlush, hlock, hchunk] using
      lockedFlush_of_calm ⟨write, info, .ready (.ok ()), []⟩ sink

/-- The saved chunk waits for the sink, or is handed over and paid for. -/
theorem lockedWrite_of_calm {item : Bytes} (sink : CalmSink)
    (hflow : info.flowStatus = .enabledTrackAmount)
    (hchunk : write.chunk = some item) :
    write.lockedWrite info sink.answers =
        ⟨{ write with locked := true }, info, .pending, []⟩ ∨
      write.lockedWrite info sink.answers =
        ⟨⟨none, true⟩, info.flowDec, .ready (.ok ()),
          [(Packet.newData info.id item).encode]⟩ := by
  cases hready : sink.ready with
  | pending =>
      exact .inl (by simp [lockedWrite, CalmSink.answers, hready, Poll.map])
  | ready =>
      exact .inr (by simp [lockedWrite, maybeWrite, hchunk, hflow,
        CalmSink.answers, hready, Poll.map])

/-- Whoever has credit hands the saved chunk over first. -/
theorem pollReady_of_some {item : Bytes} (sink : CalmSink)
    (hflow : info.flowStatus = .enabledTrackAmount)
    (hcredit : info.flowEmpty = false) (hchunk : write.chunk = some item) :
    (∃ locked, write.pollReady info false cx sink.answers =
      ⟨{ write with locked }, info, .pending, []⟩) ∨
    write.pollReady info false cx sink.answers =
      ⟨⟨none, false⟩, info.flowDec, .ready (.ok ()),
        [(Packet.newData info.id item).encode]⟩ := by
  have hsome := Option.isSome_of_eq_some hchunk
  rcases CalmSink.pollLock_cases sink.answers write.locked with
    ⟨hlocked, hwait⟩ | hlock
  · exact .inl ⟨write.locked, by simp [pollReady, hcredit, hsome, hwait]⟩
  · rcases lockedWrite_of_calm sink hflow hchunk with hwaiting | hwritten
    · exact .inl ⟨true, by
        simp [pollReady, hcredit, hsome, hlock, hwaiting]⟩
    · exact .inr (by simp [pollReady, hcredit, hsome, hlock, hwritten])

/-- The saved chunk stays where it is, or is handed over and paid for. -/
theorem pollFlush_of_some {item : Bytes} (sink : CalmSink)
    (hflow : info.flowStatus = .enabledTrackAmount)
    (hchunk : write.chunk = some item) :
    (∃ locked, write.pollFlush info sink.answers =
      ⟨{ write with locked }, info, .pending, []⟩) ∨
    ∃ locked answer, (∀ error, answer ≠ .ready (.error error)) ∧
      write.pollFlush info sink.answers =
        ⟨⟨none, locked⟩, info.flowDec, answer,
          [(Packet.newData info.id item).encode]⟩ := by
  rcases CalmSink.pollLock_cases sink.answers write.locked with
    ⟨hlocked, hwait⟩ | hlock
  · exact .inl ⟨write.locked, by simp [pollFlush, hwait]⟩
  · rcases lockedWrite_of_calm sink hflow hchunk with hwaiting | hwritten
    · exact .inl ⟨true, by simp [pollFlush, hlock, hchunk, hwaiting]⟩
    · refine .inr ?_
      simpa [pollFlush, hlock, hchunk, hwritten] using lockedFlush_of_calm
        (write.lockedWrite info sink.answers) sink

theorem pollFlush_of_prompt {item : Bytes}
    (hflow : info.flowStatus = .enabledTrackAmount)
    (hchunk : write.chunk = some item) :
    write.pollFlush info .prompt =
      ⟨⟨none, false⟩, info.flowDec, .ready (.ok ()),
        [(Packet.newData info.id item).encode]⟩ := by
  cases hlocked : write.locked <;> simp [pollFlush, SinkAnswers.prompt,
    SinkAnswers.pollLock, lockedWrite, maybeWrite, lockedFlush, hchunk, hflow]

end Calm

end MuxStreamWrite

/-- The writing half behind `AsyncWrite`; it has no saved chunk. -/
structure MuxStreamAsyncWrite where
  locked : Bool
deriving Repr, DecidableEq

structure AsyncWritePoll (α : Type) where
  write : MuxStreamAsyncWrite
  info : StreamInfo
  answer : Poll (Except WispError α)
  sent : List Bytes

namespace MuxStreamAsyncWrite

/-- `into_async_write`; the chunk of the other half is not taken over. -/
def new (write : MuxStreamWrite) : MuxStreamAsyncWrite := ⟨write.locked⟩

/-- An error returns without giving the lock back. -/
def pollWrite (write : MuxStreamAsyncWrite) (info : StreamInfo)
    (buf : Bytes) (sink : SinkAnswers) : AsyncWritePoll Nat :=
  match sink.pollLock write.locked with
  | .pending => ⟨write, info, .pending, []⟩
  | .ready () =>
      match sink.ready with
      | .pending => ⟨⟨true⟩, info, .pending, []⟩
      | .ready (.error error) => ⟨⟨true⟩, info, .ready (.error error), []⟩
      | .ready (.ok ()) =>
          match sink.send with
          | .error error => ⟨⟨true⟩, info, .ready (.error error), []⟩
          | .ok () =>
              ⟨⟨false⟩, info, .ready (.ok buf.length),
                [(Packet.newData info.id buf).encode]⟩

def pollFlush (write : MuxStreamAsyncWrite) (info : StreamInfo)
    (sink : SinkAnswers) : AsyncWritePoll Unit :=
  match sink.pollLock write.locked with
  | .pending => ⟨write, info, .pending, []⟩
  | .ready () =>
      match sink.flush with
      | .pending => ⟨⟨true⟩, info, .pending, []⟩
      | .ready (.error error) => ⟨⟨true⟩, info, .ready (.error error), []⟩
      | .ready (.ok ()) => ⟨⟨false⟩, info, .ready (.ok ()), []⟩

end MuxStreamAsyncWrite

/-- One stream: what its map entry and its two halves share, and the halves
themselves. -/
structure Stream where
  info : StreamInfo
  channel : Channel Bytes
  read : MuxStreamRead
  write : MuxStreamWrite

namespace Stream

/-- A stream as `add_stream` builds it. -/
def new (id : UInt32) (flow : FlowControl) (bufferSize : UInt32) : Stream where
  info := .new id flow bufferSize
  channel :=
    if flow = .enabledSendMessages then .bounded bufferSize.toNat
    else .unbounded
  read := .new
  write := .new

/-- The actor's end: drop the sender, then keep the reason. -/
def close (stream : Stream) (close : ClosePacket) : Stream :=
  { stream with
    channel := stream.channel.dropSender
    info := stream.info.setReason close.reason }

def pollNext (stream : Stream) (sink : SinkAnswers) :
    Stream × Poll (Option (Except WispError Bytes)) × List Bytes :=
  let result := stream.read.pollNext stream.channel stream.info sink
  ({ stream with
      read := result.read, channel := result.channel, info := result.info },
    result.answer, result.sent)

end Stream

end Epoxy
