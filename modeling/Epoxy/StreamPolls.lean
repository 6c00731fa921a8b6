/-
Everything that one poll of a stream's half can do.  For each poll there is
one relation with a case for each way through it, which says what was asked
on the way and what the poll leaves and answers; facts about polls are proved
by these cases.
-/
import Epoxy.MuxStream

namespace Epoxy

open ByteCursor PollChannel

namespace MuxStreamRead

/-- The ways of delivering a chunk. -/
inductive Delivered (read : MuxStreamRead) (channel : Channel Bytes)
    (info : StreamInfo) (chunk : Bytes) (sink : SinkAnswers) :
    ReadPoll → Prop where
  | settled (hdue : read.announces info = false) :
      Delivered read channel info chunk sink
        ⟨read, channel, info, .ready (some (.ok chunk)), []⟩
  | lockTaken (hdue : read.announces info = true)
      (hlock : sink.pollLock read.locked = .pending) :
      Delivered read channel info chunk sink
        ⟨{ read with chunk := some chunk }, channel, info, .pending, []⟩
  | notReady (hdue : read.announces info = true)
      (hlock : sink.pollLock read.locked = .ready ())
      (hready : sink.ready = .pending) :
      Delivered read channel info chunk sink
        ⟨{ read with chunk := some chunk, locked := true }, channel, info,
          .pending, []⟩
  | failed (error : WispError) (hdue : read.announces info = true)
      (hlock : sink.pollLock read.locked = .ready ())
      (hready : sink.ready = .ready (.error error)) :
      Delivered read channel info chunk sink
        ⟨{ read with locked := false }, channel, info,
          .ready (some (.error error)), []⟩
  /-- The credit is counted although nothing was announced. -/
  | refused (error : WispError) (hdue : read.announces info = true)
      (hlock : sink.pollLock read.locked = .ready ())
      (hready : sink.ready = .ready (.ok ()))
      (hsend : sink.send = .error error) :
      Delivered read channel info chunk sink
        ⟨{ read with locked := false }, channel, info.flowAdd read.readCnt,
          .ready (some (.error error)), []⟩
  | announced (hdue : read.announces info = true)
      (hlock : sink.pollLock read.locked = .ready ())
      (hready : sink.ready = .ready (.ok ())) (hsend : sink.send = .ok ()) :
      Delivered read channel info chunk sink
        ⟨{ read with locked := false, readCnt := 0 }, channel,
          info.flowAdd read.readCnt, .ready (some (.ok chunk)),
          [(Packet.newContinue info.id
            (info.flowAdd read.readCnt).flowControl).encode]⟩

theorem delivered (read : MuxStreamRead) (channel : Channel Bytes)
    (info : StreamInfo) (chunk : Bytes) (sink : SinkAnswers) :
    Delivered read channel info chunk sink
      (read.deliver channel info chunk sink) := by
  unfold deliver
  split
  · next hdue =>
      split
      · next hlock => exact .lockTaken hdue hlock
      · next hlock =>
          split
          · next hready => exact .notReady hdue hlock hready
          · next error hready => exact .failed error hdue hlock hready
          · next hready =>
              dsimp only
              split
              · next error hsend => exact .refused error hdue hlock hready hsend
              · next hsend => exact .announced hdue hlock hready hsend
  · next hdue => exact .settled (by simpa using hdue)

theorem Delivered.channel {read : MuxStreamRead} {channel : Channel Bytes}
    {info : StreamInfo} {chunk : Bytes} {sink : SinkAnswers}
    {result : ReadPoll} (h : Delivered read channel info chunk sink result) :
    result.channel = channel := by
  cases h with
  | settled | lockTaken | notReady | failed | refused | announced => rfl

/-- The ways of polling for the next chunk. -/
inductive PolledNext (read : MuxStreamRead) (channel : Channel Bytes)
    (info : StreamInfo) (sink : SinkAnswers) : ReadPoll → Prop where
  | disconnected (hsender : channel.sender = false) :
      PolledNext read channel info sink ⟨read, channel, info, .ready none, []⟩
  | empty (hsender : channel.sender = true) (hchunk : read.chunk = none)
      (hqueue : channel.queue = []) :
      PolledNext read channel info sink
        ⟨read, channel.pollNext.1, info, .pending, []⟩
  | saved (chunk : Bytes) (result : ReadPoll)
      (hsender : channel.sender = true) (hchunk : read.chunk = some chunk)
      (hdelivered : Delivered { read with chunk := none } channel info chunk
        sink result) :
      PolledNext read channel info sink result
  | popped (chunk : Bytes) (rest : List Bytes) (result : ReadPoll)
      (hsender : channel.sender = true) (hchunk : read.chunk = none)
      (hqueue : channel.queue = chunk :: rest)
      (hdelivered : Delivered (read.count info) channel.pollNext.1 info chunk
        sink result) :
      PolledNext read channel info sink result

theorem polledNext (read : MuxStreamRead) (channel : Channel Bytes)
    (info : StreamInfo) (sink : SinkAnswers) :
    PolledNext read channel info sink (read.pollNext channel info sink) := by
  cases hsender : channel.sender with
  | false =>
      rw [pollNext_of_disconnected hsender]
      exact .disconnected hsender
  | true =>
      cases hchunk : read.chunk with
      | some chunk =>
          rw [pollNext_of_saved hsender hchunk]
          exact .saved chunk _ hsender hchunk (delivered _ _ _ _ _)
      | none =>
          cases hqueue : channel.queue with
          | nil =>
              rw [pollNext_of_empty hsender hchunk hqueue]
              exact .empty hsender hchunk hqueue
          | cons chunk rest =>
              rw [pollNext_of_queued hsender hchunk hqueue]
              exact .popped chunk rest _ hsender hchunk hqueue
                (delivered _ _ _ _ _)

end MuxStreamRead

/-- The record once a packet has been paid for, where packets cost credit. -/
def StreamInfo.paid (info : StreamInfo) : StreamInfo :=
  if info.flowStatus = .enabledTrackAmount then info.flowDec else info

@[simp] theorem StreamInfo.flowWaker_paid (info : StreamInfo) :
    info.paid.flowWaker = info.flowWaker := by
  unfold paid
  split
  · rfl
  · rfl

namespace MuxStreamWrite

/-- The answer after which `start_send` may be called. -/
def isReadyOk : Poll (Except WispError Unit) → Bool
  | .ready (.ok ()) => true
  | _ => false

theorem isReadyOk_iff {answer : Poll (Except WispError Unit)} :
    isReadyOk answer = true ↔ answer = .ready (.ok ()) := by
  unfold isReadyOk
  split
  · simp
  · next hother => simpa using hother

/-- The ways of writing with the lock taken. -/
inductive LockedWritten (write : MuxStreamWrite) (info : StreamInfo)
    (sink : SinkAnswers) : WritePoll → Prop where
  | notReady (hready : sink.ready = .pending) :
      LockedWritten write info sink
        ⟨{ write with locked := true }, info, .pending, []⟩
  | failed (error : WispError) (hready : sink.ready = .ready (.error error)) :
      LockedWritten write info sink
        ⟨{ write with locked := false }, info, .ready (.error error), []⟩
  | refused (chunk : Bytes) (error : WispError)
      (hready : sink.ready = .ready (.ok ())) (hchunk : write.chunk = some chunk)
      (hsend : sink.send = .error error) :
      LockedWritten write info sink
        ⟨⟨none, false⟩, info, .ready (.error error), []⟩
  | nothing (hready : sink.ready = .ready (.ok ()))
      (hchunk : write.chunk = none) :
      LockedWritten write info sink
        ⟨{ write with locked := true }, info, .ready (.ok ()), []⟩
  | written (chunk : Bytes) (hready : sink.ready = .ready (.ok ()))
      (hchunk : write.chunk = some chunk) (hsend : sink.send = .ok ()) :
      LockedWritten write info sink
        ⟨⟨none, true⟩, info.paid, .ready (.ok ()),
          [(Packet.newData info.id chunk).encode]⟩

theorem lockedWritten (write : MuxStreamWrite) (info : StreamInfo)
    (sink : SinkAnswers) :
    LockedWritten write info sink (write.lockedWrite info sink) := by
  unfold lockedWrite maybeWrite
  split
  · next hready => exact .notReady hready
  · next error hready => exact .failed error hready
  · next hready =>
      cases hchunk : write.chunk with
      | none => exact .nothing hready hchunk
      | some chunk =>
          cases hsend : sink.send with
          | error error => exact .refused chunk error hready hchunk hsend
          | ok => exact .written chunk hready hchunk hsend

theorem lockedFlush_eq (result : WritePoll) (sink : SinkAnswers) :
    lockedFlush result sink =
      { result with
        write := { result.write with locked := sink.flush.isPending }
        answer := sink.flush } := by
  unfold lockedFlush
  cases sink.flush with
  | pending => rfl
  | ready answer => rfl

/-- The ways of asking to be ready. -/
inductive PolledReady (write : MuxStreamWrite) (info : StreamInfo)
    (actorGone : Bool) (cx : Waker) (sink : SinkAnswers) :
    WritePoll → Prop where
  | closed (hgone : actorGone = true) :
      PolledReady write info actorGone cx sink
        ⟨write, info, .ready (.error .streamAlreadyClosed), []⟩
  | parked (hgone : actorGone = false)
      (hempty : info.flowStatus = .enabledTrackAmount ∧
        info.flowEmpty = true) :
      PolledReady write info actorGone cx sink
        ⟨write, info.flowRegister cx, .pending, []⟩
  | nothing (hgone : actorGone = false)
      (hcredit : ¬ (info.flowStatus = .enabledTrackAmount ∧
        info.flowEmpty = true))
      (hchunk : write.chunk = none) :
      PolledReady write info actorGone cx sink
        ⟨write, info, .ready (.ok ()), []⟩
  | lockTaken (hgone : actorGone = false)
      (hcredit : ¬ (info.flowStatus = .enabledTrackAmount ∧
        info.flowEmpty = true))
      (hchunk : write.chunk.isSome = true)
      (hlock : sink.pollLock write.locked = .pending) :
      PolledReady write info actorGone cx sink ⟨write, info, .pending, []⟩
  /-- The sink is not ready, or fails. -/
  | kept (result : WritePoll) (hgone : actorGone = false)
      (hcredit : ¬ (info.flowStatus = .enabledTrackAmount ∧
        info.flowEmpty = true))
      (hchunk : write.chunk.isSome = true)
      (hlock : sink.pollLock write.locked = .ready ())
      (hwritten : LockedWritten write info sink result)
      (hanswer : result.answer ≠ .ready (.ok ())) :
      PolledReady write info actorGone cx sink result
  | written (chunk : Bytes) (hgone : actorGone = false)
      (hcredit : ¬ (info.flowStatus = .enabledTrackAmount ∧
        info.flowEmpty = true))
      (hchunk : write.chunk = some chunk)
      (hlock : sink.pollLock write.locked = .ready ())
      (hready : sink.ready = .ready (.ok ())) (hsend : sink.send = .ok ()) :
      PolledReady write info actorGone cx sink
        ⟨⟨none, false⟩, info.paid, .ready (.ok ()),
          [(Packet.newData info.id chunk).encode]⟩

theorem polledReady (write : MuxStreamWrite) (info : StreamInfo)
    (actorGone : Bool) (cx : Waker) (sink : SinkAnswers) :
    PolledReady write info actorGone cx sink
      (write.pollReady info actorGone cx sink) := by
  have hwritten := write.lockedWritten info sink
  unfold pollReady
  split
  · next hgone => exact .closed hgone
  · next hgone =>
      have hgone : actorGone = false := by simpa using hgone
      split
      · next hempty => exact .parked hgone hempty
      · next hcredit =>
          split
          · next hchunk =>
              split
              · next hlock => exact .lockTaken hgone hcredit hchunk hlock
              · next hlock =>
                  generalize write.lockedWrite info sink = result at hwritten ⊢
                  cases hwritten with
                  | notReady hready =>
                      exact .kept _ hgone hcredit hchunk hlock
                        (.notReady hready) nofun
                  | failed error hready =>
                      exact .kept _ hgone hcredit hchunk hlock
                        (.failed error hready) nofun
                  | refused chunk error hready hsome hsend =>
                      exact .kept _ hgone hcredit hchunk hlock
                        (.refused chunk error hready hsome hsend) nofun
                  | nothing hready hnone =>
                      rw [hnone] at hchunk
                      cases hchunk
                  | written chunk hready hsome hsend =>
                      exact .written chunk hgone hcredit hsome hlock hready
                        hsend
          · next hchunk =>
              exact .nothing hgone hcredit (by simpa using hchunk)

/-- The ways of flushing. -/
inductive PolledFlush (write : MuxStreamWrite) (info : StreamInfo)
    (sink : SinkAnswers) : WritePoll → Prop where
  | lockTaken (hlock : sink.pollLock write.locked = .pending) :
      PolledFlush write info sink ⟨write, info, .pending, []⟩
  /-- The sink does not take the chunk, or fails. -/
  | kept (result : WritePoll) (hchunk : write.chunk.isSome = true)
      (hlock : sink.pollLock write.locked = .ready ())
      (hwritten : LockedWritten write info sink result)
      (hanswer : result.answer ≠ .ready (.ok ())) :
      PolledFlush write info sink result
  | nothing (hchunk : write.chunk = none)
      (hlock : sink.pollLock write.locked = .ready ()) :
      PolledFlush write info sink
        ⟨{ write with locked := sink.flush.isPending }, info, sink.flush, []⟩
  | written (chunk : Bytes) (hchunk : write.chunk = some chunk)
      (hlock : sink.pollLock write.locked = .ready ())
      (hready : sink.ready = .ready (.ok ())) (hsend : sink.send = .ok ()) :
      PolledFlush write info sink
        ⟨⟨none, sink.flush.isPending⟩, info.paid, sink.flush,
          [(Packet.newData info.id chunk).encode]⟩

theorem polledFlush (write : MuxStreamWrite) (info : StreamInfo)
    (sink : SinkAnswers) :
    PolledFlush write info sink (write.pollFlush info sink) := by
  have hwritten := write.lockedWritten info sink
  unfold pollFlush
  split
  · next hlock => exact .lockTaken hlock
  · next hlock =>
      split
      · next hchunk =>
          generalize write.lockedWrite info sink = result at hwritten ⊢
          cases hwritten with
          | notReady hready =>
              exact .kept _ hchunk hlock (.notReady hready) nofun
          | failed error hready =>
              exact .kept _ hchunk hlock (.failed error hready) nofun
          | refused chunk error hready hsome hsend =>
              exact .kept _ hchunk hlock
                (.refused chunk error hready hsome hsend) nofun
          | nothing hready hnone =>
              rw [hnone] at hchunk
              cases hchunk
          | written chunk hready hsome hsend =>
              dsimp only
              rw [lockedFlush_eq]
              exact .written chunk hsome hlock hready hsend
      · next hchunk =>
          rw [lockedFlush_eq]
          exact .nothing (by simpa using hchunk) hlock

end MuxStreamWrite

end Epoxy
