/-
When the handles of a stream hold the lock on the shared sink.  A call may
keep it only while the sink itself makes it wait; what a call leaves locked
otherwise blocks every other stream of the connection.
-/
import Epoxy.StreamClose
import Epoxy.WriteAfterClose

namespace Epoxy

open ActionMachine ByteCursor PollChannel

namespace SinkAnswers

/-- The lock is there, and the sink is not ready. -/
def waitsReady (sink : SinkAnswers) (locked : Bool) : Bool :=
  !(sink.pollLock locked).isPending && sink.ready.isPending

/-- The lock is there, and the sink has not flushed. -/
def waitsFlush (sink : SinkAnswers) (locked : Bool) : Bool :=
  !(sink.pollLock locked).isPending && sink.flush.isPending

/-- The lock is there, and the flush fails. -/
def FlushFails (sink : SinkAnswers) (locked : Bool) : Prop :=
  sink.pollLock locked = .ready () ∧
    ∃ error, sink.flush = .ready (.error error)

end SinkAnswers

/-- One call of a handle: whether the handle holds the lock afterwards, whether
the call returned `Pending`, and whether it did so because the sink's own poll
did. -/
structure CallOutcome where
  locked : Bool
  pending : Bool
  onSink : Bool
deriving Repr, DecidableEq

/-- The lock is kept only while the sink makes the call wait. -/
def CallOutcome.Disciplined (outcome : CallOutcome) : Prop :=
  outcome.locked = true → outcome.pending = true ∧ outcome.onSink = true

namespace MuxStreamRead

/-- `poll_next` waits for the sink. -/
def waitsOnSink (read : MuxStreamRead) (channel : Channel Bytes)
    (info : StreamInfo) (sink : SinkAnswers) : Bool :=
  !channel.isDisconnected &&
    match read.chunk with
    | some _ => read.announces info && sink.waitsReady read.locked
    | none =>
        match channel.pollNext.2 with
        | .ready (some _) =>
            (read.count info).announces info && sink.waitsReady read.locked
        | _ => false

def nextOutcome (read : MuxStreamRead) (channel : Channel Bytes)
    (info : StreamInfo) (sink : SinkAnswers) : CallOutcome :=
  let result := read.pollNext channel info sink
  ⟨result.read.locked, result.answer.isPending,
    read.waitsOnSink channel info sink⟩

end MuxStreamRead

namespace MuxStreamWrite

/-- `poll_ready` waits for the sink. -/
def readyWaitsOnSink (write : MuxStreamWrite) (info : StreamInfo)
    (actorGone : Bool) (sink : SinkAnswers) : Bool :=
  !actorGone &&
    !(info.flowStatus = .enabledTrackAmount && info.flowEmpty) &&
    write.chunk.isSome && sink.waitsReady write.locked

def readyOutcome (write : MuxStreamWrite) (info : StreamInfo)
    (actorGone : Bool) (cx : Waker) (sink : SinkAnswers) : CallOutcome :=
  let result := write.pollReady info actorGone cx sink
  ⟨result.write.locked, result.answer.isPending,
    write.readyWaitsOnSink info actorGone sink⟩

/-- `poll_flush` waits for the sink, either to take the chunk or to flush. -/
def flushWaitsOnSink (write : MuxStreamWrite) (sink : SinkAnswers) : Bool :=
  if write.chunk.isSome then
    match sink.ready, sink.send with
    | .pending, _ => sink.waitsReady write.locked
    | .ready (.ok ()), .ok () => sink.waitsFlush write.locked
    | _, _ => false
  else sink.waitsFlush write.locked

def flushOutcome (write : MuxStreamWrite) (info : StreamInfo)
    (sink : SinkAnswers) : CallOutcome :=
  let result := write.pollFlush info sink
  ⟨result.write.locked, result.answer.isPending, write.flushWaitsOnSink sink⟩

def closeOutcome (write : MuxStreamWrite) (oneshot : Bool) (info : StreamInfo)
    (sink : SinkAnswers) (actor : ActorAnswers) : CallOutcome :=
  let result := write.pollClose oneshot info sink actor 0
  ⟨result.poll.write.locked, result.poll.answer.isPending,
    !oneshot && write.flushWaitsOnSink sink⟩

end MuxStreamWrite

namespace MuxStreamAsyncWrite

def writeOutcome (write : MuxStreamAsyncWrite) (info : StreamInfo)
    (buf : Bytes) (sink : SinkAnswers) : CallOutcome :=
  let result := write.pollWrite info buf sink
  ⟨result.write.locked, result.answer.isPending, sink.waitsReady write.locked⟩

def flushOutcome (write : MuxStreamAsyncWrite) (info : StreamInfo)
    (sink : SinkAnswers) : CallOutcome :=
  let result := write.pollFlush info sink
  ⟨result.write.locked, result.answer.isPending, sink.waitsFlush write.locked⟩

def closeOutcome (write : MuxStreamAsyncWrite) (oneshot : Bool)
    (info : StreamInfo) (sink : SinkAnswers) (actor : ActorAnswers) :
    CallOutcome :=
  let result := write.pollClose oneshot info sink actor 0
  ⟨result.poll.write.locked, result.poll.answer.isPending,
    !oneshot && sink.waitsFlush write.locked⟩

end MuxStreamAsyncWrite

section Reading

variable {read : MuxStreamRead} {info : StreamInfo} {sink : SinkAnswers}

/-- A handle that has to wait for the lock does not hold it. -/
theorem SinkAnswers.free_of_pollLock {locked : Bool}
    (hlock : sink.pollLock locked = .pending) : locked = false := by
  rcases CalmSink.pollLock_cases sink locked with ⟨hfree, -⟩ | hready
  · exact hfree
  · rw [hready] at hlock
    cases hlock

/-- A reader holds the lock only for a credit that is due. -/
def MuxStreamRead.HoldsForCredit (read : MuxStreamRead) (info : StreamInfo) :
    Prop :=
  read.locked = true → read.chunk.isSome = true ∧ read.announces info = true

theorem MuxStreamRead.HoldsForCredit.free (hholds : read.HoldsForCredit info)
    (hchunk : read.chunk = none) : read.locked = false := by
  cases hlocked : read.locked with
  | false => rfl
  | true =>
      have hsome := (hholds hlocked).1
      rw [hchunk] at hsome
      cases hsome

/-- A delivery keeps the lock only while it waits for the sink, and the chunk
with it. -/
theorem MuxStreamRead.Delivered.locked {channel : Channel Bytes}
    {chunk : Bytes} {result : ReadPoll}
    (h : Delivered read channel info chunk sink result)
    (hdue : read.locked = true → read.announces info = true)
    (hlocked : result.read.locked = true) :
    result.answer.isPending = true ∧ read.announces info = true ∧
      sink.waitsReady read.locked = true ∧
        result.read.chunk.isSome = true ∧ result.info = info := by
  cases h with
  | settled hsettled =>
      rw [hdue hlocked] at hsettled
      cases hsettled
  | lockTaken _ hlock =>
      rw [SinkAnswers.free_of_pollLock hlock] at hlocked
      cases hlocked
  | notReady hannounces hlock hready =>
      exact ⟨rfl, hannounces, by simp [SinkAnswers.waitsReady, hlock, hready],
        rfl, rfl⟩
  | failed | refused | announced => cases hlocked

/-- A delivery that keeps the lock keeps its chunk for the next poll. -/
theorem MuxStreamRead.Delivered.holdsForCredit {channel : Channel Bytes}
    {chunk : Bytes} {result : ReadPoll}
    (h : Delivered read channel info chunk sink result)
    (hdue : read.locked = true → read.announces info = true) :
    result.read.HoldsForCredit result.info := by
  cases h with
  | settled hsettled =>
      intro hlocked
      rw [hdue hlocked] at hsettled
      cases hsettled
  | lockTaken hannounces | notReady hannounces =>
      exact fun _ => ⟨rfl, hannounces⟩
  | failed | refused | announced => exact nofun

theorem MuxStreamRead.disciplined_nextOutcome_iff {channel : Channel Bytes}
    (hholds : read.HoldsForCredit info) :
    (read.nextOutcome channel info sink).Disciplined ↔
      (read.locked = true → channel.isDisconnected = false) := by
  have hpolled := read.polledNext channel info sink
  unfold CallOutcome.Disciplined nextOutcome waitsOnSink
  generalize read.pollNext channel info sink = result at hpolled ⊢
  dsimp only
  cases hpolled with
  | disconnected hsender => simp [Channel.isDisconnected, hsender]
  | empty _ hchunk =>
      have hfree := hholds.free hchunk
      simp [hfree]
  | saved chunk _ hsender hchunk hdelivered =>
      simp only [Channel.isDisconnected, hsender, hchunk, Bool.not_true,
        Bool.not_false, Bool.true_and, implies_true, iff_true]
      intro hlocked
      obtain ⟨hpending, hannounces, hwaits, -⟩ :=
        hdelivered.locked (fun hlocked => (hholds hlocked).2) hlocked
      exact ⟨hpending, Bool.and_eq_true_iff.mpr ⟨hannounces, hwaits⟩⟩
  | popped chunk rest _ hsender hchunk hqueue hdelivered =>
      have hfree := hholds.free hchunk
      simp only [Channel.isDisconnected, hsender, hchunk, Bool.not_true,
        Bool.not_false, Bool.true_and, implies_true, iff_true,
        Channel.answer_pollNext_of_queued hqueue]
      intro hlocked
      obtain ⟨hpending, hannounces, hwaits, -⟩ :=
        hdelivered.locked (by simp [hfree]) hlocked
      rw [locked_count] at hwaits
      exact ⟨hpending, Bool.and_eq_true_iff.mpr ⟨hannounces, hwaits⟩⟩

theorem MuxStreamRead.HoldsForCredit.of_same {next : StreamInfo}
    (hholds : read.HoldsForCredit info) (hsame : SameInfo info next) :
    read.HoldsForCredit next := by
  intro hlocked
  obtain ⟨hchunk, hdue⟩ := hholds hlocked
  refine ⟨hchunk, ?_⟩
  rw [announces, hsame.flowStatus, hsame.targetFlowControl]
  exact hdue

theorem Stream.holdsForCredit_pollNext {s : Stream} (sink : SinkAnswers)
    (hholds : s.read.HoldsForCredit s.info) :
    (s.pollNext sink).1.read.HoldsForCredit (s.pollNext sink).1.info := by
  have hpolled := s.read.polledNext s.channel s.info sink
  unfold Stream.pollNext
  generalize s.read.pollNext s.channel s.info sink = result at hpolled ⊢
  cases hpolled with
  | disconnected | empty => exact hholds
  | saved chunk _ _ _ hdelivered =>
      exact hdelivered.holdsForCredit fun hlocked => (hholds hlocked).2
  | popped chunk rest _ _ hchunk _ hdelivered =>
      have hfree := hholds.free hchunk
      exact hdelivered.holdsForCredit (by simp [hfree])

end Reading

section Writing

variable {sink : SinkAnswers}

namespace MuxStreamWrite

variable {write : MuxStreamWrite} {info : StreamInfo}

theorem disciplined_readyOutcome_iff {actorGone : Bool} {cx : Waker} :
    (write.readyOutcome info actorGone cx sink).Disciplined ↔
      (write.locked = true → actorGone = false ∧
        ¬ (info.flowStatus = .enabledTrackAmount ∧ info.flowEmpty = true) ∧
        write.chunk.isSome = true) := by
  have hpolled := write.polledReady info actorGone cx sink
  unfold CallOutcome.Disciplined readyOutcome readyWaitsOnSink
  generalize write.pollReady info actorGone cx sink = result at hpolled ⊢
  dsimp only
  cases hpolled with
  | closed hgone => simp [hgone]
  | parked hgone hempty => simp [hgone, hempty]
  | nothing hgone _ hchunk => simp [hgone, hchunk]
  | lockTaken _ _ _ hlock =>
      have hfree := SinkAnswers.free_of_pollLock hlock
      simp [hfree]
  | kept _ hgone hcredit hchunk hlock hwritten hanswer =>
      cases hwritten with
      | notReady hready =>
          have hpays : (decide (info.flowStatus = .enabledTrackAmount) &&
              info.flowEmpty) = false := by simpa using hcredit
          simp [hgone, hcredit, hpays, hchunk, SinkAnswers.waitsReady, hlock,
            hready]
      | failed | refused => simp [hgone, hcredit, hchunk]
      | nothing | written => exact absurd rfl hanswer
  | written _ hgone hcredit hchunk => simp [hgone, hcredit, hchunk]

theorem disciplined_flushOutcome :
    (write.flushOutcome info sink).Disciplined := by
  have hpolled := write.polledFlush info sink
  unfold CallOutcome.Disciplined flushOutcome flushWaitsOnSink
  generalize write.pollFlush info sink = result at hpolled ⊢
  dsimp only
  cases hpolled with
  | lockTaken hlock =>
      have hfree := SinkAnswers.free_of_pollLock hlock
      simp [hfree]
  | kept _ hchunk hlock hwritten hanswer =>
      cases hwritten with
      | notReady hready =>
          simp [hchunk, SinkAnswers.waitsReady, hlock, hready]
      | failed | refused => exact nofun
      | nothing | written => exact absurd rfl hanswer
  | nothing hchunk hlock => simp [hchunk, SinkAnswers.waitsFlush, hlock]
  | written _ hchunk hlock hready hsend =>
      simp [hchunk, SinkAnswers.waitsFlush, hlock, hready, hsend]

theorem disciplined_closeOutcome_iff {oneshot : Bool} {actor : ActorAnswers} :
    (write.closeOutcome oneshot info sink actor).Disciplined ↔
      (oneshot = true → write.locked = false) := by
  have hflush : (write.pollFlush info sink).write.locked = true →
      (write.pollFlush info sink).answer.isPending = true ∧
        write.flushWaitsOnSink sink = true := disciplined_flushOutcome
  unfold CallOutcome.Disciplined closeOutcome pollClose
  cases oneshot with
  | true => simp
  | false =>
      simp only [Bool.false_eq_true, if_false, Bool.not_false, Bool.true_and,
        false_implies, iff_true]
      split
      · next hanswer =>
          intro hlocked
          have hpending := (hflush hlocked).1
          rw [hanswer] at hpending
          cases hpending
      · exact hflush

end MuxStreamWrite

namespace MuxStreamAsyncWrite

variable {write : MuxStreamAsyncWrite} {info : StreamInfo}

theorem disciplined_writeOutcome_iff {buf : Bytes} :
    (write.writeOutcome info buf sink).Disciplined ↔
      ¬ sink.Fails write.locked := by
  unfold CallOutcome.Disciplined writeOutcome pollWrite SinkAnswers.Fails
    SinkAnswers.waitsReady
  rcases CalmSink.pollLock_cases sink write.locked with ⟨hfree, hwait⟩ | hlock
  · rw [hwait]
    simp [hfree]
  · rw [hlock]
    cases sink.ready with
    | pending => simp
    | ready answer =>
        cases answer with
        | error error => simp
        | ok =>
            cases sink.send with
            | error error => simp
            | ok => simp

theorem disciplined_flushOutcome_iff :
    (write.flushOutcome info sink).Disciplined ↔
      ¬ sink.FlushFails write.locked := by
  unfold CallOutcome.Disciplined flushOutcome pollFlush SinkAnswers.FlushFails
    SinkAnswers.waitsFlush
  rcases CalmSink.pollLock_cases sink write.locked with ⟨hfree, hwait⟩ | hlock
  · rw [hwait]
    simp [hfree]
  · rw [hlock]
    cases sink.flush with
    | pending => simp
    | ready answer =>
        cases answer with
        | error error => simp
        | ok => simp

theorem locked_of_flushed
    (hanswer : (write.pollFlush info sink).answer = .ready (.ok ())) :
    (write.pollFlush info sink).write.locked = false := by
  unfold pollFlush at hanswer ⊢
  rcases CalmSink.pollLock_cases sink write.locked with ⟨hfree, hwait⟩ | hlock
  · simp [hwait] at hanswer
  · rw [hlock] at hanswer ⊢
    cases hflush : sink.flush with
    | pending => simp [hflush] at hanswer
    | ready answer =>
        cases answer with
        | error error => simp [hflush] at hanswer
        | ok => rfl

theorem disciplined_closeOutcome_iff {oneshot : Bool} {actor : ActorAnswers} :
    (write.closeOutcome oneshot info sink actor).Disciplined ↔
      if oneshot then write.locked = false
      else ¬ sink.FlushFails write.locked := by
  cases oneshot with
  | true => simp [CallOutcome.Disciplined, closeOutcome, pollClose]
  | false =>
      rw [if_neg Bool.false_ne_true, ← @disciplined_flushOutcome_iff sink write
        info]
      unfold CallOutcome.Disciplined closeOutcome pollClose flushOutcome
      simp only [Bool.false_eq_true, if_false, Bool.not_false, Bool.true_and]
      cases hanswer : (write.pollFlush info sink).answer with
      | pending => simp [hanswer]
      | ready answer =>
          cases answer with
          | error error => simp [hanswer]
          | ok =>
              have hfree := locked_of_flushed hanswer
              simp [hfree]

theorem info_pollWrite (buf : Bytes) :
    (write.pollWrite info buf sink).info = info := by
  unfold pollWrite
  split
  · rfl
  · split
    · rfl
    · rfl
    · split
      · rfl
      · rfl

theorem info_pollFlush : (write.pollFlush info sink).info = info := by
  unfold pollFlush
  split
  · rfl
  · split
    · rfl
    · rfl
    · rfl

theorem info_pollClose (oneshot : Bool) (actor : ActorAnswers)
    (channel : Nat) :
    (write.pollClose oneshot info sink actor channel).poll.info = info := by
  unfold pollClose
  split
  · rfl
  · dsimp only
    split
    · exact info_pollFlush
    · exact info_pollFlush

end MuxStreamAsyncWrite

theorem MuxStreamWrite.sameInfo_pollClose (write : MuxStreamWrite)
    (oneshot : Bool) (info : StreamInfo) (sink : SinkAnswers)
    (actor : ActorAnswers) (channel : Nat) :
    SameInfo info
      (write.pollClose oneshot info sink actor channel).poll.info := by
  unfold pollClose
  split
  · exact .refl info
  · dsimp only
    split
    · exact (write.polledFlush info sink).sameInfo
    · exact (write.polledFlush info sink).sameInfo

end Writing

/-- The handles of one stream: its reading half, and its writing half before
or after `into_async_write`.  `oneshot` says that the writing half waits for
the reply to its close. -/
structure StreamHandles where
  stream : Stream
  asyncWrite : Option MuxStreamAsyncWrite
  oneshot : Bool
  actorGone : Bool

inductive HandleAction where
  | pollNext (sink : SinkAnswers)
  | pollReady (cx : Waker) (sink : SinkAnswers)
  | startSend (item : Bytes)
  | pollFlush (sink : SinkAnswers)
  | pollClose (sink : SinkAnswers) (actor : ActorAnswers)
  | intoAsyncWrite
  | asyncPollWrite (buf : Bytes) (sink : SinkAnswers)
  | asyncPollFlush (sink : SinkAnswers)
  | asyncPollClose (sink : SinkAnswers) (actor : ActorAnswers)
  /-- What the actor does to the stream, and its end. -/
  | handleData (actor : Actor) (pkt : Bytes)
  | handleContinue (pkt : ContinuePacket)
  | close (close : ClosePacket)
  | endActor

namespace StreamHandles

def init (id : UInt32) (flow : FlowControl) (bufferSize : UInt32) :
    StreamHandles := ⟨.new id flow bufferSize, none, false, false⟩

/-- The writing half is still a `MuxStreamWrite`. -/
def withWrite {α : Type} (handles : StreamHandles) (next : α) : Option α :=
  match handles.asyncWrite with
  | none => some next
  | some _ => none

/-- A call's outcome comes with the state it leaves; the actor's steps have
none. -/
def step (handles : StreamHandles) :
    HandleAction → Option (StreamHandles × Option CallOutcome)
  | .pollNext sink =>
      let stream := handles.stream
      some ({ handles with stream := (stream.pollNext sink).1 },
        some (stream.read.nextOutcome stream.channel stream.info sink))
  | .pollReady cx sink =>
      let stream := handles.stream
      let result :=
        stream.write.pollReady stream.info handles.actorGone cx sink
      handles.withWrite ({ handles with
        stream := { stream with write := result.write, info := result.info } },
        some (stream.write.readyOutcome stream.info handles.actorGone cx sink))
  | .startSend item =>
      let stream := handles.stream
      let write := stream.write.startSend item
      handles.withWrite ({ handles with stream := { stream with write } },
        some ⟨write.locked, false, false⟩)
  | .pollFlush sink =>
      let stream := handles.stream
      let result := stream.write.pollFlush stream.info sink
      handles.withWrite ({ handles with
        stream := { stream with write := result.write, info := result.info } },
        some (stream.write.flushOutcome stream.info sink))
  | .pollClose sink actor =>
      let stream := handles.stream
      let result :=
        stream.write.pollClose handles.oneshot stream.info sink actor 0
      handles.withWrite ({ handles with
        stream := { stream with
          write := result.poll.write, info := result.poll.info }
        oneshot := result.oneshot },
        some (stream.write.closeOutcome handles.oneshot stream.info sink actor))
  | .intoAsyncWrite =>
      handles.withWrite ({ handles with
        asyncWrite := some (.new handles.stream.write)
        oneshot := false }, none)
  | .asyncPollWrite buf sink =>
      handles.asyncWrite.map fun write =>
        let stream := handles.stream
        let result := write.pollWrite stream.info buf sink
        ({ handles with
          stream := { stream with info := result.info }
          asyncWrite := some result.write },
          some (write.writeOutcome stream.info buf sink))
  | .asyncPollFlush sink =>
      handles.asyncWrite.map fun write =>
        let stream := handles.stream
        let result := write.pollFlush stream.info sink
        ({ handles with
          stream := { stream with info := result.info }
          asyncWrite := some result.write },
          some (write.flushOutcome stream.info sink))
  | .asyncPollClose sink actor =>
      handles.asyncWrite.map fun write =>
        let stream := handles.stream
        let result := write.pollClose handles.oneshot stream.info sink actor 0
        ({ handles with
          stream := { stream with info := result.poll.info }
          asyncWrite := some result.poll.write
          oneshot := result.oneshot },
          some (write.closeOutcome handles.oneshot stream.info sink actor))
  | .handleData actor pkt =>
      some ({ handles with
        stream := actor.handleDataPacket handles.stream pkt }, none)
  | .handleContinue pkt =>
      some ({ handles with
        stream := ClientActor.handleContinuePacket handles.stream pkt }, none)
  | .close close =>
      some ({ handles with stream := handles.stream.close close }, none)
  | .endActor => some ({ handles with actorGone := true }, none)

def machine : Machine StreamHandles HandleAction :=
  ⟨fun handles action => (handles.step action).map Prod.fst⟩

/-- After every call of the run its handle holds the lock only if the sink
makes the call wait. -/
def StaysDisciplined (handles : StreamHandles) (actions : List HandleAction) :
    Prop :=
  machine.Meets (fun handles action =>
    ∀ next outcome, handles.step action = some (next, some outcome) →
      outcome.Disciplined) handles actions

/-- A handle that holds the lock is used for what it took the lock for, and
the transport does not fail the asynchronous writer. -/
def FollowsThrough (handles : StreamHandles) : HandleAction → Prop
  | .pollNext _ =>
      handles.stream.read.locked = true →
        handles.stream.channel.isDisconnected = false
  | .pollReady _ _ =>
      handles.stream.write.locked = true →
        handles.actorGone = false ∧
          ¬ (handles.stream.info.flowStatus = .enabledTrackAmount ∧
            handles.stream.info.flowEmpty = true) ∧
          handles.stream.write.chunk.isSome = true
  | .startSend _ => handles.stream.write.locked = false
  | .pollClose _ _ =>
      handles.oneshot = true → handles.stream.write.locked = false
  | .asyncPollWrite _ sink =>
      ∀ write, handles.asyncWrite = some write → ¬ sink.Fails write.locked
  | .asyncPollFlush sink =>
      ∀ write, handles.asyncWrite = some write →
        ¬ sink.FlushFails write.locked
  | .asyncPollClose sink _ =>
      ∀ write, handles.asyncWrite = some write →
        if handles.oneshot then write.locked = false
        else ¬ sink.FlushFails write.locked
  | _ => True

theorem withWrite_eq_some {α : Type} {handles : StreamHandles} {next left : α}
    (h : handles.withWrite next = some left) :
    handles.asyncWrite = none ∧ next = left := by
  unfold withWrite at h
  split at h
  · next hnone => exact ⟨hnone, Option.some.inj h⟩
  · cases h

section Step

variable {handles next : StreamHandles} {action : HandleAction}

/-- Every call is disciplined exactly if its handle follows through. -/
theorem disciplined_iff_followsThrough {outcome : CallOutcome}
    (hholds : handles.stream.read.HoldsForCredit handles.stream.info)
    (hstep : handles.step action = some (next, some outcome)) :
    outcome.Disciplined ↔ handles.FollowsThrough action := by
  cases action with
  | pollNext sink =>
      cases hstep
      exact MuxStreamRead.disciplined_nextOutcome_iff hholds
  | pollReady cx sink =>
      obtain ⟨-, hleft⟩ := withWrite_eq_some hstep
      cases hleft
      exact MuxStreamWrite.disciplined_readyOutcome_iff
  | startSend item =>
      obtain ⟨-, hleft⟩ := withWrite_eq_some hstep
      cases hleft
      simp [CallOutcome.Disciplined, FollowsThrough, MuxStreamWrite.startSend]
  | pollFlush sink =>
      obtain ⟨-, hleft⟩ := withWrite_eq_some hstep
      cases hleft
      exact iff_of_true MuxStreamWrite.disciplined_flushOutcome trivial
  | pollClose sink actor =>
      obtain ⟨-, hleft⟩ := withWrite_eq_some hstep
      cases hleft
      exact MuxStreamWrite.disciplined_closeOutcome_iff
  | intoAsyncWrite =>
      obtain ⟨-, hleft⟩ := withWrite_eq_some hstep
      cases hleft
  | asyncPollWrite buf sink =>
      obtain ⟨write, hwrite, hleft⟩ := Option.map_eq_some_iff.mp hstep
      cases hleft
      simp only [FollowsThrough, hwrite, Option.some.injEq, forall_eq']
      exact MuxStreamAsyncWrite.disciplined_writeOutcome_iff
  | asyncPollFlush sink =>
      obtain ⟨write, hwrite, hleft⟩ := Option.map_eq_some_iff.mp hstep
      cases hleft
      simp only [FollowsThrough, hwrite, Option.some.injEq, forall_eq']
      exact MuxStreamAsyncWrite.disciplined_flushOutcome_iff
  | asyncPollClose sink actor =>
      obtain ⟨write, hwrite, hleft⟩ := Option.map_eq_some_iff.mp hstep
      cases hleft
      simp only [FollowsThrough, hwrite, Option.some.injEq, forall_eq']
      exact MuxStreamAsyncWrite.disciplined_closeOutcome_iff
  | handleData actor pkt => cases hstep
  | handleContinue pkt => cases hstep
  | close close => cases hstep
  | endActor => cases hstep

/-- The steps that are no calls have nothing to follow. -/
theorem followsThrough_of_quiet
    (hstep : handles.step action = some (next, none)) :
    handles.FollowsThrough action := by
  cases action with
  | pollNext sink => cases hstep
  | pollReady cx sink =>
      obtain ⟨-, hleft⟩ := withWrite_eq_some hstep
      cases hleft
  | startSend item =>
      obtain ⟨-, hleft⟩ := withWrite_eq_some hstep
      cases hleft
  | pollFlush sink => trivial
  | pollClose sink actor =>
      obtain ⟨-, hleft⟩ := withWrite_eq_some hstep
      cases hleft
  | intoAsyncWrite => trivial
  | asyncPollWrite buf sink =>
      obtain ⟨write, -, hleft⟩ := Option.map_eq_some_iff.mp hstep
      cases hleft
  | asyncPollFlush sink =>
      obtain ⟨write, -, hleft⟩ := Option.map_eq_some_iff.mp hstep
      cases hleft
  | asyncPollClose sink actor =>
      obtain ⟨write, -, hleft⟩ := Option.map_eq_some_iff.mp hstep
      cases hleft
  | handleData actor pkt => trivial
  | handleContinue pkt => trivial
  | close close => trivial
  | endActor => trivial

/-- Only a poll of the reader concerns what the reader holds the lock for. -/
theorem holdsForCredit_step {outcome : Option CallOutcome}
    (hholds : handles.stream.read.HoldsForCredit handles.stream.info)
    (hstep : handles.step action = some (next, outcome)) :
    next.stream.read.HoldsForCredit next.stream.info := by
  cases action with
  | pollNext sink =>
      cases hstep
      exact Stream.holdsForCredit_pollNext sink hholds
  | pollReady cx sink =>
      obtain ⟨-, hleft⟩ := withWrite_eq_some hstep
      cases hleft
      exact hholds.of_same (MuxStreamWrite.polledReady _ _ _ cx sink).sameInfo
  | startSend item =>
      obtain ⟨-, hleft⟩ := withWrite_eq_some hstep
      cases hleft
      exact hholds
  | pollFlush sink =>
      obtain ⟨-, hleft⟩ := withWrite_eq_some hstep
      cases hleft
      exact hholds.of_same (MuxStreamWrite.polledFlush _ _ sink).sameInfo
  | pollClose sink actor =>
      obtain ⟨-, hleft⟩ := withWrite_eq_some hstep
      cases hleft
      exact hholds.of_same
        (MuxStreamWrite.sameInfo_pollClose _ _ _ sink actor 0)
  | intoAsyncWrite =>
      obtain ⟨-, hleft⟩ := withWrite_eq_some hstep
      cases hleft
      exact hholds
  | asyncPollWrite buf sink =>
      obtain ⟨write, -, hleft⟩ := Option.map_eq_some_iff.mp hstep
      cases hleft
      simpa only [MuxStreamAsyncWrite.info_pollWrite] using hholds
  | asyncPollFlush sink =>
      obtain ⟨write, -, hleft⟩ := Option.map_eq_some_iff.mp hstep
      cases hleft
      simpa only [MuxStreamAsyncWrite.info_pollFlush] using hholds
  | asyncPollClose sink actor =>
      obtain ⟨write, -, hleft⟩ := Option.map_eq_some_iff.mp hstep
      cases hleft
      simpa only [MuxStreamAsyncWrite.info_pollClose] using hholds
  | handleData actor pkt =>
      cases hstep
      have hsame := SameStream.handleDataPacket actor handles.stream pkt
      have hreader := sameReader_handleDataPacket actor handles.stream pkt
      dsimp only
      rw [hreader.read]
      exact hholds.of_same hsame.info
  | handleContinue pkt =>
      cases hstep
      have hsame := SameStream.handleContinuePacket handles.stream pkt
      have hreader := sameReader_handleContinuePacket handles.stream pkt
      dsimp only
      rw [hreader.read]
      exact hholds.of_same hsame.info
  | close close =>
      cases hstep
      exact hholds.of_same (SameStream.close handles.stream close).info
  | endActor =>
      cases hstep
      exact hholds

end Step

/-- In a run no call leaves the lock held, except to wait for the sink,
exactly if the handles follow through. -/
theorem staysDisciplined_iff (id : UInt32) (flow : FlowControl)
    (bufferSize : UInt32) {actions : List HandleAction}
    {handles : StreamHandles}
    (hrun : machine.run (.init id flow bufferSize) actions = some handles) :
    StaysDisciplined (.init id flow bufferSize) actions ↔
      machine.Meets FollowsThrough (.init id flow bufferSize) actions := by
  let Holds (s : StreamHandles) : Prop :=
    s.stream.read.HoldsForCredit s.stream.info
  have hiff : ∀ s action t, Holds s → machine.step s action = some t →
      ((∀ next outcome, s.step action = some (next, some outcome) →
        outcome.Disciplined) ↔ s.FollowsThrough action) := by
    intro s action t hholds hstep
    obtain ⟨⟨next, outcome⟩, htaken, rfl⟩ := Option.map_eq_some_iff.mp hstep
    constructor
    · intro hdisciplined
      cases outcome with
      | some outcome =>
          exact (disciplined_iff_followsThrough hholds htaken).mp
            (hdisciplined next outcome htaken)
      | none => exact followsThrough_of_quiet htaken
    · intro hfollows next outcome hnext
      exact (disciplined_iff_followsThrough hholds hnext).mpr hfollows
  have hinv : ∀ s action t, Holds s → s.FollowsThrough action →
      machine.step s action = some t → Holds t := by
    intro s action t hholds _ hstep
    obtain ⟨⟨next, outcome⟩, htaken, rfl⟩ := Option.map_eq_some_iff.mp hstep
    exact holdsForCredit_step hholds htaken
  have hinit : Holds (.init id flow bufferSize) := nofun
  exact machine.meets_iff_of_invariant hiff hinv hinit hrun

/-- A sink that grants the lock and is never ready. -/
def busy : SinkAnswers := ⟨.ready (), .pending, .ok (), .pending⟩

/-- A sink that takes a packet and does not flush. -/
def unflushed : SinkAnswers := ⟨.ready (), .ready (.ok ()), .ok (), .pending⟩

/-- A sink that fails. -/
def broken : SinkAnswers :=
  ⟨.ready (), .ready (.error .wsImplSocketClosed), .ok (), .pending⟩

/-- The reader and the writer both wait for the sink, and are polled again
until it is ready. -/
theorem staysDisciplined_of_patient_handles :
    StaysDisciplined (.init 1 .enabledSendMessages 1)
      [.handleData (.server .unbounded) [7], .pollNext busy, .pollNext .prompt,
        .startSend [8], .pollFlush unflushed, .pollFlush .prompt] := by
  refine (staysDisciplined_iff 1 .enabledSendMessages 1 rfl).mpr ?_
  refine .cons trivial rfl (.cons (fun _ => rfl) rfl (.cons (fun _ => rfl) rfl
    (.cons rfl rfl (.cons trivial rfl (.cons trivial rfl trivial)))))

/-- A reader that waited for the sink is told that its stream has ended, a
writer that waited for the flush goes to sleep for credit, and an asynchronous
writer meets an error: each keeps the lock. -/
theorem not_staysDisciplined_of_early_return :
    ¬ StaysDisciplined (.init 1 .enabledSendMessages 1)
        [.handleData (.server .unbounded) [7], .pollNext busy,
          .close ⟨.voluntary⟩, .pollNext busy] ∧
      ¬ StaysDisciplined (.init 1 .enabledTrackAmount 1)
        [.startSend [7], .pollFlush unflushed, .pollReady 5 .prompt] ∧
      ¬ StaysDisciplined (.init 1 .disabled 1)
        [.intoAsyncWrite, .asyncPollWrite [7] broken] := by
  refine ⟨?_, ?_, ?_⟩
  · rintro ⟨-, hrest⟩
    have hlast := (((hrest _ rfl).2 _ rfl).2 _ rfl).1 _ _ rfl
    cases (hlast rfl).2
  · rintro ⟨-, hrest⟩
    have hlast := ((hrest _ rfl).2 _ rfl).1 _ _ rfl
    cases (hlast rfl).2
  · rintro ⟨-, hrest⟩
    have hlast := (hrest _ rfl).1 _ _ rfl
    cases (hlast rfl).2

end StreamHandles

end Epoxy
