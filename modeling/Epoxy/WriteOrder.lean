/-
The order in which the writing half of a stream hands over what it was given.
The half keeps one payload back, and everything written later, and the close
packet that the actor sends for it, must come after this one; the conversion
into a byte writer and the two ways of asking for a close do not look at it.
-/
import Epoxy.GracefulClose
import Epoxy.MuxDirectory

namespace Epoxy

open ActionMachine ByteCursor PollChannel

/-- A packet of the stream that the transport has been given, and what it is
for: a payload that `start_send` accepted, bytes of `poll_write`, or the
close. -/
inductive Handed where
  | accepted (packet : Bytes)
  | written (packet : Bytes)
  | closed (packet : Bytes)
deriving Repr, DecidableEq

def Handed.isAccepted : Handed → Bool
  | .accepted _ => true
  | .written _ => false
  | .closed _ => false

/-- The writing half of a stream, which is also its byte writer once it has
been converted, with everything between it and the transport.  `stored` is
what the half's end of the actor's channel keeps, `inbox` what has come into
the channel; `requested` says that a close ever has, and `closed` that the
actor has taken one.  Reply channels are numbered as they are opened. -/
structure WriterWorld where
  half : Closer
  info : StreamInfo
  allowed : Bool
  oneshot : Option Nat
  opened : Nat
  stored : Option WsEvent
  inbox : List WsEvent
  replies : List (Nat × Except WispError Unit)
  requested : Bool
  closed : Bool
  accepted : List Bytes
  handed : List Handed

inductive WriterAction where
  | pollReady (actorGone : Bool) (cx : Waker) (sink : CalmSink)
  | startSend (item : Bytes)
  | pollFlush (sink : CalmSink)
  | pollClose (sink : CalmSink) (ready : Poll (Except Unit Unit))
  /-- `into_async_write`, and the same for the half of `into_async_rw`. -/
  | intoAsync
  | pollWrite (buf : Bytes) (sink : CalmSink)
  /-- The request of `close`, of the stream or of one of its close handles. -/
  | close (reason : CloseReason)
  /-- The actor takes a request of the stream. -/
  | takeClose
  /-- What others do to the stream's record. -/
  | share (info : StreamInfo)

/-- The half is a byte writer. -/
def Closer.isAsync : Closer → Bool
  | .write _ => false
  | .asyncWrite _ => true

/-- A byte writer keeps nothing back. -/
theorem Closer.chunk_of_isAsync {half : Closer} (h : half.isAsync = true) :
    half.chunk = none := by
  cases half with
  | write half => cases h
  | asyncWrite half => rfl

/-- One poll of either half. -/
structure HalfPoll where
  half : Closer
  info : StreamInfo
  sent : List Handed

namespace HalfPoll

def ofWrite (result : WritePoll) : HalfPoll :=
  ⟨.write result.write, result.info, result.sent.map .accepted⟩

def ofAsync {α : Type} (result : AsyncWritePoll α) : HalfPoll :=
  ⟨.asyncWrite result.write, result.info, result.sent.map .written⟩

end HalfPoll

namespace WriterWorld

def init (info : StreamInfo) : WriterWorld where
  half := .write .new
  info
  allowed := false
  oneshot := none
  opened := 0
  stored := none
  inbox := []
  replies := []
  requested := false
  closed := false
  accepted := []
  handed := []

def afterPoll (world : WriterWorld) (result : HalfPoll) : WriterWorld :=
  { world with
    half := result.half
    info := result.info
    handed := world.handed ++ result.sent }

/-- The answers of the actor's side to `poll_close`. -/
def actor (world : WriterWorld) (ready : Poll (Except Unit Unit)) :
    ActorAnswers where
  ready
  send := .ok ()
  reply :=
    match world.oneshot.bind fun channel => world.replies.lookup channel with
    | some result => .ready (.ok result)
    | none => .pending

/-- A new request is stored, and what was stored before comes into the
channel. -/
def afterClose (world : WriterWorld) (result : HalfPoll) (oneshot : Bool)
    (event : Option WsEvent) : WriterWorld :=
  let entered := if event.isSome then world.stored.toList else []
  { world.afterPoll result with
    oneshot := if oneshot then world.oneshot <|> some world.opened else none
    opened := world.opened + 1
    stored := event <|> world.stored
    inbox := world.inbox ++ entered
    requested := world.requested || !entered.isEmpty }

/-- The actor closes the stream at the first request that it takes. -/
def takeClose (world : WriterWorld) : Option WriterWorld :=
  match world.inbox with
  | .close id close channel :: rest =>
      if world.closed then
        some { world with
          inbox := rest
          replies := (channel, .error (.invalidStreamId id)) :: world.replies }
      else
        some { world with
          inbox := rest
          replies := (channel, .ok ()) :: world.replies
          closed := true
          handed := world.handed ++
            [.closed (Packet.encode ⟨id, .close close⟩)] }
  | _ => none

def step (world : WriterWorld) (action : WriterAction) : Option WriterWorld :=
  match action, world.half with
  | .pollReady actorGone cx sink, .write half =>
      let result := half.pollReady world.info actorGone cx sink.answers
      some { world.afterPoll (.ofWrite result) with
        allowed := world.allowed || MuxStreamWrite.isReadyOk result.answer }
  | .startSend item, .write half =>
      if world.allowed then
        some { world with
          half := .write (half.startSend item)
          allowed := false
          accepted := world.accepted ++ [item] }
      else none
  | .pollFlush sink, .write half =>
      some (world.afterPoll (.ofWrite (half.pollFlush world.info
        sink.answers)))
  | .pollFlush sink, .asyncWrite half =>
      some (world.afterPoll (.ofAsync (half.pollFlush world.info
        sink.answers)))
  | .pollClose sink ready, .write half =>
      let result := half.pollClose world.oneshot.isSome world.info sink.answers
        (world.actor ready) world.opened
      some (world.afterClose (.ofWrite result.poll) result.oneshot
        result.event)
  | .pollClose sink ready, .asyncWrite half =>
      let result := half.pollClose world.oneshot.isSome world.info sink.answers
        (world.actor ready) world.opened
      some (world.afterClose (.ofAsync result.poll) result.oneshot
        result.event)
  | .intoAsync, .write half =>
      some { world with
        half := .asyncWrite (.new half), allowed := false, oneshot := none }
  | .pollWrite buf sink, .asyncWrite half =>
      some (world.afterPoll (.ofAsync (half.pollWrite world.info buf
        sink.answers)))
  | .close reason, _ =>
      some { world with
        opened := world.opened + 1
        inbox := world.inbox ++ [.close world.info.id ⟨reason⟩ world.opened]
        requested := true }
  | .takeClose, _ => world.takeClose
  | .share info, _ =>
      if info.id = world.info.id then some { world with info } else none
  | _, _ => none

def machine : Machine WriterWorld WriterAction := ⟨step⟩

/-- The payload that was accepted and is not handed over yet. -/
def pending (world : WriterWorld) : List Bytes := world.half.chunk.toList

def payloadPacket (world : WriterWorld) (payload : Bytes) : Handed :=
  .accepted (Packet.newData world.info.id payload).encode

/-- Every payload that was accepted has been handed over once, in order and
before anything else, or is the one that is kept back; and nothing comes after
one that is kept back. -/
def InOrder (world : WriterWorld) : Prop :=
  ∃ sent later, world.accepted = sent ++ world.pending ∧
    world.handed = sent.map world.payloadPacket ++ later ∧
    (∀ packet, .accepted packet ∉ later) ∧
    (world.pending ≠ [] → later = [])

/-- The operation passes over the payload that is kept back, or a payload is
accepted when the stream is to be closed. -/
def PassesOver (world : WriterWorld) : WriterAction → Prop
  | .intoAsync => world.half.chunk.isSome = true
  | .close _ => world.half.chunk.isSome = true
  | .startSend _ => world.requested = true
  | _ => False

def Closes (events : List WsEvent) : Prop :=
  ∀ event ∈ events, ∃ id close channel, event = .close id close channel

/-- What one poll of either half does with the payload that is kept back. -/
inductive HalfPolled (world : WriterWorld) (result : HalfPoll) : Prop where
  | kept (hchunk : result.half.chunk = world.half.chunk)
      (hsent : result.sent = [])
  | handed (payload : Bytes) (hsome : world.half.chunk = some payload)
      (hchunk : result.half.chunk = none)
      (hsent : result.sent = [world.payloadPacket payload])
  | wrote (packet : Bytes) (hasync : world.half.isAsync = true)
      (hchunk : result.half.chunk = none)
      (hsent : result.sent = [.written packet])

section Polls

variable {half : MuxStreamWrite} {result : WritePoll} {world : WriterWorld}
  {sink : CalmSink}

/-- A sink without errors takes the payload or leaves it. -/
theorem halfPolled_of_lockedWritten (hhalf : world.half = .write half)
    (hwritten : MuxStreamWrite.LockedWritten half world.info sink.answers
      result) (hanswer : result.answer ≠ .ready (.ok ())) :
    HalfPolled world (.ofWrite result) := by
  cases hwritten with
  | notReady | failed => exact .kept (by rw [hhalf]; rfl) rfl
  | refused _ _ _ _ hsend => cases hsend
  | nothing | written => exact absurd rfl hanswer

theorem halfPolled_pollReady (hhalf : world.half = .write half)
    {actorGone : Bool} {cx : Waker}
    (h : MuxStreamWrite.PolledReady half world.info actorGone cx sink.answers
      result) : HalfPolled world (.ofWrite result) := by
  cases h with
  | closed | parked | nothing | lockTaken =>
      exact .kept (by rw [hhalf]; rfl) rfl
  | kept _ _ _ _ _ hwritten hanswer =>
      exact halfPolled_of_lockedWritten hhalf hwritten hanswer
  | written chunk _ _ hchunk =>
      exact .handed chunk (by rw [hhalf]; exact hchunk) rfl rfl

theorem halfPolled_pollFlush (hhalf : world.half = .write half)
    (h : MuxStreamWrite.PolledFlush half world.info sink.answers result) :
    HalfPolled world (.ofWrite result) := by
  cases h with
  | lockTaken | nothing => exact .kept (by rw [hhalf]; rfl) rfl
  | kept _ _ _ hwritten hanswer =>
      exact halfPolled_of_lockedWritten hhalf hwritten hanswer
  | written chunk hchunk =>
      exact .handed chunk (by rw [hhalf]; exact hchunk) rfl rfl

/-- A half that is told to go on has nothing left. -/
theorem chunk_of_pollReady_ok {info : StreamInfo} {actorGone : Bool}
    {cx : Waker} {sink : SinkAnswers}
    (h : MuxStreamWrite.PolledReady half info actorGone cx sink result)
    (hok : result.answer = .ready (.ok ())) : result.write.chunk = none := by
  cases h with
  | closed | parked | lockTaken => cases hok
  | nothing _ _ hchunk => exact hchunk
  | kept _ _ _ _ _ _ hanswer => exact absurd hok hanswer
  | written => rfl

theorem chunk_of_pollFlush_ok {info : StreamInfo} {sink : SinkAnswers}
    (h : MuxStreamWrite.PolledFlush half info sink result)
    (hok : result.answer = .ready (.ok ())) : result.write.chunk = none := by
  cases h with
  | lockTaken => cases hok
  | kept _ _ _ _ hanswer => exact absurd hok hanswer
  | nothing hchunk => exact hchunk
  | written => rfl

/-- What a poll that hands nothing over leaves. -/
theorem halfPolled_idle (world : WriterWorld) :
    HalfPolled world ⟨world.half, world.info, []⟩ := .kept rfl rfl

theorem halfPolled_pollWrite {half : MuxStreamAsyncWrite}
    (hhalf : world.half = .asyncWrite half) (buf : Bytes) (sink : SinkAnswers) :
    HalfPolled world (.ofAsync (half.pollWrite world.info buf sink)) ∧
      (half.pollWrite world.info buf sink).info = world.info := by
  have hnone : world.half.chunk = none := by
    rw [hhalf]
    rfl
  have hkept : ∀ (locked : Bool) (answer : Poll (Except WispError Nat)),
      HalfPolled world (.ofAsync ⟨⟨locked⟩, world.info, answer, []⟩) :=
    fun _ _ => .kept hnone.symm rfl
  unfold MuxStreamAsyncWrite.pollWrite
  split
  · exact ⟨hkept _ _, rfl⟩
  · split
    · exact ⟨hkept _ _, rfl⟩
    · exact ⟨hkept _ _, rfl⟩
    · split
      · exact ⟨hkept _ _, rfl⟩
      · exact ⟨.wrote _ (by rw [hhalf]; rfl) rfl rfl, rfl⟩

/-- A byte writer that flushes hands nothing over. -/
theorem halfPolled_asyncFlush {half : MuxStreamAsyncWrite}
    (hhalf : world.half = .asyncWrite half) (sink : SinkAnswers) :
    HalfPolled world (.ofAsync (half.pollFlush world.info sink)) ∧
      (half.pollFlush world.info sink).info = world.info := by
  have hkept : ∀ (locked : Bool) (answer : Poll (Except WispError Unit)),
      HalfPolled world (.ofAsync ⟨⟨locked⟩, world.info, answer, []⟩) := by
    intro locked answer
    exact .kept (by rw [hhalf]; rfl) rfl
  unfold MuxStreamAsyncWrite.pollFlush
  split
  · exact ⟨hkept _ _, rfl⟩
  · split
    · exact ⟨hkept _ _, rfl⟩
    · exact ⟨hkept _ _, rfl⟩
    · exact ⟨hkept _ _, rfl⟩

/-- The request of a `poll_close`, if it makes one, is made once the flush is
through. -/
structure RequestsAfter (half : Closer) (event : Option WsEvent) : Prop where
  closes : Closes event.toList
  flushed : event.isSome = true → half.chunk = none

theorem requestsAfter_none (half : Closer) : RequestsAfter half none := by
  refine ⟨?_, ?_⟩
  · intro event hevent
    cases hevent
  · intro hsome
    cases hsome

theorem closes_requestClose (actor : ActorAnswers) (id : UInt32)
    (channel : Nat) : Closes (actor.requestClose id channel).event.toList := by
  intro event hevent
  unfold ActorAnswers.requestClose at hevent
  split at hevent
  · cases hevent
  · cases hevent
  · split at hevent
    · cases hevent
    · exact ⟨_, _, _, List.mem_singleton.mp hevent⟩

theorem event_pollReply (actor : ActorAnswers) :
    actor.pollReply.event = none := by
  unfold ActorAnswers.pollReply
  split
  · rfl
  · rfl
  · rfl

theorem halfPolled_pollClose (hhalf : world.half = .write half)
    (oneshot : Bool) (actor : ActorAnswers) (channel : Nat) :
    let result := half.pollClose oneshot world.info sink.answers actor channel
    HalfPolled world (.ofWrite result.poll) ∧
      result.poll.info.id = world.info.id ∧
      RequestsAfter (.write result.poll.write) result.event := by
  have hflush := half.polledFlush world.info sink.answers
  have hpolled := halfPolled_pollFlush hhalf hflush
  have hid := hflush.sameInfo.id
  have hchunk := chunk_of_pollFlush_ok hflush
  unfold MuxStreamWrite.pollClose
  split
  · dsimp only
    rw [event_pollReply]
    have hidle : HalfPoll.ofWrite ⟨half, world.info,
        actor.pollReply.answer, []⟩ = ⟨world.half, world.info, []⟩ := by
      rw [hhalf]
      rfl
    rw [hidle]
    exact ⟨halfPolled_idle world, rfl, requestsAfter_none _⟩
  · dsimp only
    split
    · next hok =>
        refine ⟨hpolled, hid, closes_requestClose actor _ channel, ?_⟩
        intro _
        exact hchunk hok
    · exact ⟨hpolled, hid, requestsAfter_none _⟩

theorem halfPolled_asyncClose {half : MuxStreamAsyncWrite}
    (hhalf : world.half = .asyncWrite half) (sink : SinkAnswers)
    (oneshot : Bool) (actor : ActorAnswers) (channel : Nat) :
    let result := half.pollClose oneshot world.info sink actor channel
    HalfPolled world (.ofAsync result.poll) ∧
      result.poll.info.id = world.info.id ∧
      RequestsAfter (.asyncWrite result.poll.write) result.event := by
  obtain ⟨hpolled, hinfo⟩ := halfPolled_asyncFlush hhalf sink
  unfold MuxStreamAsyncWrite.pollClose
  split
  · dsimp only
    rw [event_pollReply]
    exact ⟨.kept (by rw [hhalf]; rfl) rfl, rfl, requestsAfter_none _⟩
  · dsimp only
    split
    · refine ⟨hpolled, congrArg StreamInfo.id hinfo,
        closes_requestClose actor _ channel, ?_⟩
      intro _
      rfl
    · exact ⟨hpolled, congrArg StreamInfo.id hinfo, requestsAfter_none _⟩

end Polls

/-- What a poll of the half does to the world. -/
structure Polled (world next : WriterWorld) : Prop where
  polled : ∃ result, HalfPolled world result ∧ next.half = result.half ∧
    next.handed = world.handed ++ result.sent
  isAsync : next.half.isAsync = world.half.isAsync
  id : next.info.id = world.info.id
  accepted : next.accepted = world.accepted
  closed : next.closed = world.closed
  allowed : next.allowed = true →
    world.allowed = true ∨ next.half.chunk = none
  closes : Closes (world.inbox ++ world.stored.toList) →
    Closes (next.inbox ++ next.stored.toList)
  /-- Nothing new has come into the channel, or a close once the half had
  nothing left. -/
  entered : next.inbox = world.inbox ∧ next.requested = world.requested ∨
    next.requested = true ∧ next.inbox ≠ [] ∧ next.half.chunk = none

variable {world next : WriterWorld} {action : WriterAction}

theorem polled_afterPoll {result : HalfPoll} (hpolled : HalfPolled world result)
    (hkind : result.half.isAsync = world.half.isAsync)
    (hid : result.info.id = world.info.id) {allowed : Bool}
    (hallowed : allowed = true →
      world.allowed = true ∨ result.half.chunk = none) :
    Polled world { world.afterPoll result with allowed } where
  polled := ⟨result, hpolled, rfl, rfl⟩
  isAsync := hkind
  id := hid
  accepted := rfl
  closed := rfl
  allowed := hallowed
  closes h := h
  entered := .inl ⟨rfl, rfl⟩

theorem polled_afterClose {result : HalfPoll} {event : Option WsEvent}
    (hpolled : HalfPolled world result)
    (hkind : result.half.isAsync = world.half.isAsync)
    (hid : result.info.id = world.info.id)
    (hevent : RequestsAfter result.half event) (oneshot : Bool) :
    Polled world (world.afterClose result oneshot event) where
  polled := ⟨result, hpolled, rfl, rfl⟩
  isAsync := hkind
  id := hid
  accepted := rfl
  closed := rfl
  allowed := .inl
  closes h := by
    cases event with
    | none => simpa [afterClose] using h
    | some event =>
        intro other hother
        change other ∈ world.inbox ++ world.stored.toList ++ [event] at hother
        rcases List.mem_append.mp hother with hother | hother
        · exact h other hother
        · exact hevent.closes other hother
  entered := by
    cases event with
    | none => exact .inl ⟨by simp [afterClose], by simp [afterClose]⟩
    | some event =>
        cases hstored : world.stored with
        | none =>
            exact .inl ⟨by simp [afterClose, hstored],
              by simp [afterClose, hstored]⟩
        | some stored =>
            exact .inr ⟨by simp [afterClose, hstored],
              by simp [afterClose, hstored], hevent.flushed rfl⟩

theorem Polled.chunk (h : Polled world next) (hnone : world.half.chunk = none) :
    next.half.chunk = none := by
  obtain ⟨result, hpolled, hhalf, -⟩ := h.polled
  rw [hhalf]
  cases hpolled with
  | kept hchunk => exact hchunk.trans hnone
  | handed _ _ hchunk => exact hchunk
  | wrote _ _ hchunk => exact hchunk

/-- Everything that a step can do. -/
inductive Stepped (world next : WriterWorld) : WriterAction → Prop where
  | polled (action : WriterAction) (hpasses : ¬ PassesOver world action)
      (h : Polled world next) : Stepped world next action
  | startSend (item : Bytes) (half : MuxStreamWrite)
      (hhalf : world.half = .write half) (hallowed : world.allowed = true)
      (hnext : next = { world with
        half := .write (half.startSend item)
        allowed := false
        accepted := world.accepted ++ [item] }) :
      Stepped world next (.startSend item)
  | intoAsync (half : MuxStreamWrite) (hhalf : world.half = .write half)
      (hnext : next = { world with
        half := .asyncWrite (.new half), allowed := false, oneshot := none }) :
      Stepped world next .intoAsync
  | close (reason : CloseReason)
      (hnext : next = { world with
        opened := world.opened + 1
        inbox := world.inbox ++ [.close world.info.id ⟨reason⟩ world.opened]
        requested := true }) :
      Stepped world next (.close reason)
  | takeClose (hnext : world.takeClose = some next) :
      Stepped world next .takeClose
  | share (info : StreamInfo) (hid : info.id = world.info.id)
      (hnext : next = { world with info }) :
      Stepped world next (.share info)

theorem stepped_of_step (hstep : world.step action = some next) :
    Stepped world next action := by
  cases action with
  | close reason =>
      cases hstep
      exact .close reason rfl
  | takeClose => exact .takeClose hstep
  | share info =>
      simp only [step, Option.ite_none_right_eq_some] at hstep
      exact .share info hstep.1 (Option.some.inj hstep.2).symm
  | pollReady actorGone cx sink =>
      cases hhalf : world.half with
      | asyncWrite half => simp [step, hhalf] at hstep
      | write half =>
          simp only [step, hhalf, Option.some.injEq] at hstep
          have hpoll := half.polledReady world.info actorGone cx sink.answers
          rw [← hstep]
          refine .polled _ id (polled_afterPoll
            (halfPolled_pollReady hhalf hpoll) (by rw [hhalf]; rfl)
            hpoll.sameInfo.id fun hallowed => ?_)
          rw [Bool.or_eq_true, MuxStreamWrite.isReadyOk_iff] at hallowed
          exact hallowed.imp_right (chunk_of_pollReady_ok hpoll)
  | startSend item =>
      cases hhalf : world.half with
      | asyncWrite half => simp [step, hhalf] at hstep
      | write half =>
          simp only [step, hhalf, Option.ite_none_right_eq_some] at hstep
          exact .startSend item half hhalf hstep.1
            (Option.some.inj hstep.2).symm
  | pollFlush sink =>
      cases hhalf : world.half with
      | asyncWrite half =>
          simp only [step, hhalf, Option.some.injEq] at hstep
          obtain ⟨hpolled, hinfo⟩ :=
            halfPolled_asyncFlush hhalf sink.answers
          rw [← hstep]
          exact .polled _ id (polled_afterPoll hpolled (by rw [hhalf]; rfl)
            (congrArg StreamInfo.id hinfo) .inl)
      | write half =>
          simp only [step, hhalf, Option.some.injEq] at hstep
          have hpoll := half.polledFlush world.info sink.answers
          rw [← hstep]
          exact .polled _ id (polled_afterPoll
            (halfPolled_pollFlush hhalf hpoll) (by rw [hhalf]; rfl)
            hpoll.sameInfo.id .inl)
  | pollClose sink ready =>
      cases hhalf : world.half with
      | asyncWrite half =>
          simp only [step, hhalf, Option.some.injEq] at hstep
          obtain ⟨hpolled, hid, hevent⟩ := halfPolled_asyncClose hhalf
            sink.answers world.oneshot.isSome (world.actor ready) world.opened
          rw [← hstep]
          exact .polled _ id (polled_afterClose hpolled (by rw [hhalf]; rfl) hid
            hevent _)
      | write half =>
          simp only [step, hhalf, Option.some.injEq] at hstep
          obtain ⟨hpolled, hid, hevent⟩ := @halfPolled_pollClose half world
            sink hhalf world.oneshot.isSome (world.actor ready) world.opened
          rw [← hstep]
          exact .polled _ id (polled_afterClose hpolled (by rw [hhalf]; rfl) hid
            hevent _)
  | intoAsync =>
      cases hhalf : world.half with
      | asyncWrite half => simp [step, hhalf] at hstep
      | write half =>
          simp only [step, hhalf, Option.some.injEq] at hstep
          exact .intoAsync half hhalf hstep.symm
  | pollWrite buf sink =>
      cases hhalf : world.half with
      | write half => simp [step, hhalf] at hstep
      | asyncWrite half =>
          simp only [step, hhalf, Option.some.injEq] at hstep
          obtain ⟨hpolled, hinfo⟩ :=
            halfPolled_pollWrite hhalf buf sink.answers
          rw [← hstep]
          exact .polled _ id (polled_afterPoll hpolled (by rw [hhalf]; rfl)
            (congrArg StreamInfo.id hinfo) .inl)

/-- What every state has: only closes are asked for, and a request that has
come into the channel waits there until the stream is closed; and no payload
is handed over that was not accepted. -/
structure Requesting (world : WriterWorld) : Prop where
  closes : Closes (world.inbox ++ world.stored.toList)
  waits : world.requested = true → world.closed = false → world.inbox ≠ []
  requested : world.closed = true ∨ world.inbox ≠ [] → world.requested = true
  closed : world.closed = true → ∃ packet, .closed packet ∈ world.handed
  behind : ∀ observed ∈ world.handed, observed.isAccepted = true ∨
    world.half.isAsync = true ∨ world.requested = true
  chunk : world.allowed = true → world.half.chunk = none
  counted : world.handed.countP Handed.isAccepted + world.pending.length ≤
    world.accepted.length

theorem requesting_init (info : StreamInfo) : Requesting (init info) where
  closes := by
    intro event hevent
    cases hevent
  waits h := by cases h
  requested h := by
    rcases h with h | h
    · cases h
    · exact absurd rfl h
  closed h := by cases h
  behind := by
    intro observed hobserved
    cases hobserved
  chunk _ := rfl
  counted := Nat.le_refl 0

theorem Requesting.polled (h : Requesting world) (hpolled : Polled world next) :
    Requesting next where
  closes := hpolled.closes h.closes
  waits hrequested hclosed := by
    rcases hpolled.entered with ⟨hinbox, hsame⟩ | ⟨-, hinbox, -⟩
    · rw [hinbox]
      rw [hsame] at hrequested
      rw [hpolled.closed] at hclosed
      exact h.waits hrequested hclosed
    · exact hinbox
  requested hcause := by
    rcases hpolled.entered with ⟨hinbox, hsame⟩ | ⟨hrequested, -⟩
    · rw [hsame]
      rw [hinbox, hpolled.closed] at hcause
      exact h.requested hcause
    · exact hrequested
  closed hclosed := by
    obtain ⟨result, -, -, hhanded⟩ := hpolled.polled
    rw [hpolled.closed] at hclosed
    obtain ⟨packet, hpacket⟩ := h.closed hclosed
    exact ⟨packet, hhanded ▸ List.mem_append_left _ hpacket⟩
  behind := by
    obtain ⟨result, hways, -, hhanded⟩ := hpolled.polled
    have hrequested : world.requested = true → next.requested = true := by
      intro hbefore
      rcases hpolled.entered with ⟨-, hsame⟩ | ⟨hnow, -⟩
      · rw [hsame, hbefore]
      · exact hnow
    intro observed hobserved
    rw [hhanded] at hobserved
    rw [hpolled.isAsync]
    rcases List.mem_append.mp hobserved with hbefore | hsent
    · exact (h.behind observed hbefore).imp_right fun hcause =>
        hcause.imp_right hrequested
    · cases hways with
      | kept _ hnone =>
          rw [hnone] at hsent
          cases hsent
      | handed payload _ _ hone =>
          rw [hone] at hsent
          exact .inl (List.mem_singleton.mp hsent ▸ rfl)
      | wrote _ hasync => exact .inr (.inl hasync)
  chunk hallowed := by
    rcases hpolled.allowed hallowed with hbefore | hnone
    · exact hpolled.chunk (h.chunk hbefore)
    · exact hnone
  counted := by
    have hcounted := h.counted
    obtain ⟨result, hways, hhalf, hhanded⟩ := hpolled.polled
    rw [hhanded, hpolled.accepted, List.countP_append]
    simp only [pending, hhalf] at hcounted ⊢
    cases hways with
    | kept hchunk hsent => simpa [hchunk, hsent] using hcounted
    | handed payload hsome hchunk hsent =>
        simpa [hchunk, hsent, hsome, payloadPacket, Handed.isAccepted] using
          hcounted
    | wrote packet hasync hchunk hsent =>
        simpa [hchunk, hsent, Closer.chunk_of_isAsync hasync,
          Handed.isAccepted] using hcounted

/-- What the actor does with the first request. -/
theorem takeClose_cases (hnext : world.takeClose = some next) :
    next.half = world.half ∧ next.info = world.info ∧
      next.accepted = world.accepted ∧ next.allowed = world.allowed ∧
      next.stored = world.stored ∧ next.requested = world.requested ∧
      (∃ event, world.inbox = event :: next.inbox) ∧ next.closed = true ∧
      (world.closed = true ∧ next.handed = world.handed ∨
        world.closed = false ∧ ∃ packet,
          next.handed = world.handed ++ [.closed packet]) := by
  unfold takeClose at hnext
  split at hnext
  · next id close channel rest hinbox =>
      split at hnext
      · next hclosed =>
          cases hnext
          exact ⟨rfl, rfl, rfl, rfl, rfl, rfl, ⟨_, hinbox⟩, hclosed,
            .inl ⟨hclosed, rfl⟩⟩
      · next hclosed =>
          cases hnext
          exact ⟨rfl, rfl, rfl, rfl, rfl, rfl, ⟨_, hinbox⟩, rfl,
            .inr ⟨by simpa using hclosed, _, rfl⟩⟩
  · cases hnext

/-- Whatever the actor takes out of its channel was asked for before. -/
theorem Requesting.takeClose (h : Requesting world)
    (hnext : world.takeClose = some next) : Requesting next := by
  obtain ⟨hhalf, -, haccepted, hallowed, hstored, hrequested,
    ⟨event, hinbox⟩, hclosed, hhanded⟩ := takeClose_cases hnext
  have hcloses : Closes (next.inbox ++ next.stored.toList) := by
    intro other hother
    rw [hstored] at hother
    apply h.closes other
    rw [hinbox]
    exact List.mem_cons_of_mem _ hother
  have hasked : next.requested = true := by
    rw [hrequested]
    apply h.requested
    rw [hinbox]
    exact .inr (List.cons_ne_nil _ _)
  refine ⟨hcloses, fun _ hopen => ?_, fun _ => hasked, fun _ => ?_,
    fun _ _ => .inr (.inr hasked), ?_, ?_⟩
  · rw [hclosed] at hopen
    cases hopen
  · rcases hhanded with ⟨hbefore, hhanded⟩ | ⟨-, packet, hhanded⟩
    · rw [hhanded]
      exact h.closed hbefore
    · exact ⟨packet, hhanded ▸ by simp⟩
  · rw [hallowed, hhalf]
    exact h.chunk
  · have hcounted := h.counted
    have hpending : next.pending = world.pending := by
      rw [pending, hhalf]
      rfl
    rw [haccepted, hpending]
    rcases hhanded with ⟨-, hhanded⟩ | ⟨-, packet, hhanded⟩
    · rw [hhanded]
      exact hcounted
    · rw [hhanded]
      simpa [Handed.isAccepted] using hcounted

theorem requesting_step (h : Requesting world)
    (hstep : world.step action = some next) : Requesting next := by
  cases stepped_of_step hstep with
  | polled _ _ hpolled => exact h.polled hpolled
  | startSend item half hhalf hallowed hnext =>
      have hcounted := h.counted
      have hbehind := h.behind
      have hnone := h.chunk hallowed
      subst hnext
      refine ⟨h.closes, h.waits, h.requested, h.closed, ?_, (by rintro ⟨⟩), ?_⟩
      · rw [hhalf] at hbehind
        exact hbehind
      · simp only [pending, hnone, Option.toList_none, List.length_nil]
          at hcounted
        simpa [pending, Closer.chunk, MuxStreamWrite.startSend] using hcounted
  | intoAsync half hhalf hnext =>
      have hcounted := h.counted
      subst hnext
      refine ⟨h.closes, h.waits, h.requested, h.closed, ?_, fun _ => rfl, ?_⟩
      · exact fun _ _ => .inr (.inl rfl)
      · exact Nat.le_trans (Nat.le_add_right _ _) hcounted
  | close reason hnext =>
      subst hnext
      refine ⟨?_, fun _ _ => by simp, fun _ => rfl, h.closed,
        fun _ _ => .inr (.inr rfl), h.chunk, h.counted⟩
      intro event hevent
      simp only [List.mem_append, List.mem_singleton] at hevent
      rcases hevent with (hevent | hevent) | hevent
      · exact h.closes event (List.mem_append_left _ hevent)
      · exact ⟨_, _, _, hevent⟩
      · exact h.closes event (List.mem_append_right _ hevent)
  | takeClose hnext => exact h.takeClose hnext
  | share info hid hnext =>
      subst hnext
      exact ⟨h.closes, h.waits, h.requested, h.closed, h.behind, h.chunk,
        h.counted⟩

/-- Nothing is kept back any more once a close has been asked for. -/
structure Orderly (world : WriterWorld) : Prop extends Requesting world where
  settled : world.requested = true → world.half.chunk = none
  inOrder : InOrder world

theorem orderly_init (info : StreamInfo) : Orderly (init info) where
  toRequesting := requesting_init info
  settled h := by cases h
  inOrder := by
    refine ⟨[], [], rfl, rfl, ?_, fun _ => rfl⟩
    intro packet hpacket
    cases hpacket

theorem InOrder.polled (h : InOrder world) (hpolled : Polled world next) :
    InOrder next := by
  obtain ⟨sent, later, haccepted, hhanded, hlater, hlast⟩ := h
  obtain ⟨result, hways, hhalf, hnext⟩ := hpolled.polled
  have hpacket : next.payloadPacket = world.payloadPacket := by
    funext payload
    rw [payloadPacket, hpolled.id]
    rfl
  have hpending : next.pending = result.half.chunk.toList := by
    rw [pending, hhalf]
  rw [pending] at haccepted hlast
  unfold InOrder
  rw [hpolled.accepted, hpacket, hpending, hnext, hhanded, haccepted]
  cases hways with
  | kept hchunk hsent =>
      rw [hchunk, hsent]
      exact ⟨sent, later, rfl, List.append_nil _, hlater, hlast⟩
  | handed payload hsome hchunk hsent =>
      rw [hsome] at hlast ⊢
      rw [hchunk, hsent]
      obtain rfl := hlast (by simp)
      refine ⟨sent ++ [payload], [], by simp, by simp, hlater, fun _ => rfl⟩
  | wrote packet hasync hchunk hsent =>
      rw [Closer.chunk_of_isAsync hasync, hchunk, hsent]
      refine ⟨sent, later ++ [.written packet], rfl, List.append_assoc .., ?_,
        fun hsome => absurd rfl hsome⟩
      intro other hother
      rcases List.mem_append.mp hother with hother | hother
      · exact hlater other hother
      · simp at hother

/-- A payload that is accepted while nothing has been handed over behind the
earlier ones. -/
theorem InOrder.startSend {item : Bytes} {half : MuxStreamWrite}
    (h : InOrder world) (hnone : world.half.chunk = none)
    (hhanded : ∀ observed ∈ world.handed, observed.isAccepted = true) :
    InOrder { world with
      half := .write (half.startSend item)
      allowed := false
      accepted := world.accepted ++ [item] } := by
  obtain ⟨sent, later, haccepted, heq, hlater, -⟩ := h
  have hempty : later = [] := by
    apply List.eq_nil_iff_forall_not_mem.mpr
    intro observed hobserved
    have hkind := hhanded observed (heq ▸ List.mem_append_right _ hobserved)
    cases observed with
    | accepted packet => exact hlater packet hobserved
    | written | closed => cases hkind
  rw [pending, hnone] at haccepted
  refine ⟨sent, later, ?_, heq, hlater, fun _ => hempty⟩
  change world.accepted ++ [item] = sent ++ [item]
  rw [haccepted, Option.toList_none, List.append_nil]

/-- The close is handed over when nothing is kept back. -/
theorem InOrder.close {packet : Bytes} (h : InOrder world)
    (hnone : world.half.chunk = none) (hhalf : next.half = world.half)
    (hinfo : next.info = world.info)
    (haccepted : next.accepted = world.accepted)
    (hhanded : next.handed = world.handed ++ [.closed packet]) :
    InOrder next := by
  obtain ⟨sent, later, heq, hbefore, hlater, -⟩ := h
  have hpending : next.pending = [] := by
    rw [pending, hhalf, hnone]
    rfl
  have hpacket : next.payloadPacket = world.payloadPacket := by
    funext payload
    rw [payloadPacket, hinfo]
    rfl
  rw [pending, hnone] at heq
  refine ⟨sent, later ++ [.closed packet], ?_, ?_, ?_, ?_⟩
  · rw [haccepted, hpending]
    exact heq
  · rw [hhanded, hbefore, hpacket, List.append_assoc]
  · intro other hother
    rcases List.mem_append.mp hother with hother | hother
    · exact hlater other hother
    · simp at hother
  · intro hsome
    exact absurd hpending hsome

theorem orderly_step (h : Orderly world) (hpasses : ¬ PassesOver world action)
    (hstep : world.step action = some next) : Orderly next := by
  have hrequesting := requesting_step h.toRequesting hstep
  cases stepped_of_step hstep with
  | polled _ _ hpolled =>
      refine ⟨hrequesting, fun hrequested => ?_, h.inOrder.polled hpolled⟩
      rcases hpolled.entered with ⟨-, hsame⟩ | ⟨-, -, hnone⟩
      · exact hpolled.chunk (h.settled (hsame ▸ hrequested))
      · exact hnone
  | startSend item half hhalf hallowed hnext =>
      have hhanded : ∀ observed ∈ world.handed,
          observed.isAccepted = true := by
        intro observed hobserved
        rcases h.behind observed hobserved with hkind | hasync | hrequested
        · exact hkind
        · rw [hhalf] at hasync
          cases hasync
        · exact absurd hrequested hpasses
      subst hnext
      refine ⟨hrequesting, fun hrequested => absurd hrequested hpasses, ?_⟩
      exact h.inOrder.startSend (h.chunk hallowed) hhanded
  | intoAsync half hhalf hnext =>
      have hnone : world.half.chunk = none := by
        simpa [PassesOver] using hpasses
      obtain ⟨sent, later, haccepted, hhanded, hlater, -⟩ := h.inOrder
      subst hnext
      rw [pending, hnone] at haccepted
      exact ⟨hrequesting, fun _ => rfl, sent, later, haccepted, hhanded, hlater,
        fun hsome => absurd rfl hsome⟩
  | close reason hnext =>
      have hnone : world.half.chunk = none := by
        simpa [PassesOver] using hpasses
      subst hnext
      exact ⟨hrequesting, fun _ => hnone, h.inOrder⟩
  | takeClose hnext =>
      obtain ⟨hhalf, hinfo, haccepted, -, -, hrequested, ⟨event, hinbox⟩, -,
        hhanded⟩ := takeClose_cases hnext
      have hnone : world.half.chunk = none := by
        apply h.settled
        apply h.requested
        rw [hinbox]
        exact .inr (List.cons_ne_nil _ _)
      refine ⟨hrequesting, fun _ => hhalf ▸ hnone, ?_⟩
      rcases hhanded with ⟨-, hsame⟩ | ⟨-, packet, hclose⟩
      · have hinOrder := h.inOrder
        unfold InOrder pending payloadPacket at hinOrder ⊢
        rwa [hhalf, hinfo, haccepted, hsame]
      · exact h.inOrder.close hnone hhalf hinfo haccepted hclose
  | share info hid hnext =>
      subst hnext
      refine ⟨hrequesting, h.settled, ?_⟩
      have hinOrder := h.inOrder
      unfold InOrder pending payloadPacket at hinOrder ⊢
      rwa [hid]

/-- A run without such an operation hands over everything in order. -/
theorem inOrder_of_run {info : StreamInfo} {actions : List WriterAction}
    (hpasses : machine.Meets (fun world action => ¬ PassesOver world action)
      (init info) actions)
    (hrun : machine.run (init info) actions = some world) : InOrder world := by
  have horderly : Orderly world := machine.run_invariant_of_meets
    (fun _ _ _ => orderly_step) (orderly_init info) hpasses hrun
  exact horderly.inOrder

/-- A payload that is kept back comes after the close. -/
theorem not_inOrder_of_closed {packet : Bytes}
    (hclosed : .closed packet ∈ world.handed)
    (hsome : world.half.chunk.isSome = true) : ¬ InOrder world := by
  rintro ⟨sent, later, -, hhanded, -, hlast⟩
  have hpending : world.pending ≠ [] := by
    obtain ⟨payload, hpayload⟩ := Option.isSome_iff_exists.mp hsome
    rw [pending, hpayload]
    exact List.cons_ne_nil _ _
  rw [hhanded, hlast hpending] at hclosed
  simp [payloadPacket] at hclosed

/-- A payload that is neither kept back nor handed over is lost. -/
theorem not_inOrder_of_lost
    (hlost : world.handed.countP Handed.isAccepted + world.pending.length <
      world.accepted.length) : ¬ InOrder world := by
  rintro ⟨sent, later, haccepted, hhanded, hlater, -⟩
  have hnone : later.countP Handed.isAccepted = 0 := by
    apply List.countP_eq_zero.mpr
    intro observed hobserved
    cases observed with
    | accepted packet => exact absurd hobserved (hlater packet)
    | written | closed => simp [Handed.isAccepted]
  have hsent : (sent.map world.payloadPacket).countP Handed.isAccepted =
      sent.length := by
    rw [List.countP_map]
    exact List.countP_eq_length.mpr fun _ _ => rfl
  rw [hhanded, haccepted, List.countP_append, hnone, hsent,
    List.length_append] at hlost
  omega

/-- The actor has a request of a stream that keeps a payload back. -/
theorem exists_not_inOrder (h : Requesting world)
    (hrequested : world.requested = true)
    (hsome : world.half.chunk.isSome = true) :
    ∃ last, machine.Reachable world last ∧ ¬ InOrder last := by
  cases hclosed : world.closed with
  | true =>
      obtain ⟨packet, hpacket⟩ := h.closed hclosed
      exact ⟨world, ⟨[], rfl⟩, not_inOrder_of_closed hpacket hsome⟩
  | false =>
      obtain ⟨event, rest, hinbox⟩ :=
        List.exists_cons_of_ne_nil (h.waits hrequested hclosed)
      obtain ⟨id, close, channel, rfl⟩ := h.closes event
        (List.mem_append_left _ (hinbox ▸ List.mem_cons_self))
      have htake : machine.step world .takeClose = some { world with
          inbox := rest
          replies := (channel, .ok ()) :: world.replies
          closed := true
          handed := world.handed ++
            [.closed (Packet.encode ⟨id, .close close⟩)] } := by
        simp [machine, step, takeClose, hinbox, hclosed]
      refine ⟨_, .of_step htake ⟨[], rfl⟩, ?_⟩
      exact not_inOrder_of_closed (List.mem_append_right _
        (List.mem_singleton_self _)) hsome

theorem exists_not_inOrder_of_passesOver (h : Requesting world)
    (hpasses : PassesOver world action)
    (hstep : world.step action = some next) :
    ∃ last, machine.Reachable next last ∧ ¬ InOrder last := by
  have hrequesting := requesting_step h hstep
  cases stepped_of_step hstep with
  | polled _ hnone => exact absurd hpasses hnone
  | startSend item half hhalf hallowed hnext =>
      apply exists_not_inOrder hrequesting
      · rw [hnext]
        exact hpasses
      · rw [hnext]
        rfl
  | intoAsync half hhalf hnext =>
      obtain ⟨payload, hpayload⟩ := Option.isSome_iff_exists.mp hpasses
      have hcounted := h.counted
      rw [pending, hpayload] at hcounted
      refine ⟨next, ⟨[], rfl⟩, not_inOrder_of_lost ?_⟩
      subst hnext
      exact hcounted
  | close reason hnext =>
      apply exists_not_inOrder hrequesting
      · rw [hnext]
      · rw [hnext]
        exact hpasses
  | takeClose | share => cases hpasses

/-- Over every run that passes over no payload, all payloads are handed over
in order; and an operation that passes over one can be followed by the loss of
a payload or by a close that comes before it. -/
theorem inOrder_only_without_passing_over (info : StreamInfo) :
    (∀ actions world, machine.run (init info) actions = some world →
      machine.Meets (fun world action => ¬ PassesOver world action)
        (init info) actions →
      InOrder world) ∧
    ∀ world action next, machine.Reachable (init info) world →
      PassesOver world action → world.step action = some next →
      ∃ last, machine.Reachable next last ∧ ¬ InOrder last := by
  constructor
  · intro actions world hrun hpasses
    exact inOrder_of_run hpasses hrun
  · intro world action next hreach hpasses hstep
    have hrequesting : Requesting world := hreach.invariant
      (fun _ _ _ => requesting_step) (requesting_init info)
    exact exists_not_inOrder_of_passesOver hrequesting hpasses hstep

/-- A payload is fed and not flushed before the conversion, or before the
stream is closed. -/
theorem not_inOrder_of_unflushed :
    (∃ world, machine.run (init (.new 1 .disabled 0))
        [.pollReady false 0 .prompt, .startSend [7], .intoAsync] =
          some world ∧
      ¬ InOrder world) ∧
    ∃ world, machine.run (init (.new 1 .disabled 0))
        [.pollReady false 0 .prompt, .startSend [7], .close .voluntary,
          .takeClose] = some world ∧
      ¬ InOrder world := by
  refine ⟨⟨_, rfl, not_inOrder_of_lost (by decide)⟩, ⟨_, rfl, ?_⟩⟩
  exact not_inOrder_of_closed List.mem_cons_self rfl

end WriterWorld

end Epoxy
