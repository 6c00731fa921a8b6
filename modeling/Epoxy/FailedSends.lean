/-
What a failing transport leaves behind in the middle of an operation.  The
actor registers a stream and takes the lock before it sends the connect
packet, and undoes neither; the reader takes a chunk out of its place before
it announces credit, and does not put it back.
-/
import Epoxy.WriteAfterClose

namespace Epoxy

open ActionMachine ByteCursor PollChannel

namespace MuxInner

variable (mux : MuxInner) (connect : ConnectPacket) (channel : Nat)
  (send : SendAnswer)

/-- There is an id left, so that the connect packet is sent at all. -/
def SendsConnect : Prop := mux.currentId.toNat + 1 < 2 ^ 32

/-- As it was before, but for the id that has been used up. -/
structure Clean (next : MuxInner) : Prop where
  actor : next.actor = mux.actor
  streams : next.streams = mux.streams
  unlocked : next.txLocked = false
  others : ∀ (number : Nat) stream, mux.heap[number]? = some stream →
    next.heap[number]? = some stream

/-- A creation whose connect packet cannot be sent leaves nothing behind. -/
def FailsCleanly : Prop :=
  mux.SendsConnect → ∀ error, send.result = .error error →
    mux.Clean (mux.handleCreateStream connect channel send).mux

variable {mux connect channel send}

/-- What a creation has done when its connect packet fails. -/
structure LeftBehind (mux : MuxInner) (channel : Nat) (error : WispError)
    (round : EventResult) : Prop where
  reply : round.replies = [(channel, .created (.error error))]
  entry : round.mux.streams.lookup (mux.currentId + 1) = some mux.heap.length
  locked : round.mux.txLocked = true
  abandoned : ∃ stream, round.mux.heap[mux.heap.length]? = some stream ∧
    stream.channel.receiver = false

theorem length_modify (mux : MuxInner) (id : UInt32) (f : Stream → Stream) :
    (mux.modify id f).heap.length = mux.heap.length := by
  unfold modify
  split
  · exact List.length_modify ..
  · rfl

theorem leftBehind (mux : MuxInner) (connect : ConnectPacket) (channel : Nat)
    (hsends : mux.SendsConnect) {error : WispError}
    (hfailed : send.result = .error error) :
    mux.LeftBehind channel error
      (mux.handleCreateStream connect channel send) := by
  have hlast : ∀ (heap : List Stream) (stream : Stream),
      heap.length = mux.heap.length →
      ((heap ++ [stream]).modify mux.heap.length fun stream =>
        { stream with
          channel := stream.channel.dropReceiver })[mux.heap.length]? =
        some { stream with channel := stream.channel.dropReceiver } := by
    intro heap stream hlength
    rw [List.getElem?_modify_eq, ← hlength, List.getElem?_concat_length]
    rfl
  unfold handleCreateStream
  simp only [createStream, SendsConnect] at hsends ⊢
  rw [if_pos hsends]
  simp only [hfailed]
  refine ⟨rfl, ?_, rfl, ⟨_, hlast _ _ (length_modify _ _ _), rfl⟩⟩
  exact AList.lookup_insert _

/-- Such a creation is never undone: it leaves nothing behind only where no
packet is sent, or none fails. -/
theorem failsCleanly_iff (mux : MuxInner) (connect : ConnectPacket)
    (channel : Nat) (send : SendAnswer) :
    mux.FailsCleanly connect channel send ↔
      ¬ mux.SendsConnect ∨ send.result = .ok () := by
  constructor
  · intro hclean
    by_cases hsends : mux.SendsConnect
    · right
      cases hresult : send.result with
      | ok => rfl
      | error error =>
          have hlocked :=
            (leftBehind mux connect channel hsends hresult).locked
          rw [(hclean hsends error hresult).unlocked] at hlocked
          cases hlocked
    · exact .inl hsends
  · rintro (hexhausted | hok) hsends error hfailed
    · exact absurd hsends hexhausted
    · rw [hok] at hfailed
      cases hfailed

/-- The first stream of a client whose transport is gone. -/
theorem not_failsCleanly_of_failed_send :
    ¬ (MuxInner.new .client [] 1).FailsCleanly ⟨.tcp, "example.com", 80⟩ 0
      ⟨false, .error .muxMessageFailedToSend, SendAnswer.taken_of_error⟩ := by
  intro hclean
  have hunlocked := (hclean (by unfold SendsConnect; decide) _ rfl).unlocked
  cases hunlocked

theorem txLocked_modify (mux : MuxInner) (id : UInt32) (f : Stream → Stream) :
    (mux.modify id f).txLocked = mux.txLocked := by
  unfold modify
  split
  · rfl
  · rfl

theorem txLocked_handlePacket (mux : MuxInner) (packet : Packet) :
    (mux.handlePacket packet).1.txLocked = mux.txLocked := by
  unfold handlePacket
  split
  · next connect =>
      dsimp only
      rw [← mux.txLocked_modify packet.streamId fun stream =>
        { stream with channel := stream.channel.dropSender }]
      unfold handleConnectPacket
      split
      · rfl
      · dsimp only
        split
        · rfl
        · rfl
  · exact txLocked_modify _ _ _
  · dsimp only
    unfold handleContinuePacket
    split
    · exact txLocked_modify _ _ _
    · rfl
  · dsimp only
    unfold handleClosePacket
    split
    · rfl
    · exact txLocked_modify _ _ _

end MuxInner

/-- The actor sends a packet of its own, or drops its handle on the sink. -/
def MuxAction.sends : MuxAction → Bool
  | .event (.wispMessage _) _ | .event (.endFut none) _ => false
  | .event _ _ | .finish => true
  | _ => false

namespace MuxWorld

variable {world next : MuxWorld}

theorem txLocked_update {α : Type} {stream : Nat} {f : Stream → Stream × α}
    {seen : α} (h : world.update stream f = some (next, seen)) :
    next.mux.txLocked = world.mux.txLocked := by
  simp only [update, Option.map_eq_some_iff, Prod.mk.injEq] at h
  obtain ⟨_, -, rfl, -⟩ := h
  rfl

theorem txLocked_of_step {action : MuxAction} {seen : List Observation}
    (hsilent : action.sends = false)
    (hstep : world.step action = some (next, seen)) :
    next.mux.txLocked = world.mux.txLocked := by
  cases action with
  | finish => cases hsilent
  | pollNext | pollReady | startSend | pollFlush | dropRead =>
      exact txLocked_update hstep
  | event event send =>
      obtain ⟨-, hmux, -, -⟩ := stepEvent_eq_some hstep
      rw [hmux]
      cases event with
      | close | createStream => cases hsilent
      | wispMessage packet => exact MuxInner.txLocked_handlePacket _ _
      | endFut reason =>
          cases reason with
          | none => rfl
          | some reason => cases hsilent

/-- Once it is kept, the lock is kept over any run in which the actor sends
nothing, whatever the handles of the other streams do. -/
theorem txLocked_of_run {actions : List MuxAction}
    {start last : MuxWorld × List Observation}
    (hsilent : ∀ action ∈ actions, action.sends = false)
    (hlocked : start.1.mux.txLocked = true)
    (hrun : machine.run start actions = some last) :
    last.1.mux.txLocked = true := by
  have hstep : ∀ (s : MuxWorld × List Observation) action t,
      s.1.mux.txLocked = true → action.sends = false →
      machine.step s action = some t → t.1.mux.txLocked = true := by
    intro s action t hs hnone hstep
    obtain ⟨seen, hstep, -⟩ := recording_step_eq_some hstep
    exact (txLocked_of_step hnone hstep).trans hs
  exact machine.run_invariant_of_meets hstep hlocked
    (machine.meets_of_forall fun _ action hmem => hsilent action hmem) hrun

end MuxWorld

/-- What `flow_add` is called with while a chunk is delivered, if the delivery
gets that far. -/
def MuxStreamRead.flowAdds (read : MuxStreamRead) (info : StreamInfo)
    (sink : SinkAnswers) : Option UInt32 :=
  if read.announces info = true ∧ sink.pollLock read.locked = .ready () ∧
      sink.ready = .ready (.ok ()) then some read.readCnt
  else none

/-- The reader as it is when a poll comes to deliver a chunk. -/
def Stream.delivering (stream : Stream) : Option MuxStreamRead :=
  if stream.channel.isDisconnected then none
  else
    match stream.read.chunk, stream.channel.queue with
    | some _, _ => some { stream.read with chunk := none }
    | none, [] => none
    | none, _ :: _ => some (stream.read.count stream.info)

def Stream.flowAdds (stream : Stream) (sink : SinkAnswers) : Option UInt32 :=
  stream.delivering.bind fun read => read.flowAdds stream.info sink

/-- A reader over a transport that may fail at any time.  `obtained` is what
its polls have returned, `credited` the sum of what `flow_add` was called
with. -/
structure ReaderWorld where
  stream : Stream
  obtained : List Bytes
  credited : Nat

inductive ReaderAction where
  | pollNext (sink : SinkAnswers)
  | receive (data : Bytes)
  | close (close : ClosePacket)

namespace ReaderWorld

def init (id bufferSize : UInt32) : ReaderWorld :=
  ⟨.new id .enabledSendMessages bufferSize, [], 0⟩

def step (world : ReaderWorld) : ReaderAction → Option ReaderWorld
  | .pollNext sink =>
      let (stream, answer, _) := world.stream.pollNext sink
      some ⟨stream, world.obtained ++ yielded answer,
        world.credited + ((world.stream.flowAdds sink).elim 0 UInt32.toNat)⟩
  | .receive data =>
      some { world with
        stream := ServerActor.handleDataPacket world.stream data }
  | .close close =>
      some { world with stream := world.stream.close close }

def machine : Machine ReaderWorld ReaderAction := ⟨step⟩

def saved (world : ReaderWorld) : List Bytes :=
  world.stream.read.chunk.toList

/-- Every payload that came out of the channel has been returned, in order, or
is still saved, and no more credit has been given than for these. -/
structure LosesNothing (world : ReaderWorld) : Prop where
  payloads : world.obtained ++ world.saved = world.stream.channel.taken
  credit : world.credited ≤ world.stream.channel.taken.length

/-- The poll comes to announce credit, and the transport fails. -/
def FailsToAnnounce (world : ReaderWorld) : ReaderAction → Prop
  | .pollNext sink =>
      ∃ read, world.stream.delivering = some read ∧
        read.announces world.stream.info = true ∧ sink.Fails read.locked
  | _ => False

section Polls

variable {read : MuxStreamRead} {channel : Channel Bytes} {info : StreamInfo}
  {chunk : Bytes} {sink : SinkAnswers} {result : ReadPoll}

/-- A delivery that does not fail returns the chunk or saves it, and gives
credit for what it has counted so far at most once. -/
theorem kept_of_delivered
    (h : MuxStreamRead.Delivered read channel info chunk sink result)
    (hchunk : read.chunk = none)
    (hfails : ¬ (read.announces info = true ∧ sink.Fails read.locked)) :
    yielded result.answer ++ result.read.chunk.toList = [chunk] ∧
      (read.flowAdds info sink).elim 0 UInt32.toNat +
        result.read.readCnt.toNat = read.readCnt.toNat := by
  unfold MuxStreamRead.flowAdds
  cases h with
  | settled hdue => simp [yielded, hchunk, hdue]
  | lockTaken hdue hlock => simp [yielded, hlock]
  | notReady hdue hlock hready => simp [yielded, hready]
  | failed error hdue hlock hready =>
      exact absurd ⟨hdue, hlock, .inl ⟨error, hready⟩⟩ hfails
  | refused error hdue hlock hready hsend =>
      exact absurd ⟨hdue, hlock, .inr ⟨hready, error, hsend⟩⟩ hfails
  | announced hdue hlock hready =>
      simp [yielded, hchunk, hdue, hlock, hready]

/-- A delivery that fails has lost the chunk. -/
theorem lost_of_delivered
    (h : MuxStreamRead.Delivered read channel info chunk sink result)
    (hchunk : read.chunk = none)
    (hfails : read.announces info = true ∧ sink.Fails read.locked) :
    yielded result.answer = [] ∧ result.read.chunk = none := by
  obtain ⟨hdue, hlock, hcause⟩ := hfails
  cases h with
  | failed | refused => exact ⟨rfl, hchunk⟩
  | settled hnot =>
      rw [hdue] at hnot
      cases hnot
  | lockTaken _ hwait =>
      rw [hlock] at hwait
      cases hwait
  | notReady _ _ hready =>
      rcases hcause with ⟨error, hfailed⟩ | ⟨hok, -⟩
      · rw [hready] at hfailed
        cases hfailed
      · rw [hready] at hok
        cases hok
  | announced _ _ hready hsend =>
      rcases hcause with ⟨error, hfailed⟩ | ⟨-, error, hrefused⟩
      · rw [hready] at hfailed
        cases hfailed
      · rw [hsend] at hrefused
        cases hrefused

end Polls

/-- What a poll of the reader comes to: there is nothing to deliver, or a chunk
is, which was saved or comes out of the channel. -/
inductive StreamPolled (stream : Stream) (sink : SinkAnswers)
    (result : ReadPoll) : Prop where
  | idle (hnone : stream.delivering = none) (hread : result.read = stream.read)
      (htaken : result.channel.taken = stream.channel.taken)
      (hanswer : yielded result.answer = [])
  | delivers (read : MuxStreamRead) (channel : Channel Bytes) (chunk : Bytes)
      (popped : List Bytes) (hsome : stream.delivering = some read)
      (hchunk : read.chunk = none)
      (hdelivered : MuxStreamRead.Delivered read channel stream.info chunk sink
        result)
      (hpopped : stream.read.chunk.toList ++ popped = [chunk])
      (htaken : result.channel.taken = stream.channel.taken ++ popped)
      (hcount : read.readCnt.toNat ≤
        stream.read.readCnt.toNat + popped.length)

theorem toNat_readCnt_count (read : MuxStreamRead) (info : StreamInfo) :
    (read.count info).readCnt.toNat ≤ read.readCnt.toNat + 1 := by
  unfold MuxStreamRead.count
  split
  · rw [UInt32.toNat_add]
    exact Nat.mod_le _ _
  · exact Nat.le_succ _

theorem streamPolled (stream : Stream) (sink : SinkAnswers) :
    StreamPolled stream sink
      (stream.read.pollNext stream.channel stream.info sink) := by
  have hpoll := stream.read.polledNext stream.channel stream.info sink
  generalize stream.read.pollNext stream.channel stream.info sink = result
    at hpoll ⊢
  cases hpoll with
  | disconnected hsender =>
      refine .idle ?_ rfl rfl rfl
      simp [Stream.delivering, Channel.isDisconnected, hsender]
  | empty hsender hchunk hqueue =>
      refine .idle ?_ rfl (Channel.taken_pollNext_of_empty hqueue).1 rfl
      simp [Stream.delivering, Channel.isDisconnected, hsender, hchunk, hqueue]
  | saved chunk _ hsender hchunk hdelivered =>
      refine .delivers _ _ chunk [] ?_ rfl hdelivered ?_ ?_ (Nat.le_refl _)
      · simp [Stream.delivering, Channel.isDisconnected, hsender, hchunk]
      · rw [hchunk]
        rfl
      · rw [hdelivered.channel, List.append_nil]
  | popped chunk rest _ hsender hchunk hqueue hdelivered =>
      refine .delivers _ _ chunk [chunk] ?_ ?_ hdelivered ?_ ?_
        (toNat_readCnt_count _ _)
      · simp [Stream.delivering, Channel.isDisconnected, hsender, hchunk,
          hqueue]
      · rw [MuxStreamRead.chunk_count, hchunk]
      · rw [hchunk]
        rfl
      · rw [hdelivered.channel]
        exact (Channel.taken_pollNext_of_queued hqueue).1

variable {world next : ReaderWorld} {action : ReaderAction}

/-- The payloads and the credit are accounted for, the credit that has not
been given yet included. -/
structure Accounted (world : ReaderWorld) : Prop where
  payloads : world.obtained ++ world.saved = world.stream.channel.taken
  credit : world.credited + world.stream.read.readCnt.toNat ≤
    world.stream.channel.taken.length

def Lost (world : ReaderWorld) : Prop :=
  world.obtained.length + world.saved.length <
    world.stream.channel.taken.length

theorem accounted_init (id bufferSize : UInt32) :
    Accounted (init id bufferSize) := ⟨rfl, Nat.le_refl 0⟩

/-- A poll that does not fail in the middle accounts for what it takes. -/
theorem Accounted.pollNext {sink : SinkAnswers} (h : Accounted world)
    (hfails : ¬ FailsToAnnounce world (.pollNext sink))
    (hstep : world.step (.pollNext sink) = some next) : Accounted next := by
  cases hstep
  have hpayloads := h.payloads
  have hcredit := h.credit
  unfold saved at hpayloads
  have hpolled := streamPolled world.stream sink
  cases hpolled with
  | idle hnone hread htaken hanswer =>
      constructor
      · simp only [saved, hread, htaken, hanswer, List.append_nil]
        exact hpayloads
      · simp only [Stream.flowAdds, hnone, hread, htaken]
        exact hcredit
  | delivers read channel chunk popped hsome hchunk hdelivered hpopped htaken
      hcount =>
      obtain ⟨hkept, hgiven⟩ := kept_of_delivered hdelivered hchunk
        fun hcause => hfails ⟨read, hsome, hcause⟩
      constructor
      · simp only [saved, htaken]
        rw [List.append_assoc, hkept, ← hpopped, ← List.append_assoc,
          hpayloads]
      · simp only [Stream.flowAdds, hsome, htaken, Option.bind_some,
          List.length_append]
        omega

/-- A poll that fails has taken a payload and not returned it. -/
theorem lost_of_failsToAnnounce (h : Accounted world)
    (hfails : FailsToAnnounce world action)
    (hstep : world.step action = some next) : Lost next := by
  cases action with
  | receive | close => cases hfails
  | pollNext sink =>
      cases hstep
      obtain ⟨failing, hfailing, hcause⟩ := hfails
      have hpayloads := congrArg List.length h.payloads
      rw [saved, List.length_append] at hpayloads
      have hpolled := streamPolled world.stream sink
      cases hpolled with
      | idle hnone =>
          rw [hfailing] at hnone
          cases hnone
      | delivers read channel chunk popped hsome hchunk hdelivered hpopped
          htaken =>
          rw [hfailing] at hsome
          cases hsome
          obtain ⟨hanswer, hnone⟩ := lost_of_delivered hdelivered hchunk hcause
          have hlength := congrArg List.length hpopped
          rw [List.length_append, List.length_singleton] at hlength
          simp only [Lost, saved, hanswer, hnone, htaken, List.append_nil,
            List.length_append, Option.toList_none, List.length_nil]
          omega

theorem sameReader_receive (stream : Stream) (data : Bytes) :
    SameReader stream (ServerActor.handleDataPacket stream data) :=
  sameReader_handleDataPacket (.server .unbounded) stream data

theorem accounted_step (h : Accounted world)
    (hfails : ¬ FailsToAnnounce world action)
    (hstep : world.step action = some next) : Accounted next := by
  cases action with
  | pollNext sink => exact h.pollNext hfails hstep
  | close close =>
      cases hstep
      exact ⟨h.payloads, h.credit⟩
  | receive data =>
      cases hstep
      obtain ⟨hread, htaken⟩ := sameReader_receive world.stream data
      have hpayloads := h.payloads
      have hcredit := h.credit
      unfold saved at hpayloads
      constructor
      · simpa only [saved, hread, htaken] using hpayloads
      · simpa only [hread, htaken] using hcredit

theorem lost_step (h : Lost world) (hstep : world.step action = some next) :
    Lost next := by
  unfold Lost saved at h ⊢
  cases action with
  | close close =>
      cases hstep
      exact h
  | receive data =>
      cases hstep
      obtain ⟨hread, htaken⟩ := sameReader_receive world.stream data
      simpa only [hread, htaken] using h
  | pollNext sink =>
      cases hstep
      have hpolled := streamPolled world.stream sink
      cases hpolled with
      | idle hnone hread htaken hanswer =>
          simpa only [Stream.pollNext, hread, htaken, hanswer, List.append_nil]
            using h
      | delivers read channel chunk popped hsome hchunk hdelivered hpopped
          htaken =>
          have hlength := congrArg List.length hpopped
          rw [List.length_append, List.length_singleton] at hlength
          have hatMost : (yielded (world.stream.read.pollNext
              world.stream.channel world.stream.info sink).answer).length +
              (world.stream.read.pollNext world.stream.channel
                world.stream.info sink).read.chunk.toList.length ≤ 1 := by
            by_cases hcause : read.announces world.stream.info = true ∧
                sink.Fails read.locked
            · obtain ⟨hanswer, hnone⟩ :=
                lost_of_delivered hdelivered hchunk hcause
              simp [hanswer, hnone]
            · have hkept := congrArg List.length
                (kept_of_delivered hdelivered hchunk hcause).1
              rw [List.length_append] at hkept
              exact Nat.le_of_eq hkept
          simp only [htaken, List.length_append]
          omega

/-- A run loses no payload and gives no credit twice exactly if the transport
does not fail in any of its polls that come to announce credit. -/
theorem losesNothing_iff (id bufferSize : UInt32) {actions : List ReaderAction}
    (hrun : machine.run (init id bufferSize) actions = some world) :
    LosesNothing world ↔
      machine.Meets (fun world action => ¬ FailsToAnnounce world action)
        (init id bufferSize) actions := by
  refine machine.holds_iff_meets (fun _ _ _ => accounted_step)
    (fun s a t hs hfails hstep => ?_) (fun _ _ _ => lost_step)
    (fun s hs => ?_) (fun s hs hkept => ?_) (accounted_init id bufferSize)
    hrun
  · exact lost_of_failsToAnnounce hs (by simpa using hfails) hstep
  · exact ⟨hs.payloads, Nat.le_trans (Nat.le_add_right _ _) hs.credit⟩
  · have hlength := congrArg List.length hkept.payloads
    rw [List.length_append] at hlength
    exact absurd hlength (Nat.ne_of_lt hs)

theorem losesNothing_of_prompt_sink :
    ∃ world, machine.run (init 1 1) [.receive [7], .pollNext .prompt] =
        some world ∧
      (LosesNothing world ↔
        machine.Meets (fun world action => ¬ FailsToAnnounce world action)
          (init 1 1) [.receive [7], .pollNext .prompt]) := by
  exact ⟨_, rfl, losesNothing_iff 1 1 rfl⟩

/-- A sink that is ready and takes nothing. -/
def refusing : SinkAnswers :=
  { SinkAnswers.prompt with send := .error .muxMessageFailedToSend }

/-- The transport fails once, before or after it says that it is ready, and
the chunk is gone; in the second case the payload is credited once more with
the next one. -/
theorem not_losesNothing_of_failed_announcement :
    (∃ world, machine.run (init 1 1)
        [.receive [7],
          .pollNext { SinkAnswers.prompt with
            ready := .ready (.error .muxMessageFailedToSend) }] = some world ∧
      ¬ LosesNothing world) ∧
    ∃ world, machine.run (init 1 1)
        [.receive [7], .pollNext refusing, .receive [8],
          .pollNext .prompt] = some world ∧
      world.obtained = [[8]] ∧ world.credited = 3 ∧
      world.stream.channel.taken = [[7], [8]] ∧ ¬ LosesNothing world := by
  refine ⟨⟨_, rfl, ?_⟩, ⟨_, rfl, rfl, rfl, rfl, ?_⟩⟩
  · rintro ⟨hpayloads, -⟩
    exact absurd hpayloads (by decide)
  · rintro ⟨hpayloads, -⟩
    exact absurd hpayloads (by decide)

end ReaderWorld

end Epoxy
