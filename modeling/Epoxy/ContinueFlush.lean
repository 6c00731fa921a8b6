/-
The credit of a stream over a transport that buffers.  `poll_next` hands the
credit packet to the sink and leaves it there; nobody flushes on behalf of a
server that only reads, and whether the packet leaves is up to the transport.
-/
import Epoxy.CreditFlow
import Epoxy.MuxDirectory

namespace Epoxy

open ActionMachine ByteCursor PollChannel

namespace MuxStreamRead

variable {read : MuxStreamRead} {channel : Channel Bytes} {info : StreamInfo}
  {sink : SinkAnswers} {result : ReadPoll}

/-- A poll that leaves the reader waiting for the channel hands nothing to the
sink. -/
theorem PolledNext.parks (h : PolledNext read channel info sink result)
    (hsender : channel.sender = true)
    (hidle : channel.waiting = true → read.chunk = none)
    (hwaiting : result.channel.waiting = true) :
    read.chunk = none ∧ channel.queue = [] ∧ result.read = read ∧
      result.sent = [] := by
  cases h with
  | disconnected hgone =>
      rw [hsender] at hgone
      cases hgone
  | empty _ hchunk hqueue => exact ⟨hchunk, hqueue, rfl, rfl⟩
  | saved chunk _ _ hchunk hdelivered =>
      rw [hdelivered.channel] at hwaiting
      rw [hidle hwaiting] at hchunk
      cases hchunk
  | popped chunk rest _ _ _ hqueue hdelivered =>
      rw [hdelivered.channel, Channel.waiting_pollNext_of_queued hqueue]
        at hwaiting
      cases hwaiting

theorem PolledNext.sender (h : PolledNext read channel info sink result) :
    result.channel.sender = channel.sender := by
  cases h with
  | disconnected => rfl
  | empty => exact Channel.sender_pollNext channel
  | saved _ _ _ _ hdelivered => rw [hdelivered.channel]
  | popped _ _ _ _ _ _ hdelivered =>
      rw [hdelivered.channel]
      exact Channel.sender_pollNext channel

end MuxStreamRead

namespace MuxStreamWrite

variable {write : MuxStreamWrite} {info : StreamInfo} {cx : Waker}
  {sink : SinkAnswers} {result : WritePoll}

/-- A sink that is ready and accepts everything. -/
theorem LockedWritten.answer_of_prompt
    (h : LockedWritten write info .prompt result) :
    result.answer = .ready (.ok ()) := by
  cases h with
  | notReady hready => cases hready
  | failed _ hready => cases hready
  | refused _ _ _ _ hsend => cases hsend
  | nothing => rfl
  | written => rfl

theorem pollLock_prompt (locked : Bool) :
    SinkAnswers.prompt.pollLock locked = .ready () := by
  cases locked with
  | true => rfl
  | false => rfl

theorem PolledReady.of_prompt
    (h : PolledReady write info false cx .prompt result)
    (hcredit : info.flowEmpty = false) :
    result.answer = .ready (.ok ()) ∧
      (result.info = info ∨ result.info = info.paid) := by
  cases h with
  | closed hgone => cases hgone
  | parked _ hempty =>
      rw [hcredit] at hempty
      cases hempty.2
  | nothing => exact ⟨rfl, .inl rfl⟩
  | lockTaken _ _ _ hlock =>
      rw [pollLock_prompt] at hlock
      cases hlock
  | kept _ _ _ _ _ hwritten hanswer =>
      exact absurd hwritten.answer_of_prompt hanswer
  | written => exact ⟨rfl, .inr rfl⟩

/-- A flush that is not held up pays for the payload that is there. -/
theorem PolledFlush.info_of_prompt {chunk : Bytes}
    (h : PolledFlush write info .prompt result)
    (hchunk : write.chunk = some chunk) : result.info = info.paid := by
  cases h with
  | lockTaken hlock =>
      rw [pollLock_prompt] at hlock
      cases hlock
  | kept _ _ _ hwritten hanswer =>
      exact absurd hwritten.answer_of_prompt hanswer
  | nothing hnone =>
      rw [hchunk] at hnone
      cases hnone
  | written => rfl

end MuxStreamWrite

/-- A flow-controlled stream whose server writes to a transport that may keep
what its sink accepts until it is flushed. -/
structure BufferedFlow where
  flow : FlowWorld
  buffered : List Bytes

inductive BufferedAction where
  | pollReady (cx : Waker) (sink : SinkAnswers)
  | startSend (item : Bytes)
  | pollFlush (sink : SinkAnswers)
  | deliverData
  | pollNext (sink : SinkAnswers)
  | deliverContinue
  /-- The transport sends some of what it has kept. -/
  | passOn (count : Nat)

namespace BufferedFlow

def init (id bufferSize : UInt32) : BufferedFlow :=
  ⟨.init id bufferSize, []⟩

/-- The reader's packets go to the sink's buffer. -/
def afterRead (world : BufferedFlow)
    (result : Stream × Poll (Option (Except WispError Bytes)) × List Bytes) :
    BufferedFlow where
  flow :=
    { world.flow.afterRead result with toClient := world.flow.toClient }
  buffered := world.buffered ++ result.2.2

/-- The server's application does nothing but read. -/
def step (world : BufferedFlow) : BufferedAction → Option BufferedFlow
  | .pollReady cx sink =>
      some { world with flow := world.flow.pollReady cx sink }
  | .startSend item =>
      (world.flow.startSend item).map fun flow => { world with flow }
  | .pollFlush sink =>
      some { world with flow := world.flow.pollFlush sink }
  | .deliverData =>
      (world.flow.step .deliverData).map fun flow => { world with flow }
  | .pollNext sink =>
      some (world.afterRead (world.flow.server.pollNext sink))
  | .deliverContinue =>
      (world.flow.step .deliverContinue).map fun flow => { world with flow }
  | .passOn count =>
      some {
        flow := { world.flow with
          toClient := world.flow.toClient ++ world.buffered.take count }
        buffered := world.buffered.drop count }

def machine : Machine BufferedFlow BufferedAction := ⟨step⟩

/-- The client may not send, the reader waits for data, and the credit that
would end this is in the sink's buffer. -/
structure Stuck (world : BufferedFlow) : Prop where
  exhausted : world.flow.client.info.flowEmpty = true
  queue : world.flow.server.channel.queue = []
  parked : world.flow.server.channel.waiting = true
  unflushed : world.buffered ≠ []

/-- The reader comes to wait for data with its credit still in the buffer. -/
def ParksUnflushed (world : BufferedFlow) : BufferedAction → Prop
  | .pollNext _ =>
      world.flow.server.read.chunk = none ∧
        world.flow.server.channel.queue = [] ∧ world.buffered ≠ []
  | _ => False

/-- What stays the same in every run. -/
structure IsOpen (world : BufferedFlow) : Prop where
  flowStatus : world.flow.client.info.flowStatus = .enabledTrackAmount
  sender : world.flow.server.channel.sender = true
  chunk : world.flow.server.channel.waiting = true →
    world.flow.server.read.chunk = none

theorem isOpen_init (id bufferSize : UInt32) : IsOpen (init id bufferSize) :=
  ⟨rfl, rfl, fun _ => rfl⟩

variable {world next : BufferedFlow} {action : BufferedAction}

theorem channel_handleDataPacket (stream : Stream) (data : Bytes) :
    (ServerActor.handleDataPacket stream data).channel =
      (stream.channel.trySend data).1 := by
  unfold ServerActor.handleDataPacket
  dsimp only
  split
  · rfl
  · rfl

/-- What a step that is no `poll_next` may do to the server and its sink. -/
structure LeavesReader (world next : BufferedFlow) : Prop where
  server : next.flow.server = world.flow.server ∨
    ∃ data, next.flow.server =
      ServerActor.handleDataPacket world.flow.server data
  buffered : next.buffered <:+ world.buffered

/-- Only `poll_next` adds to the buffer or makes the reader wait. -/
theorem cases_of_step (hstep : world.step action = some next) :
    next.flow.client.info.flowStatus = world.flow.client.info.flowStatus ∧
      ((∃ sink, action = .pollNext sink ∧
        next = world.afterRead (world.flow.server.pollNext sink)) ∨
      LeavesReader world next) := by
  cases action with
  | pollNext sink =>
      cases hstep
      exact ⟨rfl, .inl ⟨sink, rfl, rfl⟩⟩
  | pollReady cx sink =>
      cases hstep
      exact ⟨(MuxStreamWrite.polledReady _ _ _ _ _).sameInfo.flowStatus,
        .inr ⟨.inl rfl, List.suffix_rfl⟩⟩
  | pollFlush sink =>
      cases hstep
      exact ⟨(MuxStreamWrite.polledFlush _ _ _).sameInfo.flowStatus,
        .inr ⟨.inl rfl, List.suffix_rfl⟩⟩
  | passOn count =>
      cases hstep
      exact ⟨rfl, .inr ⟨.inl rfl, List.drop_suffix count world.buffered⟩⟩
  | startSend item =>
      simp only [step, FlowWorld.startSend, Option.map_eq_some_iff] at hstep
      obtain ⟨flow, hflow, rfl⟩ := hstep
      split at hflow
      · cases hflow
        exact ⟨rfl, .inr ⟨.inl rfl, List.suffix_rfl⟩⟩
      · cases hflow
  | deliverData =>
      simp only [step, FlowWorld.step, Option.map_eq_some_iff] at hstep
      obtain ⟨flow, hflow, rfl⟩ := hstep
      split at hflow
      · cases hflow
      · split at hflow
        · cases hflow
          exact ⟨rfl, .inr ⟨.inr ⟨_, rfl⟩, List.suffix_rfl⟩⟩
        · cases hflow
  | deliverContinue =>
      simp only [step, FlowWorld.step, Option.map_eq_some_iff] at hstep
      obtain ⟨flow, hflow, rfl⟩ := hstep
      split at hflow
      · cases hflow
      · split at hflow
        · cases hflow
          exact ⟨(SameStream.handleContinuePacket _ _).info.flowStatus,
            .inr ⟨.inl rfl, List.suffix_rfl⟩⟩
        · cases hflow

/-- A packet that arrives does not put the reader to sleep. -/
theorem LeavesReader.reader (h : LeavesReader world next) :
    next.flow.server.read = world.flow.server.read ∧
      next.flow.server.channel.sender = world.flow.server.channel.sender ∧
      (next.flow.server.channel.waiting = true →
        world.flow.server.channel.waiting = true) := by
  rcases h.server with hserver | ⟨data, hserver⟩
  · rw [hserver]
    exact ⟨rfl, rfl, id⟩
  · rw [hserver, channel_handleDataPacket, Channel.sender_trySend]
    refine ⟨?_, rfl, Channel.waiting_of_trySend⟩
    unfold ServerActor.handleDataPacket
    dsimp only
    split
    · rfl
    · rfl

theorem isOpen_step (h : IsOpen world)
    (hstep : world.step action = some next) : IsOpen next := by
  obtain ⟨hstatus, hmoved⟩ := cases_of_step hstep
  rcases hmoved with ⟨sink, -, rfl⟩ | hleaves
  · have hpoll := world.flow.server.read.polledNext
      world.flow.server.channel world.flow.server.info sink
    refine ⟨h.flowStatus, hpoll.sender.trans h.sender, fun hwaiting => ?_⟩
    obtain ⟨hchunk, -, hread, -⟩ := hpoll.parks h.sender h.chunk hwaiting
    exact (congrArg MuxStreamRead.chunk hread).trans hchunk
  · obtain ⟨hread, hsender, hwaiting⟩ := hleaves.reader
    refine ⟨hstatus.trans h.flowStatus, hsender.trans h.sender, fun h' => ?_⟩
    rw [hread]
    exact h.chunk (hwaiting h')

/-- A reader that waits has no credit left in the buffer. -/
structure Flushed (world : BufferedFlow) : Prop extends IsOpen world where
  buffered : world.flow.server.channel.waiting = true → world.buffered = []

theorem flushed_init (id bufferSize : UInt32) :
    Flushed (init id bufferSize) :=
  ⟨isOpen_init id bufferSize, fun _ => rfl⟩

theorem flushed_step (h : Flushed world)
    (hflushed : ¬ ParksUnflushed world action)
    (hstep : world.step action = some next) : Flushed next := by
  refine ⟨isOpen_step h.toIsOpen hstep, fun hwaiting => ?_⟩
  rcases (cases_of_step hstep).2 with ⟨sink, rfl, rfl⟩ | hleaves
  · have hpoll := world.flow.server.read.polledNext
      world.flow.server.channel world.flow.server.info sink
    obtain ⟨hchunk, hqueue, -, hsent⟩ :=
      hpoll.parks h.sender h.chunk hwaiting
    have hempty : world.buffered = [] := by
      by_contra hbuffered
      exact hflushed ⟨hchunk, hqueue, hbuffered⟩
    simp only [afterRead, Stream.pollNext, hempty, hsent, List.append_nil]
  · have hempty := h.buffered (hleaves.reader.2.2 hwaiting)
    have hsuffix := hleaves.buffered
    rw [hempty] at hsuffix
    exact List.suffix_nil.mp hsuffix

/-- A run in which the reader never waits for data with credit left in the
buffer never gets stuck. -/
theorem not_stuck_of_flushed {id bufferSize : UInt32}
    {actions : List BufferedAction}
    (hflushed : machine.Meets
      (fun world action => ¬ ParksUnflushed world action)
      (init id bufferSize) actions)
    (hrun : machine.run (init id bufferSize) actions = some world) :
    ¬ Stuck world := by
  have hinv : Flushed world := by
    apply machine.run_invariant_of_meets (fun _ _ _ => flushed_step)
      (flushed_init id bufferSize) hflushed hrun
  intro hstuck
  exact hstuck.unflushed (hinv.buffered hstuck.parked)

def credit (world : BufferedFlow) : Nat :=
  world.flow.client.info.flowControl.toNat

/-- The client has gone on by itself. -/
structure ClientRan (world next : BufferedFlow) : Prop where
  reachable : machine.Reachable world next
  flowStatus : next.flow.client.info.flowStatus =
    world.flow.client.info.flowStatus
  server : next.flow.server = world.flow.server
  buffered : next.buffered = world.buffered

theorem ClientRan.refl (world : BufferedFlow) : ClientRan world world :=
  ⟨⟨[], rfl⟩, rfl, rfl, rfl⟩

theorem ClientRan.trans {last : BufferedFlow} (h : ClientRan world next)
    (h' : ClientRan next last) : ClientRan world last := by
  obtain ⟨actions, hrun⟩ := h'.reachable
  exact ⟨h.reachable.run hrun, h'.flowStatus.trans h.flowStatus,
    h'.server.trans h.server, h'.buffered.trans h.buffered⟩

theorem toNat_flowControl_paid {info : StreamInfo}
    (hstatus : info.flowStatus = .enabledTrackAmount) :
    info.paid.flowControl.toNat = info.flowControl.toNat - 1 := by
  rw [StreamInfo.paid, if_pos hstatus]
  exact StreamInfo.toNat_flowControl_flowDec info

theorem exists_flushed {item : Bytes}
    (hchunk : world.flow.client.write.chunk = some item)
    (hstatus : world.flow.client.info.flowStatus = .enabledTrackAmount) :
    ∃ next, ClientRan world next ∧ next.credit = world.credit - 1 := by
  have hpoll := MuxStreamWrite.polledFlush world.flow.client.write
    world.flow.client.info .prompt
  refine ⟨{ world with flow := world.flow.pollFlush .prompt },
    ⟨⟨[.pollFlush .prompt], rfl⟩, hpoll.sameInfo.flowStatus, rfl, rfl⟩, ?_⟩
  rw [credit, FlowWorld.pollFlush, FlowWorld.afterFlush,
    FlowWorld.afterWrite, hpoll.info_of_prompt hchunk]
  exact toNat_flowControl_paid hstatus

/-- Write one more payload. -/
theorem exists_written (hphase : world.flow.phase = .ready)
    (hstatus : world.flow.client.info.flowStatus = .enabledTrackAmount) :
    ∃ next, ClientRan world next ∧ next.credit = world.credit - 1 := by
  obtain ⟨mid, hmid, hchunk, hcredit⟩ :
      ∃ mid, ClientRan world mid ∧
        mid.flow.client.write.chunk = some [] ∧
        mid.credit = world.credit := by
    refine ⟨{ world with
      flow := { world.flow with
        client := { world.flow.client with
          write := world.flow.client.write.startSend [] }
        phase := .flushing
        written := world.flow.written ++ [[]] } },
      ⟨⟨[.startSend []], ?_⟩, rfl, rfl, rfl⟩, rfl, rfl⟩
    simp [machine, step, FlowWorld.startSend, hphase]
  obtain ⟨last, hlast, hspent⟩ :=
    exists_flushed hchunk (hmid.flowStatus.trans hstatus)
  exact ⟨last, hmid.trans hlast, by rw [hspent, hcredit]⟩

theorem exists_ready
    (hstatus : world.flow.client.info.flowStatus = .enabledTrackAmount)
    (hcredit : 0 < world.credit) :
    ∃ next, ClientRan world next ∧ next.flow.phase = .ready ∧
      next.credit ≤ world.credit := by
  have hempty : world.flow.client.info.flowEmpty = false := by
    rw [Bool.eq_false_iff, ne_eq, StreamInfo.flowEmpty_iff]
    exact Nat.ne_of_gt hcredit
  have hpoll := MuxStreamWrite.polledReady world.flow.client.write
    world.flow.client.info false 0 .prompt
  obtain ⟨hanswer, hinfo⟩ := hpoll.of_prompt hempty
  refine ⟨{ world with flow := world.flow.pollReady 0 .prompt },
    ⟨⟨[.pollReady 0 .prompt], rfl⟩, hpoll.sameInfo.flowStatus, rfl, rfl⟩, ?_,
    ?_⟩
  · simp [FlowWorld.pollReady, FlowWorld.afterReady, hanswer]
  · rw [credit, FlowWorld.pollReady, FlowWorld.afterReady,
      FlowWorld.afterWrite]
    rcases hinfo with hinfo | hinfo
    · rw [hinfo]
      exact Nat.le_refl _
    · rw [hinfo, toNat_flowControl_paid hstatus]
      exact Nat.sub_le _ _

/-- The client can use up its credit whatever the server does. -/
theorem exists_exhausted
    (hstatus : world.flow.client.info.flowStatus = .enabledTrackAmount) :
    ∃ next, ClientRan world next ∧ next.credit = 0 := by
  induction hcredit : world.credit using Nat.strong_induction_on
    generalizing world with
  | h n ih =>
      cases n with
      | zero => exact ⟨world, .refl world, hcredit⟩
      | succ n =>
          obtain ⟨mid, hmid, hready, hle⟩ := exists_ready hstatus (by omega)
          have hstatus' := hmid.flowStatus.trans hstatus
          obtain ⟨last, hlast, hspent⟩ := exists_written hready hstatus'
          obtain ⟨next, hnext, hnone⟩ := ih last.credit (by omega)
            (hlast.flowStatus.trans hstatus') rfl
          exact ⟨next, hmid.trans (hlast.trans hnext), hnone⟩

theorem isOpen_of_reachable {id bufferSize : UInt32}
    (hreach : machine.Reachable (init id bufferSize) world) : IsOpen world :=
  hreach.invariant (fun _ _ _ => isOpen_step) (isOpen_init id bufferSize)

/-- The reader waits, and the credit stays in the buffer. -/
theorem parked_of_parksUnflushed (hopen : IsOpen world)
    (hparks : ParksUnflushed world action)
    (hstep : world.step action = some next) :
    next.flow.server.channel.queue = [] ∧
      next.flow.server.channel.waiting = true ∧ next.buffered ≠ [] := by
  cases action with
  | pollNext sink =>
      cases hstep
      obtain ⟨hchunk, hqueue, hbuffered⟩ := hparks
      have hpoll : world.flow.server.read.pollNext
          world.flow.server.channel world.flow.server.info sink = _ :=
        MuxStreamRead.pollNext_of_empty hopen.sender hchunk hqueue
      simp only [afterRead, FlowWorld.afterRead, Stream.pollNext, hpoll]
      exact ⟨(Channel.taken_pollNext_of_empty hqueue).2,
        Channel.waiting_pollNext_of_empty hqueue hopen.sender,
        by simpa using hbuffered⟩
  | pollReady | startSend | pollFlush | deliverData | deliverContinue | passOn =>
      cases hparks

theorem exists_stuck (hopen : IsOpen world)
    (hparks : ParksUnflushed world action)
    (hstep : world.step action = some next) :
    ∃ last, machine.Reachable next last ∧ Stuck last := by
  obtain ⟨hqueue, hparked, hbuffered⟩ :=
    parked_of_parksUnflushed hopen hparks hstep
  have hstatus := (isOpen_step hopen hstep).flowStatus
  obtain ⟨last, hran, hcredit⟩ := exists_exhausted hstatus
  refine ⟨last, hran.reachable, StreamInfo.flowEmpty_iff.mpr hcredit, ?_, ?_,
    ?_⟩
  · rw [hran.server]
    exact hqueue
  · rw [hran.server]
    exact hparked
  · rw [hran.buffered]
    exact hbuffered

/-- Over every run whose reader waits for data only once the transport has
sent its credit, the stream does not get stuck; and wherever it waits before,
a client that goes on sending gets it stuck. -/
theorem stuck_only_unflushed (id bufferSize : UInt32) :
    (∀ actions world,
      machine.run (init id bufferSize) actions = some world →
      machine.Meets (fun world action => ¬ ParksUnflushed world action)
        (init id bufferSize) actions →
      ¬ Stuck world) ∧
    ∀ world action next, machine.Reachable (init id bufferSize) world →
      ParksUnflushed world action → world.step action = some next →
      ∃ last, machine.Reachable next last ∧ Stuck last := by
  constructor
  · intro actions world hrun hflushed
    exact not_stuck_of_flushed hflushed hrun
  · intro world action next hreach hparks hstep
    exact exists_stuck (isOpen_of_reachable hreach) hparks hstep

/-- One payload through a buffer of one, and the reader polls again. -/
theorem stuck_of_one_payload :
    ∃ world, machine.run (init 1 1)
        [.pollReady 0 .prompt, .startSend [7], .pollFlush .prompt,
          .deliverData, .pollNext .prompt, .pollNext .prompt] = some world ∧
      Stuck world := by
  refine ⟨_, rfl, ?_, ?_, ?_, ?_⟩
  · decide
  · decide
  · decide
  · decide

end BufferedFlow

end Epoxy
