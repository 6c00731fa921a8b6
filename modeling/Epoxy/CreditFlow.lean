/-
One flow-controlled stream between a client and a server.  The client writes
through its sink, the server reads and announces its credit, and packets are
on their way in both directions.  The world is an instance of the general
credit window, which decides what flow control can and cannot lose.
-/
import Epoxy.CreditWindow
import Epoxy.MuxInner

namespace Epoxy

open ActionMachine ByteCursor CreditWindow PollChannel

/-- How far the client is with the payload that it is writing. -/
inductive WritePhase where
  | idle
  | ready
  | flushing
deriving Repr, DecidableEq

/-- `written`, `obtained` and `dropped` are histories: what the client gave
to its sink, what the server's reader yielded, and what found the server's
channel full. -/
structure FlowWorld where
  client : Stream
  phase : WritePhase
  toServer : List Bytes
  server : Stream
  toClient : List Bytes
  written : List Bytes
  obtained : List Bytes
  dropped : List Bytes

inductive FlowAction where
  | pollReady (cx : Waker) (sink : CalmSink)
  | startSend (item : Bytes)
  | pollFlush (sink : CalmSink)
  /-- A packet arrives at the server's actor. -/
  | deliverData
  | pollNext (sink : CalmSink)
  /-- A packet arrives at the client's actor. -/
  | deliverContinue

namespace FlowWorld

/-- A stream that was just opened, on a server with buffers of this size. -/
def init (id bufferSize : UInt32) : FlowWorld where
  client := .new id .enabledTrackAmount bufferSize
  phase := .idle
  toServer := []
  server := .new id .enabledSendMessages bufferSize
  toClient := []
  written := []
  obtained := []
  dropped := []

/-- Take over what a poll of the client's sink did. -/
def afterWrite (world : FlowWorld) (result : WritePoll) : FlowWorld :=
  { world with
    client := { world.client with write := result.write, info := result.info }
    toServer := world.toServer ++ result.sent }

def afterReady (world : FlowWorld) (result : WritePoll) : FlowWorld :=
  { world.afterWrite result with
    phase :=
      match result.answer with
      | .ready (.ok ()) => .ready
      | _ => world.phase }

def afterFlush (world : FlowWorld) (result : WritePoll) : FlowWorld :=
  { world.afterWrite result with
    phase :=
      match world.phase, result.answer with
      | .flushing, .ready _ => .idle
      | phase, _ => phase }

def pollReady (world : FlowWorld) (cx : Waker) (sink : SinkAnswers) :
    FlowWorld :=
  world.afterReady
    (world.client.write.pollReady world.client.info false cx sink)

/-- A payload is taken once `pollReady` has allowed it. -/
def startSend (world : FlowWorld) (item : Bytes) : Option FlowWorld :=
  match world.phase with
  | .ready =>
      some { world with
        client :=
          { world.client with write := world.client.write.startSend item }
        phase := .flushing
        written := world.written ++ [item] }
  | _ => none

def pollFlush (world : FlowWorld) (sink : SinkAnswers) : FlowWorld :=
  world.afterFlush (world.client.write.pollFlush world.client.info sink)

def afterRead (world : FlowWorld)
    (result : Stream × Poll (Option (Except WispError Bytes)) × List Bytes) :
    FlowWorld :=
  { world with
    server := result.1
    toClient := world.toClient ++ result.2.2
    obtained :=
      match result.2.1 with
      | .ready (some (.ok chunk)) => world.obtained ++ [chunk]
      | _ => world.obtained }

/-- The client's sink is polled at any time, also while a payload is saved. -/
def step (world : FlowWorld) : FlowAction → Option FlowWorld
  | .pollReady cx sink => some (world.pollReady cx sink.answers)
  | .startSend item => world.startSend item
  | .pollFlush sink => some (world.pollFlush sink.answers)
  | .deliverData =>
      match world.toServer with
      | [] => none
      | packet :: rest =>
          match Packet.decode packet with
          | .ok ⟨_, .data data⟩ =>
              some { world with
                toServer := rest
                server := ServerActor.handleDataPacket world.server data
                dropped :=
                  if (world.server.channel.trySend data).2 then world.dropped
                  else world.dropped ++ [data] }
          | _ => none
  | .pollNext sink =>
      some (world.afterRead (world.server.pollNext sink.answers))
  | .deliverContinue =>
      match world.toClient with
      | [] => none
      | packet :: rest =>
          match Packet.decode packet with
          | .ok ⟨_, .cont cont⟩ =>
              some { world with
                toClient := rest
                client := ClientActor.handleContinuePacket world.client cont }
          | _ => none

def machine : Machine FlowWorld FlowAction := ⟨step⟩

/-- The client's sink is polled in turn. -/
def inTurn (world : FlowWorld) : FlowAction → Bool
  | .pollReady _ _ => world.phase = .idle
  | .pollFlush _ => world.phase = .flushing
  | _ => true

/-- Each payload is written with `pollReady`, `startSend` and `pollFlush`, in
this order, where a pending poll is repeated. -/
def turnStep (world : FlowWorld) (action : FlowAction) : Option FlowWorld :=
  if world.inTurn action then world.step action else none

def turnMachine : Machine FlowWorld FlowAction := ⟨turnStep⟩

theorem step_of_turnStep {world next : FlowWorld} {action : FlowAction}
    (h : world.turnStep action = some next) :
    world.inTurn action = true ∧ world.step action = some next :=
  Option.ite_none_right_eq_some.mp h

/-- Both kinds of packets arrive as they were sent. -/
theorem step_deliverData {world : FlowWorld} {id : UInt32} {item : Bytes}
    {rest : List Bytes}
    (hflight : world.toServer = (Packet.newData id item).encode :: rest) :
    world.step .deliverData = some { world with
      toServer := rest
      server := ServerActor.handleDataPacket world.server item
      dropped :=
        if (world.server.channel.trySend item).2 then world.dropped
        else world.dropped ++ [item] } := by
  simp only [step, hflight, Packet.decode_encode_newData]
  rfl

theorem step_deliverContinue {world : FlowWorld} {id amt : UInt32}
    {rest : List Bytes}
    (hflight : world.toClient = (Packet.newContinue id amt).encode :: rest) :
    world.step .deliverContinue = some { world with
      toClient := rest
      client := ClientActor.handleContinuePacket world.client ⟨amt⟩ } := by
  simp only [step, hflight, Packet.decode_encode_newContinue]
  rfl

/-- No payload found the channel full, and what the reader obtained is how
the writing began. -/
def NoLoss (world : FlowWorld) : Prop :=
  world.dropped = [] ∧ world.obtained <+: world.written

/-- Nothing is on its way, and the server's reader has nothing left. -/
structure Quiescent (world : FlowWorld) : Prop where
  toServer : world.toServer = []
  toClient : world.toClient = []
  queue : world.server.channel.queue = []
  chunk : world.server.read.chunk = none

end FlowWorld

/-- The window of a stream with buffers of this size. -/
def flowSetup (bufferSize : UInt32) : Setup where
  capacity := bufferSize.toNat
  threshold := bufferSize.toNat * 90 / 100
  limit := 2 ^ 32 - 1

/-- The sender that the client's phase and saved chunk stand for. -/
def WritePhase.sender : WritePhase → Option Bytes → Option (Sender Bytes)
  | .idle, none => some .idle
  | .ready, none => some .ready
  | .flushing, none => some .idle
  | .flushing, some item => some (.holding item)
  | _, some _ => none

/-- What stays the same while the stream is open. -/
structure FlowOpen (id bufferSize : UInt32) (client server : Stream) :
    Prop where
  clientId : client.info.id = id
  clientFlow : client.info.flowStatus = .enabledTrackAmount
  serverId : server.info.id = id
  serverFlow : server.info.flowStatus = .enabledSendMessages
  target : server.info.targetFlowControl.toNat =
    (flowSetup bufferSize).threshold
  capacity : server.channel.capacity = some bufferSize.toNat
  sender : server.channel.sender = true
  receiver : server.channel.receiver = true

/-- The window that a world stands for. -/
structure Refines (id bufferSize : UInt32) (world : FlowWorld)
    (window : Window Bytes) : Prop where
  isOpen : FlowOpen id bufferSize world.client world.server
  credit : window.credit = world.client.info.flowControl.toNat
  sender : world.phase.sender world.client.write.chunk = some window.sender
  data : world.toServer =
    window.data.map fun item => (Packet.newData id item).encode
  flow : window.flow = world.server.info.flowControl.toNat
  queue : window.queue = world.server.channel.queue
  readCnt : window.readCnt = world.server.read.readCnt.toNat
  held : window.held = world.server.read.chunk
  announced : ∃ credits : List UInt32,
    window.announced = credits.map UInt32.toNat ∧
      world.toClient =
        credits.map fun amt => (Packet.newContinue id amt).encode
  written : window.written = world.written
  obtained : window.obtained = world.obtained
  dropped : window.dropped = world.dropped

/-- The world takes `action` while the window takes `actions`. -/
def Matched (id bufferSize : UInt32) (world : FlowWorld)
    (window : Window Bytes) (action : FlowAction)
    (actions : List (Action Bytes)) : Prop :=
  ∃ world' window', world.step action = some world' ∧
    (Window.machine (flowSetup bufferSize)).run window actions =
      some window' ∧
    Refines id bufferSize world' window'

namespace Refines

variable {id bufferSize : UInt32} {world : FlowWorld} {window : Window Bytes}

theorem init (id bufferSize : UInt32) :
    Refines id bufferSize (.init id bufferSize)
      (.init (flowSetup bufferSize)) where
  isOpen :=
    { clientId := rfl
      clientFlow := rfl
      serverId := rfl
      serverFlow := rfl
      target := StreamInfo.toNat_targetFlowControl_new _ _ _
      capacity := rfl
      sender := rfl
      receiver := rfl }
  credit := rfl
  sender := rfl
  data := rfl
  flow := rfl
  queue := rfl
  readCnt := rfl
  held := rfl
  announced := ⟨[], rfl, rfl⟩
  written := rfl
  obtained := rfl
  dropped := rfl

/-- A payload is saved exactly while it is being written. -/
theorem sender_cases (h : Refines id bufferSize world window) :
    (world.phase ≠ .ready ∧ world.client.write.chunk = none ∧
        window.sender = .idle) ∨
      (world.phase = .ready ∧ world.client.write.chunk = none ∧
        window.sender = .ready) ∨
      ∃ item, world.phase = .flushing ∧
        world.client.write.chunk = some item ∧
        window.sender = .holding item := by
  have hsender := h.sender
  cases hphase : world.phase with
  | idle =>
      rw [hphase] at hsender
      cases hchunk : world.client.write.chunk with
      | none =>
          rw [hchunk] at hsender
          exact .inl ⟨nofun, rfl, (Option.some.inj hsender).symm⟩
      | some item =>
          rw [hchunk] at hsender
          cases hsender
  | ready =>
      rw [hphase] at hsender
      cases hchunk : world.client.write.chunk with
      | none =>
          rw [hchunk] at hsender
          exact .inr (.inl ⟨rfl, rfl, (Option.some.inj hsender).symm⟩)
      | some item =>
          rw [hchunk] at hsender
          cases hsender
  | flushing =>
      rw [hphase] at hsender
      cases hchunk : world.client.write.chunk with
      | none =>
          rw [hchunk] at hsender
          exact .inl ⟨nofun, rfl, (Option.some.inj hsender).symm⟩
      | some item =>
          rw [hchunk] at hsender
          exact .inr (.inr ⟨item, rfl, rfl, (Option.some.inj hsender).symm⟩)

theorem sender_of_idle (h : Refines id bufferSize world window)
    (hphase : world.phase = .idle) : window.sender = .idle := by
  rcases h.sender_cases with
    ⟨-, -, hsender⟩ | ⟨hready, -⟩ | ⟨item, hflushing, -⟩
  · exact hsender
  · rw [hphase] at hready
    cases hready
  · rw [hphase] at hflushing
    cases hflushing

theorem sender_of_ready (h : Refines id bufferSize world window)
    (hphase : world.phase = .ready) : window.sender = .ready := by
  rcases h.sender_cases with
    ⟨hother, -⟩ | ⟨-, -, hsender⟩ | ⟨item, hflushing, -⟩
  · exact absurd hphase hother
  · exact hsender
  · rw [hphase] at hflushing
    cases hflushing

theorem phase_of_ready (h : Refines id bufferSize world window)
    (hsender : window.sender = .ready) : world.phase = .ready := by
  rcases h.sender_cases with
    ⟨-, -, hidle⟩ | ⟨hphase, -⟩ | ⟨item, -, -, hholding⟩
  · rw [hsender] at hidle
    cases hidle
  · exact hphase
  · rw [hsender] at hholding
    cases hholding

theorem phase_of_holding (h : Refines id bufferSize world window)
    {item : Bytes} (hsender : window.sender = .holding item) :
    world.phase = .flushing ∧ world.client.write.chunk = some item := by
  rcases h.sender_cases with
    ⟨-, -, hidle⟩ | ⟨-, -, hready⟩ | ⟨other, hphase, hchunk, hholding⟩
  · rw [hsender] at hidle
    cases hidle
  · rw [hsender] at hready
    cases hready
  · rw [hsender] at hholding
    cases hholding
    exact ⟨hphase, hchunk⟩

theorem flowEmpty_iff (h : Refines id bufferSize world window) :
    world.client.info.flowEmpty = true ↔ window.credit = 0 := by
  rw [StreamInfo.flowEmpty_iff, h.credit]

/-- Without credit the client waits. -/
theorem pollReady_of_flowEmpty (h : Refines id bufferSize world window)
    (hcredit : window.credit = 0) (cx : Waker) (sink : CalmSink) :
    Matched id bufferSize world window (.pollReady cx sink) [] := by
  have hstep : world.step (.pollReady cx sink) =
      some (world.afterReady ⟨world.client.write,
        world.client.info.flowRegister cx, .pending, []⟩) := by
    rw [FlowWorld.step, FlowWorld.pollReady,
      MuxStreamWrite.pollReady_of_flowEmpty h.isOpen.clientFlow
        (h.flowEmpty_iff.mpr hcredit)]
  refine ⟨_, window, hstep, rfl, { h with
    isOpen := { h.isOpen with }
    sender := h.sender
    data := ?_ }⟩
  simpa [FlowWorld.afterReady, FlowWorld.afterWrite] using h.data

/-- A client with credit and nothing saved may go on. -/
theorem pollReady_of_credit (h : Refines id bufferSize world window)
    (hchunk : world.client.write.chunk = none) (hcredit : 0 < window.credit)
    (cx : Waker) (sink : CalmSink) :
    Matched id bufferSize world window (.pollReady cx sink)
      (if world.phase = .ready then [] else [.prepare]) := by
  have hempty : world.client.info.flowEmpty = false := by
    rw [Bool.eq_false_iff, ne_eq, h.flowEmpty_iff]
    omega
  have hstep : world.step (.pollReady cx sink) =
      some (world.afterReady ⟨world.client.write, world.client.info,
        .ready (.ok ()), []⟩) := by
    rw [FlowWorld.step, FlowWorld.pollReady,
      MuxStreamWrite.pollReady_of_credit hchunk hempty]
  have hwindow : (Window.machine (flowSetup bufferSize)).run window
      (if world.phase = .ready then [] else [.prepare]) =
        some { window with sender := .ready } := by
    rcases h.sender_cases with
      ⟨hother, -, hsender⟩ | ⟨hready, -, hsender⟩ | ⟨item, -, hitem, -⟩
    · simp [hother, Window.machine, Window.step, hsender, hcredit]
    · rw [if_pos hready, ← hsender]
      rfl
    · rw [hchunk] at hitem
      cases hitem
  refine ⟨_, _, hstep, hwindow, { h with
    isOpen := { h.isOpen with }
    sender := ?_
    data := ?_ }⟩
  · simp [FlowWorld.afterReady, FlowWorld.afterWrite, hchunk,
      WritePhase.sender]
  · simpa [FlowWorld.afterReady, FlowWorld.afterWrite] using h.data

/-- The saved payload goes out on credit, and the next one is allowed without
looking at the credit again. -/
theorem pollReady_of_saved (h : Refines id bufferSize world window)
    {item : Bytes} (hchunk : world.client.write.chunk = some item)
    (hsender : window.sender = .holding item) (hcredit : 0 < window.credit)
    (cx : Waker) (sink : CalmSink) :
    ∃ actions,
      Matched id bufferSize world window (.pollReady cx sink) actions := by
  have hempty : world.client.info.flowEmpty = false := by
    rw [Bool.eq_false_iff, ne_eq, h.flowEmpty_iff]
    omega
  rcases MuxStreamWrite.pollReady_of_some sink h.isOpen.clientFlow hempty
      hchunk with ⟨locked, hpoll⟩ | hpoll
  · have hstep : world.step (.pollReady cx sink) =
        some (world.afterReady ⟨{ world.client.write with locked },
          world.client.info, .pending, []⟩) := by
      rw [FlowWorld.step, FlowWorld.pollReady, hpoll]
    refine ⟨[], _, window, hstep, rfl, { h with
      isOpen := { h.isOpen with }
      sender := h.sender
      data := ?_ }⟩
    simpa [FlowWorld.afterReady, FlowWorld.afterWrite] using h.data
  · have hstep : world.step (.pollReady cx sink) =
        some (world.afterReady ⟨⟨none, false⟩, world.client.info.flowDec,
          .ready (.ok ()),
          [(Packet.newData world.client.info.id item).encode]⟩) := by
      rw [FlowWorld.step, FlowWorld.pollReady, hpoll]
    have hwindow : (Window.machine (flowSetup bufferSize)).run window
        [.feed] = some { window with
          credit := window.credit - 1
          sender := .ready
          data := window.data ++ [item] } := by
      simp [Window.machine, Window.step, hsender, hcredit]
    refine ⟨[.feed], _, _, hstep, hwindow, { h with
      isOpen := { h.isOpen with }
      credit := ?_
      sender := rfl
      data := ?_ }⟩
    · simp [FlowWorld.afterReady, FlowWorld.afterWrite, h.credit]
    · simp [FlowWorld.afterReady, FlowWorld.afterWrite, h.data,
        h.isOpen.clientId]

/-- Only a poll out of turn feeds. -/
theorem pollReady (h : Refines id bufferSize world window) (cx : Waker)
    (sink : CalmSink) :
    ∃ actions,
      Matched id bufferSize world window (.pollReady cx sink) actions ∧
      (world.inTurn (.pollReady cx sink) = true → .feed ∉ actions) := by
  rcases Nat.eq_zero_or_pos window.credit with hzero | hcredit
  · exact ⟨[], h.pollReady_of_flowEmpty hzero cx sink, fun _ => by simp⟩
  · rcases h.sender_cases with
      ⟨-, hchunk, -⟩ | ⟨-, hchunk, -⟩ | ⟨item, hphase, hchunk, hsender⟩
    · refine ⟨_, h.pollReady_of_credit hchunk hcredit cx sink, fun _ => ?_⟩
      split <;> simp
    · refine ⟨_, h.pollReady_of_credit hchunk hcredit cx sink, fun _ => ?_⟩
      split <;> simp
    · obtain ⟨actions, hmatched⟩ :=
        h.pollReady_of_saved hchunk hsender hcredit cx sink
      refine ⟨actions, hmatched, fun hturn => ?_⟩
      simp [FlowWorld.inTurn, hphase] at hturn

theorem startSend (h : Refines id bufferSize world window)
    (hphase : world.phase = .ready) (item : Bytes) :
    Matched id bufferSize world window (.startSend item) [.offer item] := by
  have hsender := h.sender_of_ready hphase
  have hstep : world.step (.startSend item) =
      some { world with
        client :=
          { world.client with write := world.client.write.startSend item }
        phase := .flushing
        written := world.written ++ [item] } := by
    simp only [FlowWorld.step, FlowWorld.startSend, hphase]
  have hwindow : (Window.machine (flowSetup bufferSize)).run window
      [.offer item] = some { window with
        sender := .holding item
        written := window.written ++ [item] } := by
    simp [Window.machine, Window.step, hsender]
  exact ⟨_, _, hstep, hwindow, { h with
    isOpen := { h.isOpen with }
    sender := rfl
    written := by simp [h.written] }⟩

/-- A flush that has nothing to write, or cannot write yet. -/
theorem pollFlush_of_kept (h : Refines id bufferSize world window)
    {sink : CalmSink} {locked : Bool} {answer : Poll (Except WispError Unit)}
    (hanswer : answer ≠ .pending → world.client.write.chunk = none)
    (hpoll : world.client.write.pollFlush world.client.info sink.answers =
      ⟨{ world.client.write with locked }, world.client.info, answer, []⟩) :
    Matched id bufferSize world window (.pollFlush sink) [] := by
  have hstep : world.step (.pollFlush sink) =
      some (world.afterFlush ⟨{ world.client.write with locked },
        world.client.info, answer, []⟩) := by
    rw [FlowWorld.step, FlowWorld.pollFlush, hpoll]
  have hsender := h.sender
  refine ⟨_, window, hstep, rfl, { h with
    isOpen := { h.isOpen with }
    sender := ?_
    data := ?_ }⟩
  · cases hphase : world.phase with
    | idle | ready =>
        rw [hphase] at hsender
        simpa [FlowWorld.afterFlush, FlowWorld.afterWrite, hphase]
          using hsender
    | flushing =>
        rw [hphase] at hsender
        cases answer with
        | pending =>
            simpa [FlowWorld.afterFlush, FlowWorld.afterWrite, hphase]
              using hsender
        | ready result =>
            rw [hanswer nofun] at hsender
            simpa [FlowWorld.afterFlush, FlowWorld.afterWrite, hphase,
              hanswer, WritePhase.sender] using hsender
  · simpa [FlowWorld.afterFlush, FlowWorld.afterWrite] using h.data

/-- A flush that hands the payload over. -/
theorem pollFlush_of_sent (h : Refines id bufferSize world window)
    (hphase : world.phase = .flushing) {item : Bytes}
    (hsender : window.sender = .holding item) (sink : CalmSink)
    {locked : Bool} {answer : Poll (Except WispError Unit)}
    (hpoll : world.client.write.pollFlush world.client.info sink.answers =
      ⟨⟨none, locked⟩, world.client.info.flowDec, answer,
        [(Packet.newData world.client.info.id item).encode]⟩) :
    Matched id bufferSize world window (.pollFlush sink) [.send] := by
  have hstep : world.step (.pollFlush sink) =
      some (world.afterFlush ⟨⟨none, locked⟩, world.client.info.flowDec,
        answer, [(Packet.newData world.client.info.id item).encode]⟩) := by
    rw [FlowWorld.step, FlowWorld.pollFlush, hpoll]
  have hwindow : (Window.machine (flowSetup bufferSize)).run window
      [.send] = some { window with
        credit := window.credit - 1
        sender := .idle
        data := window.data ++ [item] } := by
    simp [Window.machine, Window.step, hsender]
  refine ⟨_, _, hstep, hwindow, { h with
    isOpen := { h.isOpen with }
    credit := ?_
    sender := ?_
    data := ?_ }⟩
  · simp [FlowWorld.afterFlush, FlowWorld.afterWrite, h.credit]
  · cases answer <;>
      simp [FlowWorld.afterFlush, FlowWorld.afterWrite, hphase,
        WritePhase.sender]
  · simp [FlowWorld.afterFlush, FlowWorld.afterWrite, h.data,
      h.isOpen.clientId]

theorem pollFlush (h : Refines id bufferSize world window)
    (sink : CalmSink) :
    ∃ actions, .feed ∉ actions ∧
      Matched id bufferSize world window (.pollFlush sink) actions := by
  have hnone : world.client.write.chunk = none →
      Matched id bufferSize world window (.pollFlush sink) [] := by
    intro hchunk
    obtain ⟨locked, answer, _, hpoll⟩ :=
      MuxStreamWrite.pollFlush_of_none world.client.info sink hchunk
    exact h.pollFlush_of_kept (fun _ => hchunk) hpoll
  rcases h.sender_cases with
    ⟨-, hchunk, -⟩ | ⟨-, hchunk, -⟩ | ⟨item, hphase, hchunk, hsender⟩
  · exact ⟨[], by simp, hnone hchunk⟩
  · exact ⟨[], by simp, hnone hchunk⟩
  · rcases MuxStreamWrite.pollFlush_of_some sink h.isOpen.clientFlow
        hchunk with ⟨locked, hpoll⟩ | ⟨locked, answer, _, hpoll⟩
    · exact ⟨[], by simp, h.pollFlush_of_kept (absurd rfl) hpoll⟩
    · exact ⟨[.send], by simp, h.pollFlush_of_sent hphase hsender sink hpoll⟩

/-- The server's channel accepts while it has a free slot. -/
theorem trySend_iff (h : Refines id bufferSize world window)
    (hpos : 0 < bufferSize) (item : Bytes) :
    (world.server.channel.trySend item).2 = true ↔
      window.queue.length < (flowSetup bufferSize).capacity := by
  rw [UInt32.lt_iff_toNat_lt] at hpos
  rw [h.queue]
  exact Channel.trySend_accepts_iff h.isOpen.capacity hpos h.isOpen.receiver
    item

theorem deliverData (h : Refines id bufferSize world window)
    (hpos : 0 < bufferSize) (hdata : world.toServer ≠ []) :
    Matched id bufferSize world window .deliverData [.deliver] := by
  have hflight := h.data
  have hroom := h.trySend_iff hpos
  cases hsplit : window.data with
  | nil =>
      rw [hsplit] at hflight
      exact absurd hflight hdata
  | cons item rest =>
      rw [hsplit, List.map_cons] at hflight
      by_cases haccepted : (world.server.channel.trySend item).2 = true
      · have hstep : world.step .deliverData = some { world with
            toServer := rest.map fun item => (Packet.newData id item).encode
            server := { world.server with
              channel := (world.server.channel.trySend item).1
              info := world.server.info.flowDec } } := by
          rw [FlowWorld.step_deliverData hflight]
          simp [ServerActor.handleDataPacket, haccepted]
        have hwindow : (Window.machine (flowSetup bufferSize)).run window
            [.deliver] = some { window with
              data := rest
              flow := window.flow - 1
              queue := window.queue ++ [item] } := by
          simp [Window.machine, Window.step, hsplit, (hroom item).mp haccepted]
        exact ⟨_, _, hstep, hwindow, { h with
          isOpen := { h.isOpen with
            capacity := by simp [h.isOpen.capacity]
            sender := by simp [h.isOpen.sender]
            receiver := by simp [h.isOpen.receiver] }
          data := rfl
          flow := by simp [h.flow]
          queue := by
            simp [h.queue, Channel.queue_trySend_of_accepted haccepted] }⟩
      · have hstep : world.step .deliverData = some { world with
            toServer := rest.map fun item => (Packet.newData id item).encode
            dropped := world.dropped ++ [item] } := by
          rw [Bool.not_eq_true] at haccepted
          rw [FlowWorld.step_deliverData hflight]
          simp [ServerActor.handleDataPacket, haccepted,
            Channel.trySend_of_rejected haccepted]
        have hwindow : (Window.machine (flowSetup bufferSize)).run window
            [.deliver] = some { window with
              data := rest
              dropped := window.dropped ++ [item] } := by
          rw [hroom item] at haccepted
          simp [Window.machine, Window.step, hsplit, haccepted]
        exact ⟨_, _, hstep, hwindow, { h with
          isOpen := { h.isOpen with }
          data := rfl
          dropped := by simp [h.dropped] }⟩

theorem deliverContinue (h : Refines id bufferSize world window)
    (hcredits : world.toClient ≠ []) :
    Matched id bufferSize world window .deliverContinue [.update] := by
  obtain ⟨credits, hannounced, hflight⟩ := h.announced
  cases credits with
  | nil => exact absurd hflight hcredits
  | cons amt rest =>
      rw [List.map_cons] at hannounced hflight
      have hstep : world.step .deliverContinue = some { world with
          toClient := rest.map fun amt => (Packet.newContinue id amt).encode
          client := { world.client with
            info := (world.client.info.flowSet amt).flowWake.1 } } := by
        rw [FlowWorld.step_deliverContinue hflight]
        simp [ClientActor.handleContinuePacket, h.isOpen.clientFlow]
      have hwindow : (Window.machine (flowSetup bufferSize)).run window
          [.update] = some { window with
            credit := amt.toNat
            announced := rest.map UInt32.toNat } := by
        simp [Window.machine, Window.step, hannounced]
      exact ⟨_, _, hstep, hwindow, { h with
        isOpen := { h.isOpen with }
        credit := by simp
        announced := ⟨rest, rfl, rfl⟩ }⟩

theorem announces_iff (h : Refines id bufferSize world window) :
    world.server.read.announces world.server.info = true ↔
      (flowSetup bufferSize).threshold < window.readCnt := by
  simp [MuxStreamRead.announces, h.isOpen.serverFlow, UInt32.lt_iff_toNat_lt,
    h.isOpen.target, h.readCnt]

/-- The reader waits, with or without a saved payload. -/
theorem pollNext_of_kept (h : Refines id bufferSize world window)
    {sink : CalmSink} {channel : Channel Bytes} (locked : Bool)
    (hchannel : channel.queue = world.server.channel.queue ∧
      channel.capacity = world.server.channel.capacity ∧
      channel.sender = world.server.channel.sender ∧
      channel.receiver = world.server.channel.receiver)
    (hpoll : world.server.read.pollNext world.server.channel
        world.server.info sink.answers =
      ⟨{ world.server.read with locked }, channel, world.server.info,
        .pending, []⟩) :
    Matched id bufferSize world window (.pollNext sink) [] := by
  have hstep : world.step (.pollNext sink) = some { world with
      server := { world.server with
        read := { world.server.read with locked }
        channel } } := by
    simp [FlowWorld.step, FlowWorld.afterRead, Stream.pollNext, hpoll]
  obtain ⟨hqueue, hcapacity, hsender, hreceiver⟩ := hchannel
  exact ⟨_, window, hstep, rfl, { h with
    isOpen := { h.isOpen with
      capacity := hcapacity.trans h.isOpen.capacity
      sender := hsender.trans h.isOpen.sender
      receiver := hreceiver.trans h.isOpen.receiver }
    queue := h.queue.trans hqueue.symm }⟩

/-- A saved payload is yielded when nothing is due. -/
theorem pollNext_of_settled (h : Refines id bufferSize world window)
    {item : Bytes} (hchunk : world.server.read.chunk = some item)
    (hsettled : window.readCnt ≤ (flowSetup bufferSize).threshold)
    (sink : CalmSink) :
    Matched id bufferSize world window (.pollNext sink) [.yield] := by
  have hdue : MuxStreamRead.announces { world.server.read with chunk := none }
      world.server.info = false := by
    rw [Bool.eq_false_iff]
    intro hdue
    have hlt := h.announces_iff.mp hdue
    omega
  have hstep : world.step (.pollNext sink) = some { world with
      server := { world.server with
        read := { world.server.read with chunk := none } }
      obtained := world.obtained ++ [item] } := by
    simp [FlowWorld.step, FlowWorld.afterRead, Stream.pollNext,
      MuxStreamRead.pollNext_of_saved h.isOpen.sender hchunk,
      MuxStreamRead.deliver_of_settled hdue]
  have hwindow : (Window.machine (flowSetup bufferSize)).run window
      [.yield] = some { window with
        held := none
        obtained := window.obtained ++ [item] } := by
    simp [Window.machine, Window.step, h.held, hchunk, hsettled]
  exact ⟨_, _, hstep, hwindow, { h with
    isOpen := { h.isOpen with }
    held := rfl
    obtained := by simp [h.obtained] }⟩

/-- A saved payload is yielded after the credit was announced. -/
theorem pollNext_of_announced (h : Refines id bufferSize world window)
    {item : Bytes} (hchunk : world.server.read.chunk = some item)
    (hdue : (flowSetup bufferSize).threshold < window.readCnt)
    {sink : CalmSink}
    (hdeliver : MuxStreamRead.deliver { world.server.read with chunk := none }
        world.server.channel world.server.info item sink.answers =
      ⟨⟨0, none, false⟩, world.server.channel,
        world.server.info.flowAdd world.server.read.readCnt,
        .ready (some (.ok item)),
        [(Packet.newContinue world.server.info.id
          (world.server.info.flowAdd
            world.server.read.readCnt).flowControl).encode]⟩) :
    Matched id bufferSize world window (.pollNext sink)
      [.announce, .yield] := by
  let amt :=
    (world.server.info.flowAdd world.server.read.readCnt).flowControl
  have hamt : min (window.flow + window.readCnt)
      (flowSetup bufferSize).limit = amt.toNat := by
    simp [amt, flowSetup, h.flow, h.readCnt]
  have hstep : world.step (.pollNext sink) = some { world with
      server := { world.server with
        read := ⟨0, none, false⟩
        info := world.server.info.flowAdd world.server.read.readCnt }
      toClient := world.toClient ++ [(Packet.newContinue id amt).encode]
      obtained := world.obtained ++ [item] } := by
    simp [FlowWorld.step, FlowWorld.afterRead, Stream.pollNext,
      MuxStreamRead.pollNext_of_saved h.isOpen.sender hchunk, hdeliver,
      h.isOpen.serverId, amt]
  have hwindow : (Window.machine (flowSetup bufferSize)).run window
      [.announce, .yield] = some { window with
        flow := amt.toNat
        readCnt := 0
        held := none
        announced := window.announced ++ [amt.toNat]
        obtained := window.obtained ++ [item] } := by
    simp [Window.machine, Window.step, h.held, hchunk, hdue, hamt]
  obtain ⟨credits, hannounced, hflight⟩ := h.announced
  exact ⟨_, _, hstep, hwindow, { h with
    isOpen := { h.isOpen with }
    flow := rfl
    readCnt := rfl
    held := rfl
    announced := ⟨credits ++ [amt], by simp [hannounced], by simp [hflight]⟩
    obtained := by simp [h.obtained] }⟩

/-- A saved payload is yielded, perhaps after the credit was announced, or
stays saved. -/
theorem pollNext_of_saved (h : Refines id bufferSize world window)
    {item : Bytes} (hchunk : world.server.read.chunk = some item)
    (sink : CalmSink) :
    ∃ actions, .feed ∉ actions ∧
      Matched id bufferSize world window (.pollNext sink) actions := by
  rcases Nat.lt_or_ge (flowSetup bufferSize).threshold window.readCnt with
    hdue | hsettled
  · have hannounces : MuxStreamRead.announces
        { world.server.read with chunk := none } world.server.info = true :=
      h.announces_iff.mpr hdue
    rcases MuxStreamRead.deliver_of_due world.server.channel item sink
        hannounces with ⟨locked, hdeliver⟩ | hdeliver
    · refine ⟨[], by simp,
        h.pollNext_of_kept locked ⟨rfl, rfl, rfl, rfl⟩ ?_⟩
      rw [MuxStreamRead.pollNext_of_saved h.isOpen.sender hchunk, hdeliver,
        ← hchunk]
    · exact ⟨_, by simp, h.pollNext_of_announced hchunk hdue hdeliver⟩
  · exact ⟨_, by simp, h.pollNext_of_settled hchunk hsettled sink⟩

/-- A poll that takes a payload out of the channel goes on as if the payload
had been saved before. -/
theorem pop (h : Refines id bufferSize world window) (hpos : 0 < bufferSize)
    (hsettled : window.readCnt ≤ (flowSetup bufferSize).threshold)
    {item : Bytes} {rest : List Bytes}
    (hchunk : world.server.read.chunk = none)
    (hqueue : world.server.channel.queue = item :: rest) :
    ∃ world' window', Refines id bufferSize world' window' ∧
      (Window.machine (flowSetup bufferSize)).step window .pop =
        some window' ∧
      window'.readCnt = window.readCnt + 1 ∧
      world'.server.read.chunk = some item ∧
      ∀ sink, world.step (.pollNext sink) = world'.step (.pollNext sink) := by
  have hbound : (flowSetup bufferSize).threshold + 1 < 2 ^ 32 := by
    have hlt := bufferSize.toNat_lt
    rw [UInt32.lt_iff_toNat_lt] at hpos
    simp only [flowSetup]
    change 0 < bufferSize.toNat at hpos
    omega
  have hcount : (world.server.read.readCnt + 1).toNat =
      window.readCnt + 1 := by
    rw [UInt32.toNat_add, ← h.readCnt]
    change (window.readCnt + 1) % 2 ^ 32 = _
    omega
  have hpopped := Channel.taken_pollNext_of_queued hqueue
  have hcounted : world.server.read.count world.server.info =
      { world.server.read with readCnt := world.server.read.readCnt + 1 } := by
    simp [MuxStreamRead.count, h.isOpen.serverFlow]
  refine ⟨{ world with
      server := { world.server with
        read := { world.server.read with
          readCnt := world.server.read.readCnt + 1
          chunk := some item }
        channel := world.server.channel.pollNext.1 } },
    { window with
      queue := rest
      readCnt := window.readCnt + 1
      held := some item }, { h with
    isOpen := { h.isOpen with
      capacity := by simp [h.isOpen.capacity]
      sender := by simp [h.isOpen.sender]
      receiver := by simp [h.isOpen.receiver] }
    queue := hpopped.2.symm
    readCnt := hcount.symm
    held := rfl }, ?_, rfl, rfl, fun sink => ?_⟩
  · simp [Window.machine, Window.step, h.held, hchunk, h.queue, hqueue]
  · have hpoll : world.server.pollNext sink.answers =
        Stream.pollNext { world.server with
          read := { world.server.read with
            readCnt := world.server.read.readCnt + 1
            chunk := some item }
          channel := world.server.channel.pollNext.1 } sink.answers := by
      simp only [Stream.pollNext]
      rw [MuxStreamRead.pollNext_of_queued h.isOpen.sender hchunk hqueue,
        MuxStreamRead.pollNext_of_saved (by simp [h.isOpen.sender]) rfl,
        hcounted, ← hchunk]
    simp [FlowWorld.step, FlowWorld.afterRead, hpoll]

theorem pollNext (h : Refines id bufferSize world window)
    (hpos : 0 < bufferSize)
    (hsettled : window.held = none →
      window.readCnt ≤ (flowSetup bufferSize).threshold) (sink : CalmSink) :
    ∃ actions, .feed ∉ actions ∧
      Matched id bufferSize world window (.pollNext sink) actions := by
  cases hchunk : world.server.read.chunk with
  | some item => exact h.pollNext_of_saved hchunk sink
  | none =>
      cases hqueue : world.server.channel.queue with
      | nil =>
          have hempty := Channel.taken_pollNext_of_empty hqueue
          refine ⟨[], by simp, h.pollNext_of_kept world.server.read.locked
            ⟨hempty.2.trans hqueue.symm, by simp, by simp, by simp⟩ ?_⟩
          exact MuxStreamRead.pollNext_of_empty h.isOpen.sender hchunk hqueue
      | cons item rest =>
          obtain ⟨mid, popped, hmid, hpop, _, hsaved, hsame⟩ :=
            h.pop hpos (hsettled (h.held.trans hchunk)) hchunk hqueue
          obtain ⟨actions, hturn, world', window', hstep, hrun, hnext⟩ :=
            hmid.pollNext_of_saved hsaved sink
          refine ⟨.pop :: actions, by simp [hturn], world', window', ?_, ?_,
            hnext⟩
          · rw [hsame sink, hstep]
          · simp [hpop, hrun]

/-- Whatever the world does, the window can do, and it feeds only where the
world does not keep to its turn. -/
theorem step {world' : FlowWorld} {action : FlowAction}
    (h : Refines id bufferSize world window) (hpos : 0 < bufferSize)
    (hsettled : window.held = none →
      window.readCnt ≤ (flowSetup bufferSize).threshold)
    (hstep : world.step action = some world') :
    ∃ actions window',
      (Window.machine (flowSetup bufferSize)).run window actions =
        some window' ∧
      Refines id bufferSize world' window' ∧
      (world.inTurn action = true → .feed ∉ actions) := by
  have hmatched : ∃ actions,
      Matched id bufferSize world window action actions ∧
      (world.inTurn action = true → .feed ∉ actions) := by
    cases action with
    | pollReady cx sink => exact h.pollReady cx sink
    | startSend item =>
        simp only [FlowWorld.step, FlowWorld.startSend] at hstep
        split at hstep
        · next hphase => exact ⟨_, h.startSend hphase item, fun _ => by simp⟩
        · cases hstep
    | pollFlush sink =>
        obtain ⟨actions, hturn, hmatched⟩ := h.pollFlush sink
        exact ⟨actions, hmatched, fun _ => hturn⟩
    | deliverData =>
        refine ⟨_, h.deliverData hpos fun hnone => ?_, fun _ => by simp⟩
        simp [FlowWorld.step, hnone] at hstep
    | pollNext sink =>
        obtain ⟨actions, hturn, hmatched⟩ := h.pollNext hpos hsettled sink
        exact ⟨actions, hmatched, fun _ => hturn⟩
    | deliverContinue =>
        refine ⟨_, h.deliverContinue fun hnone => ?_, fun _ => by simp⟩
        simp [FlowWorld.step, hnone] at hstep
  obtain ⟨actions, ⟨next, window', hnext, hrun, hrefines⟩, hturn⟩ := hmatched
  rw [hstep] at hnext
  cases hnext
  exact ⟨actions, window', hrun, hrefines, hturn⟩

/-- The rest of this section goes the other way, in turn and with a transport
that answers at once: whatever the window does between two writes, the world
can do. -/
theorem write (h : Refines id bufferSize world window)
    (hphase : world.phase = .idle) (hcredit : 0 < window.credit)
    (item : Bytes) :
    ∃ world' window',
      FlowWorld.turnMachine.run world [.pollReady 0 .prompt, .startSend item,
        .pollFlush .prompt] = some world' ∧
      (Window.machine (flowSetup bufferSize)).run window
        [.prepare, .offer item, .send] = some window' ∧
      Refines id bufferSize world' window' ∧ world'.phase = .idle := by
  have hidle := h.sender_of_idle hphase
  have hchunk : world.client.write.chunk = none := by
    rcases h.sender_cases with
      ⟨-, hchunk, -⟩ | ⟨-, hchunk, -⟩ | ⟨other, -, -, hholding⟩
    · exact hchunk
    · exact hchunk
    · rw [hidle] at hholding
      cases hholding
  obtain ⟨world₁, window₁, hstep₁, hrun₁, h₁⟩ :=
    h.pollReady_of_credit hchunk hcredit 0 .prompt
  rw [hphase, if_neg nofun] at hrun₁
  have hready : window₁.sender = .ready := by
    simp [Window.machine, Window.step, hidle, hcredit] at hrun₁
    exact hrun₁ ▸ rfl
  have hphase₁ := h₁.phase_of_ready hready
  obtain ⟨world₂, window₂, hstep₂, hrun₂, h₂⟩ := h₁.startSend hphase₁ item
  have hholding : window₂.sender = .holding item := by
    simp [Window.machine, Window.step, hready] at hrun₂
    exact hrun₂ ▸ rfl
  obtain ⟨hflushing, hsaved⟩ := h₂.phase_of_holding hholding
  have hpoll := MuxStreamWrite.pollFlush_of_prompt h₂.isOpen.clientFlow hsaved
  obtain ⟨world₃, window₃, hstep₃, hrun₃, h₃⟩ :=
    h₂.pollFlush_of_sent hflushing hholding .prompt hpoll
  refine ⟨world₃, window₃, ?_, ?_, h₃, ?_⟩
  · simp [FlowWorld.turnMachine, FlowWorld.turnStep, FlowWorld.inTurn, hphase,
      hstep₁, hstep₂, hflushing, hstep₃]
  · exact Machine.run_append_of_eq_some _ hrun₁
      (Machine.run_append_of_eq_some _ hrun₂ hrun₃)
  · simp [FlowWorld.step, FlowWorld.pollFlush, FlowWorld.afterFlush,
      hflushing, hpoll] at hstep₃
    exact hstep₃ ▸ rfl

/-- Only the client's own polls change how far it is. -/
theorem phase_step {world' : FlowWorld} {action : FlowAction}
    (haction : action = .deliverData ∨ action = .pollNext .prompt ∨
      action = .deliverContinue)
    (hstep : world.step action = some world') :
    world'.phase = world.phase := by
  rcases haction with rfl | rfl | rfl
  · simp only [FlowWorld.step] at hstep
    split at hstep
    · cases hstep
    · split at hstep
      · cases hstep
        rfl
      · cases hstep
  · cases hstep
    rfl
  · simp only [FlowWorld.step] at hstep
    split at hstep
    · cases hstep
    · split at hstep
      · cases hstep
        rfl
      · cases hstep

/-- A read that answers at once, as the window's operation does it. -/
theorem read (h : Refines id bufferSize world window) (hpos : 0 < bufferSize)
    (hsettled : window.readCnt ≤ (flowSetup bufferSize).threshold)
    {item : Bytes} {rest : List Bytes}
    (hchunk : world.server.read.chunk = none)
    (hqueue : world.server.channel.queue = item :: rest) :
    Matched id bufferSize world window (.pollNext .prompt)
      (Operation.read.actions (flowSetup bufferSize) window) := by
  obtain ⟨mid, popped, hmid, hpop, hcount, hsaved, hsame⟩ :=
    h.pop hpos hsettled hchunk hqueue
  have hmatched : ∃ actions,
      Operation.read.actions (flowSetup bufferSize) window =
        .pop :: actions ∧
      Matched id bufferSize mid popped (.pollNext .prompt) actions := by
    simp only [Operation.actions, ← hcount]
    split
    · next hdue =>
        refine ⟨_, rfl, hmid.pollNext_of_announced hsaved hdue ?_⟩
        exact MuxStreamRead.deliver_of_prompt _ _
          (hmid.announces_iff.mpr hdue)
    · next hdue =>
        exact ⟨_, rfl, hmid.pollNext_of_settled hsaved (Nat.le_of_not_lt hdue)
          .prompt⟩
  obtain ⟨actions, hactions, world', window', hstep, hrun, hnext⟩ := hmatched
  refine ⟨world', window', ?_, ?_, hnext⟩
  · rw [hsame, hstep]
  · rw [hactions]
    simp [hpop, hrun]

/-- Whatever operation the window performs, the world can perform. -/
theorem operation (h : Refines id bufferSize world window)
    (hpos : 0 < bufferSize)
    (hsettled : window.held = none →
      window.readCnt ≤ (flowSetup bufferSize).threshold)
    (hphase : world.phase = .idle) {op : Operation Bytes}
    {next : Window Bytes}
    (hop : (Operation.machine (flowSetup bufferSize)).step window op =
      some next) :
    ∃ actions world', FlowWorld.turnMachine.run world actions = some world' ∧
      Refines id bufferSize world' next ∧ world'.phase = .idle := by
  have hsingle : ∀ action,
      action = .deliverData ∨ action = .pollNext .prompt ∨
        action = .deliverContinue →
      Matched id bufferSize world window action
        (op.actions (flowSetup bufferSize) window) →
      ∃ actions world', FlowWorld.turnMachine.run world actions = some world' ∧
        Refines id bufferSize world' next ∧ world'.phase = .idle := by
    rintro action haction ⟨world', window', hstep, hrun, hnext⟩
    obtain rfl : window' = next :=
      Option.some.inj (hrun.symm.trans hop)
    have hturn : world.inTurn action = true := by
      rcases haction with rfl | rfl | rfl
      · rfl
      · rfl
      · rfl
    refine ⟨[action], world', ?_, hnext, ?_⟩
    · simp [FlowWorld.turnMachine, FlowWorld.turnStep, hturn, hstep]
    · rw [phase_step haction hstep, hphase]
  cases op with
  | write item =>
      have hcredit : 0 < window.credit := by
        by_contra hzero
        simp [Operation.machine, Operation.actions, Window.machine,
          Window.step, h.sender_of_idle hphase, hzero] at hop
      obtain ⟨world', window', hrun, hwindow, hnext, hidle⟩ :=
        h.write hphase hcredit item
      obtain rfl : window' = next :=
        Option.some.inj (hwindow.symm.trans hop)
      exact ⟨_, world', hrun, hnext, hidle⟩
  | deliver =>
      refine hsingle .deliverData (.inl rfl) (h.deliverData hpos fun hnone => ?_)
      have hdata := h.data
      rw [hnone] at hdata
      simp [Operation.machine, Operation.actions, Window.machine, Window.step,
        List.map_eq_nil_iff.mp hdata.symm] at hop
  | read =>
      have hpop := hop
      simp only [Operation.machine, Operation.actions] at hpop
      have hstart : ∃ mid, (Window.machine (flowSetup bufferSize)).step window
          .pop = some mid := by
        split at hpop
        · exact (Machine.run_cons_eq_some _ hpop).imp fun _ h => h.1
        · exact (Machine.run_cons_eq_some _ hpop).imp fun _ h => h.1
      obtain ⟨mid, hmid⟩ := hstart
      simp only [Window.machine, Window.step] at hmid
      split at hmid
      · next item rest hheld hqueue =>
          exact hsingle (.pollNext .prompt) (.inr (.inl rfl)) (h.read hpos
            (hsettled hheld) (h.held.symm.trans hheld)
            (h.queue.symm.trans hqueue))
      · cases hmid
  | update =>
      refine hsingle .deliverContinue (.inr (.inr rfl))
        (h.deliverContinue fun hnone => ?_)
      obtain ⟨credits, hannounced, hflight⟩ := h.announced
      rw [hnone] at hflight
      rw [List.map_eq_nil_iff.mp hflight.symm] at hannounced
      simp [Operation.machine, Operation.actions, Window.machine, Window.step,
        hannounced] at hop

end Refines

namespace FlowWorld

variable {id bufferSize : UInt32} {world : FlowWorld}

theorem capacity_le_limit (bufferSize : UInt32) :
    (flowSetup bufferSize).capacity ≤ (flowSetup bufferSize).limit := by
  have hlt := bufferSize.toNat_lt
  simp only [flowSetup]
  omega

theorem threshold_lt_capacity (hpos : 0 < bufferSize) :
    (flowSetup bufferSize).threshold < (flowSetup bufferSize).capacity := by
  rw [UInt32.lt_iff_toNat_lt] at hpos
  change 0 < bufferSize.toNat at hpos
  simp only [flowSetup]
  omega

/-- A step of a world and what it stands for. -/
theorem exists_window_step (hpos : 0 < bufferSize) {window : Window Bytes}
    {next : FlowWorld} {action : FlowAction}
    (hrefines : Refines id bufferSize world window)
    (hfunded : Window.Funded (flowSetup bufferSize) window)
    (hstep : world.step action = some next) :
    ∃ actions window',
      (Window.machine (flowSetup bufferSize)).run window actions =
        some window' ∧
      Refines id bufferSize next window' ∧
      Window.Funded (flowSetup bufferSize) window' ∧
      (world.inTurn action = true → .feed ∉ actions) := by
  obtain ⟨actions, window', hrun, hnext, hturn⟩ :=
    hrefines.step hpos hfunded.settled hstep
  refine ⟨actions, window', hrun, hnext, ?_, hturn⟩
  exact Machine.run_invariant _
    (fun _ _ _ hold => hold.step (capacity_le_limit bufferSize)) hfunded hrun

/-- Every reachable world stands for a window whose sender has its credit. -/
theorem exists_window (hpos : 0 < bufferSize)
    (hreach : machine.Reachable (init id bufferSize) world) :
    ∃ window, Refines id bufferSize world window ∧
      Window.Funded (flowSetup bufferSize) window := by
  obtain ⟨window, -, hrefines⟩ := Machine.Reachable.simulate
    (N := Window.machine (flowSetup bufferSize))
    (fun world window => Refines id bufferSize world window ∧
      Window.Funded (flowSetup bufferSize) window) (fun world window action
        next hrel hstep => by
      obtain ⟨actions, window', hrun, hnext, hfunded, -⟩ :=
        exists_window_step hpos hrel.1 hrel.2 hstep
      exact ⟨actions, window', hrun, hnext, hfunded⟩)
    ⟨.init id bufferSize, .init (flowSetup bufferSize)⟩ hreach
  exact ⟨window, hrefines⟩

/-- No credit deadlock: a quiescent stream has credit, even after payloads
were dropped or sent on credit that was already spent. -/
theorem credit_pos_of_quiescent (id bufferSize : UInt32)
    (hpos : 0 < bufferSize) (world : FlowWorld)
    (hreach : machine.Reachable (init id bufferSize) world)
    (hquiescent : world.Quiescent) : 0 < world.client.info.flowControl := by
  obtain ⟨window, hrefines, hfunded⟩ := exists_window hpos hreach
  have hwindow : window.Quiescent := by
    refine ⟨?_, ?_, ?_, ?_⟩
    · have hdata := hrefines.data
      rw [hquiescent.toServer] at hdata
      exact List.map_eq_nil_iff.mp hdata.symm
    · obtain ⟨credits, hannounced, hflight⟩ := hrefines.announced
      rw [hquiescent.toClient] at hflight
      rw [hannounced, List.map_eq_nil_iff.mp hflight.symm]
      rfl
    · exact hrefines.queue.trans hquiescent.queue
    · exact hrefines.held.trans hquiescent.chunk
  have hcredit := hfunded.credit_pos (threshold_lt_capacity hpos) hwindow
  rw [hrefines.credit] at hcredit
  rw [UInt32.lt_iff_toNat_lt]
  exact hcredit

/-- Two payloads are fed with credit for one; the second finds the server's
channel full, and the first is read and paid for. -/
def twoFeeds : List FlowAction :=
  [.pollReady 0 .prompt, .startSend [7], .pollReady 0 .prompt, .startSend [8],
    .pollFlush .prompt, .deliverData, .deliverData, .pollNext .prompt,
    .deliverContinue]

theorem credit_pos_after_twoFeeds :
    ∃ world, machine.run (init 1 1) twoFeeds = some world ∧
      world.dropped = [[8]] ∧ 0 < world.client.info.flowControl := by
  have hrun : (machine.run (init 1 1) twoFeeds).isSome = true := rfl
  refine ⟨_, (Option.some_get hrun).symm, rfl, ?_⟩
  exact credit_pos_of_quiescent 1 1 (by decide) _
    ⟨twoFeeds, (Option.some_get hrun).symm⟩ ⟨rfl, rfl, rfl, rfl⟩

/-- Up to ten slots, 90% of the buffer is one slot short of all of it. -/
theorem threshold_eq_iff (hpos : 0 < bufferSize) :
    (flowSetup bufferSize).threshold + 1 = (flowSetup bufferSize).capacity ↔
      bufferSize ≤ 10 := by
  rw [UInt32.lt_iff_toNat_lt] at hpos
  change 0 < bufferSize.toNat at hpos
  rw [UInt32.le_iff_toNat_le]
  change bufferSize.toNat * 90 / 100 + 1 = bufferSize.toNat ↔
    bufferSize.toNat ≤ 10
  omega

/-- A world whose client keeps to its turn stands for a window that loses
nothing. -/
theorem exists_ledger (hpos : 0 < bufferSize) (hsmall : bufferSize ≤ 10)
    (hreach : turnMachine.Reachable (init id bufferSize) world) :
    ∃ window, Refines id bufferSize world window ∧
      Window.Ledger (flowSetup bufferSize) window := by
  have hthreshold := (threshold_eq_iff hpos).mpr hsmall
  have hkeep : ∀ (world : FlowWorld) action next,
      (∃ window, Refines id bufferSize world window ∧
        Window.Funded (flowSetup bufferSize) window ∧
        Window.Ledger (flowSetup bufferSize) window) →
      turnMachine.step world action = some next →
      ∃ window, Refines id bufferSize next window ∧
        Window.Funded (flowSetup bufferSize) window ∧
        Window.Ledger (flowSetup bufferSize) window := by
    rintro world action next ⟨window, hrefines, hfunded, hledger⟩ hstep
    obtain ⟨hturn, hstep⟩ := step_of_turnStep hstep
    obtain ⟨actions, window', hrun, hnext, hfunded, hfeed⟩ :=
      exists_window_step hpos hrefines hfunded hstep
    exact ⟨window', hnext, hfunded, hledger.run hthreshold
      (capacity_le_limit bufferSize) (hfeed hturn) hrun⟩
  obtain ⟨window, hrefines, -, hledger⟩ := hreach.invariant hkeep
    ⟨.init (flowSetup bufferSize), .init id bufferSize,
      .init (flowSetup bufferSize), .init (UInt32.lt_iff_toNat_lt.mp hpos)⟩
  exact ⟨window, hrefines, hledger⟩

theorem noLoss_of_le (hpos : 0 < bufferSize) (hsmall : bufferSize ≤ 10)
    (hreach : turnMachine.Reachable (init id bufferSize) world) :
    world.NoLoss := by
  obtain ⟨window, hrefines, hledger⟩ := exists_ledger hpos hsmall hreach
  obtain ⟨hdropped, hbegins⟩ := hledger.lossless
  rw [hrefines.dropped] at hdropped
  rw [hrefines.obtained, hrefines.written] at hbegins
  exact ⟨hdropped, hbegins⟩

/-- An announcement that does not wait for the whole buffer pays twice for a
payload that the client sends before it arrives. -/
theorem exists_loss (id : UInt32) (hlarge : 10 < bufferSize) :
    ∃ world, turnMachine.Reachable (init id bufferSize) world ∧
      ¬world.NoLoss := by
  have hpos : 0 < bufferSize := UInt32.lt_trans (by decide) hlarge
  have hearly : (flowSetup bufferSize).threshold + 2 ≤
      (flowSetup bufferSize).capacity := by
    rw [UInt32.lt_iff_toNat_lt] at hlarge
    change 10 < bufferSize.toNat at hlarge
    simp only [flowSetup]
    omega
  obtain ⟨window, hwindow, hdropped⟩ :=
    Window.exists_overflow ([] : Bytes) hearly (capacity_le_limit bufferSize)
  have hsimulated : ∃ world, turnMachine.Reachable (init id bufferSize) world ∧
      Refines id bufferSize world window ∧
      Window.Funded (flowSetup bufferSize) window ∧ world.phase = .idle := by
    refine Machine.Reachable.simulate
      (fun window world => Refines id bufferSize world window ∧
        Window.Funded (flowSetup bufferSize) window ∧ world.phase = .idle) ?_
      ⟨.init id bufferSize, .init (flowSetup bufferSize), rfl⟩ hwindow
    rintro window world op next ⟨hrefines, hfunded, hphase⟩ hop
    obtain ⟨actions, world', hrun, hnext, hidle⟩ :=
      hrefines.operation hpos hfunded.settled hphase hop
    refine ⟨actions, world', hrun, hnext, ?_, hidle⟩
    exact Machine.run_invariant _
      (fun _ _ _ hold => hold.step (capacity_le_limit bufferSize)) hfunded hop
  obtain ⟨world, hreach, hrefines, _⟩ := hsimulated
  refine ⟨world, hreach, fun hnoLoss => hdropped ?_⟩
  rw [hrefines.dropped]
  exact hnoLoss.1

/-- Flow control loses nothing exactly when the server buffers at most ten
payloads. -/
theorem noLoss_iff (id bufferSize : UInt32) (hpos : 0 < bufferSize) :
    (∀ world, turnMachine.Reachable (init id bufferSize) world → world.NoLoss) ↔
      bufferSize ≤ 10 := by
  constructor
  · intro hall
    by_contra hlarge
    obtain ⟨world, hreach, hloss⟩ := exists_loss id (UInt32.not_le.mp hlarge)
    exact hloss (hall world hreach)
  · exact fun hsmall world hreach => noLoss_of_le hpos hsmall hreach

theorem noLoss_iff_of_ten :
    (∀ world, turnMachine.Reachable (init 1 10) world → world.NoLoss) ↔
      (10 : UInt32) ≤ 10 :=
  noLoss_iff 1 10 (by decide)

/-- Ten payloads fill eleven slots but one; all are read, which announces
eleven slots; the last credit and the eleven new ones are spent. -/
def overshoot : List FlowAction :=
  let write := [.pollReady 0 .prompt, .startSend [7], .pollFlush .prompt]
  (List.replicate 10 write).flatten ++ List.replicate 10 .deliverData ++
    List.replicate 10 (.pollNext .prompt) ++ write ++ [.deliverContinue] ++
    (List.replicate 11 write).flatten ++ List.replicate 12 .deliverData

/-- The twelfth payload finds eleven slots taken. -/
theorem loss_of_overshoot :
    ∃ world, turnMachine.run (init 1 11) overshoot = some world ∧
      world.dropped = [[7]] ∧ ¬world.NoLoss := by
  have hrun : (turnMachine.run (init 1 11) overshoot).isSome = true := rfl
  have hdropped :
      ((turnMachine.run (init 1 11) overshoot).get hrun).dropped = [[7]] := rfl
  refine ⟨_, (Option.some_get hrun).symm, hdropped, fun hnoLoss => ?_⟩
  rw [hnoLoss.1] at hdropped
  cases hdropped

end FlowWorld

end Epoxy
