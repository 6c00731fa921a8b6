/-
The credit of a stream whose sink is driven by any callers.  `poll_ready` looks
at the credit before it pays for the payload that was saved by the last
`start_send`, and not after it; a caller that feeds payloads without flushing
in between can so be let through on credit that is already spent.
-/
import Epoxy.ContinueFlush

namespace Epoxy

open ActionMachine ByteCursor PollChannel

/-- `allowed`: the sink has been ready since the last `start_send`.  `budget`
is the credit that was last set, `spent` counts the payloads handed to the
transport since then. -/
structure SpendWorld where
  stream : Stream
  allowed : Bool
  budget : Nat
  spent : Nat

inductive SinkCall where
  | pollReady (actorGone : Bool) (cx : Waker) (sink : SinkAnswers)
  | startSend (item : Bytes)
  | pollFlush (sink : SinkAnswers)
  /-- A Continue packet for the stream. -/
  | credit (pkt : ContinuePacket)

namespace SpendWorld

def init (id bufferSize : UInt32) : SpendWorld where
  stream := .new id .enabledTrackAmount bufferSize
  allowed := false
  budget := bufferSize.toNat
  spent := 0

def credit (world : SpendWorld) : Nat := world.stream.info.flowControl.toNat

def afterPoll (world : SpendWorld) (result : WritePoll) : SpendWorld :=
  { world with
    stream := { world.stream with write := result.write, info := result.info }
    spent := world.spent + result.sent.length }

/-- `start_send` may only be called once `poll_ready` has allowed it. -/
def step (world : SpendWorld) : SinkCall → Option SpendWorld
  | .pollReady actorGone cx sink =>
      let result := world.stream.write.pollReady world.stream.info actorGone
        cx sink
      some { world.afterPoll result with
        allowed := world.allowed || MuxStreamWrite.isReadyOk result.answer }
  | .startSend item =>
      if world.allowed then
        some { world with
          stream := { world.stream with
            write := world.stream.write.startSend item }
          allowed := false }
      else none
  | .pollFlush sink =>
      some (world.afterPoll (world.stream.write.pollFlush world.stream.info
        sink))
  | .credit pkt =>
      some { world with
        stream := ClientActor.handleContinuePacket world.stream pkt
        budget := pkt.bufferRemaining.toNat
        spent := 0 }

def machine : Machine SpendWorld SinkCall := ⟨step⟩

/-- No more has been sent than was allowed, and what waits to be sent is
covered. -/
structure WithinCredit (world : SpendWorld) : Prop where
  spent : world.spent ≤ world.budget
  covered : world.stream.write.chunk.isSome = true → 0 < world.credit

/-- The last credit goes to the saved payload and the caller is told to go on,
or the credit is taken back from a payload that was let through. -/
def SpendsAhead (world : SpendWorld) : SinkCall → Prop
  | .pollReady actorGone _ sink =>
      actorGone = false ∧ world.stream.write.chunk.isSome = true ∧
        world.credit = 1 ∧
        sink.pollLock world.stream.write.locked = .ready () ∧
        sink.ready = .ready (.ok ()) ∧ sink.send = .ok ()
  | .credit pkt =>
      pkt.bufferRemaining = 0 ∧
        (world.stream.write.chunk.isSome = true ∨ world.allowed = true)
  | _ => False

/-- What holds in every state: the credit is what is left of the budget, and
nobody is let through while a payload is saved. -/
structure Counted (world : SpendWorld) : Prop where
  flowStatus : world.stream.info.flowStatus = .enabledTrackAmount
  credit : world.credit = world.budget - world.spent
  chunk : world.allowed = true → world.stream.write.chunk = none

/-- Whoever may send, or has something to send, has credit for it. -/
structure Covered (world : SpendWorld) : Prop extends Counted world where
  spent : world.spent ≤ world.budget
  owed : world.allowed = true ∨ world.stream.write.chunk.isSome = true →
    0 < world.credit

theorem counted_init (id bufferSize : UInt32) : Counted (init id bufferSize) :=
  ⟨rfl, (Nat.sub_zero _).symm, fun _ => rfl⟩

theorem covered_init (id bufferSize : UInt32) :
    Covered (init id bufferSize) := by
  refine ⟨counted_init id bufferSize, Nat.zero_le _, ?_⟩
  rintro (hallowed | hchunk)
  · cases hallowed
  · cases hchunk

/-- What a poll of the writing half leaves of the payload and the credit. -/
inductive Polled (world : SpendWorld) (result : WritePoll) : Prop where
  /-- Nothing is sent; a payload that the transport refuses is dropped. -/
  | kept (hchunk : result.write.chunk = world.stream.write.chunk ∨
        result.write.chunk = none)
      (hcredit : result.info.flowControl = world.stream.info.flowControl)
      (hsent : result.sent = [])
  | paid (hsome : world.stream.write.chunk.isSome = true)
      (hchunk : result.write.chunk = none)
      (hcredit : result.info.flowControl.toNat = world.credit - 1)
      (hsent : result.sent.length = 1)

variable {world next : SpendWorld} {call : SinkCall}

theorem flowEmpty_iff : world.stream.info.flowEmpty = true ↔ world.credit = 0 :=
  StreamInfo.flowEmpty_iff

/-- A write that does not succeed costs nothing. -/
theorem polled_of_lockedWritten {sink : SinkAnswers} {result : WritePoll}
    (hwritten : MuxStreamWrite.LockedWritten world.stream.write
      world.stream.info sink result)
    (hanswer : result.answer ≠ .ready (.ok ())) : world.Polled result := by
  cases hwritten with
  | notReady | failed => exact .kept (.inl rfl) rfl rfl
  | refused => exact .kept (.inr rfl) rfl rfl
  | nothing | written => exact absurd rfl hanswer

theorem polled_pollReady {actorGone : Bool} {cx : Waker} {sink : SinkAnswers}
    {result : WritePoll} (hcounted : Counted world)
    (h : MuxStreamWrite.PolledReady world.stream.write world.stream.info
      actorGone cx sink result) : world.Polled result := by
  cases h with
  | closed | parked | nothing | lockTaken => exact .kept (.inl rfl) rfl rfl
  | kept _ _ _ _ _ hwritten hanswer =>
      exact polled_of_lockedWritten hwritten hanswer
  | written chunk _ _ hchunk =>
      exact .paid (Option.isSome_of_eq_some hchunk) rfl
        (BufferedFlow.toNat_flowControl_paid hcounted.flowStatus) rfl

theorem polled_pollFlush {sink : SinkAnswers} {result : WritePoll}
    (hcounted : Counted world)
    (h : MuxStreamWrite.PolledFlush world.stream.write world.stream.info
      sink result) : world.Polled result := by
  cases h with
  | lockTaken | nothing => exact .kept (.inl rfl) rfl rfl
  | kept _ _ _ hwritten hanswer =>
      exact polled_of_lockedWritten hwritten hanswer
  | written chunk hchunk =>
      exact .paid (Option.isSome_of_eq_some hchunk) rfl
        (BufferedFlow.toNat_flowControl_paid hcounted.flowStatus) rfl

/-- Whoever is told to go on has no saved payload left, and there was credit
at the head of the poll. -/
theorem pollReady_of_ok {actorGone : Bool} {cx : Waker} {sink : SinkAnswers}
    {result : WritePoll} (hcounted : Counted world)
    (h : MuxStreamWrite.PolledReady world.stream.write world.stream.info
      actorGone cx sink result)
    (hok : MuxStreamWrite.isReadyOk result.answer = true) :
    result.write.chunk = none ∧ 0 < world.credit := by
  have hsome : ∀ {info : StreamInfo}, info = world.stream.info →
      ¬ (info.flowStatus = .enabledTrackAmount ∧ info.flowEmpty = true) →
      0 < world.credit := by
    rintro _ rfl hcredit
    rw [flowEmpty_iff] at hcredit
    exact Nat.pos_of_ne_zero fun hzero => hcredit ⟨hcounted.flowStatus, hzero⟩
  cases h with
  | closed | parked | lockTaken => cases hok
  | nothing _ hcredit hchunk => exact ⟨hchunk, hsome rfl hcredit⟩
  | written _ _ hcredit => exact ⟨rfl, hsome rfl hcredit⟩
  | kept _ _ _ _ _ _ hanswer =>
      exact absurd (MuxStreamWrite.isReadyOk_iff.mp hok) hanswer

/-- What has to be true for `poll_ready` to pay. -/
theorem spendsAhead_of_paid {actorGone : Bool} {cx : Waker}
    {sink : SinkAnswers} {result : WritePoll}
    (h : MuxStreamWrite.PolledReady world.stream.write world.stream.info
      actorGone cx sink result) (hsent : result.sent ≠ [])
    (hlast : world.credit = 1) :
    SpendsAhead world (.pollReady actorGone cx sink) := by
  cases h with
  | closed | parked | nothing | lockTaken => exact absurd rfl hsent
  | written _ hgone _ hchunk hlock hready hsend =>
      exact ⟨hgone, Option.isSome_of_eq_some hchunk, hlast, hlock, hready,
        hsend⟩
  | kept _ _ _ _ _ hwritten hanswer =>
      cases hwritten with
      | notReady | failed | refused | nothing => exact absurd rfl hsent
      | written => exact absurd rfl hanswer

theorem credit_handleContinuePacket (hcounted : Counted world)
    (pkt : ContinuePacket) :
    (ClientActor.handleContinuePacket world.stream pkt).info.flowControl =
      pkt.bufferRemaining := by
  rw [ClientActor.handleContinuePacket, if_pos hcounted.flowStatus]
  rfl

theorem write_handleContinuePacket (stream : Stream) (pkt : ContinuePacket) :
    (ClientActor.handleContinuePacket stream pkt).write = stream.write := by
  unfold ClientActor.handleContinuePacket
  split
  · rfl
  · rfl

/-- A poll keeps the account, whatever it lets the caller do next. -/
theorem Counted.afterPoll {result : WritePoll} (hcounted : Counted world)
    (hpolled : world.Polled result)
    (hstatus : result.info.flowStatus = world.stream.info.flowStatus)
    {allowed : Bool}
    (hallowed : allowed = true →
      world.allowed = true ∨ result.write.chunk = none) :
    Counted { world.afterPoll result with allowed } := by
  have hkept : allowed = true → world.stream.write.chunk = none ∨
      result.write.chunk = none := by
    intro h
    exact (hallowed h).imp_left hcounted.chunk
  have hbalance := hcounted.credit
  cases hpolled with
  | kept hchunk hcredit hsent =>
      refine ⟨hstatus.trans hcounted.flowStatus, ?_, fun h => ?_⟩
      · simp only [SpendWorld.credit, SpendWorld.afterPoll, hcredit, hsent,
          List.length_nil, Nat.add_zero]
        exact hbalance
      · rcases hchunk with hchunk | hchunk
        · exact (hkept h).elim hchunk.trans id
        · exact hchunk
  | paid _ hchunk hcredit hsent =>
      refine ⟨hstatus.trans hcounted.flowStatus, ?_, fun _ => hchunk⟩
      simp only [SpendWorld.credit, SpendWorld.afterPoll, hsent] at *
      omega

theorem counted_step (h : Counted world) (hstep : world.step call = some next) :
    Counted next := by
  cases call with
  | pollReady actorGone cx sink =>
      cases hstep
      have hpoll := world.stream.write.polledReady world.stream.info actorGone
        cx sink
      refine h.afterPoll (polled_pollReady h hpoll) hpoll.sameInfo.flowStatus ?_
      intro hallowed
      rw [Bool.or_eq_true] at hallowed
      exact hallowed.imp_right fun hok => (pollReady_of_ok h hpoll hok).1
  | startSend item =>
      simp only [step] at hstep
      split at hstep
      · cases hstep
        exact ⟨h.flowStatus, h.credit, fun hallowed => by cases hallowed⟩
      · cases hstep
  | pollFlush sink =>
      cases hstep
      have hpoll := world.stream.write.polledFlush world.stream.info sink
      have hstatus := hpoll.sameInfo.flowStatus
      exact h.afterPoll (polled_pollFlush h hpoll) hstatus .inl
  | credit pkt =>
      cases hstep
      refine ⟨?_, ?_, fun hallowed => ?_⟩
      · rw [(SameStream.handleContinuePacket _ _).info.flowStatus]
        exact h.flowStatus
      · simp only [credit, credit_handleContinuePacket h, Nat.sub_zero]
      · rw [write_handleContinuePacket]
        exact h.chunk hallowed

/-- Payment keeps within the budget where credit is left, and lets nobody go
on without credit as long as it is not the last. -/
theorem Covered.afterPoll {result : WritePoll} (h : Covered world)
    (hpolled : world.Polled result) {allowed : Bool}
    (hcounted : Counted { world.afterPoll result with allowed })
    (hallowed : allowed = true → world.allowed = true ∨ 0 < world.credit)
    (hahead : result.sent ≠ [] → allowed = true → world.credit ≠ 1) :
    Covered { world.afterPoll result with allowed } := by
  have hbalance := h.credit
  have howed := h.owed
  have hspent := h.spent
  cases hpolled with
  | kept hchunk hcredit hsent =>
      refine ⟨hcounted, by simpa [SpendWorld.afterPoll, hsent] using hspent, ?_⟩
      simp only [SpendWorld.credit, SpendWorld.afterPoll, hcredit] at *
      rintro (hnow | hsome)
      · exact (hallowed hnow).elim (fun hbefore => howed (.inl hbefore)) id
      · rcases hchunk with hchunk | hchunk
        · exact howed (.inr (hchunk ▸ hsome))
        · rw [hchunk] at hsome
          cases hsome
  | paid hsome hchunk hcredit hsent =>
      have hpositive := howed (.inr hsome)
      have hne : result.sent ≠ [] := by
        rintro heq
        rw [heq] at hsent
        cases hsent
      refine ⟨hcounted, ?_, ?_⟩
      · simp only [SpendWorld.credit, SpendWorld.afterPoll, hsent] at *
        omega
      · simp only [SpendWorld.credit, SpendWorld.afterPoll, hcredit,
          hchunk] at *
        rintro (hnow | hsome)
        · have := hahead hne hnow
          omega
        · cases hsome

theorem covered_step (h : Covered world) (hahead : ¬ SpendsAhead world call)
    (hstep : world.step call = some next) : Covered next := by
  have hcounted := counted_step h.toCounted hstep
  cases call with
  | pollReady actorGone cx sink =>
      cases hstep
      have hpoll := world.stream.write.polledReady world.stream.info actorGone
        cx sink
      refine h.afterPoll (polled_pollReady h.toCounted hpoll) hcounted ?_ ?_
      · intro hallowed
        rw [Bool.or_eq_true] at hallowed
        exact hallowed.imp_right
          fun hok => (pollReady_of_ok h.toCounted hpoll hok).2
      · intro hsent _ hlast
        exact hahead (spendsAhead_of_paid hpoll hsent hlast)
  | startSend item =>
      simp only [step] at hstep
      split at hstep
      · next hallowed =>
          cases hstep
          exact ⟨hcounted, h.spent, fun _ => h.owed (.inl hallowed)⟩
      · cases hstep
  | pollFlush sink =>
      cases hstep
      have hpoll := world.stream.write.polledFlush world.stream.info sink
      have hpolled := polled_pollFlush h.toCounted hpoll
      refine h.afterPoll hpolled hcounted .inl ?_
      intro hsent hallowed
      cases hpolled with
      | kept _ _ hnone => exact absurd hnone hsent
      | paid hsome =>
          rw [h.chunk hallowed] at hsome
          cases hsome
  | credit pkt =>
      cases hstep
      refine ⟨hcounted, Nat.zero_le _, fun howed => ?_⟩
      rw [write_handleContinuePacket] at howed
      simp only [credit, credit_handleContinuePacket h.toCounted]
      apply Nat.pos_of_ne_zero
      intro hzero
      exact hahead ⟨UInt32.toNat_inj.mp hzero, howed.symm⟩

theorem withinCredit_of_covered (h : Covered world) : WithinCredit world :=
  ⟨h.spent, fun hchunk => h.owed (.inr hchunk)⟩

/-- A run that does not spend ahead stays within the credit. -/
theorem withinCredit_of_run {id bufferSize : UInt32} {calls : List SinkCall}
    (hahead : machine.Meets (fun world call => ¬ SpendsAhead world call)
      (init id bufferSize) calls)
    (hrun : machine.run (init id bufferSize) calls = some world) :
    WithinCredit world := by
  apply withinCredit_of_covered
  exact machine.run_invariant_of_meets (fun _ _ _ => covered_step)
    (covered_init id bufferSize) hahead hrun

/-- A payload that is saved without credit is sent by the next flush. -/
theorem exists_overspent_of_saved (h : Counted world) (hzero : world.credit = 0)
    (hchunk : world.stream.write.chunk.isSome = true) :
    ∃ last, machine.Reachable world last ∧ last.budget < last.spent := by
  obtain ⟨item, hitem⟩ := Option.isSome_iff_exists.mp hchunk
  have hflush := MuxStreamWrite.pollFlush_of_prompt h.flowStatus hitem
  refine ⟨_, ⟨[.pollFlush .prompt], rfl⟩, ?_⟩
  have hbalance := h.credit
  simp only [hflush, afterPoll, List.length_singleton]
  omega

/-- A caller that is let through without credit sends all the same. -/
theorem exists_overspent_of_allowed (h : Counted world)
    (hzero : world.credit = 0) (hallowed : world.allowed = true) :
    ∃ last, machine.Reachable world last ∧ last.budget < last.spent := by
  have hstep : world.step (.startSend []) = some { world with
      stream := { world.stream with write := world.stream.write.startSend [] }
      allowed := false } := by
    simp [step, hallowed]
  obtain ⟨last, hreach, hspent⟩ := exists_overspent_of_saved
    (counted_step h hstep) hzero rfl
  have hcall : machine.step world (.startSend []) = _ := hstep
  exact ⟨last, .of_step hcall hreach, hspent⟩

/-- The last credit is gone and the caller goes on. -/
theorem pollReady_of_spendsAhead (h : Counted world) {actorGone : Bool}
    {cx : Waker} {sink : SinkAnswers}
    (hahead : SpendsAhead world (.pollReady actorGone cx sink))
    (hstep : world.step (.pollReady actorGone cx sink) = some next) :
    next.credit = 0 ∧ next.allowed = true := by
  obtain ⟨hgone, hchunk, hlast, hlock, hready, hsend⟩ := hahead
  cases hstep
  have hpoll := world.stream.write.polledReady world.stream.info actorGone cx
    sink
  generalize world.stream.write.pollReady world.stream.info actorGone cx sink =
    result at hpoll ⊢
  cases hpoll with
  | closed hclosed =>
      rw [hgone] at hclosed
      cases hclosed
  | parked _ hempty =>
      have hzero := flowEmpty_iff.mp hempty.2
      omega
  | nothing _ _ hnone =>
      rw [hnone] at hchunk
      cases hchunk
  | lockTaken _ _ _ hwait =>
      rw [hlock] at hwait
      cases hwait
  | written =>
      refine ⟨?_, Bool.or_true _⟩
      have hpaid := BufferedFlow.toNat_flowControl_paid h.flowStatus
      exact hpaid.trans (Nat.sub_eq_zero_of_le (Nat.le_of_eq hlast))
  | kept _ _ _ _ _ hwritten hanswer =>
      cases hwritten with
      | notReady hwait =>
          rw [hready] at hwait
          cases hwait
      | failed _ hfailed =>
          rw [hready] at hfailed
          cases hfailed
      | refused _ _ _ _ hrefused =>
          rw [hsend] at hrefused
          cases hrefused
      | nothing | written => exact absurd rfl hanswer

theorem exists_overspent (h : Counted world) (hahead : SpendsAhead world call)
    (hstep : world.step call = some next) :
    ∃ last, machine.Reachable next last ∧ last.budget < last.spent := by
  have hnext := counted_step h hstep
  cases call with
  | pollReady actorGone cx sink =>
      obtain ⟨hzero, hallowed⟩ := pollReady_of_spendsAhead h hahead hstep
      exact exists_overspent_of_allowed hnext hzero hallowed
  | credit pkt =>
      obtain ⟨hpkt, howed⟩ := hahead
      cases hstep
      have hzero : (ClientActor.handleContinuePacket world.stream
          pkt).info.flowControl.toNat = 0 := by
        rw [credit_handleContinuePacket h, hpkt]
        rfl
      rcases howed with hchunk | hallowed
      · apply exists_overspent_of_saved hnext hzero
        rwa [write_handleContinuePacket]
      · exact exists_overspent_of_allowed hnext hzero hallowed
  | startSend | pollFlush => cases hahead

/-- A run whose calls do not spend ahead never sends more payloads than there
is credit for, and every call that does can be followed by more than that. -/
theorem withinCredit_only_without_spending_ahead (id bufferSize : UInt32) :
    (∀ calls world, machine.run (init id bufferSize) calls = some world →
      machine.Meets (fun world call => ¬ SpendsAhead world call)
        (init id bufferSize) calls →
      WithinCredit world) ∧
    ∀ world call next, machine.Reachable (init id bufferSize) world →
      SpendsAhead world call → world.step call = some next →
      ∃ last, machine.Reachable next last ∧ last.budget < last.spent := by
  constructor
  · intro calls world hrun hahead
    exact withinCredit_of_run hahead hrun
  · intro world call next hreach hahead hstep
    have hcounted := hreach.invariant (fun _ _ _ => counted_step)
      (counted_init id bufferSize)
    exact exists_overspent hcounted hahead hstep

/-- Two payloads are fed before the flush, with credit for one. -/
theorem not_withinCredit_of_two_feeds :
    ∃ world, machine.run (init 1 1)
        [.pollReady false 0 .prompt, .startSend [7],
          .pollReady false 0 .prompt, .startSend [8],
          .pollFlush .prompt] = some world ∧
      ¬ WithinCredit world := by
  refine ⟨_, rfl, ?_⟩
  rintro ⟨hspent, -⟩
  exact absurd hspent (by decide)

end SpendWorld

end Epoxy
