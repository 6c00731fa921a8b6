/-
A writer that goes to sleep while the actor handles Continue packets.  The two
tasks share one stream record, and each call of one of its methods is a step:
the writer tests for credit and then registers its waker, the actor sets the
credit and then wakes whoever is registered.
-/
import Epoxy.MuxInner

namespace Epoxy

open ActionMachine ByteCursor PollChannel

inductive WriterPlace where
  | outside
  /-- `poll_ready` has found no credit, and registers its waker next. -/
  | unregistered (cx : Waker)
  /-- `poll_ready` has returned `Pending`. -/
  | parked (cx : Waker)
deriving Repr, DecidableEq

inductive ActorPlace where
  | betweenPackets
  /-- The credit is set, and `flow_wake` is called next. -/
  | unwoken
deriving Repr, DecidableEq

/-- `called` are the wakers that were called since the writer registered. -/
structure CreditWait where
  info : StreamInfo
  writer : WriterPlace
  actor : ActorPlace
  called : List Waker
deriving Repr, DecidableEq

inductive CreditWaitAction where
  /-- `poll_ready` starts, with the task's waker. -/
  | flowEmpty (cx : Waker)
  /-- `poll_ready` registers and returns; the return touches nothing shared. -/
  | flowRegister
  /-- The writer pays for a packet, between its polls. -/
  | flowDec
  /-- A Continue packet is handled. -/
  | flowSet (amt : UInt32)
  | flowWake
deriving Repr, DecidableEq

namespace CreditWait

def init (id credit : UInt32) : CreditWait :=
  ⟨.new id .enabledTrackAmount credit, .outside, .betweenPackets, []⟩

def step (world : CreditWait) : CreditWaitAction → Option CreditWait
  | .flowEmpty cx =>
      match world.writer with
      | .unregistered _ => none
      | _ =>
          if world.info.flowEmpty then
            some { world with writer := .unregistered cx }
          else some { world with writer := .outside }
  | .flowRegister =>
      match world.writer with
      | .unregistered cx =>
          some { world with
            info := world.info.flowRegister cx
            writer := .parked cx
            called := [] }
      | _ => none
  | .flowDec =>
      match world.writer with
      | .unregistered _ => none
      | _ => some { world with info := world.info.flowDec }
  | .flowSet amt =>
      match world.actor with
      | .betweenPackets =>
          some { world with info := world.info.flowSet amt, actor := .unwoken }
      | .unwoken => none
  | .flowWake =>
      match world.actor with
      | .unwoken =>
          let (info, waker) := world.info.flowWake
          some { world with
            info
            actor := .betweenPackets
            called := world.called ++ waker.toList }
      | .betweenPackets => none

def machine : Machine CreditWait CreditWaitAction := ⟨step⟩

/-- The writer's two steps, with nothing in between, are the poll that finds
no credit. -/
theorem run_pollReady {world : CreditWait} (write : MuxStreamWrite)
    (sink : SinkAnswers) (cx : Waker) (hwriter : world.writer = .outside)
    (hflow : world.info.flowStatus = .enabledTrackAmount)
    (hempty : world.info.flowEmpty = true) :
    (write.pollReady world.info false cx sink).answer = .pending ∧
      machine.run world [.flowEmpty cx, .flowRegister] =
        some { world with
          info := (write.pollReady world.info false cx sink).info
          writer := .parked cx
          called := [] } := by
  rw [MuxStreamWrite.pollReady_of_flowEmpty hflow hempty]
  refine ⟨rfl, ?_⟩
  simp [machine, step, hwriter, hempty]

/-- The actor's two steps, with nothing in between, are the handler of the
Continue packet. -/
theorem run_handleContinuePacket {world : CreditWait} {stream : Stream}
    (pkt : ContinuePacket) (hstream : stream.info = world.info)
    (hactor : world.actor = .betweenPackets)
    (hflow : world.info.flowStatus = .enabledTrackAmount) :
    ∃ called, machine.run world [.flowSet pkt.bufferRemaining, .flowWake] =
      some { world with
        info := (ClientActor.handleContinuePacket stream pkt).info
        called } := by
  refine ⟨world.called ++ (world.info.flowSet
    pkt.bufferRemaining).flowWake.2.toList, ?_⟩
  rw [ClientActor.handleContinuePacket, hstream, if_pos hflow]
  simp [machine, step, hactor]

def NeverMissed (world : CreditWait) : Prop :=
  ∀ cx, world.writer = .parked cx → world.actor = .betweenPackets →
    world.info.flowEmpty = true ∨ cx ∈ world.called

def StaysUnmissed (world : CreditWait) (actions : List CreditWaitAction) :
    Prop :=
  machine.Meets (fun world action =>
    ∀ next, machine.step world action = some next → next.NeverMissed)
    world actions

/-- A writer registers before the credit is there, or before the actor has
looked for somebody to wake. -/
def RegistersInTime (world : CreditWait) (action : CreditWaitAction) : Prop :=
  action = .flowRegister → world.actor = .betweenPackets →
    world.info.flowEmpty = true

/-- A sleeping writer was called, or is registered and either needs no call
yet or is going to be called. -/
def WaitInv (world : CreditWait) : Prop :=
  ∀ cx, world.writer = .parked cx →
    cx ∈ world.called ∨
      (world.info.flowWaker = .sleeping cx ∧
        (world.info.flowEmpty = true ∨ world.actor = .unwoken))

theorem WaitInv.neverMissed {world : CreditWait} (hinv : world.WaitInv) :
    world.NeverMissed := by
  intro cx hwriter hactor
  rcases hinv cx hwriter with hcalled | ⟨-, hempty | hset⟩
  · exact .inr hcalled
  · exact .inl hempty
  · rw [hactor] at hset
    cases hset

theorem flowEmpty_flowDec {info : StreamInfo} (h : info.flowEmpty = true) :
    info.flowDec.flowEmpty = true := by
  rw [StreamInfo.flowEmpty_iff] at h ⊢
  rw [StreamInfo.toNat_flowControl_flowDec, h]

section Step

variable {world next : CreditWait} {action : CreditWaitAction}

theorem WaitInv.step (hinv : world.WaitInv)
    (htime : RegistersInTime world action)
    (hstep : world.step action = some next) : next.WaitInv := by
  intro cx hwriter
  cases action with
  | flowEmpty other =>
      simp only [CreditWait.step] at hstep
      split at hstep
      · cases hstep
      · split at hstep
        · cases hstep
          cases hwriter
        · cases hstep
          cases hwriter
  | flowRegister =>
      simp only [CreditWait.step] at hstep
      split at hstep
      · cases hstep
        obtain rfl := WriterPlace.parked.inj hwriter
        refine .inr ⟨Waiter.register_eq _ _, ?_⟩
        cases hactor : world.actor with
        | betweenPackets => exact .inl (htime rfl hactor)
        | unwoken => exact .inr rfl
      · cases hstep
  | flowDec =>
      simp only [CreditWait.step] at hstep
      split at hstep
      · cases hstep
      · cases hstep
        rcases hinv cx hwriter with hcalled | ⟨hsleeps, hempty | hset⟩
        · exact .inl hcalled
        · exact .inr ⟨hsleeps, .inl (flowEmpty_flowDec hempty)⟩
        · exact .inr ⟨hsleeps, .inr hset⟩
  | flowSet amt =>
      simp only [CreditWait.step] at hstep
      split at hstep
      · cases hstep
        rcases hinv cx hwriter with hcalled | ⟨hsleeps, -⟩
        · exact .inl hcalled
        · exact .inr ⟨hsleeps, .inr rfl⟩
      · cases hstep
  | flowWake =>
      simp only [CreditWait.step] at hstep
      split at hstep
      · cases hstep
        left
        rcases hinv cx hwriter with hcalled | ⟨hsleeps, -⟩
        · exact List.mem_append_left _ hcalled
        · refine List.mem_append_right _ ?_
          simp [StreamInfo.flowWake, hsleeps, Waiter.wake]
      · cases hstep

/-- A registration that comes too late puts the writer to sleep for good. -/
theorem registersInTime_of_neverMissed (hmissed : next.NeverMissed)
    (hstep : world.step action = some next) :
    RegistersInTime world action := by
  rintro rfl hactor
  simp only [CreditWait.step] at hstep
  split at hstep
  · next cx hwriter =>
      cases hstep
      rcases hmissed cx rfl hactor with hempty | hcalled
      · exact hempty
      · cases hcalled
  · cases hstep

end Step

/-- In a run no Continue is missed exactly if no writer registers after the
actor has set the credit and looked for it. -/
theorem staysUnmissed_iff (id credit : UInt32)
    {actions : List CreditWaitAction} {world : CreditWait}
    (hrun : machine.run (.init id credit) actions = some world) :
    StaysUnmissed (.init id credit) actions ↔
      machine.Meets RegistersInTime (.init id credit) actions := by
  have hiff : ∀ s action t, s.WaitInv → machine.step s action = some t →
      ((∀ next, machine.step s action = some next → next.NeverMissed) ↔
        RegistersInTime s action) := by
    intro s action t hinv hstep
    constructor
    · intro hmissed
      exact registersInTime_of_neverMissed (hmissed t hstep) hstep
    · intro htime next hnext
      exact (hinv.step htime hnext).neverMissed
  have hinit : WaitInv (.init id credit) := by
    intro cx hwriter
    cases hwriter
  exact machine.meets_iff_of_invariant hiff
    (fun _ _ _ hinv htime hstep => hinv.step htime hstep) hinit hrun

theorem staysUnmissed_of_early_register :
    StaysUnmissed (.init 1 1)
      [.flowDec, .flowEmpty 5, .flowSet 4, .flowRegister, .flowWake] := by
  refine (staysUnmissed_iff 1 1 rfl).mpr ?_
  refine .cons nofun rfl (.cons nofun rfl (.cons nofun rfl (.cons ?_ rfl
    (.cons nofun rfl trivial))))
  intro _ hactor
  cases hactor

theorem not_staysUnmissed_of_late_register :
    ¬ StaysUnmissed (.init 1 1)
      [.flowDec, .flowEmpty 5, .flowSet 4, .flowWake, .flowRegister] := by
  intro hmissed
  have hlast := hmissed.holds nofun rfl 5 rfl rfl
  revert hlast
  decide

end CreditWait

end Epoxy
