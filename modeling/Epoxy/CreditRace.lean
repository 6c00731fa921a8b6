/-
The credit of a server's stream while the actor takes data in and the reader
reads.  The counter is loaded and stored in separate steps, by either task, and
the channel changes in further steps of its own.
-/
import Epoxy.MuxInner

namespace Epoxy

open ActionMachine ByteCursor PollChannel

/-- Where the actor is in `handle_data_packet`. -/
inductive DataPlace where
  | idle
  /-- The channel took the packet; `flow_dec` loads next. -/
  | accepted
  | loaded (flow : UInt32)
deriving Repr, DecidableEq

/-- Packets in the channel that are not paid for. -/
def DataPlace.unpaid : DataPlace → Nat
  | .idle => 0
  | .accepted => 1
  | .loaded _ => 1

/-- Where the reader is in `poll_next`. -/
inductive ReadPlace where
  | idle
  /-- The credit is due; `flow_add` loads once the sink is ready. -/
  | due
  | loaded (flow : UInt32)
  /-- `flow_add` has returned what the Continue announces. -/
  | added (bufferRemaining : UInt32)
deriving Repr, DecidableEq

/-- `credited` and `alone` are history variables: how many packets were
announced as read, and whether no packet has been accepted, or was still
unpaid, since `flow_add` loaded. -/
structure CreditRace where
  stream : Stream
  data : DataPlace
  reader : ReadPlace
  credited : Nat
  alone : Bool

inductive CreditRaceAction where
  /-- A data packet is handled. -/
  | trySend (pkt : Bytes)
  | decLoad
  | decStore
  /-- The reader polls the channel and counts what it got. -/
  | pop
  | addLoad
  | addStore
  /-- The sink takes the Continue packet. -/
  | sendContinue
deriving Repr, DecidableEq

namespace CreditRace

/-- A stream with flow control on the server, as `add_stream` builds it. -/
def init (id bufferSize : UInt32) : CreditRace :=
  ⟨.new id .enabledSendMessages bufferSize, .idle, .idle, 0, true⟩

/-- The task's store to `flow_control`. -/
def store (world : CreditRace) (flow : UInt32) : CreditRace :=
  { world with
    stream := { world.stream with info := world.stream.info.flowSet flow } }

def step (world : CreditRace) : CreditRaceAction → Option CreditRace
  | .trySend pkt =>
      match world.data with
      | .idle =>
          match world.stream.channel.trySend pkt with
          | (channel, true) =>
              some { world with
                stream := { world.stream with channel }
                data := .accepted
                alone := false }
          | (channel, false) =>
              some { world with stream := { world.stream with channel } }
      | _ => none
  | .decLoad =>
      match world.data with
      | .accepted =>
          some { world with data := .loaded world.stream.info.flowControl }
      | _ => none
  | .decStore =>
      match world.data with
      | .loaded flow =>
          some { world.store (saturatingSub flow 1) with data := .idle }
      | _ => none
  | .pop =>
      match world.reader with
      | .idle =>
          match world.stream.channel.pollNext with
          | (channel, .ready (some _)) =>
              let read := world.stream.read.count world.stream.info
              some { world with
                stream := { world.stream with channel, read }
                reader :=
                  if read.announces world.stream.info then .due else .idle }
          | (channel, _) =>
              some { world with stream := { world.stream with channel } }
      | _ => none
  | .addLoad =>
      match world.reader with
      | .due =>
          some { world with
            reader := .loaded world.stream.info.flowControl
            alone := world.data = .idle }
      | _ => none
  | .addStore =>
      match world.reader with
      | .loaded flow =>
          let new := saturatingAdd flow world.stream.read.readCnt
          some { world.store new with reader := .added new }
      | _ => none
  | .sendContinue =>
      match world.reader with
      | .added _ =>
          some { world with
            stream := { world.stream with
              read := { world.stream.read with readCnt := 0 } }
            reader := .idle
            credited := world.credited + world.stream.read.readCnt.toNat }
      | _ => none

def machine : Machine CreditRace CreditRaceAction := ⟨step⟩

/-- The actor's steps, with nothing in between, are the packet's handler. -/
theorem run_handleDataPacket {world : CreditRace} (pkt : Bytes)
    (hdata : world.data = .idle)
    (hsent : (world.stream.channel.trySend pkt).2 = true) :
    machine.run world [.trySend pkt, .decLoad, .decStore] =
      some { world with
        stream := ServerActor.handleDataPacket world.stream pkt
        alone := false } := by
  cases hchannel : world.stream.channel.trySend pkt with
  | mk channel sent =>
      rw [hchannel] at hsent
      obtain rfl : sent = true := hsent
      simp [machine, step, store, hdata, hchannel,
        ServerActor.handleDataPacket]
      rfl

section Read

variable {world : CreditRace} {chunk : Bytes} {rest : List Bytes}

theorem step_pop_of_queued (hreader : world.reader = .idle)
    (hqueue : world.stream.channel.queue = chunk :: rest) :
    world.step .pop = some { world with
      stream := { world.stream with
        channel := world.stream.channel.pollNext.1
        read := world.stream.read.count world.stream.info }
      reader :=
        if (world.stream.read.count world.stream.info).announces
          world.stream.info then .due else .idle } := by
  have hanswer : world.stream.channel.pollNext.2 = .ready (some chunk) := by
    rcases world.stream.channel.pollNext_cases with
      ⟨message, hanswer, hmessage, _⟩ | ⟨hempty, _⟩
    · rw [hqueue] at hmessage
      cases hmessage
      exact hanswer
    · rw [hqueue] at hempty
      cases hempty
  cases hpoll : world.stream.channel.pollNext with
  | mk channel answer =>
      rw [hpoll] at hanswer
      obtain rfl : answer = .ready (some chunk) := hanswer
      simp [step, hreader, hpoll]

/-- The reader's step, where no credit is due, is the poll. -/
theorem run_pollNext_of_settled (hreader : world.reader = .idle)
    (hsender : world.stream.channel.sender = true)
    (hchunk : world.stream.read.chunk = none)
    (hqueue : world.stream.channel.queue = chunk :: rest)
    (hdue : (world.stream.read.count world.stream.info).announces
      world.stream.info = false) :
    machine.run world [.pop] =
      some { world with stream := (world.stream.pollNext .prompt).1 } := by
  have hpop := step_pop_of_queued hreader hqueue
  rw [hdue, if_neg Bool.false_ne_true] at hpop
  have hstep : machine.step world .pop = _ := hpop
  rw [Machine.run_cons, hstep]
  simp only [Stream.pollNext, hreader, Option.bind_some, Machine.run_nil,
    MuxStreamRead.pollNext_of_queued hsender hchunk hqueue,
    MuxStreamRead.deliver_of_settled hdue]

/-- The reader's steps, with nothing in between, are the poll that announces
the credit at once. -/
theorem run_pollNext_of_due (hreader : world.reader = .idle)
    (hsender : world.stream.channel.sender = true)
    (hchunk : world.stream.read.chunk = none)
    (hlocked : world.stream.read.locked = false)
    (hqueue : world.stream.channel.queue = chunk :: rest)
    (hdue : (world.stream.read.count world.stream.info).announces
      world.stream.info = true) :
    machine.run world [.pop, .addLoad, .addStore, .sendContinue] =
      some { world with
        stream := (world.stream.pollNext .prompt).1
        credited := world.credited +
          (world.stream.read.count world.stream.info).readCnt.toNat
        alone := world.data = .idle } := by
  have hpop := step_pop_of_queued hreader hqueue
  rw [hdue, if_pos rfl] at hpop
  have hstep : machine.step world .pop = _ := hpop
  have hcount : (world.stream.read.count world.stream.info).locked =
      false := by rw [MuxStreamRead.locked_count, hlocked]
  rw [Machine.run_cons, hstep]
  simp only [Stream.pollNext, hreader,
    MuxStreamRead.pollNext_of_queued hsender hchunk hqueue,
    MuxStreamRead.deliver_of_prompt _ _ hdue, ← hcount]
  rfl

end Read

/-- Packets that were accepted and not announced as read. -/
def uncredited (world : CreditRace) : Nat :=
  world.stream.channel.accepted.length - world.credited

/-- The peer has at most a full buffer of such packets. -/
def WithinBuffer (bufferSize : UInt32) (world : CreditRace)
    (action : CreditRaceAction) : Prop :=
  ∀ next, machine.step world action = some next →
    next.uncredited ≤ bufferSize.toNat

/-- No operation on the credit is halfway through. -/
def Settled (world : CreditRace) : Prop :=
  world.data = .idle ∧ (world.reader = .idle ∨ world.reader = .due)

/-- The step leaves every slot accounted for, and announces no more than is
free. -/
structure Exact (bufferSize : UInt32) (world : CreditRace)
    (action : CreditRaceAction) (next : CreditRace) : Prop where
  balance : next.Settled →
    next.stream.info.flowControl.toNat + next.stream.channel.queue.length +
      next.stream.read.readCnt.toNat = bufferSize.toNat
  announced : ∀ bufferRemaining, action = .sendContinue →
    world.reader = .added bufferRemaining →
    bufferRemaining.toNat + world.stream.channel.queue.length ≤
      bufferSize.toNat

/-- Every step of the run is exact. -/
def StaysExact (bufferSize : UInt32) (world : CreditRace)
    (actions : List CreditRaceAction) : Prop :=
  machine.Meets (fun world action =>
    ∀ next, machine.step world action = some next →
      Exact bufferSize world action next) world actions

/-- A Continue goes out only if no packet was accepted, or still unpaid, since
its amount was loaded. -/
def AnnouncesAlone (world : CreditRace) (action : CreditRaceAction) : Prop :=
  action = .sendContinue → world.alone = true

/-- Where the slots are, by the place of the reader.  An announcement that is
not alone already counts a slot twice. -/
def Balanced (bufferSize : UInt32) (world : CreditRace) : Prop :=
  let flow := world.stream.info.flowControl
  let queued := world.stream.channel.queue.length
  let read := world.stream.read.readCnt.toNat
  match world.reader with
  | .idle | .due =>
      flow.toNat + queued + read = bufferSize.toNat + world.data.unpaid ∧
        ∀ loaded, world.data = .loaded loaded → loaded = flow
  | .loaded loaded =>
      if world.alone then
        world.data = .idle ∧ loaded = flow ∧
          flow.toNat + queued + read = bufferSize.toNat
      else bufferSize.toNat < loaded.toNat + queued + read
  | .added bufferRemaining =>
      if world.alone then
        world.data = .idle ∧ bufferRemaining = flow ∧
          flow.toNat + queued = bufferSize.toNat
      else
        bufferSize.toNat + 1 < 2 ^ 32 →
          bufferSize.toNat < bufferRemaining.toNat + queued

structure RaceInv (bufferSize : UInt32) (world : CreditRace) : Prop where
  flowStatus : world.stream.info.flowStatus = .enabledSendMessages
  target : world.stream.info.targetFlowControl.toNat =
    bufferSize.toNat * 90 / 100
  taken : world.stream.channel.taken.length =
    world.credited + world.stream.read.readCnt.toNat
  counted : world.reader = .idle →
    world.stream.read.readCnt.toNat ≤ bufferSize.toNat * 90 / 100
  within : world.stream.channel.queue.length +
    world.stream.read.readCnt.toNat ≤ bufferSize.toNat
  balanced : world.Balanced bufferSize

/-- The reader is not in the middle of `flow_add` and its Continue. -/
def Resting (world : CreditRace) : Prop :=
  world.reader = .idle ∨ world.reader = .due

theorem reader_cases (world : CreditRace) :
    world.Resting ∨ (∃ flow, world.reader = .loaded flow) ∨
      ∃ bufferRemaining, world.reader = .added bufferRemaining := by
  unfold Resting
  cases world.reader with
  | idle => exact .inl (.inl rfl)
  | due => exact .inl (.inr rfl)
  | loaded flow => exact .inr (.inl ⟨flow, rfl⟩)
  | added bufferRemaining => exact .inr (.inr ⟨bufferRemaining, rfl⟩)

theorem balanced_iff_of_resting {bufferSize : UInt32} {world : CreditRace}
    (hrest : world.Resting) :
    world.Balanced bufferSize ↔
      world.stream.info.flowControl.toNat +
          world.stream.channel.queue.length +
          world.stream.read.readCnt.toNat =
        bufferSize.toNat + world.data.unpaid ∧
      ∀ loaded, world.data = .loaded loaded →
        loaded = world.stream.info.flowControl := by
  rcases hrest with hreader | hreader
  · simp only [Balanced, hreader]
  · simp only [Balanced, hreader]

/-- An announcement that is not alone stays so while a packet is paid for. -/
theorem Balanced.of_unpaid {bufferSize : UInt32} {world next : CreditRace}
    (h : world.Balanced bufferSize) (hdata : world.data ≠ .idle)
    (hrest : ¬ world.Resting) (hreader : next.reader = world.reader)
    (halone : next.alone = world.alone)
    (hqueue : next.stream.channel.queue = world.stream.channel.queue)
    (hread : next.stream.read = world.stream.read) :
    next.Balanced bufferSize := by
  rcases reader_cases world with hidle | ⟨flow, hloaded⟩ | ⟨new, hadded⟩
  · exact absurd hidle hrest
  · simp only [Balanced, hloaded, hreader, halone, hqueue, hread] at h ⊢
    split at h
    · exact absurd h.1 hdata
    · next hoverlaps => rwa [if_neg hoverlaps]
  · simp only [Balanced, hadded, hreader, halone, hqueue] at h ⊢
    split at h
    · exact absurd h.1 hdata
    · next hoverlaps => rwa [if_neg hoverlaps]

theorem uncredited_eq {world : CreditRace}
    (htaken : world.stream.channel.taken.length =
      world.credited + world.stream.read.readCnt.toNat) :
    world.uncredited = world.stream.channel.queue.length +
      world.stream.read.readCnt.toNat := by
  rw [uncredited, Channel.accepted, List.length_append, htaken]
  omega

namespace RaceInv

theorem init (id bufferSize : UInt32) :
    RaceInv bufferSize (init id bufferSize) where
  flowStatus := rfl
  target := StreamInfo.toNat_targetFlowControl_new id _ bufferSize
  taken := rfl
  counted _ := Nat.zero_le _
  within := Nat.zero_le _
  balanced := ⟨rfl, nofun⟩

variable {bufferSize : UInt32} {world next : CreditRace}
  {action : CreditRaceAction}

/-- The peer's discipline bounds what the next state holds. -/
theorem of_step (hwithin : WithinBuffer bufferSize world action)
    (hstep : world.step action = some next)
    (hinfo : next.stream.info.flowStatus = .enabledSendMessages ∧
      next.stream.info.targetFlowControl.toNat = bufferSize.toNat * 90 / 100)
    (htaken : next.stream.channel.taken.length =
      next.credited + next.stream.read.readCnt.toNat)
    (hcounted : next.reader = .idle →
      next.stream.read.readCnt.toNat ≤ bufferSize.toNat * 90 / 100)
    (hbalanced : next.Balanced bufferSize) : RaceInv bufferSize next := by
  refine ⟨hinfo.1, hinfo.2, htaken, hcounted, ?_, hbalanced⟩
  rw [← uncredited_eq htaken]
  exact hwithin next hstep

theorem trySend {pkt : Bytes} (hinv : RaceInv bufferSize world)
    (hwithin : WithinBuffer bufferSize world (.trySend pkt))
    (hstep : world.step (.trySend pkt) = some next) :
    RaceInv bufferSize next := by
  have htrace := hstep
  have hbalanced := hinv.balanced
  simp only [step] at hstep
  split at hstep
  · next hdata =>
      have htaken := world.stream.channel.taken_trySend pkt
      split at hstep
      · next channel hsent =>
          have hqueue := Channel.queue_trySend_of_accepted
            (congrArg Prod.snd hsent)
          rw [hsent] at hqueue htaken
          have hlength : channel.queue.length =
              world.stream.channel.queue.length + 1 := by
            rw [hqueue, List.length_append, List.length_singleton]
          cases hstep
          refine of_step hwithin htrace ⟨hinv.flowStatus, hinv.target⟩
            (by rw [htaken]; exact hinv.taken) hinv.counted ?_
          rcases reader_cases world with
            hrest | ⟨flow, hreader⟩ | ⟨bufferRemaining, hreader⟩
          · rw [balanced_iff_of_resting hrest, hdata] at hbalanced
            refine (balanced_iff_of_resting ?_).mpr ⟨?_, by simp⟩
            · exact hrest
            · simp only [DataPlace.unpaid, hlength] at hbalanced ⊢
              omega
          · simp only [Balanced, hreader] at hbalanced ⊢
            rw [if_neg Bool.false_ne_true, hlength]
            split at hbalanced
            · obtain ⟨-, rfl, hsum⟩ := hbalanced
              omega
            · omega
          · simp only [Balanced, hreader] at hbalanced ⊢
            rw [if_neg Bool.false_ne_true, hlength]
            intro hlt
            split at hbalanced
            · obtain ⟨-, rfl, hsum⟩ := hbalanced
              omega
            · have := hbalanced hlt
              omega
      · next channel hfull =>
          have hsame := Channel.trySend_of_rejected (congrArg Prod.snd hfull)
          rw [hfull] at hsame
          obtain rfl : channel = world.stream.channel := hsame
          cases hstep
          exact hinv
  · cases hstep

theorem decLoad (hinv : RaceInv bufferSize world)
    (hwithin : WithinBuffer bufferSize world .decLoad)
    (hstep : world.step .decLoad = some next) :
    RaceInv bufferSize next := by
  have htrace := hstep
  have hbalanced := hinv.balanced
  simp only [step] at hstep
  split at hstep
  · next hdata =>
      cases hstep
      refine of_step hwithin htrace ⟨hinv.flowStatus, hinv.target⟩ hinv.taken
        hinv.counted ?_
      by_cases hrest : world.Resting
      · rw [balanced_iff_of_resting hrest, hdata] at hbalanced
        refine (balanced_iff_of_resting ?_).mpr ⟨hbalanced.1, ?_⟩
        · exact hrest
        · intro loaded hloaded
          exact (DataPlace.loaded.inj hloaded).symm
      · exact hbalanced.of_unpaid (by simp [hdata]) hrest rfl rfl rfl rfl
  · cases hstep

theorem decStore (hinv : RaceInv bufferSize world)
    (hwithin : WithinBuffer bufferSize world .decStore)
    (hstep : world.step .decStore = some next) :
    RaceInv bufferSize next := by
  have htrace := hstep
  have hbalanced := hinv.balanced
  simp only [step] at hstep
  split at hstep
  · next flow hdata =>
      cases hstep
      refine of_step hwithin htrace ⟨hinv.flowStatus, hinv.target⟩ hinv.taken
        hinv.counted ?_
      by_cases hrest : world.Resting
      · rw [balanced_iff_of_resting hrest, hdata] at hbalanced
        refine (balanced_iff_of_resting ?_).mpr ⟨?_, by simp⟩
        · exact hrest
        · obtain ⟨hsum, hloaded⟩ := hbalanced
          have hflow := hloaded flow rfl
          have hpaid := toNat_saturatingSub flow 1
          have hheld := hinv.within
          simp only [store, StreamInfo.flowControl_flowSet, DataPlace.unpaid,
            UInt32.toNat_one, hflow] at hsum hpaid ⊢
          omega
      · exact hbalanced.of_unpaid (by simp [hdata]) hrest rfl rfl rfl rfl
  · cases hstep

theorem pop (hinv : RaceInv bufferSize world)
    (hwithin : WithinBuffer bufferSize world .pop)
    (hstep : world.step .pop = some next) : RaceInv bufferSize next := by
  have htrace := hstep
  have hreader : world.reader = .idle := by
    simp only [step] at hstep
    split at hstep
    · next hreader => exact hreader
    · cases hstep
  have hbalanced := hinv.balanced
  rw [balanced_iff_of_resting (.inl hreader)] at hbalanced
  cases hqueue : world.stream.channel.queue with
  | nil =>
      rcases world.stream.channel.pollNext_cases with
        ⟨message, -, hmessage, -⟩ | ⟨-, hempty, hsame, hanswer⟩
      · rw [hqueue] at hmessage
        cases hmessage
      · simp only [step, hreader] at hstep
        split at hstep
        · next channel chunk hpoll =>
            rw [hpoll] at hanswer
            split at hanswer
            · cases hanswer
            · cases hanswer
        · next channel answer _ hpoll =>
            rw [hpoll] at hempty hsame
            cases hstep
            refine of_step hwithin htrace ⟨hinv.flowStatus, hinv.target⟩
              (by rw [hsame]; exact hinv.taken)
              (fun _ => hinv.counted hreader) ?_
            rw [balanced_iff_of_resting (.inl rfl), hempty, ← hqueue]
            exact hbalanced
  | cons chunk rest =>
      have hcounted := hinv.counted hreader
      have hlt := bufferSize.toNat_lt
      have hcount : world.stream.read.count world.stream.info =
          { world.stream.read with
            readCnt := world.stream.read.readCnt + 1 } := by
        rw [MuxStreamRead.count, if_pos hinv.flowStatus]
      have hnew : (world.stream.read.readCnt + 1).toNat =
          world.stream.read.readCnt.toNat + 1 := by
        rw [UInt32.toNat_add, UInt32.toNat_one]
        omega
      obtain ⟨hmore, hrest⟩ := Channel.taken_pollNext_of_queued hqueue
      rw [step_pop_of_queued hreader hqueue, hcount] at hstep
      cases hstep
      refine of_step hwithin htrace ⟨hinv.flowStatus, hinv.target⟩ ?_ ?_ ?_
      · have htaken := hinv.taken
        simp only [hmore, List.length_append, List.length_singleton, hnew]
        omega
      · intro hidle
        dsimp only at hidle ⊢
        split at hidle
        · cases hidle
        · next hdue =>
            simp only [MuxStreamRead.announces, hinv.flowStatus,
              decide_true, Bool.true_and, decide_eq_true_eq,
              UInt32.lt_iff_toNat_lt, hinv.target] at hdue
            omega
      · refine (balanced_iff_of_resting ?_).mpr ?_
        · unfold Resting
          dsimp only
          split
          · exact .inr rfl
          · exact .inl rfl
        rw [hqueue, List.length_cons] at hbalanced
        dsimp only
        rw [hrest, hnew]
        exact ⟨by omega, hbalanced.2⟩

theorem addLoad (hinv : RaceInv bufferSize world)
    (hwithin : WithinBuffer bufferSize world .addLoad)
    (hstep : world.step .addLoad = some next) : RaceInv bufferSize next := by
  have htrace := hstep
  have hbalanced := hinv.balanced
  simp only [step] at hstep
  split at hstep
  · next hreader =>
      cases hstep
      refine of_step hwithin htrace ⟨hinv.flowStatus, hinv.target⟩ hinv.taken
        nofun ?_
      rw [balanced_iff_of_resting (.inr hreader)] at hbalanced
      obtain ⟨hsum, -⟩ := hbalanced
      simp only [Balanced, decide_eq_true_eq]
      cases hdata : world.data with
      | idle =>
          rw [hdata] at hsum
          exact ⟨rfl, trivial, hsum⟩
      | accepted =>
          simp only [hdata, DataPlace.unpaid] at hsum
          rw [if_neg nofun]
          omega
      | loaded flow =>
          simp only [hdata, DataPlace.unpaid] at hsum
          rw [if_neg nofun]
          omega
  · cases hstep

theorem addStore (hinv : RaceInv bufferSize world)
    (hwithin : WithinBuffer bufferSize world .addStore)
    (hstep : world.step .addStore = some next) : RaceInv bufferSize next := by
  have htrace := hstep
  have hbalanced := hinv.balanced
  simp only [step] at hstep
  split at hstep
  · next flow hreader =>
      have hlt := bufferSize.toNat_lt
      have hadded := toNat_saturatingAdd flow world.stream.read.readCnt
      cases hstep
      refine of_step hwithin htrace ⟨hinv.flowStatus, hinv.target⟩ hinv.taken
        nofun ?_
      simp only [Balanced, hreader] at hbalanced
      simp only [Balanced, store, StreamInfo.flowControl_flowSet]
      split at hbalanced
      · next halone =>
          obtain ⟨hdata, rfl, hsum⟩ := hbalanced
          rw [if_pos halone]
          exact ⟨hdata, trivial, by omega⟩
      · next halone =>
          rw [if_neg halone]
          omega
  · cases hstep

theorem sendContinue (hinv : RaceInv bufferSize world)
    (hwithin : WithinBuffer bufferSize world .sendContinue)
    (halone : world.alone = true)
    (hstep : world.step .sendContinue = some next) :
    RaceInv bufferSize next := by
  have htrace := hstep
  have hbalanced := hinv.balanced
  simp only [step] at hstep
  split at hstep
  · next bufferRemaining hreader =>
      cases hstep
      refine of_step hwithin htrace ⟨hinv.flowStatus, hinv.target⟩ hinv.taken
        (fun _ => Nat.zero_le _) ?_
      simp only [Balanced, hreader, if_pos halone] at hbalanced
      obtain ⟨hdata, -, hsum⟩ := hbalanced
      refine (balanced_iff_of_resting (.inl rfl)).mpr ⟨?_, ?_⟩
      · simp only [hdata, DataPlace.unpaid]
        exact hsum
      · simp [hdata]
  · cases hstep

theorem step (hinv : RaceInv bufferSize world)
    (hwithin : WithinBuffer bufferSize world action)
    (halone : AnnouncesAlone world action)
    (hstep : world.step action = some next) : RaceInv bufferSize next := by
  cases action with
  | trySend pkt => exact hinv.trySend hwithin hstep
  | decLoad => exact hinv.decLoad hwithin hstep
  | decStore => exact hinv.decStore hwithin hstep
  | pop => exact hinv.pop hwithin hstep
  | addLoad => exact hinv.addLoad hwithin hstep
  | addStore => exact hinv.addStore hwithin hstep
  | sendContinue => exact hinv.sendContinue hwithin (halone rfl) hstep

theorem exact_of_announcesAlone (hinv : RaceInv bufferSize world)
    (hwithin : WithinBuffer bufferSize world action)
    (halone : AnnouncesAlone world action)
    (hstep : world.step action = some next) :
    Exact bufferSize world action next where
  balance := by
    rintro ⟨hdata, hrest⟩
    have hbalanced := (hinv.step hwithin halone hstep).balanced
    rw [balanced_iff_of_resting hrest, hdata] at hbalanced
    exact hbalanced.1
  announced := by
    rintro bufferRemaining rfl hreader
    have hbalanced := hinv.balanced
    simp only [Balanced, hreader, if_pos (halone rfl)] at hbalanced
    obtain ⟨-, rfl, hsum⟩ := hbalanced
    exact Nat.le_of_eq hsum

/-- An announcement that is not alone is too high, unless it saturates. -/
theorem announcesAlone_of_exact (hinv : RaceInv bufferSize world)
    (hlt : bufferSize.toNat + 1 < 2 ^ 32)
    (hexact : Exact bufferSize world action next)
    (hstep : world.step action = some next) :
    AnnouncesAlone world action := by
  rintro rfl
  by_contra halone
  simp only [CreditRace.step] at hstep
  split at hstep
  · next bufferRemaining hreader =>
      have hfree := hexact.announced bufferRemaining rfl hreader
      have hbalanced := hinv.balanced
      simp only [Balanced, hreader, if_neg halone] at hbalanced
      have := hbalanced hlt
      omega
  · cases hstep

end RaceInv

/-- While the peer keeps within the buffer, the credit is exact in runs whose
announcements are alone, and, below the largest buffer there is, in no
others. -/
theorem staysExact_iff (id bufferSize : UInt32)
    {actions : List CreditRaceAction} {world : CreditRace}
    (hrun : machine.run (.init id bufferSize) actions = some world)
    (hwithin : machine.Meets (WithinBuffer bufferSize) (.init id bufferSize)
      actions) :
    (machine.Meets AnnouncesAlone (.init id bufferSize) actions →
        StaysExact bufferSize (.init id bufferSize) actions) ∧
      (bufferSize.toNat + 1 < 2 ^ 32 →
        StaysExact bufferSize (.init id bufferSize) actions →
        machine.Meets AnnouncesAlone (.init id bufferSize) actions) := by
  have hinv : ∀ s action t, RaceInv bufferSize s →
      WithinBuffer bufferSize s action ∧ AnnouncesAlone s action →
      machine.step s action = some t → RaceInv bufferSize t := by
    rintro s action t hinv ⟨hwithin, halone⟩ hstep
    exact hinv.step hwithin halone hstep
  have hinit := RaceInv.init id bufferSize
  constructor
  · intro halone
    refine machine.meets_of_invariant ?_ hinv hinit hrun
      (machine.meets_and.mpr ⟨hwithin, halone⟩)
    rintro s action t hinv ⟨hwithin, halone⟩ - next hnext
    exact hinv.exact_of_announcesAlone hwithin halone hnext
  · intro hlt hexact
    have hiff : ∀ s action t, RaceInv bufferSize s →
        machine.step s action = some t →
        (WithinBuffer bufferSize s action ∧
            (∀ next, machine.step s action = some next →
              Exact bufferSize s action next) ↔
          WithinBuffer bufferSize s action ∧ AnnouncesAlone s action) := by
      intro s action t hinv hstep
      constructor
      · rintro ⟨hwithin, hexact⟩
        exact ⟨hwithin,
          hinv.announcesAlone_of_exact hlt (hexact t hstep) hstep⟩
      · rintro ⟨hwithin, halone⟩
        refine ⟨hwithin, fun next hnext => ?_⟩
        exact hinv.exact_of_announcesAlone hwithin halone hnext
    have hboth := (machine.meets_iff_of_invariant hiff hinv hinit hrun).mp
      (machine.meets_and.mpr ⟨hwithin, hexact⟩)
    exact (machine.meets_and.mp hboth).2

/-- The only packet is paid for before the reader announces it. -/
def inTurn : List CreditRaceAction :=
  [.trySend [7], .decLoad, .decStore, .pop, .addLoad, .addStore, .sendContinue]

/-- The reader adds between the actor's load and its store. -/
def interleaved : List CreditRaceAction :=
  [.trySend [7], .decLoad, .pop, .addLoad, .addStore, .decStore, .sendContinue]

theorem staysExact_of_inTurn : StaysExact 1 (.init 1 1) inTurn := by
  refine (staysExact_iff 1 1 rfl ?_).1 ?_
  · refine .cons ?_ rfl (.cons ?_ rfl (.cons ?_ rfl (.cons ?_ rfl (.cons ?_ rfl
      (.cons ?_ rfl (.cons ?_ rfl trivial))))))
    all_goals
      rintro _ ⟨⟩
      decide
  · refine .cons nofun rfl (.cons nofun rfl (.cons nofun rfl (.cons nofun rfl
      (.cons nofun rfl (.cons nofun rfl (.cons ?_ rfl trivial))))))
    exact fun _ => rfl

/-- Two packets are announced where one fits, and in the end no credit is left
although the buffer is empty and everything was announced. -/
theorem not_staysExact_of_interleaving :
    machine.Meets (WithinBuffer 1) (.init 1 1) interleaved ∧
      ¬ StaysExact 1 (.init 1 1) interleaved ∧
      ∃ world, machine.run (.init 1 1) interleaved = some world ∧
        world.Settled ∧ world.stream.info.flowControl = 0 ∧
        world.stream.channel.queue = [] ∧ world.stream.read.readCnt = 0 := by
  refine ⟨?_, ?_, _, rfl, ⟨rfl, .inl rfl⟩, rfl, rfl, rfl⟩
  · refine .cons ?_ rfl (.cons ?_ rfl (.cons ?_ rfl (.cons ?_ rfl (.cons ?_ rfl
      (.cons ?_ rfl (.cons ?_ rfl trivial))))))
    all_goals
      rintro _ ⟨⟩
      decide
  · rintro ⟨-, hrest⟩
    have hlast := ((((((hrest _ rfl).2 _ rfl).2 _ rfl).2 _ rfl).2 _ rfl).2 _
      rfl).1 _ rfl
    have hfree := hlast.announced 2 rfl rfl
    revert hfree
    decide

end CreditRace

end Epoxy
