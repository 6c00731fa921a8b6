/-
Writers that wait for credit when their stream is closed.  Only a Continue
wakes such a writer; taking the entry out of the map, by whichever of the
ways, leaves it asleep, and nothing will wake it later.
-/
import Epoxy.ClientLifecycle

namespace Epoxy

open ActionMachine ByteCursor KeyDirectory PollChannel

/-- What the actor does to one stream, in any order; Continue packets only if
`cont` allows them. -/
inductive Touched (cont : Bool) (s : Stream) : Stream → Prop where
  | refl : Touched cont s s
  | dropSender {t : Stream} (h : Touched cont s t) :
      Touched cont s { t with channel := t.channel.dropSender }
  | dropReceiver {t : Stream} (h : Touched cont s t) :
      Touched cont s { t with channel := t.channel.dropReceiver }
  | close {t : Stream} (h : Touched cont s t) (close : ClosePacket) :
      Touched cont s (t.close close)
  | data {t : Stream} (h : Touched cont s t) (actor : Actor) (data : Bytes) :
      Touched cont s (actor.handleDataPacket t data)
  | cont {t : Stream} (h : Touched cont s t) (pkt : ContinuePacket)
      (hcont : cont = true) :
      Touched cont s (ClientActor.handleContinuePacket t pkt)

namespace Touched

variable {cont : Bool} {s t u : Stream}

theorem trans (hst : Touched cont s t) (htu : Touched cont t u) :
    Touched cont s u := by
  induction htu with
  | refl => exact hst
  | dropSender _ ih => exact ih.dropSender
  | dropReceiver _ ih => exact ih.dropReceiver
  | close _ close ih => exact ih.close close
  | data _ actor data ih => exact ih.data actor data
  | cont _ pkt hcont ih => exact ih.cont pkt hcont

/-- Nobody is put to sleep. -/
theorem flowWaker_cases (h : Touched cont s t) :
    t.info.flowWaker = s.info.flowWaker ∨
      cont = true ∧ t.info.flowWaker = .woken := by
  induction h with
  | refl => exact .inl rfl
  | dropSender _ ih => exact ih
  | dropReceiver _ ih => exact ih
  | close _ close ih => exact ih
  | data _ actor data ih =>
      cases actor with
      | client => exact ih
      | server streamTx =>
          simp only [Actor.handleDataPacket, ServerActor.handleDataPacket]
          split
          · exact ih
          · exact ih
  | cont _ pkt hcont ih =>
      unfold ClientActor.handleContinuePacket
      split
      · exact .inr ⟨hcont, Waiter.wake_fst _⟩
      · exact ih

end Touched

/-- The streams of the first heap are there, and were touched at most. -/
def TouchedHeap (cont : Bool) (heap next : List Stream) : Prop :=
  ∀ (number : Nat) s, heap[number]? = some s →
    ∃ t, next[number]? = some t ∧ Touched cont s t

namespace TouchedHeap

variable {cont : Bool} {heap mid next : List Stream}

theorem refl (heap : List Stream) : TouchedHeap cont heap heap :=
  fun _ s hs => ⟨s, hs, .refl⟩

theorem trans (h₁ : TouchedHeap cont heap mid)
    (h₂ : TouchedHeap cont mid next) : TouchedHeap cont heap next := by
  intro number s hs
  obtain ⟨t, ht, hst⟩ := h₁ number s hs
  obtain ⟨u, hu, htu⟩ := h₂ number t ht
  exact ⟨u, hu, hst.trans htu⟩

theorem modify (number : Nat) {f : Stream → Stream}
    (hf : ∀ s, Touched cont s (f s)) :
    TouchedHeap cont heap (heap.modify number f) := by
  intro other s hs
  rw [List.getElem?_modify, hs]
  refine ⟨_, rfl, ?_⟩
  split
  · exact hf s
  · exact .refl

theorem append (heap added : List Stream) :
    TouchedHeap cont heap (heap ++ added) := by
  intro number s hs
  refine ⟨s, ?_, .refl⟩
  rw [List.getElem?_append_left (List.getElem?_eq_some_iff.mp hs).1]
  exact hs

end TouchedHeap

/-- Only a Continue packet wakes writers. -/
def WsEvent.isContinue : WsEvent → Bool
  | .wispMessage ⟨_, .cont _⟩ => true
  | _ => false

namespace MuxInner

theorem touchedHeap_modify {cont : Bool} (mux : MuxInner) (id : UInt32)
    {f : Stream → Stream} (hf : ∀ s, Touched cont s (f s)) :
    TouchedHeap cont mux.heap (mux.modify id f).heap := by
  unfold modify
  split
  · exact .modify _ hf
  · exact .refl _

theorem touchedHeap_addStream {cont : Bool} (mux : MuxInner) (id : UInt32)
    (ty : StreamType) :
    TouchedHeap cont mux.heap (mux.addStream id ty).1.heap :=
  (mux.touchedHeap_modify id fun _ => .dropSender .refl).trans (.append _ _)

theorem touchedHeap_createStream {cont : Bool} (mux : MuxInner)
    (ty : StreamType) :
    TouchedHeap cont mux.heap (mux.createStream ty).1.heap := by
  unfold createStream
  split
  · exact touchedHeap_addStream { mux with currentId := mux.currentId + 1 } _ ty
  · exact .refl _

theorem touchedHeap_handleConnectPacket {cont : Bool} (mux : MuxInner)
    (stream : Nat) (pkt : ConnectPacket) :
    TouchedHeap cont mux.heap (mux.handleConnectPacket stream pkt).1.heap := by
  unfold handleConnectPacket
  split
  · exact .modify _ fun _ => .dropReceiver .refl
  · dsimp only
    split
    · exact .refl _
    · exact .modify _ fun _ => .dropReceiver .refl

theorem touchedHeap_handleEvent (mux : MuxInner) (event : WsEvent)
    (send : SendAnswer) :
    TouchedHeap event.isContinue mux.heap
      (mux.handleEvent event send).mux.heap := by
  cases event with
  | close id close channel =>
      simp only [handleEvent, handleClose]
      split
      · exact mux.touchedHeap_modify id fun _ => .close .refl close
      · exact .refl _
  | createStream connect channel =>
      have hcreated : TouchedHeap false mux.heap
          (mux.createStream connect.streamType).1.heap :=
        mux.touchedHeap_createStream connect.streamType
      simp only [handleEvent, handleCreateStream]
      split
      · next created error heq =>
          rw [heq] at hcreated
          exact hcreated
      · next created stream id heq =>
          rw [heq] at hcreated
          split
          · exact hcreated
          · exact hcreated.trans (.modify _ fun _ => .dropReceiver .refl)
  | wispMessage packet =>
      obtain ⟨id, packetType⟩ := packet
      cases packetType with
      | connect connect =>
          exact (mux.touchedHeap_addStream id connect.streamType).trans
            (touchedHeap_handleConnectPacket _ _ connect)
      | data data =>
          exact mux.touchedHeap_modify id fun _ => .data .refl mux.actor data
      | cont cont =>
          simp only [handleEvent, handlePacket, handleContinuePacket]
          split
          · exact mux.touchedHeap_modify id fun _ => .cont .refl cont rfl
          · exact .refl _
      | close close =>
          simp only [handleEvent, handlePacket, handleClosePacket]
          split
          · exact .refl _
          · exact mux.touchedHeap_modify id fun _ => .close .refl close
  | endFut reason =>
      cases reason with
      | none => exact .refl _
      | some reason => exact .refl _

theorem touchedHeap_closeEntries
    (entries : List (Sigma fun _ : UInt32 => Nat)) (heap : List Stream) :
    TouchedHeap false heap (closeEntries entries heap) := by
  induction entries generalizing heap with
  | nil => exact .refl heap
  | cons entry rest ih =>
      have hclose : TouchedHeap false heap
          (heap.modify entry.2 fun stream => stream.close ⟨.unknown⟩) :=
        .modify _ fun _ => .close .refl ⟨.unknown⟩
      exact hclose.trans (ih _)

theorem touchedHeap_drain (mux : MuxInner) :
    TouchedHeap false mux.heap mux.drain.heap :=
  touchedHeap_closeEntries mux.streams.entries mux.heap

end MuxInner

theorem MuxStreamRead.Delivered.flowWaker {read : MuxStreamRead}
    {channel : Channel Bytes} {info : StreamInfo} {chunk : Bytes}
    {sink : SinkAnswers} {result : ReadPoll}
    (h : Delivered read channel info chunk sink result) :
    result.info.flowWaker = info.flowWaker := by
  cases h with
  | settled | lockTaken | notReady | failed | refused | announced => rfl

theorem Stream.flowWaker_pollNext (s : Stream) (sink : SinkAnswers) :
    (s.pollNext sink).1.info.flowWaker = s.info.flowWaker := by
  have hpolled := s.read.polledNext s.channel s.info sink
  unfold pollNext
  generalize s.read.pollNext s.channel s.info sink = result at hpolled ⊢
  cases hpolled with
  | disconnected | empty => rfl
  | saved _ _ _ _ hdelivered => exact hdelivered.flowWaker
  | popped _ _ _ _ _ _ hdelivered => exact hdelivered.flowWaker

namespace MuxStreamWrite

variable {write : MuxStreamWrite} {info : StreamInfo} {sink : SinkAnswers}
  {result : WritePoll}

theorem LockedWritten.flowWaker (h : LockedWritten write info sink result) :
    result.info.flowWaker = info.flowWaker := by
  cases h with
  | notReady | failed | refused | nothing => rfl
  | written => exact info.flowWaker_paid

theorem PolledFlush.flowWaker (h : PolledFlush write info sink result) :
    result.info.flowWaker = info.flowWaker := by
  cases h with
  | lockTaken | nothing => rfl
  | kept _ _ _ hwritten => exact hwritten.flowWaker
  | written => exact info.flowWaker_paid

/-- Only the credit check registers the task. -/
theorem PolledReady.flowWaker {actorGone : Bool} {cx : Waker}
    (h : PolledReady write info actorGone cx sink result) :
    result.info.flowWaker = info.flowWaker ∨
      (actorGone = false ∧ info.flowStatus = .enabledTrackAmount ∧
        info.flowEmpty = true) := by
  cases h with
  | closed | nothing | lockTaken => exact .inl rfl
  | parked hgone hempty => exact .inr ⟨hgone, hempty⟩
  | kept _ _ _ _ _ hwritten => exact .inl hwritten.flowWaker
  | written => exact .inl info.flowWaker_paid

end MuxStreamWrite

namespace MuxWorld

/-- No writer sleeps on the credit of a stream that is out of the map. -/
def Released (world : MuxWorld) : Prop :=
  ∀ (number : Nat) s, world.mux.heap[number]? = some s →
    world.mux.directory.Lost number → s.info.flowWaker = .woken

/-- The streams whose entries the action takes out of the map. -/
def removes (world : MuxWorld) (action : MuxAction) : List Nat :=
  match world.directoryMove action with
  | .stay => []
  | .add id => (world.mux.streams.lookup id).toList
  | .remove id => (world.mux.streams.lookup id).toList
  | .clear => world.mux.streams.entries.map (·.2)

/-- The test of `poll_ready` that puts its task to sleep. -/
def WaitsForCredit (world : MuxWorld) (s : Stream) : Prop :=
  world.phase = .running ∧ s.info.flowStatus = .enabledTrackAmount ∧
    s.info.flowEmpty = true

/-- No writer sleeps when its stream is removed, and none goes to sleep on a
stream that has been. -/
structure LeavesNoneAsleep (world : MuxWorld) (action : MuxAction) : Prop where
  removed : ∀ number ∈ world.removes action, ∀ s,
    world.mux.heap[number]? = some s → s.info.flowWaker = .woken
  parked : ∀ stream cx sink, action = .pollReady stream cx sink →
    world.mux.directory.Lost stream →
      ∀ s, world.mux.heap[stream]? = some s → ¬ world.WaitsForCredit s

section Step

variable {world next : MuxWorld} {action : MuxAction}

theorem mem_removes_iff {number : Nat} :
    number ∈ world.removes action ↔
      ∃ id, world.mux.directory.find id = some number ∧
        (world.directoryMove action = .add id ∨
          world.directoryMove action = .remove id ∨
          world.directoryMove action = .clear) := by
  unfold removes
  cases world.directoryMove action with
  | stay => simp
  | add id => simp [Option.mem_toList, MuxInner.directory]
  | remove id => simp [Option.mem_toList, MuxInner.directory]
  | clear =>
      simp only [List.mem_map, reduceCtorEq, false_or, and_true]
      constructor
      · rintro ⟨⟨id, value⟩, hentry, rfl⟩
        exact ⟨id, AList.mem_lookup_iff.mpr hentry⟩
      · rintro ⟨id, hid⟩
        exact ⟨⟨id, number⟩, AList.mem_lookup_iff.mp hid, rfl⟩

/-- A handle's poll puts back the stream it polled. -/
theorem getElem?_heap_update {α : Type} {stream : Nat}
    {f : Stream → Stream × α} {seen : α}
    (h : world.update stream f = some (next, seen)) {number : Nat} {s : Stream}
    (hs : world.mux.heap[number]? = some s) :
    ∃ t, next.mux.heap[number]? = some t ∧
      (t = s ∨ number = stream ∧ t = (f s).1) := by
  simp only [update, Option.map_eq_some_iff, Prod.mk.injEq] at h
  obtain ⟨polled, hpolled, rfl, -⟩ := h
  by_cases heq : stream = number
  · subst heq
    obtain rfl := Option.some.inj (hs.symm.trans hpolled)
    refine ⟨(f s).1, ?_, .inr ⟨rfl, rfl⟩⟩
    exact List.getElem?_set_self (List.getElem?_eq_some_iff.mp hs).1
  · refine ⟨s, ?_, .inl rfl⟩
    rw [List.getElem?_set_ne heq]
    exact hs

/-- What a step does to the task that waits for a stream's credit: a Continue
may wake it, a poll that finds no credit registers it. -/
theorem flowWaker_step {seen : List Observation}
    (h : world.step action = some (next, seen)) {number : Nat} {s : Stream}
    (hs : world.mux.heap[number]? = some s) :
    ∃ t, next.mux.heap[number]? = some t ∧
      (t.info.flowWaker = s.info.flowWaker ∨
        (world.directoryMove action = .stay ∧
          (t.info.flowWaker = .woken ∨
            ∃ cx sink, action = .pollReady number cx sink ∧
              world.WaitsForCredit s))) := by
  cases action with
  | event event send =>
      obtain ⟨-, hmux, -, -⟩ := stepEvent_eq_some h
      obtain ⟨t, ht, htouched⟩ :=
        world.mux.touchedHeap_handleEvent event send number s hs
      rw [hmux]
      refine ⟨t, ht, ?_⟩
      rcases htouched.flowWaker_cases with hsame | ⟨hcont, hwoken⟩
      · exact .inl hsame
      · refine .inr ⟨?_, .inl hwoken⟩
        unfold WsEvent.isContinue at hcont
        split at hcont
        · rfl
        · cases hcont
  | finish =>
      obtain ⟨-, rfl, -⟩ := step_finish_eq_some h
      obtain ⟨t, ht, htouched⟩ := world.mux.touchedHeap_drain number s hs
      refine ⟨t, ht, ?_⟩
      rcases htouched.flowWaker_cases with hsame | ⟨hcont, -⟩
      · exact .inl hsame
      · cases hcont
  | pollNext stream sink =>
      obtain ⟨t, ht, rfl | ⟨-, rfl⟩⟩ := getElem?_heap_update h hs
      · exact ⟨t, ht, .inl rfl⟩
      · exact ⟨_, ht, .inl (s.flowWaker_pollNext sink)⟩
  | pollReady stream cx sink =>
      obtain ⟨t, ht, rfl | ⟨rfl, rfl⟩⟩ := getElem?_heap_update h hs
      · exact ⟨t, ht, .inl rfl⟩
      · refine ⟨_, ht, ?_⟩
        rcases (s.write.polledReady s.info (world.phase ≠ .running) cx
          sink).flowWaker with hsame | ⟨hphase, hflow, hempty⟩
        · exact .inl hsame
        · refine .inr ⟨rfl, .inr ⟨cx, sink, rfl, ?_, hflow, hempty⟩⟩
          simpa using hphase
  | startSend stream item =>
      obtain ⟨t, ht, rfl | ⟨-, rfl⟩⟩ := getElem?_heap_update h hs
      · exact ⟨t, ht, .inl rfl⟩
      · exact ⟨_, ht, .inl rfl⟩
  | pollFlush stream sink =>
      obtain ⟨t, ht, rfl | ⟨-, rfl⟩⟩ := getElem?_heap_update h hs
      · exact ⟨t, ht, .inl rfl⟩
      · exact ⟨_, ht, .inl (s.write.polledFlush s.info sink).flowWaker⟩
  | dropRead stream =>
      obtain ⟨t, ht, rfl | ⟨-, rfl⟩⟩ := getElem?_heap_update h hs
      · exact ⟨t, ht, .inl rfl⟩
      · exact ⟨_, ht, .inl rfl⟩

theorem flowWaker_of_waitsForCredit {stream : Nat} {cx : Waker}
    {sink : SinkAnswers} {seen : List Observation}
    (h : world.step (.pollReady stream cx sink) = some (next, seen))
    {s : Stream} (hs : world.mux.heap[stream]? = some s)
    (hwaits : world.WaitsForCredit s) :
    ∃ t, next.mux.heap[stream]? = some t ∧
      t.info.flowWaker = .sleeping cx := by
  obtain ⟨hphase, hflow, hempty⟩ := hwaits
  simp only [step, update, hs, Option.map_some, Option.some.injEq,
    Prod.mk.injEq] at h
  obtain ⟨rfl, -⟩ := h
  refine ⟨_, List.getElem?_set_self (List.getElem?_eq_some_iff.mp hs).1, ?_⟩
  have hrunning : decide (world.phase ≠ .running) = false := by simp [hphase]
  simp only [hrunning, MuxStreamWrite.pollReady_of_flowEmpty hflow hempty]
  exact Waiter.register_eq cx _

theorem released_of_leavesNoneAsleep {seen : List Observation}
    (hinv : world.Released) (hleaves : world.LeavesNoneAsleep action)
    (h : world.step action = some (next, seen)) : next.Released := by
  intro number t ht hlost
  have hdirectory := directory_step h
  rw [hdirectory] at hlost
  by_cases hlt : number < world.mux.heap.length
  · have hs := List.getElem?_eq_getElem hlt
    have hwoken : world.mux.heap[number].info.flowWaker = .woken := by
      by_cases hbefore : world.mux.directory.Lost number
      · exact hinv number _ hs hbefore
      · simp only [Directory.Lost, not_forall, not_not] at hbefore
        obtain ⟨id, hid⟩ := hbefore
        exact hleaves.removed number
          (mem_removes_iff.mpr ⟨id, hid, Directory.eq_of_lost_move hid hlost⟩)
          _ hs
    obtain ⟨u, hu, hcases⟩ := flowWaker_step h hs
    obtain rfl := Option.some.inj (ht.symm.trans hu)
    rcases hcases with hsame | ⟨hstay, hawake | ⟨cx, sink, rfl, hwaits⟩⟩
    · exact hsame.trans hwoken
    · exact hawake
    · rw [hstay] at hlost
      exact absurd hwaits (hleaves.parked number cx sink rfl hlost _ hs)
  · refine absurd hlost (Directory.not_lost_move_of_new ?_ ?_)
    · simpa [MuxInner.directory] using Nat.le_of_not_lt hlt
    · rw [← hdirectory]
      simpa [MuxInner.directory] using (List.getElem?_eq_some_iff.mp ht).1

theorem leavesNoneAsleep_of_released {seen : List Observation}
    (hkeyed : world.mux.directory.Keyed) (hreleased : next.Released)
    (h : world.step action = some (next, seen)) :
    world.LeavesNoneAsleep action := by
  constructor
  · intro number hmem s hs
    obtain ⟨id, hid, hmove⟩ := mem_removes_iff.mp hmem
    have hlost : next.mux.directory.Lost number := by
      rw [directory_step h]
      exact hkeyed.lost_move hid hmove
    obtain ⟨t, ht, hcases⟩ := flowWaker_step h hs
    have hwoken := hreleased number t ht hlost
    rcases hcases with hsame | ⟨hstay, -⟩
    · exact hsame.symm.trans hwoken
    · simp [hstay] at hmove
  · rintro stream cx sink rfl hlost s hs hwaits
    obtain ⟨t, ht, hsleeps⟩ := flowWaker_of_waitsForCredit h hs hwaits
    have hlost' : next.mux.directory.Lost stream := by
      rw [directory_step h]
      exact hlost
    rw [hreleased stream t ht hlost'] at hsleeps
    cases hsleeps

end Step

end MuxWorld

/-- In every state that the run comes through, no writer sleeps on a stream
that is out of the map. -/
def StaysReleased (endpoint : Endpoint) (actions : List EndpointAction) :
    Prop :=
  Endpoint.machine.Meets (fun endpoint action =>
    ∀ next, Endpoint.machine.step endpoint action = some next →
      next.world.Released) endpoint actions

/-- The action leaves nobody asleep, if it concerns the multiplexor. -/
def LeavesNoneAsleep (endpoint : Endpoint) (action : EndpointAction) : Prop :=
  ∀ inner, endpoint.muxAction action = some inner →
    endpoint.world.LeavesNoneAsleep inner

structure ReleasedInv (endpoint : Endpoint) : Prop where
  released : endpoint.world.Released
  keyed : endpoint.world.mux.directory.Keyed

theorem ReleasedInv.step {endpoint next : Endpoint} {action : EndpointAction}
    (hinv : ReleasedInv endpoint) (hleaves : LeavesNoneAsleep endpoint action)
    (hstep : endpoint.step action = some next) : ReleasedInv next := by
  refine ⟨?_, by rw [Endpoint.directory_step hstep]; exact hinv.keyed.move _⟩
  rcases Endpoint.step_world hstep with
    ⟨inner, seen, hinner, hworld⟩ | ⟨-, hworld⟩
  · exact MuxWorld.released_of_leavesNoneAsleep hinv.released
      (hleaves inner hinner) hworld
  · rw [hworld]
    exact hinv.released

/-- In a run no writer is left asleep on a removed stream exactly if none
sleeps when its stream is removed and none goes to sleep later. -/
theorem staysReleased_iff (actor : Actor) (flowStreamTypes : List UInt8)
    (bufferSize : UInt32) {actions : List EndpointAction} {endpoint : Endpoint}
    (hrun : Endpoint.machine.run
      (.init (.new actor flowStreamTypes bufferSize)) actions =
        some endpoint) :
    StaysReleased (.init (.new actor flowStreamTypes bufferSize)) actions ↔
      Endpoint.machine.Meets LeavesNoneAsleep
        (.init (.new actor flowStreamTypes bufferSize)) actions := by
  have hiff : ∀ s action t, ReleasedInv s →
      Endpoint.machine.step s action = some t →
      ((∀ next, Endpoint.machine.step s action = some next →
        next.world.Released) ↔ LeavesNoneAsleep s action) := by
    intro s action t hinv hstep
    constructor
    · intro hreleased inner hinner
      rcases Endpoint.step_world hstep with
        ⟨taken, seen, htaken, hworld⟩ | ⟨hnone, -⟩
      · obtain rfl := Option.some.inj (hinner.symm.trans htaken)
        exact MuxWorld.leavesNoneAsleep_of_released hinv.keyed
          (hreleased t hstep) hworld
      · rw [hnone] at hinner
        cases hinner
    · intro hleaves next hnext
      exact (hinv.step hleaves hnext).released
  have hinit : ReleasedInv
      (.init (.new actor flowStreamTypes bufferSize)) := by
    refine ⟨?_, ?_⟩
    · intro number s hs
      cases hs
    · change (MuxInner.new actor flowStreamTypes bufferSize).directory.Keyed
      rw [MuxInner.directory_new]
      exact Directory.keyed_empty
  exact Endpoint.machine.meets_iff_of_invariant hiff
    (fun _ _ _ hinv hleaves hstep => hinv.step hleaves hstep) hinit hrun

/-- The only credit of a client's stream is spent, and its writer asks for
more. -/
def waiting : List EndpointAction :=
  [requested, .mux (.startSend 0 [7]), .mux (.pollFlush 0 .prompt),
    .mux (.pollReady 0 5 .prompt)]

/-- An action that removes no stream and asks for no credit. -/
theorem leavesNoneAsleep_of_quiet {endpoint : Endpoint} {inner : MuxAction}
    (hremoves : endpoint.world.removes inner = [])
    (hready : ∀ stream cx sink, inner ≠ .pollReady stream cx sink) :
    LeavesNoneAsleep endpoint (.mux inner) := by
  intro taken htaken
  obtain rfl := Option.some.inj htaken
  refine ⟨fun number hnumber => ?_, fun stream cx sink haction => ?_⟩
  · rw [hremoves] at hnumber
    cases hnumber
  · exact absurd haction (hready stream cx sink)

/-- A credit wakes the writer before the peer closes its stream. -/
theorem staysReleased_of_continue :
    StaysReleased quietClient
      (waiting ++ [received ⟨1, .cont ⟨1⟩⟩,
        received ⟨1, .close ⟨.voluntary⟩⟩]) := by
  obtain ⟨endpoint, hrun⟩ : ∃ endpoint, Endpoint.machine.run quietClient
      (waiting ++ [received ⟨1, .cont ⟨1⟩⟩,
        received ⟨1, .close ⟨.voluntary⟩⟩]) = some endpoint := ⟨_, rfl⟩
  refine (staysReleased_iff .client [0x01] 1 hrun).mpr ?_
  have hnone : quietClient.world.removes
      (.event (.createStream ⟨.tcp, "a", 80⟩ 0)
        ⟨true, .ok (), fun _ => rfl⟩) = [] := by
    refine List.eq_nil_iff_forall_not_mem.mpr fun number hmem => ?_
    obtain ⟨id, hid, -⟩ := MuxWorld.mem_removes_iff.mp hmem
    cases hid
  refine ⟨leavesNoneAsleep_of_quiet hnone (by intro _ _ _ h; cases h),
    fun s₁ (h₁ : Endpoint.machine.step quietClient requested = some s₁) =>
    ⟨leavesNoneAsleep_of_quiet rfl (by intro _ _ _ h; cases h),
    fun s₂ h₂ => ⟨leavesNoneAsleep_of_quiet rfl (by intro _ _ _ h; cases h),
    fun s₃ h₃ => ⟨?_,
    fun s₄ h₄ => ⟨leavesNoneAsleep_of_quiet rfl (by intro _ _ _ h; cases h),
    fun s₅ h₅ => ⟨?_, fun _ _ => trivial⟩⟩⟩⟩⟩⟩
  · -- the stream is in the map when its writer falls asleep
    have hmapped : (Endpoint.machine.run quietClient (waiting.take 3)).map
        (fun s => s.world.mux.streams.lookup 1) = some (some 0) := rfl
    have hbefore : Endpoint.machine.run quietClient (waiting.take 3) =
        some s₃ := by
      simp only [waiting, List.take_succ_cons, List.take_zero,
        Machine.run_cons, h₁, h₂, h₃, Option.bind_some, Machine.run_nil]
    rw [hbefore] at hmapped
    rintro inner ⟨⟩
    refine ⟨fun number hnumber => (List.not_mem_nil hnumber).elim, ?_⟩
    intro stream cx sink haction hlost
    cases haction
    exact absurd (Option.some.inj hmapped) (hlost 1)
  · -- nobody sleeps when it is taken out
    have hawake : (Endpoint.machine.run quietClient
        (waiting ++ [received ⟨1, .cont ⟨1⟩⟩])).map
          (fun s => s.world.mux.heap.map fun s => s.info.flowWaker) =
        some [.woken] := rfl
    have hbefore : Endpoint.machine.run quietClient
        (waiting ++ [received ⟨1, .cont ⟨1⟩⟩]) = some s₅ := by
      simp only [waiting, List.cons_append, List.nil_append,
        Machine.run_cons, h₁, h₂, h₃, h₄, h₅, Option.bind_some,
        Machine.run_nil]
    rw [hbefore, Option.map_some, Option.some.injEq] at hawake
    rintro inner ⟨⟩
    refine ⟨fun number _ s hs => ?_, fun _ _ _ haction => by cases haction⟩
    have hwaker : (s₅.world.mux.heap.map fun s => s.info.flowWaker)[number]? =
        some s.info.flowWaker := by
      rw [List.getElem?_map, hs]
      rfl
    rw [hawake] at hwaker
    exact List.mem_singleton.mp (List.mem_of_getElem? hwaker)

/-- The writer sleeps on after the peer's close, a close by another handle and
the end of the actor, and one that asks after the close falls asleep. -/
theorem not_staysReleased_of_close :
    ¬ StaysReleased quietClient
        (waiting ++ [received ⟨1, .close ⟨.voluntary⟩⟩]) ∧
      ¬ StaysReleased quietClient (waiting ++ [closedBy 0]) ∧
      ¬ StaysReleased quietClient (waiting ++ [.mux .finish]) ∧
      ¬ StaysReleased quietClient
        [requested, .mux (.startSend 0 [7]), .mux (.pollFlush 0 .prompt),
          closedBy 0, .mux (.pollReady 0 5 .prompt)] := by
  have hasleep : ∀ actions endpoint s, Endpoint.machine.run quietClient
      actions = some endpoint → endpoint.world.mux.heap[0]? = some s →
      endpoint.world.mux.streams.entries = [] →
      s.info.flowWaker = .sleeping 5 → ¬ StaysReleased quietClient actions := by
    intro actions endpoint s hrun hs hempty hsleeps hreleased
    have hlost : endpoint.world.mux.directory.Lost 0 := by
      intro id
      simp [MuxInner.directory, AList.lookup, hempty]
    have hwoken := hreleased.holds (by intro _ _ hs; cases hs) hrun 0 s hs hlost
    rw [hsleeps] at hwoken
    cases hwoken
  refine ⟨?_, ?_, ?_, ?_⟩
  · exact hasleep _ _ _ rfl rfl rfl rfl
  · exact hasleep _ _ _ rfl rfl rfl rfl
  · exact hasleep _ _ _ rfl rfl rfl rfl
  · exact hasleep _ _ _ rfl rfl rfl rfl

end Epoxy
