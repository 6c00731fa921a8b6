/-
What a reader still gets once the other side has ended its stream.  A poll
asks first whether the sender is gone, so whatever is queued or saved at that
moment is never yielded; a failed credit announcement loses its chunk too.
-/
import Epoxy.MuxRun
import Epoxy.StreamPolls

namespace Epoxy

open ActionMachine ByteCursor PollChannel

namespace Stream

/-- The reader has taken and yielded everything that was accepted. -/
structure CaughtUp (s : Stream) : Prop where
  queue : s.channel.queue = []
  chunk : s.read.chunk = none

/-- The poll pops or holds a chunk, the credit is due, the lock is granted,
and the sink fails. -/
structure ContinueFails (s : Stream) (sink : SinkAnswers) : Prop where
  sender : s.channel.sender = true
  chunk : s.read.chunk.isSome ∨ s.channel.queue ≠ []
  announces : (if s.read.chunk.isSome then s.read
    else s.read.count s.info).announces s.info = true
  lock : sink.pollLock s.read.locked = .ready ()
  fails : (∃ error, sink.ready = .ready (.error error)) ∨
    (sink.ready = .ready (.ok ()) ∧ ∃ error, sink.send = .error error)

theorem not_continueFails_of_reliable {s : Stream} {sink : SinkAnswers}
    (hsink : sink.Reliable) : ¬ s.ContinueFails sink := by
  intro hfails
  rcases hfails.fails with ⟨error, hready⟩ | ⟨_, error, hsend⟩
  · exact hsink.1 error hready
  · exact hsink.2.1 error hsend

end Stream

namespace MuxStreamRead

/-- A delivery saves the chunk, yields it, or fails. -/
theorem Delivered.kept_or_failed {read : MuxStreamRead}
    {channel : Channel Bytes} {info : StreamInfo} {chunk : Bytes}
    {sink : SinkAnswers} {result : ReadPoll}
    (h : Delivered read channel info chunk sink result)
    (hchunk : read.chunk = none) :
    yielded result.answer ++ result.read.chunk.toList = [chunk] ∨
      (read.announces info = true ∧ sink.pollLock read.locked = .ready () ∧
        ((∃ error, sink.ready = .ready (.error error)) ∨
          (sink.ready = .ready (.ok ()) ∧
            ∃ error, sink.send = .error error))) := by
  cases h with
  | lockTaken | notReady => exact .inl rfl
  | settled | announced =>
      left
      simp [yielded, hchunk]
  | failed error hdue hlock hready =>
      exact .inr ⟨hdue, hlock, .inl ⟨error, hready⟩⟩
  | refused error hdue hlock hready hsend =>
      exact .inr ⟨hdue, hlock, .inr ⟨hready, error, hsend⟩⟩

end MuxStreamRead

namespace Stream

/-- A poll moves payloads from the channel to the reader's hands and from
there to the application, and loses none unless the announcement fails. -/
theorem pollNext_keeps (s : Stream) (sink : SinkAnswers)
    (hfails : ¬ s.ContinueFails sink) :
    ∃ popped,
      (s.pollNext sink).1.channel.taken = s.channel.taken ++ popped ∧
      s.channel.queue = popped ++ (s.pollNext sink).1.channel.queue ∧
      s.read.chunk.toList ++ popped =
        yielded (s.pollNext sink).2.1 ++
          (s.pollNext sink).1.read.chunk.toList := by
  have hpolled := s.read.polledNext s.channel s.info sink
  unfold pollNext
  generalize s.read.pollNext s.channel s.info sink = result at hpolled ⊢
  cases hpolled with
  | disconnected => exact ⟨[], by simp, by simp, by simp [yielded]⟩
  | empty _ hchunk hqueue =>
      obtain ⟨htaken, hempty⟩ := Channel.taken_pollNext_of_empty hqueue
      exact ⟨[], by simp [htaken], by simp [hqueue, hempty],
        by simp [yielded, hchunk]⟩
  | saved chunk _ hsender hchunk hdelivered =>
      have hchannel := hdelivered.channel
      rcases hdelivered.kept_or_failed rfl with
        hyield | ⟨hannounces, hlock, herror⟩
      · exact ⟨[], by simp [hchannel], by simp [hchannel],
          by simpa [hchunk] using hyield.symm⟩
      · have hdue : s.read.announces s.info = true := hannounces
        exact absurd ⟨hsender, by simp [hchunk], by simpa [hchunk] using hdue,
          hlock, herror⟩ hfails
  | popped chunk rest _ hsender hchunk hqueue hdelivered =>
      obtain ⟨htaken, hrest⟩ := Channel.taken_pollNext_of_queued hqueue
      have hchannel := hdelivered.channel
      rcases hdelivered.kept_or_failed (by simp [hchunk]) with
        hyield | ⟨hannounces, hlock, herror⟩
      · exact ⟨[chunk], by simp [hchannel, htaken],
          by simp [hchannel, hqueue, hrest],
          by simpa [hchunk] using hyield.symm⟩
      · exact absurd ⟨hsender, by simp [hqueue],
          by simpa [hchunk] using hannounces, by simpa using hlock,
          herror⟩ hfails

end Stream

namespace MuxWorld

/-- When poll_next has returned the end of a stream that the other side
ended, everything the stream ever accepted has been yielded, in order. -/
def Lossless (state : MuxWorld × List Observation) : Prop :=
  ∀ (number : Nat) s, state.1.mux.heap[number]? = some s →
    .peerEnded number ∈ state.2 → .polled number (.ready none) ∈ state.2 →
    yieldedBy number state.2 = s.channel.accepted

/-- The other side ends only streams whose readers have caught up, and no
poll fails to announce its credit. -/
def KeepsData (state : MuxWorld × List Observation) (action : MuxAction) :
    Prop :=
  (∀ number ∈ state.1.peerEnds action,
    ∀ s, state.1.mux.heap[number]? = some s → s.CaughtUp) ∧
  match action with
  | .pollNext number sink =>
      ∀ s, state.1.mux.heap[number]? = some s → ¬ s.ContinueFails sink
  | _ => True

structure ReaderInv (state : MuxWorld × List Observation) : Prop where
  wellFormed : state.1.mux.WellFormed
  yielded : ∀ (number : Nat) s, state.1.mux.heap[number]? = some s →
    s.channel.taken = yieldedBy number state.2 ++ s.read.chunk.toList
  ended : ∀ number, .peerEnded number ∈ state.2 →
    (∀ id, state.1.mux.streams.lookup id ≠ some number) ∧
      ∃ s, state.1.mux.heap[number]? = some s ∧ s.CaughtUp
  known : ∀ number answer, .polled number answer ∈ state.2 →
    number < state.1.mux.heap.length

namespace ReaderInv

theorem lossless {state : MuxWorld × List Observation}
    (hinv : ReaderInv state) : Lossless state := by
  intro number s hs hended _
  obtain ⟨_, t, ht, hcaught⟩ := hinv.ended number hended
  rw [hs] at ht
  cases ht
  have htaken := hinv.yielded number s hs
  rw [hcaught.chunk] at htaken
  rw [Channel.accepted, hcaught.queue, htaken]
  simp

theorem init (actor : Actor) (flowStreamTypes : List UInt8)
    (bufferSize : UInt32) :
    ReaderInv (.init (.new actor flowStreamTypes bufferSize), []) where
  wellFormed := MuxInner.wellFormed_new actor flowStreamTypes bufferSize
  yielded number s hs := by simp [MuxWorld.init, MuxInner.new] at hs
  ended number h := by simp at h
  known number answer h := by simp at h

/-- A step of the actor, given that the streams it ends are caught up. -/
theorem of_actor {state next : MuxWorld × List Observation}
    {seen : List Observation} (hinv : ReaderInv state)
    (hstep : MuxInner.Step state.1.mux next.1.mux)
    (htrace : next.2 = state.2 ++ seen)
    (hpolled : ∀ number answer, .polled number answer ∉ seen)
    (hended : ∀ number, .peerEnded number ∈ seen →
      (∀ id, next.1.mux.streams.lookup id ≠ some number) ∧
        ∃ s, next.1.mux.heap[number]? = some s ∧ s.CaughtUp) :
    ReaderInv next where
  wellFormed := hstep.wellFormed hinv.wellFormed
  yielded number t ht := by
    have hseen : yieldedBy number seen = [] :=
      yieldedBy_of_not_polled fun answer => hpolled number answer
    rw [htrace, yieldedBy_append, hseen, List.append_nil]
    by_cases hlt : number < state.1.mux.heap.length
    · obtain ⟨u, hu, hsame, _⟩ := hstep.framed.kept number _
        (List.getElem?_eq_getElem hlt)
      rw [ht] at hu
      cases hu
      rw [hsame.taken, hsame.read]
      exact hinv.yielded number _ (List.getElem?_eq_getElem hlt)
    · obtain ⟨hread, htaken⟩ :=
        hstep.framed.fresh number t (Nat.le_of_not_lt hlt) ht
      have hnone : yieldedBy number state.2 = [] :=
        yieldedBy_of_not_polled fun answer h =>
          hlt (hinv.known number answer h)
      rw [hread, htaken, hnone]
      rfl
  ended number h := by
    rw [htrace, List.mem_append] at h
    rcases h with hold | hnew
    · obtain ⟨hout, s, hs, hcaught⟩ := hinv.ended number hold
      obtain ⟨t, ht, hsame, hqueue⟩ := hstep.framed.kept number s hs
      refine ⟨fun id hid => ?_, t, ht, ?_, ?_⟩
      · rcases hstep.framed.mapped id number hid with hin | hge
        · exact hout id hin
        · have := (List.getElem?_eq_some_iff.mp hs).1
          omega
      · rw [hqueue hout]
        exact hcaught.queue
      · rw [hsame.read]
        exact hcaught.chunk
    · exact hended number hnew
  known number answer h := by
    rw [htrace, List.mem_append] at h
    rcases h with hold | hnew
    · exact Nat.lt_of_lt_of_le (hinv.known number answer hold)
        hstep.framed.length_le
    · exact absurd hnew (hpolled number answer)

/-- A step of one stream's handles. -/
theorem of_update {state next : MuxWorld × List Observation} {number : Nat}
    {f : Stream → Stream × List Observation} {seen : List Observation}
    (hinv : ReaderInv state)
    (hupdate : state.1.update number f = some (next.1, seen))
    (htrace : next.2 = state.2 ++ seen)
    (hseen : ∀ s, state.1.mux.heap[number]? = some s →
      (∀ other, .peerEnded other ∉ (f s).2) ∧
      (∀ other answer, .polled other answer ∈ (f s).2 → other = number) ∧
      ∃ popped, (f s).1.channel.taken = s.channel.taken ++ popped ∧
        s.channel.queue = popped ++ (f s).1.channel.queue ∧
        s.read.chunk.toList ++ popped =
          yieldedBy number (f s).2 ++ (f s).1.read.chunk.toList) :
    ReaderInv next := by
  unfold update at hupdate
  rw [Option.map_eq_some_iff] at hupdate
  obtain ⟨s, hs, heq⟩ := hupdate
  obtain ⟨hnext, hfs⟩ := Prod.mk.inj heq
  subst hfs
  obtain ⟨hnone, hothers, popped, htaken, hqueue, hchunk⟩ := hseen s hs
  have hlt := (List.getElem?_eq_some_iff.mp hs).1
  have hstreams : next.1.mux.streams = state.1.mux.streams := by rw [← hnext]
  have hheap : next.1.mux.heap = state.1.mux.heap.set number (f s).1 := by
    rw [← hnext]
  have hlength : next.1.mux.heap.length = state.1.mux.heap.length := by
    rw [hheap, List.length_set]
  constructor
  · exact hinv.wellFormed.of_eq (Nat.le_of_eq hlength.symm) hstreams
  · intro other t ht
    rw [htrace, yieldedBy_append]
    rw [hheap] at ht
    by_cases hother : number = other
    · subst hother
      rw [List.getElem?_set_self hlt] at ht
      cases ht
      rw [htaken, hinv.yielded number s hs, List.append_assoc, hchunk,
        List.append_assoc]
    · rw [List.getElem?_set_ne hother] at ht
      have hempty : yieldedBy other (f s).2 = [] :=
        yieldedBy_of_not_polled fun answer h =>
          hother (hothers other answer h).symm
      rw [hempty, List.append_nil]
      exact hinv.yielded other t ht
  · intro other h
    rw [htrace, List.mem_append] at h
    rcases h with hold | hnew
    · obtain ⟨hout, u, hu, hcaught⟩ := hinv.ended other hold
      rw [hstreams, hheap]
      refine ⟨hout, ?_⟩
      by_cases hother : number = other
      · subst hother
        rw [hs] at hu
        cases hu
        refine ⟨(f s).1, List.getElem?_set_self hlt, ?_⟩
        rw [hcaught.queue] at hqueue
        obtain ⟨hpopped, hempty⟩ := List.append_eq_nil_iff.mp hqueue.symm
        rw [hcaught.chunk, hpopped] at hchunk
        obtain ⟨_, hsaved⟩ := List.append_eq_nil_iff.mp hchunk.symm
        refine ⟨hempty, ?_⟩
        cases hread : (f s).1.read.chunk with
        | none => rfl
        | some chunk => simp [hread] at hsaved
      · exact ⟨u, by rw [List.getElem?_set_ne hother]; exact hu, hcaught⟩
    · exact absurd hnew (hnone other)
  · intro other answer h
    rw [hlength]
    rw [htrace, List.mem_append] at h
    rcases h with hold | hnew
    · exact hinv.known other answer hold
    · rw [hothers other answer hnew]
      exact hlt

/-- A step of the handles that the reader does not notice. -/
theorem of_quiet_update {state next : MuxWorld × List Observation}
    {number : Nat} {f : Stream → Stream × List Observation}
    {seen : List Observation} (hinv : ReaderInv state)
    (hupdate : state.1.update number f = some (next.1, seen))
    (htrace : next.2 = state.2 ++ seen)
    (hsame : ∀ s, SameReader s (f s).1 ∧
      (f s).1.channel.queue = s.channel.queue ∧
      ∃ packets : List Bytes, (f s).2 = packets.map .wrote) :
    ReaderInv next := by
  refine hinv.of_update hupdate htrace fun s _ => ?_
  obtain ⟨hreader, hqueue, packets, hwrote⟩ := hsame s
  have hyield : yieldedBy number (f s).2 = [] :=
    yieldedBy_of_not_polled fun answer h => by simp [hwrote] at h
  refine ⟨fun other h => by simp [hwrote] at h,
    fun other answer h => by simp [hwrote] at h, [], ?_, ?_, ?_⟩
  · rw [hreader.taken, List.append_nil]
  · rw [hqueue, List.nil_append]
  · rw [hyield, hreader.read, List.append_nil, List.nil_append]

end ReaderInv

/-- A stream that an event ends leaves the map with its queue unchanged. -/
theorem ended_by_event {world : MuxWorld} (hwell : world.mux.WellFormed)
    {event : WsEvent} {send : SendAnswer} {number : Nat}
    (hnumber : number ∈ world.peerEnds (.event event send)) :
    (∀ id, (world.mux.handleEvent event send).mux.streams.lookup id ≠
        some number) ∧
      ∃ s t, world.mux.heap[number]? = some s ∧
        (world.mux.handleEvent event send).mux.heap[number]? = some t ∧
        SameReader s t ∧ t.channel.queue = s.channel.queue := by
  match event with
  | .wispMessage ⟨streamId, .close close⟩ =>
      simp only [peerEnds] at hnumber
      split at hnumber
      · cases hnumber
      · next hid =>
          have hlookup : world.mux.streams.lookup streamId = some number :=
            Option.mem_toList.mp hnumber
          have hround : (world.mux.handleEvent
              (.wispMessage ⟨streamId, .close close⟩) send).mux =
                world.mux.closeStream streamId close := by
            simp [MuxInner.handleEvent, MuxInner.handlePacket,
              MuxInner.handleClosePacket, hid]
          rw [hround]
          refine ⟨hwell.lookup_erase_ne_some hlookup, ?_⟩
          have hlt := hwell.bound streamId number hlookup
          refine ⟨_, world.mux.heap[number].close close,
            List.getElem?_eq_getElem hlt, ?_, ⟨rfl, rfl⟩, rfl⟩
          simp [MuxInner.closeStream, MuxInner.modify, hlookup,
            List.getElem?_eq_getElem hlt]
  | .wispMessage ⟨_, .connect _⟩ => cases hnumber
  | .wispMessage ⟨_, .data _⟩ => cases hnumber
  | .wispMessage ⟨_, .cont _⟩ => cases hnumber
  | .createStream _ _ => cases hnumber
  | .close _ _ _ => cases hnumber
  | .endFut _ => cases hnumber

/-- So does every stream that the actor's end closes. -/
theorem ended_by_drain {world : MuxWorld} (hwell : world.mux.WellFormed)
    {number : Nat} (hnumber : number ∈ world.peerEnds .finish) :
    ∃ s t, world.mux.heap[number]? = some s ∧
      world.mux.drain.heap[number]? = some t ∧
      SameReader s t ∧ t.channel.queue = s.channel.queue := by
  simp only [peerEnds] at hnumber
  split at hnumber
  · cases hnumber
  · obtain ⟨⟨id, value⟩, hentry, heq⟩ := List.mem_map.mp hnumber
    have hvalue : value = number := heq
    subst hvalue
    have hlookup : world.mux.streams.lookup id = some value :=
      AList.mem_lookup_iff.mpr hentry
    have hs := List.getElem?_eq_getElem (hwell.bound id value hlookup)
    obtain ⟨t, ht, hsame, hqueue⟩ :=
      MuxInner.getElem?_closeEntries world.mux.streams.entries
        world.mux.heap hs
    exact ⟨_, t, hs, ht, hsame, hqueue⟩

theorem caughtUp_of_same {s t : Stream} (hs : s.CaughtUp)
    (hsame : SameReader s t) (hqueue : t.channel.queue = s.channel.queue) :
    t.CaughtUp where
  queue := hqueue.trans hs.queue
  chunk := by
    rw [hsame.read]
    exact hs.chunk

theorem ReaderInv.step {state next : MuxWorld × List Observation}
    {action : MuxAction} (hinv : ReaderInv state)
    (hkeeps : KeepsData state action)
    (hstep : machine.step state action = some next) : ReaderInv next := by
  obtain ⟨seen, htaken, htrace⟩ := recording_step_eq_some hstep
  cases action with
  | event event send =>
      obtain ⟨-, hmux, -, rfl⟩ := stepEvent_eq_some htaken
      refine hinv.of_actor (hmux ▸ state.1.mux.step_handleEvent event send)
        htrace ?_ ?_
      · intro number answer h
        simp at h
      · intro number h
        have hnumber : number ∈ state.1.peerEnds (.event event send) := by
          simpa using h
        obtain ⟨hout, s, t, hs, ht, hsame, hqueue⟩ :=
          ended_by_event hinv.wellFormed hnumber
        rw [hmux]
        exact ⟨hout, t, ht,
          caughtUp_of_same (hkeeps.1 number hnumber s hs) hsame hqueue⟩
  | finish =>
      obtain ⟨-, hnext, rfl⟩ := step_finish_eq_some htaken
      have hmux : next.1.mux = state.1.mux.drain := by rw [hnext]
      refine hinv.of_actor (hmux ▸ state.1.mux.step_drain) htrace ?_ ?_
      · intro number answer h
        simp at h
      · intro number h
        have hnumber : number ∈ state.1.peerEnds .finish := by
          simpa using h
        obtain ⟨s, t, hs, ht, hsame, hqueue⟩ :=
          ended_by_drain hinv.wellFormed hnumber
        rw [hmux]
        exact ⟨fun id => by simp [MuxInner.drain], t, ht,
          caughtUp_of_same (hkeeps.1 number hnumber s hs) hsame hqueue⟩
  | pollNext number sink =>
      refine hinv.of_update htaken htrace fun s hs => ⟨?_, ?_, ?_⟩
      · simp
      · intro other answer h
        simp at h
        exact h.1
      · obtain ⟨popped, hpopped, hqueue, hchunk⟩ :=
          s.pollNext_keeps sink (hkeeps.2 s hs)
        refine ⟨popped, hpopped, hqueue, hchunk.trans ?_⟩
        have hwrote : yieldedBy number
            ((s.pollNext sink).2.2.map .wrote) = [] :=
          yieldedBy_of_not_polled fun answer h => by simp at h
        rw [yieldedBy_polled, hwrote, List.append_nil]
  | pollReady number cx sink =>
      exact hinv.of_quiet_update htaken htrace fun s =>
        ⟨⟨rfl, rfl⟩, rfl, _, rfl⟩
  | startSend number item =>
      exact hinv.of_quiet_update htaken htrace fun s =>
        ⟨⟨rfl, rfl⟩, rfl, [], rfl⟩
  | pollFlush number sink =>
      exact hinv.of_quiet_update htaken htrace fun s =>
        ⟨⟨rfl, rfl⟩, rfl, _, rfl⟩
  | dropRead number =>
      exact hinv.of_quiet_update htaken htrace fun s =>
        ⟨⟨rfl, rfl⟩, rfl, [], rfl⟩

/-- While the other side ends only streams whose readers have caught up and
no credit announcement fails, no reader loses a payload at the close. -/
theorem lossless_of_keepsData (actor : Actor) (flowStreamTypes : List UInt8)
    (bufferSize : UInt32) (actions : List MuxAction)
    {state : MuxWorld × List Observation}
    (hkeeps : machine.Meets KeepsData
      (.init (.new actor flowStreamTypes bufferSize), []) actions)
    (hrun : machine.run (.init (.new actor flowStreamTypes bufferSize), [])
      actions = some state) :
    Lossless state := by
  have hinv : ReaderInv state :=
    machine.run_invariant_of_meets
      (fun _ _ _ hinv hkeep hstep => hinv.step hkeep hstep)
      (.init actor flowStreamTypes bufferSize) hkeeps hrun
  exact hinv.lossless

def sendOk : SendAnswer := ⟨true, .ok (), fun _ => rfl⟩

/-- A server that has taken one TCP stream with id 1 and one payload. -/
def oneStream : List MuxAction :=
  [.event (.wispMessage ⟨1, .connect ⟨.tcp, "host", 80⟩⟩) sendOk,
    .event (.wispMessage ⟨1, .data [7]⟩) sendOk]

def server : MuxWorld × List Observation :=
  (.init (.new (.server .unbounded) [0x01] 4), [])

def closeOne : MuxAction :=
  .event (.wispMessage ⟨1, .close ⟨.voluntary⟩⟩) sendOk

/-- A reader that polls before the close gets the payload. -/
theorem lossless_of_prompt_reader :
    ∃ state, machine.run server
        (oneStream ++ [.pollNext 0 .prompt, closeOne, .pollNext 0 .prompt]) =
          some state ∧
      .peerEnded 0 ∈ state.2 ∧ .polled 0 (.ready none) ∈ state.2 ∧
      yieldedBy 0 state.2 = [[7]] ∧ Lossless state := by
  refine ⟨_, rfl, .tail _ (.head _), .tail _ (.tail _ (.head _)), rfl, ?_⟩
  refine lossless_of_keepsData (.server .unbounded) [0x01] 4
    (oneStream ++ [.pollNext 0 .prompt, closeOne, .pollNext 0 .prompt])
    ?_ rfl
  have hpoll : ∀ state, KeepsData state (.pollNext 0 .prompt) := by
    refine fun state => ⟨by simp [peerEnds], fun s _ => ?_⟩
    exact Stream.not_continueFails_of_reliable SinkAnswers.prompt_reliable
  have hopen : ∀ state, ∀ action ∈ oneStream ++ [.pollNext 0 .prompt],
      KeepsData state action := by
    intro state action haction
    simp only [oneStream, List.cons_append, List.nil_append, List.mem_cons,
      List.not_mem_nil, or_false] at haction
    rcases haction with rfl | rfl | rfl
    · exact ⟨by simp [peerEnds], trivial⟩
    · exact ⟨by simp [peerEnds], trivial⟩
    · exact hpoll state
  -- what the state before the close holds for the one stream there is
  have hbefore : (machine.run server
      (oneStream ++ [.pollNext 0 .prompt])).map (fun state =>
        (state.1.mux.streams.lookup 1,
          (state.1.mux.heap[0]?).map fun s =>
            (s.channel.queue, s.read.chunk))) =
      some (some 0, some ([], none)) := rfl
  rw [show oneStream ++ [.pollNext 0 .prompt, closeOne, .pollNext 0 .prompt] =
    (oneStream ++ [.pollNext 0 .prompt]) ++ [closeOne, .pollNext 0 .prompt]
      from rfl, Machine.meets_append]
  refine ⟨machine.meets_of_forall hopen, fun state hstate => ?_⟩
  change machine.run server _ = some state at hstate
  rw [hstate] at hbefore
  simp only [Option.map_some, Option.some.injEq, Prod.mk.injEq] at hbefore
  obtain ⟨hlookup, hheap⟩ := hbefore
  refine ⟨⟨fun number hnumber s hs => ?_, trivial⟩, fun next _ =>
    ⟨hpoll next, fun _ _ => trivial⟩⟩
  have hzero : number = 0 := by
    simpa [peerEnds, closeOne, hlookup] using hnumber
  rw [hzero] at hs
  simp only [hs, Option.map_some, Option.some.injEq, Prod.mk.injEq] at hheap
  exact ⟨hheap.1, hheap.2⟩

/-- The same close before the first poll: the payload is still queued, and
the reader is told that the stream has ended. -/
theorem payload_lost_at_close :
    ∃ state, machine.run server
        (oneStream ++ [closeOne, .pollNext 0 .prompt]) = some state ∧
      yieldedBy 0 state.2 = [] ∧ ¬ Lossless state := by
  refine ⟨_, rfl, rfl, fun hlossless => ?_⟩
  have hall := hlossless 0 _ rfl (.head _) (.tail _ (.head _))
  cases hall

end MuxWorld

end Epoxy
