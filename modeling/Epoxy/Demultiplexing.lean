/-
The order in which a stream's reader gets its payloads.  What is yielded was
handled for this very stream, in the same order and no more than once, and
while nothing is refused nothing is left out.
-/
import Epoxy.MuxDirectory

namespace Epoxy

open ActionMachine ByteCursor PollChannel

/-- The payload of a Data packet for an id whose entry is this stream. -/
def MuxInner.payloads (mux : MuxInner) (number : Nat) : WsEvent → List Bytes
  | .wispMessage ⟨id, .data data⟩ =>
      if mux.streams.lookup id = some number then [data] else []
  | _ => []

/-- What an action hands to a stream. -/
def MuxWorld.handled (number : Nat) (state : MuxWorld × List Observation) :
    MuxAction → List Bytes
  | .event event _ => state.1.mux.payloads number event
  | _ => []

/-- A reader got what was handled for its stream, in order. -/
structure Demultiplexed (actor : Actor) (number : Nat)
    (state : MuxWorld × List Observation) (history : List Bytes) : Prop where
  subsequence : (yieldedBy number state.2).Sublist history
  /-- Nothing is left out before the last payload, if any number fit. -/
  whole : ∀ s, state.1.mux.heap[number]? = some s →
    s.channel.capacity = none → yieldedBy number state.2 <+: history
  unbounded : ∀ s, state.1.mux.heap[number]? = some s →
    actor = .client ∨ s.info.flowStatus = .disabled →
    s.channel.capacity = none

/-- The stream is left alone but for its ends, its credit and its reason. -/
structure Kept (s t : Stream) : Prop where
  same : SameStream s t
  read : t.read = s.read
  accepted : t.channel.accepted = s.channel.accepted
  taken : t.channel.taken = s.channel.taken
  receiver : t.channel.receiver = true → s.channel.receiver = true

namespace Kept

theorem refl (s : Stream) : Kept s s := ⟨.refl s, rfl, rfl, rfl, id⟩

theorem trans {s t u : Stream} (hst : Kept s t) (htu : Kept t u) :
    Kept s u where
  same := hst.same.trans htu.same
  read := htu.read.trans hst.read
  accepted := htu.accepted.trans hst.accepted
  taken := htu.taken.trans hst.taken
  receiver h := hst.receiver (htu.receiver h)

theorem dropSender (s : Stream) :
    Kept s { s with channel := s.channel.dropSender } :=
  ⟨⟨.refl s.info, rfl⟩, rfl, rfl, rfl, id⟩

theorem dropReceiver (s : Stream) :
    Kept s { s with channel := s.channel.dropReceiver } :=
  ⟨⟨.refl s.info, rfl⟩, rfl, rfl, rfl, nofun⟩

theorem close (s : Stream) (close : ClosePacket) : Kept s (s.close close) :=
  ⟨.close s close, rfl, rfl, rfl, id⟩

theorem handleContinuePacket (s : Stream) (cont : ContinuePacket) :
    Kept s (ClientActor.handleContinuePacket s cont) := by
  have hsame := SameStream.handleContinuePacket s cont
  unfold ClientActor.handleContinuePacket at hsame ⊢
  split
  · next hflow =>
      rw [if_pos hflow] at hsame
      exact ⟨hsame, rfl, rfl, rfl, id⟩
  · exact .refl s

end Kept

/-- Every stream of the second heap is one of the first. -/
def KeptHeap (heap next : List Stream) : Prop :=
  ∀ (number : Nat) t, next[number]? = some t →
    ∃ s, heap[number]? = some s ∧ Kept s t

namespace KeptHeap

theorem refl (heap : List Stream) : KeptHeap heap heap :=
  fun _ t ht => ⟨t, ht, .refl t⟩

theorem trans {heap mid next : List Stream} (h₁ : KeptHeap heap mid)
    (h₂ : KeptHeap mid next) : KeptHeap heap next := by
  intro number u hu
  obtain ⟨t, ht, htu⟩ := h₂ number u hu
  obtain ⟨s, hs, hst⟩ := h₁ number t ht
  exact ⟨s, hs, hst.trans htu⟩

theorem modify {heap : List Stream} (number : Nat) {f : Stream → Stream}
    (hf : ∀ s, Kept s (f s)) : KeptHeap heap (heap.modify number f) := by
  intro other t ht
  rw [List.getElem?_modify] at ht
  obtain ⟨s, hs, rfl⟩ := Option.map_eq_some_iff.mp ht
  refine ⟨s, hs, ?_⟩
  split
  · exact hf s
  · exact .refl s

end KeptHeap

namespace MuxInner

theorem keptHeap_modify (mux : MuxInner) (id : UInt32) {f : Stream → Stream}
    (hf : ∀ s, Kept s (f s)) : KeptHeap mux.heap (mux.modify id f).heap := by
  unfold modify
  split
  · exact .modify _ hf
  · exact .refl _

theorem keptHeap_closeEntries (entries : List (Sigma fun _ : UInt32 => Nat))
    (heap : List Stream) : KeptHeap heap (closeEntries entries heap) := by
  induction entries generalizing heap with
  | nil => exact .refl heap
  | cons entry rest ih =>
      have hclose : KeptHeap heap
          (heap.modify entry.2 fun stream => stream.close ⟨.unknown⟩) :=
        .modify _ fun s => Kept.close s _
      exact hclose.trans (ih _)

/-- Where a stream of the next heap comes from: it was there, and was fed the
payloads in question, or it is new. -/
inductive Origin (mux : MuxInner) (number : Nat) (payloads : List Bytes)
    (t : Stream) : Prop where
  | kept (s : Stream) (hs : mux.heap[number]? = some s)
      (hnone : payloads = []) (hkept : Kept s t)
  | fed (s : Stream) (data : Bytes) (hs : mux.heap[number]? = some s)
      (hone : payloads = [data]) (hfed : t = mux.actor.handleDataPacket s data)
  | fresh (id : UInt32) (ty : StreamType) (hs : mux.heap[number]? = none)
      (hnone : payloads = [])
      (hkept : Kept (.new id (mux.actor.getFlowControl ty mux.flowStreamTypes)
        mux.bufferSize) t)

theorem Origin.of_keptHeap {mux : MuxInner} {next : List Stream}
    (h : KeptHeap mux.heap next) {number : Nat} {t : Stream}
    (ht : next[number]? = some t) : Origin mux number [] t := by
  obtain ⟨s, hs, hkept⟩ := h number t ht
  exact .kept s hs rfl hkept

/-- The streams after one was added. -/
theorem origin_addStream (mux : MuxInner) (id : UInt32) (ty : StreamType)
    {number : Nat} {t : Stream}
    (ht : (mux.addStream id ty).1.heap[number]? = some t) :
    Origin mux number [] t := by
  have hdropped := mux.keptHeap_modify id fun s => Kept.dropSender s
  have hlength := mux.length_heap_modify id fun stream =>
    { stream with channel := stream.channel.dropSender }
  simp only [addStream] at ht
  rcases Nat.lt_or_ge number mux.heap.length with hlt | hge
  · rw [List.getElem?_append_left (by rw [hlength]; exact hlt)] at ht
    exact .of_keptHeap hdropped ht
  · rw [List.getElem?_append_right (by rw [hlength]; exact hge),
      List.getElem?_singleton] at ht
    split at ht
    · cases ht
      exact .fresh id ty (List.getElem?_eq_none hge) rfl (.refl _)
    · cases ht

theorem Origin.trans {mux : MuxInner} {next : List Stream}
    {heap : List Stream} (h : KeptHeap heap next)
    (horigin : ∀ {number t}, heap[number]? = some t → Origin mux number [] t)
    {number : Nat} {u : Stream} (hu : next[number]? = some u) :
    Origin mux number [] u := by
  obtain ⟨t, ht, htu⟩ := h number u hu
  cases horigin ht with
  | kept s hs _ hkept => exact .kept s hs rfl (hkept.trans htu)
  | fed s data _ hone => cases hone
  | fresh id ty hs _ hkept => exact .fresh id ty hs rfl (hkept.trans htu)

theorem origin_createStream (mux : MuxInner) (ty : StreamType) {number : Nat}
    {t : Stream} (ht : (mux.createStream ty).1.heap[number]? = some t) :
    Origin mux number [] t := by
  unfold createStream at ht
  split at ht
  · cases origin_addStream { mux with currentId := mux.currentId + 1 } _ ty
      ht with
    | kept s hs _ hkept => exact .kept s hs rfl hkept
    | fed s data _ hone => cases hone
    | fresh id ty hs _ hkept => exact .fresh id ty hs rfl hkept
  · exact .of_keptHeap (.refl _) ht

theorem keptHeap_handleConnectPacket (mux : MuxInner) (stream : Nat)
    (pkt : ConnectPacket) :
    KeptHeap mux.heap (mux.handleConnectPacket stream pkt).1.heap := by
  have hdropped : KeptHeap mux.heap (mux.heap.modify stream fun stream =>
      { stream with channel := stream.channel.dropReceiver }) :=
    .modify _ Kept.dropReceiver
  unfold handleConnectPacket
  split
  · exact hdropped
  · dsimp only
    split
    · exact .refl _
    · exact hdropped

/-- Nobody is fed before it is there. -/
theorem WellFormed.payloads_of_none {mux : MuxInner} (h : mux.WellFormed)
    (event : WsEvent) {number : Nat} (hnone : mux.heap[number]? = none) :
    mux.payloads number event = [] := by
  unfold payloads
  split
  · next id data =>
      refine if_neg fun hfind => ?_
      have hlt := h.bound id number hfind
      rw [List.getElem?_eq_none_iff] at hnone
      exact absurd hlt (Nat.not_lt.mpr hnone)
  · rfl

theorem origin_handlePacket (mux : MuxInner) (packet : Packet) {number : Nat}
    {t : Stream} (ht : (mux.handlePacket packet).1.heap[number]? = some t) :
    Origin mux number (mux.payloads number (.wispMessage packet)) t := by
  obtain ⟨id, packetType⟩ := packet
  cases packetType with
  | connect connect =>
      exact .trans (keptHeap_handleConnectPacket _ _ _)
        (origin_addStream mux id connect.streamType) ht
  | data data =>
      simp only [payloads]
      change (mux.modify id fun stream =>
        mux.actor.handleDataPacket stream data).heap[number]? = some t at ht
      by_cases hfind : mux.streams.lookup id = some number
      · simp only [modify, hfind, List.getElem?_modify_eq] at ht
        obtain ⟨s, hs, rfl⟩ := Option.map_eq_some_iff.mp ht
        exact .fed s data hs (if_pos hfind) rfl
      · rw [getElem?_heap_modify _ hfind] at ht
        exact .kept t ht (if_neg hfind) (.refl t)
  | cont cont =>
      simp only [handlePacket, handleContinuePacket] at ht
      split at ht
      · exact .of_keptHeap (mux.keptHeap_modify id fun s =>
          Kept.handleContinuePacket s cont) ht
      · exact .of_keptHeap (.refl _) ht
  | close close =>
      simp only [handlePacket, handleClosePacket] at ht
      split at ht
      · exact .of_keptHeap (.refl _) ht
      · exact .of_keptHeap (mux.keptHeap_modify id fun s =>
          Kept.close s close) ht

theorem origin_handleEvent (mux : MuxInner) (event : WsEvent)
    (send : SendAnswer) {number : Nat} {t : Stream}
    (ht : (mux.handleEvent event send).mux.heap[number]? = some t) :
    Origin mux number (mux.payloads number event) t := by
  cases event with
  | close id close channel =>
      simp only [handleEvent, handleClose] at ht
      split at ht
      · exact .of_keptHeap (mux.keptHeap_modify id fun s =>
          Kept.close s close) ht
      · exact .of_keptHeap (.refl _) ht
  | createStream connect channel =>
      have hcreated := @origin_createStream mux connect.streamType
      simp only [handleEvent, handleCreateStream] at ht
      split at ht
      · next created error heq =>
          rw [heq] at hcreated
          exact hcreated ht
      · next created stream id heq =>
          rw [heq] at hcreated
          split at ht
          · exact hcreated ht
          · exact .trans (.modify _ Kept.dropReceiver) hcreated ht
  | wispMessage packet => exact mux.origin_handlePacket packet ht
  | endFut reason =>
      cases reason with
      | none => exact .of_keptHeap (.refl _) ht
      | some reason => exact .of_keptHeap (.refl _) ht

end MuxInner

namespace MuxStreamRead

theorem not_announces {read : MuxStreamRead} {info : StreamInfo}
    (hflow : info.flowStatus ≠ .enabledSendMessages) :
    read.announces info = false := by
  simp [announces, hflow]

theorem count_of_settled {read : MuxStreamRead} {info : StreamInfo}
    (hflow : info.flowStatus ≠ .enabledSendMessages) :
    read.count info = read := if_neg hflow

/-- A delivery yields its chunk, saves it, or loses it to an error. -/
theorem Delivered.sublist {read : MuxStreamRead} {channel : Channel Bytes}
    {info : StreamInfo} {chunk : Bytes} {sink : SinkAnswers}
    {result : ReadPoll} (h : Delivered read channel info chunk sink result)
    (hchunk : read.chunk = none) :
    (yielded result.answer ++ result.read.chunk.toList).Sublist [chunk] := by
  cases h with
  | lockTaken | notReady => exact List.Sublist.refl _
  | settled | failed | refused | announced => simp [yielded, hchunk]

/-- Where nothing is due the chunk comes out. -/
theorem Delivered.of_settled {read : MuxStreamRead} {channel : Channel Bytes}
    {info : StreamInfo} {chunk : Bytes} {sink : SinkAnswers}
    {result : ReadPoll} (h : Delivered read channel info chunk sink result)
    (hsettled : read.announces info = false) :
    result.answer = .ready (some (.ok chunk)) ∧ result.read = read := by
  cases h with
  | settled => exact ⟨rfl, rfl⟩
  | lockTaken hdue
  | notReady hdue
  | failed _ hdue
  | refused _ hdue
  | announced hdue =>
      rw [hsettled] at hdue
      cases hdue

end MuxStreamRead

/-- What a poll takes from the channel comes out, is saved or is lost, and
nothing is saved or lost where no credit is announced. -/
structure Moves (s : Stream) (answer : Poll (Option (Except WispError Bytes)))
    (t : Stream) (popped : List Bytes) : Prop where
  taken : t.channel.taken = s.channel.taken ++ popped
  accepted : t.channel.accepted = s.channel.accepted
  receiver : t.channel.receiver = s.channel.receiver
  got : (yielded answer ++ t.read.chunk.toList).Sublist
    (s.read.chunk.toList ++ popped)
  settled : s.info.flowStatus ≠ .enabledSendMessages →
    s.read.chunk = none → yielded answer = popped ∧ t.read.chunk = none

theorem Stream.moves_pollNext (s : Stream) (sink : SinkAnswers) :
    ∃ popped, Moves s (s.pollNext sink).2.1 (s.pollNext sink).1 popped := by
  have hpolled := s.read.polledNext s.channel s.info sink
  unfold pollNext
  generalize s.read.pollNext s.channel s.info sink = result at hpolled ⊢
  dsimp only
  cases hpolled with
  | disconnected =>
      exact ⟨[], (List.append_nil _).symm, rfl, rfl, by simp [yielded],
        fun _ hchunk => ⟨rfl, hchunk⟩⟩
  | empty _ hchunk hqueue =>
      obtain ⟨htaken, -⟩ := Channel.taken_pollNext_of_empty hqueue
      exact ⟨[], by rw [List.append_nil]; exact htaken,
        s.channel.accepted_pollNext, s.channel.receiver_pollNext,
        by simp [yielded], fun _ _ => ⟨rfl, hchunk⟩⟩
  | saved chunk _ _ hchunk hdelivered =>
      have hchannel := hdelivered.channel
      refine ⟨[], ?_, ?_, ?_, ?_, fun _ hnone => ?_⟩
      · rw [hchannel, List.append_nil]
      · rw [hchannel]
      · rw [hchannel]
      · rw [hchunk]
        exact hdelivered.sublist rfl
      · rw [hchunk] at hnone
        cases hnone
  | popped chunk rest _ _ hchunk hqueue hdelivered =>
      obtain ⟨htaken, -⟩ := Channel.taken_pollNext_of_queued hqueue
      have hchannel := hdelivered.channel
      refine ⟨[chunk], ?_, ?_, ?_, ?_, fun hflow _ => ?_⟩
      · rw [hchannel]
        exact htaken
      · rw [hchannel]
        exact s.channel.accepted_pollNext
      · rw [hchannel]
        exact s.channel.receiver_pollNext
      · rw [hchunk]
        exact hdelivered.sublist (by simp [hchunk])
      · obtain ⟨hanswer, hread⟩ :=
          hdelivered.of_settled (MuxStreamRead.not_announces hflow)
        rw [hanswer, hread, MuxStreamRead.count_of_settled hflow]
        exact ⟨rfl, hchunk⟩

/-- Beside a stream, what its reader has yielded and what was handled. -/
structure InOrder (got history : List Bytes) (s : Stream) : Prop where
  output : (got ++ s.read.chunk.toList).Sublist s.channel.taken
  accepted : s.channel.accepted.Sublist history
  bounded : s.channel.capacity = none ↔
    s.info.flowStatus ≠ .enabledSendMessages
  settled : s.info.flowStatus ≠ .enabledSendMessages →
    got = s.channel.taken ∧ s.read.chunk = none
  whole : s.channel.capacity = none → s.channel.accepted <+: history ∧
    (s.channel.receiver = true → s.channel.accepted = history)

namespace InOrder

variable {got history : List Bytes} {s t : Stream}

theorem new (id : UInt32) (flow : FlowControl) (bufferSize : UInt32) :
    InOrder [] [] (.new id flow bufferSize) where
  output := List.nil_sublist _
  accepted := by
    unfold Stream.new
    dsimp only
    split
    · exact List.Sublist.refl _
    · exact List.Sublist.refl _
  bounded := by
    unfold Stream.new
    dsimp only [StreamInfo.flowStatus_new]
    split
    · next hflow => simp [Channel.bounded, hflow]
    · next hflow => simp [Channel.unbounded, hflow]
  settled _ := ⟨(taken_new id flow bufferSize).symm, rfl⟩
  whole := by
    unfold Stream.new
    dsimp only
    split
    · intro hcapacity
      cases hcapacity
    · exact fun _ => ⟨List.prefix_refl _, fun _ => rfl⟩

theorem kept (h : InOrder got history s) (hkept : Kept s t) :
    InOrder got history t where
  output := by
    rw [hkept.read, hkept.taken]
    exact h.output
  accepted := by
    rw [hkept.accepted]
    exact h.accepted
  bounded := by
    rw [hkept.same.capacity, hkept.same.info.flowStatus]
    exact h.bounded
  settled := by
    rw [hkept.same.info.flowStatus, hkept.taken, hkept.read]
    exact h.settled
  whole := by
    rw [hkept.same.capacity, hkept.accepted]
    intro hcapacity
    obtain ⟨hbegins, hwhole⟩ := h.whole hcapacity
    exact ⟨hbegins, fun hreceiver => hwhole (hkept.receiver hreceiver)⟩

/-- Handled data is queued, or the channel is left as it was. -/
theorem handleDataPacket (h : InOrder got history s) (actor : Actor)
    (data : Bytes) :
    InOrder got (history ++ [data]) (actor.handleDataPacket s data) := by
  have hsame := SameStream.handleDataPacket actor s data
  have hread : (actor.handleDataPacket s data).read = s.read ∧
      (actor.handleDataPacket s data).channel =
        (s.channel.trySend data).1 := by
    cases actor with
    | client => exact ⟨rfl, rfl⟩
    | server streamTx =>
        simp only [Actor.handleDataPacket, ServerActor.handleDataPacket]
        split
        · exact ⟨rfl, rfl⟩
        · exact ⟨rfl, rfl⟩
  obtain ⟨hread, hchannel⟩ := hread
  have haccepted := s.channel.accepted_trySend data
  constructor
  · rw [hread, hchannel, Channel.taken_trySend]
    exact h.output
  · rw [hchannel, haccepted]
    split
    · exact h.accepted.append (List.Sublist.refl _)
    · exact h.accepted.trans (List.sublist_append_left _ _)
  · rw [hsame.capacity, hsame.info.flowStatus]
    exact h.bounded
  · rw [hsame.info.flowStatus, hread, hchannel, Channel.taken_trySend]
    exact h.settled
  · rw [hsame.capacity, hchannel, haccepted, Channel.receiver_trySend]
    intro hcapacity
    obtain ⟨hbegins, hwhole⟩ := h.whole hcapacity
    cases hreceiver : s.channel.receiver with
    | true =>
        have htaken : (s.channel.trySend data).2 = true :=
          Channel.trySend_of_unbounded hcapacity hreceiver data
        rw [if_pos htaken, hwhole hreceiver]
        exact ⟨List.prefix_refl _, fun _ => rfl⟩
    | false =>
        have hrefused : (s.channel.trySend data).2 = false :=
          Channel.trySend_of_dropped hreceiver data
        rw [hrefused]
        refine ⟨hbegins.trans (List.prefix_append _ _), fun hkept => ?_⟩
        cases hkept

theorem pollNext (h : InOrder got history s) (sink : SinkAnswers) :
    InOrder (got ++ yielded (s.pollNext sink).2.1) history
      (s.pollNext sink).1 := by
  obtain ⟨popped, hmoves⟩ := s.moves_pollNext sink
  have hsame := SameStream.pollNext s sink
  constructor
  · rw [hmoves.taken, List.append_assoc]
    have hgot := h.output.append (List.Sublist.refl popped)
    rw [List.append_assoc] at hgot
    exact (hmoves.got.append_left got).trans hgot
  · rw [hmoves.accepted]
    exact h.accepted
  · rw [hsame.capacity, hsame.info.flowStatus]
    exact h.bounded
  · rw [hsame.info.flowStatus, hmoves.taken]
    intro hflow
    obtain ⟨hgot, hchunk⟩ := h.settled hflow
    obtain ⟨hpopped, hnone⟩ := hmoves.settled hflow hchunk
    rw [hgot, hpopped]
    exact ⟨rfl, hnone⟩
  · rw [hsame.capacity, hmoves.accepted, hmoves.receiver]
    exact h.whole

/-- What is in order is a subsequence, and a whole beginning if unbounded. -/
theorem demultiplexed (h : InOrder got history s) :
    got.Sublist history ∧ (s.channel.capacity = none → got <+: history) := by
  have htaken : s.channel.taken.Sublist s.channel.accepted :=
    List.sublist_append_left _ _
  constructor
  · have hgot := (List.sublist_append_left got s.read.chunk.toList).trans
      h.output
    exact (hgot.trans htaken).trans h.accepted
  · intro hcapacity
    rw [(h.settled (h.bounded.mp hcapacity)).1]
    exact (List.prefix_append _ _).trans (h.whole hcapacity).1

end InOrder

/-- What holds beside a run, for one stream. -/
structure OrderInv (actor : Actor) (number : Nat)
    (state : MuxWorld × List Observation) (history : List Bytes) : Prop where
  wellFormed : state.1.mux.WellFormed
  client : actor = .client → state.1.mux.actor = .client ∧
    ∀ s, state.1.mux.heap[number]? = some s →
      s.info.flowStatus ≠ .enabledSendMessages
  unseen : state.1.mux.heap[number]? = none →
    yieldedBy number state.2 = [] ∧ history = []
  inOrder : ∀ s, state.1.mux.heap[number]? = some s →
    InOrder (yieldedBy number state.2) history s

namespace OrderInv

variable {actor : Actor} {number : Nat}
  {state next : MuxWorld × List Observation} {history : List Bytes}

theorem init (actor : Actor) (flowStreamTypes : List UInt8)
    (bufferSize : UInt32) (number : Nat) :
    OrderInv actor number
      (.init (.new actor flowStreamTypes bufferSize), []) [] where
  wellFormed := MuxInner.wellFormed_new actor flowStreamTypes bufferSize
  client hclient := by
    refine ⟨hclient, fun s hs => ?_⟩
    cases hs
  unseen _ := ⟨rfl, rfl⟩
  inOrder s hs := by cases hs

theorem demultiplexed (h : OrderInv actor number state history) :
    Demultiplexed actor number state history where
  subsequence := by
    cases hs : state.1.mux.heap[number]? with
    | none =>
        rw [(h.unseen hs).1]
        exact List.nil_sublist _
    | some s => exact (h.inOrder s hs).demultiplexed.1
  whole s hs := (h.inOrder s hs).demultiplexed.2
  unbounded s hs hflow := by
    refine (h.inOrder s hs).bounded.mpr ?_
    rcases hflow with hclient | hdisabled
    · exact (h.client hclient).2 s hs
    · rw [hdisabled]
      nofun

/-- A step of the actor, which polls nobody. -/
theorem of_origin {payloads : List Bytes} {seen : List Observation}
    (h : OrderInv actor number state history)
    (hstep : MuxInner.Step state.1.mux next.1.mux)
    (hclient : state.1.mux.actor = .client → next.1.mux.actor = .client)
    (htrace : next.2 = state.2 ++ seen)
    (hpolled : ∀ answer, .polled number answer ∉ seen)
    (hknown : state.1.mux.heap[number]? = none → payloads = [])
    (horigin : ∀ t, next.1.mux.heap[number]? = some t →
      state.1.mux.Origin number payloads t) :
    OrderInv actor number next (history ++ payloads) := by
  have hgot : yieldedBy number next.2 = yieldedBy number state.2 := by
    rw [htrace, yieldedBy_append, yieldedBy_of_not_polled hpolled,
      List.append_nil]
  constructor
  · exact hstep.wellFormed h.wellFormed
  · intro hrole
    obtain ⟨hactor, hflow⟩ := h.client hrole
    refine ⟨hclient hactor, fun t ht => ?_⟩
    cases horigin t ht with
    | kept s hs _ hkept =>
        rw [hkept.same.info.flowStatus]
        exact hflow s hs
    | fed s data hs _ hfed =>
        rw [hfed, (SameStream.handleDataPacket _ s data).info.flowStatus]
        exact hflow s hs
    | fresh id ty _ _ hkept =>
        rw [hkept.same.info.flowStatus, hactor]
        simp only [Stream.new, StreamInfo.flowStatus_new, Actor.getFlowControl,
          ClientActor.getFlowControl]
        split
        · nofun
        · nofun
  · intro hnone
    have hbefore : state.1.mux.heap[number]? = none := by
      have hlength := hstep.framed.length_le
      rw [List.getElem?_eq_none_iff] at hnone ⊢
      exact Nat.le_trans hlength hnone
    obtain ⟨hgotNone, hhistory⟩ := h.unseen hbefore
    exact ⟨hgot.trans hgotNone, by rw [hhistory, hknown hbefore]; rfl⟩
  · intro t ht
    rw [hgot]
    cases horigin t ht with
    | kept s hs hnone hkept =>
        rw [hnone, List.append_nil]
        exact (h.inOrder s hs).kept hkept
    | fed s data hs hone hfed =>
        rw [hone, hfed]
        exact (h.inOrder s hs).handleDataPacket _ data
    | fresh id ty hs hnone hkept =>
        obtain ⟨hgotNone, hhistory⟩ := h.unseen hs
        rw [hgotNone, hhistory, hnone]
        exact (InOrder.new _ _ _).kept hkept

/-- A step of a handle of some stream. -/
theorem of_update {stream : Nat} {f : Stream → Stream × List Observation}
    {seen : List Observation} (h : OrderInv actor number state history)
    (hupdate : state.1.update stream f = some (next.1, seen))
    (htrace : next.2 = state.2 ++ seen)
    (hsame : ∀ s, SameStream s (f s).1)
    (hothers : ∀ s other answer,
      .polled other answer ∈ (f s).2 → other = stream)
    (hinOrder : ∀ s got, InOrder got history s →
      InOrder (got ++ yieldedBy stream (f s).2) history (f s).1) :
    OrderInv actor number next history := by
  simp only [MuxWorld.update, Option.map_eq_some_iff, Prod.mk.injEq]
    at hupdate
  obtain ⟨s, hs, hworld, rfl⟩ := hupdate
  have hlt := (List.getElem?_eq_some_iff.mp hs).1
  have hheap : next.1.mux.heap = state.1.mux.heap.set stream (f s).1 := by
    rw [← hworld]
  have hlength : next.1.mux.heap.length = state.1.mux.heap.length := by
    rw [hheap, List.length_set]
  -- The stream that was polled, and the others.
  have hcases : ∀ t, next.1.mux.heap[number]? = some t →
      (stream = number ∧ state.1.mux.heap[number]? = some s ∧ t = (f s).1) ∨
        (stream ≠ number ∧ state.1.mux.heap[number]? = some t) := by
    intro t ht
    rw [hheap] at ht
    by_cases heq : stream = number
    · subst heq
      rw [List.getElem?_set_self hlt] at ht
      exact .inl ⟨rfl, hs, (Option.some.inj ht).symm⟩
    · rw [List.getElem?_set_ne heq] at ht
      exact .inr ⟨heq, ht⟩
  have hgot : stream ≠ number →
      yieldedBy number next.2 = yieldedBy number state.2 := by
    intro hne
    have hquiet : yieldedBy number (f s).2 = [] :=
      yieldedBy_of_not_polled fun answer hmem =>
        hne (hothers s number answer hmem).symm
    rw [htrace, yieldedBy_append, hquiet, List.append_nil]
  constructor
  · exact h.wellFormed.of_eq (Nat.le_of_eq hlength.symm) (by rw [← hworld])
  · intro hrole
    obtain ⟨hactor, hflow⟩ := h.client hrole
    refine ⟨by rw [← hworld]; exact hactor, fun t ht => ?_⟩
    rcases hcases t ht with ⟨-, hold, rfl⟩ | ⟨-, hold⟩
    · rw [(hsame s).info.flowStatus]
      exact hflow s hold
    · exact hflow t hold
  · intro hnone
    have hne : stream ≠ number := by
      rintro rfl
      rw [List.getElem?_eq_none_iff, hlength] at hnone
      exact absurd hlt (Nat.not_lt.mpr hnone)
    rw [hgot hne]
    refine h.unseen ?_
    rw [List.getElem?_eq_none_iff] at hnone ⊢
    rw [← hlength]
    exact hnone
  · intro t ht
    rcases hcases t ht with ⟨rfl, hold, rfl⟩ | ⟨hne, hold⟩
    · rw [htrace, yieldedBy_append]
      exact hinOrder s _ (h.inOrder s hold)
    · rw [hgot hne]
      exact h.inOrder t hold

/-- A step of the writing half, which the reader does not notice. -/
theorem of_write {stream : Nat} {f : Stream → Stream × List Observation}
    {seen : List Observation} (h : OrderInv actor number state history)
    (hupdate : state.1.update stream f = some (next.1, seen))
    (htrace : next.2 = state.2 ++ seen) (hkept : ∀ s, Kept s (f s).1)
    (hwrote : ∀ s, ∃ packets : List Bytes, (f s).2 = packets.map .wrote) :
    OrderInv actor number next history := by
  have hquiet : ∀ s other answer, .polled other answer ∉ (f s).2 := by
    intro s other answer hmem
    obtain ⟨packets, hpackets⟩ := hwrote s
    simp [hpackets] at hmem
  refine h.of_update hupdate htrace (fun s => (hkept s).same) ?_ ?_
  · exact fun s other answer hmem => absurd hmem (hquiet s other answer)
  · intro s got hinOrder
    rw [yieldedBy_of_not_polled (hquiet s stream), List.append_nil]
    exact hinOrder.kept (hkept s)

theorem step {action : MuxAction} (h : OrderInv actor number state history)
    (hstep : MuxWorld.machine.step state action = some next) :
    OrderInv actor number next
      (history ++ MuxWorld.handled number state action) := by
  obtain ⟨seen, htaken, htrace⟩ := recording_step_eq_some hstep
  cases action with
  | event event send =>
      obtain ⟨-, hmux, -, rfl⟩ := MuxWorld.stepEvent_eq_some htaken
      refine h.of_origin (hmux ▸ state.1.mux.step_handleEvent event send)
        ?_ htrace ?_ ?_ ?_
      · intro hclient
        rw [hmux]
        exact state.1.mux.actor_handleEvent_of_client hclient event send
      · intro answer hmem
        simp at hmem
      · intro hnone
        exact h.wellFormed.payloads_of_none event hnone
      · intro t ht
        rw [hmux] at ht
        exact state.1.mux.origin_handleEvent event send ht
  | finish =>
      obtain ⟨-, hnext, rfl⟩ := MuxWorld.step_finish_eq_some htaken
      have hmux : next.1.mux = state.1.mux.drain := by rw [hnext]
      refine h.of_origin (hmux ▸ state.1.mux.step_drain) ?_ htrace ?_ ?_ ?_
      · intro hclient
        rw [hmux]
        exact hclient
      · intro answer hmem
        simp at hmem
      · exact fun _ => rfl
      · intro t ht
        rw [hmux] at ht
        exact .of_keptHeap (MuxInner.keptHeap_closeEntries _ _) ht
  | pollNext stream sink =>
      simp only [MuxWorld.handled, List.append_nil]
      refine h.of_update htaken htrace (fun s => SameStream.pollNext s sink)
        ?_ ?_
      · intro s other answer hmem
        simp only [List.mem_cons, Observation.polled.injEq, List.mem_map,
          reduceCtorEq, and_false, exists_false, or_false] at hmem
        exact hmem.1
      · intro s got hinOrder
        have hrest : yieldedBy stream
            ((s.pollNext sink).2.2.map Observation.wrote) = [] :=
          yieldedBy_of_not_polled fun answer hmem => by simp at hmem
        simp only [yieldedBy_polled, hrest, List.append_nil]
        exact hinOrder.pollNext sink
  | pollReady stream cx sink =>
      simp only [MuxWorld.handled, List.append_nil]
      exact h.of_write htaken htrace
        (fun s => ⟨⟨(s.write.polledReady s.info _ cx sink).sameInfo, rfl⟩, rfl,
          rfl, rfl, id⟩) (fun s => ⟨_, rfl⟩)
  | startSend stream item =>
      simp only [MuxWorld.handled, List.append_nil]
      exact h.of_write htaken htrace
        (fun s => ⟨⟨.refl s.info, rfl⟩, rfl, rfl, rfl, id⟩)
        (fun s => ⟨[], rfl⟩)
  | pollFlush stream sink =>
      simp only [MuxWorld.handled, List.append_nil]
      exact h.of_write htaken htrace
        (fun s => ⟨⟨(s.write.polledFlush s.info sink).sameInfo, rfl⟩, rfl,
          rfl, rfl, id⟩) (fun s => ⟨_, rfl⟩)
  | dropRead stream =>
      simp only [MuxWorld.handled, List.append_nil]
      exact h.of_write htaken htrace Kept.dropReceiver (fun s => ⟨[], rfl⟩)

end OrderInv

/-- In every run, of either role, every reader gets what was handled for its
stream. -/
theorem demultiplexed_of_run (actor : Actor) (flowStreamTypes : List UInt8)
    (bufferSize : UInt32) (number : Nat) {actions : List MuxAction}
    {state : MuxWorld × List Observation}
    (hrun : MuxWorld.machine.run
      (.init (.new actor flowStreamTypes bufferSize), []) actions =
        some state) :
    Demultiplexed actor number state
      (MuxWorld.machine.collect (MuxWorld.handled number)
        (.init (.new actor flowStreamTypes bufferSize), []) actions) := by
  have hinit := OrderInv.init actor flowStreamTypes bufferSize number
  have hstep : ∀ s action t history, OrderInv actor number s history →
      MuxWorld.machine.step s action = some t →
      OrderInv actor number t (history ++ MuxWorld.handled number s action) :=
    fun s action t history hs hnext => hs.step hnext
  exact (MuxWorld.machine.run_collect_invariant hstep hinit hrun).demultiplexed

/-- A client opens a stream, gets two payloads for it and reads one. -/
def halfRead : List MuxAction :=
  [.event (.createStream ⟨.tcp, "a", 80⟩ 0) ⟨true, .ok (), fun _ => rfl⟩,
    .event (.wispMessage ⟨1, .data [7]⟩) ⟨true, .ok (), fun _ => rfl⟩,
    .event (.wispMessage ⟨1, .data [8]⟩) ⟨true, .ok (), fun _ => rfl⟩,
    .pollNext 0 .prompt]

theorem demultiplexed_of_halfRead :
    ∃ state, MuxWorld.machine.run (.init (.new .client [0x01] 1), [])
        halfRead = some state ∧
      yieldedBy 0 state.2 = [[7]] ∧
      Demultiplexed .client 0 state [[7], [8]] := by
  obtain ⟨state, hrun, hgot⟩ : ∃ state,
      MuxWorld.machine.run (.init (.new .client [0x01] 1), []) halfRead =
        some state ∧ yieldedBy 0 state.2 = [[7]] := ⟨_, rfl, rfl⟩
  exact ⟨state, hrun, hgot, demultiplexed_of_run .client [0x01] 1 0 hrun⟩

end Epoxy
