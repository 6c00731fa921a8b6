/-
Runs of the multiplexor together with the handles of its streams.  The actor
takes an event or a packet at a time; between any two of its steps the handles
poll.  The history of a run is kept beside the state.
-/
import Epoxy.MuxInner

namespace Epoxy

open ActionMachine ByteCursor PollChannel

/-- Where the actor is: in its loop, past it (`byPeer` unless a local handle
asked for the end), or finished. -/
inductive Phase where
  | running
  | left (byPeer : Bool)
  | done
deriving Repr, DecidableEq

structure MuxWorld where
  mux : MuxInner
  phase : Phase

inductive MuxAction where
  /-- One round of the actor's loop. -/
  | event (event : WsEvent) (send : SendAnswer)
  /-- The transport ended, or the loop was left: close every stream. -/
  | finish
  | pollNext (stream : Nat) (sink : SinkAnswers)
  | pollReady (stream : Nat) (cx : Waker) (sink : SinkAnswers)
  | startSend (stream : Nat) (item : Bytes)
  | pollFlush (stream : Nat) (sink : SinkAnswers)
  | dropRead (stream : Nat)

inductive Observation where
  | polled (stream : Nat) (answer : Poll (Option (Except WispError Bytes)))
  /-- The stream was ended from the other side. -/
  | peerEnded (stream : Nat)
  | wrote (packet : Bytes)
  | replied (channel : Nat) (reply : Reply)

namespace MuxWorld

def init (mux : MuxInner) : MuxWorld := ⟨mux, .running⟩

/-- The streams that the action ends from the other side. -/
def peerEnds (world : MuxWorld) : MuxAction → List Nat
  | .event (.wispMessage ⟨streamId, .close _⟩) _ =>
      if streamId = 0 then [] else (world.mux.streams.lookup streamId).toList
  | .finish =>
      if world.phase = .left false then []
      else world.mux.streams.entries.map (·.2)
  | _ => []

/-- Replace one stream, if there is one under this number. -/
def update {α : Type} (world : MuxWorld) (stream : Nat)
    (f : Stream → Stream × α) : Option (MuxWorld × α) :=
  (world.mux.heap[stream]?).map fun s =>
    ({ world with mux := { world.mux with
        heap := world.mux.heap.set stream (f s).1 } }, (f s).2)

def stepEvent (world : MuxWorld) (event : WsEvent) (send : SendAnswer) :
    Option (MuxWorld × List Observation) :=
  match world.phase with
  | .running =>
      let round := world.mux.handleEvent event send
      let byPeer := match event with
        | .endFut _ => false
        | _ => true
      let phase := match round.result with
        | .ok false => .running
        | _ => .left byPeer
      some (⟨round.mux, phase⟩,
        (world.peerEnds (.event event send)).map .peerEnded ++
          round.sent.map .wrote ++
          round.replies.map fun reply => .replied reply.1 reply.2)
  | _ => none

def step (world : MuxWorld) (action : MuxAction) :
    Option (MuxWorld × List Observation) :=
  match action with
  | .event event send => world.stepEvent event send
  | .finish =>
      if world.phase = .done then none
      else
        some (⟨world.mux.drain, .done⟩,
          (world.peerEnds .finish).map .peerEnded)
  | .pollNext stream sink =>
      world.update stream fun s =>
        let (s, answer, sent) := s.pollNext sink
        (s, .polled stream answer :: sent.map .wrote)
  | .pollReady stream cx sink =>
      world.update stream fun s =>
        let result :=
          s.write.pollReady s.info (world.phase ≠ .running) cx sink
        ({ s with write := result.write, info := result.info },
          result.sent.map .wrote)
  | .startSend stream item =>
      world.update stream fun s =>
        ({ s with write := s.write.startSend item }, [])
  | .pollFlush stream sink =>
      world.update stream fun s =>
        let result := s.write.pollFlush s.info sink
        ({ s with write := result.write, info := result.info },
          result.sent.map .wrote)
  | .dropRead stream =>
      world.update stream fun s =>
        ({ s with channel := s.channel.dropReceiver }, [])

/-- What a round of the loop does. -/
theorem stepEvent_eq_some {world next : MuxWorld} {event : WsEvent}
    {send : SendAnswer} {seen : List Observation}
    (h : world.stepEvent event send = some (next, seen)) :
    world.phase = .running ∧
      next.mux = (world.mux.handleEvent event send).mux ∧
      (next.phase = .running ↔
        (world.mux.handleEvent event send).result = .ok false) ∧
      seen = (world.peerEnds (.event event send)).map .peerEnded ++
        (world.mux.handleEvent event send).sent.map .wrote ++
        (world.mux.handleEvent event send).replies.map
          fun reply => .replied reply.1 reply.2 := by
  unfold stepEvent at h
  split at h
  · next hphase =>
      obtain ⟨rfl, rfl⟩ := Prod.mk.inj (Option.some.inj h)
      refine ⟨hphase, rfl, ?_, rfl⟩
      constructor
      · intro hrunning
        dsimp only at hrunning
        split at hrunning
        · next hresult => exact hresult
        · cases hrunning
      · intro hresult
        simp only [hresult]
  · cases h

theorem step_finish_eq_some {world next : MuxWorld} {seen : List Observation}
    (h : world.step .finish = some (next, seen)) :
    world.phase ≠ .done ∧ next = ⟨world.mux.drain, .done⟩ ∧
      seen = (world.peerEnds .finish).map .peerEnded := by
  simp only [step] at h
  split at h
  · cases h
  · next hdone =>
      obtain ⟨rfl, rfl⟩ := Prod.mk.inj (Option.some.inj h)
      exact ⟨hdone, rfl, rfl⟩

def machine : Machine (MuxWorld × List Observation) MuxAction :=
  recording step

end MuxWorld

/-- What a poll's answer yields. -/
def yielded : Poll (Option (Except WispError Bytes)) → List Bytes
  | .ready (some (.ok chunk)) => [chunk]
  | _ => []

/-- What a stream's reader has yielded, in order. -/
def yieldedBy (stream : Nat) : List Observation → List Bytes
  | [] => []
  | .polled other answer :: rest =>
      (if other = stream then yielded answer else []) ++ yieldedBy stream rest
  | _ :: rest => yieldedBy stream rest

@[simp] theorem yieldedBy_nil (stream : Nat) : yieldedBy stream [] = [] := rfl

@[simp] theorem yieldedBy_polled (stream : Nat)
    (answer : Poll (Option (Except WispError Bytes)))
    (rest : List Observation) :
    yieldedBy stream (.polled stream answer :: rest) =
      yielded answer ++ yieldedBy stream rest := by
  simp [yieldedBy]

@[simp] theorem yieldedBy_append (stream : Nat)
    (first second : List Observation) :
    yieldedBy stream (first ++ second) =
      yieldedBy stream first ++ yieldedBy stream second := by
  induction first with
  | nil => rfl
  | cons observation rest ih =>
      cases observation <;> simp [yieldedBy, ih]

theorem yieldedBy_of_not_polled {stream : Nat} {trace : List Observation}
    (h : ∀ answer, .polled stream answer ∉ trace) :
    yieldedBy stream trace = [] := by
  induction trace with
  | nil => rfl
  | cons observation rest ih =>
      have hrest := ih fun answer hmem => h answer (List.mem_cons_of_mem _ hmem)
      cases observation with
      | polled other answer =>
          have hne : other ≠ stream := by
            rintro rfl
            exact h answer List.mem_cons_self
          simp [yieldedBy, hne, hrest]
      | peerEnded other => simpa [yieldedBy] using hrest
      | wrote packet => simpa [yieldedBy] using hrest
      | replied channel reply => simpa [yieldedBy] using hrest

/-- Two streams that differ at most in ways the reader cannot tell. -/
structure SameReader (s t : Stream) : Prop where
  read : t.read = s.read
  taken : t.channel.taken = s.channel.taken

namespace SameReader

theorem refl (s : Stream) : SameReader s s := ⟨rfl, rfl⟩

theorem trans {s t u : Stream} (hst : SameReader s t) (htu : SameReader t u) :
    SameReader s u := ⟨htu.read.trans hst.read, htu.taken.trans hst.taken⟩

end SameReader

/-- What the actor's own steps leave alone.  Streams are never forgotten, a
stream outside the map receives nothing, and what is added is new. -/
structure Framed (mux next : MuxInner) : Prop where
  kept : ∀ (number : Nat) s, mux.heap[number]? = some s →
    ∃ t, next.heap[number]? = some t ∧ SameReader s t ∧
      ((∀ id, mux.streams.lookup id ≠ some number) →
        t.channel.queue = s.channel.queue)
  fresh : ∀ (number : Nat) t, mux.heap.length ≤ number →
    next.heap[number]? = some t → t.read = .new ∧ t.channel.taken = []
  mapped : ∀ id number, next.streams.lookup id = some number →
    mux.streams.lookup id = some number ∨ mux.heap.length ≤ number

namespace Framed

theorem refl (mux : MuxInner) : Framed mux mux where
  kept number s hs := ⟨s, hs, .refl s, fun _ => rfl⟩
  fresh number t hle ht := by
    rw [List.getElem?_eq_none hle] at ht
    cases ht
  mapped id number h := .inl h

theorem length_le {mux next : MuxInner} (h : Framed mux next) :
    mux.heap.length ≤ next.heap.length := by
  by_contra hlt
  have hlast : next.heap.length < mux.heap.length := Nat.lt_of_not_le hlt
  obtain ⟨t, ht, _⟩ := h.kept next.heap.length
    (mux.heap[next.heap.length]) (List.getElem?_eq_getElem hlast)
  rw [List.getElem?_eq_none (Nat.le_refl _)] at ht
  cases ht

theorem trans {mux mid next : MuxInner} (h₁ : Framed mux mid)
    (h₂ : Framed mid next) : Framed mux next where
  kept number s hs := by
    obtain ⟨t, ht, hst, hqueue⟩ := h₁.kept number s hs
    obtain ⟨u, hu, htu, hqueue'⟩ := h₂.kept number t ht
    have hlt : number < mux.heap.length :=
      (List.getElem?_eq_some_iff.mp hs).1
    refine ⟨u, hu, hst.trans htu, fun hout => ?_⟩
    rw [hqueue' ?_, hqueue hout]
    intro id hid
    rcases h₁.mapped id number hid with hold | hnew
    · exact hout id hold
    · omega
  fresh number u hle hu := by
    by_cases hmid : mid.heap.length ≤ number
    · exact h₂.fresh number u hmid hu
    · have hlt : number < mid.heap.length := Nat.lt_of_not_le hmid
      obtain ⟨hread, htaken⟩ := h₁.fresh number mid.heap[number] hle
        (List.getElem?_eq_getElem hlt)
      obtain ⟨v, hv, hsame, _⟩ := h₂.kept number mid.heap[number]
        (List.getElem?_eq_getElem hlt)
      rw [hu] at hv
      cases hv
      exact ⟨hsame.read.trans hread, hsame.taken.trans htaken⟩
  mapped id number h := by
    rcases h₂.mapped id number h with hold | hnew
    · exact h₁.mapped id number hold
    · exact .inr (Nat.le_trans h₁.length_le hnew)

/-- Changing one stream that is in the map, or no stream's queue. -/
theorem of_modify {mux next : MuxInner} {number : Nat} {f : Stream → Stream}
    (hheap : next.heap = mux.heap.modify number f)
    (hstreams : next.streams = mux.streams) (hf : ∀ s, SameReader s (f s))
    (hqueue : (∃ id, mux.streams.lookup id = some number) ∨
      ∀ s, (f s).channel.queue = s.channel.queue) : Framed mux next where
  kept other s hs := by
    rw [hheap, List.getElem?_modify, hs]
    by_cases heq : number = other
    · subst heq
      refine ⟨f s, by simp, hf s, fun hout => ?_⟩
      rcases hqueue with ⟨id, hid⟩ | hqueue
      · exact absurd hid (hout id)
      · exact hqueue s
    · exact ⟨s, by simp [heq], .refl s, fun _ => rfl⟩
  fresh other t hle ht := by
    rw [hheap, List.getElem?_eq_none (by simpa using hle)] at ht
    cases ht
  mapped id other h := by
    rw [hstreams] at h
    exact .inl h

theorem modify (mux : MuxInner) (id : UInt32) {f : Stream → Stream}
    (hf : ∀ s, SameReader s (f s)) : Framed mux (mux.modify id f) := by
  unfold MuxInner.modify
  split
  · next number hid => exact of_modify rfl rfl hf (.inl ⟨id, hid⟩)
  · exact refl mux

theorem dropReceiver (mux : MuxInner) (number : Nat) :
    Framed mux { mux with
      heap := mux.heap.modify number fun stream =>
        { stream with channel := stream.channel.dropReceiver } } :=
  of_modify rfl rfl (fun _ => ⟨rfl, rfl⟩) (.inr fun _ => rfl)

/-- Changes of the other fields. -/
theorem of_eq {mux next : MuxInner} (hheap : next.heap = mux.heap)
    (hstreams : next.streams = mux.streams) : Framed mux next where
  kept number s hs := ⟨s, hheap ▸ hs, .refl s, fun _ => rfl⟩
  fresh number t hle ht := by
    rw [hheap, List.getElem?_eq_none hle] at ht
    cases ht
  mapped id number h := .inl (hstreams ▸ h)

end Framed

theorem taken_new (id : UInt32) (flow : FlowControl) (bufferSize : UInt32) :
    (Stream.new id flow bufferSize).channel.taken = [] := by
  unfold Stream.new
  dsimp only
  split <;> rfl

namespace MuxInner

/-- Every entry of the map is a stream of its own. -/
structure WellFormed (mux : MuxInner) : Prop where
  bound : ∀ id number, mux.streams.lookup id = some number →
    number < mux.heap.length
  unique : ∀ id id' number, mux.streams.lookup id = some number →
    mux.streams.lookup id' = some number → id = id'

/-- A step that frames the other streams and keeps the map in order. -/
structure Step (mux next : MuxInner) : Prop where
  framed : Framed mux next
  wellFormed : mux.WellFormed → next.WellFormed

theorem wellFormed_new (actor : Actor) (flowStreamTypes : List UInt8)
    (bufferSize : UInt32) :
    (new actor flowStreamTypes bufferSize).WellFormed where
  bound id number h := by simp [new] at h
  unique id id' number h := by simp [new] at h

@[simp] theorem streams_modify (mux : MuxInner) (id : UInt32)
    (f : Stream → Stream) : (mux.modify id f).streams = mux.streams := by
  unfold modify
  split <;> rfl

@[simp] theorem length_heap_modify (mux : MuxInner) (id : UInt32)
    (f : Stream → Stream) :
    (mux.modify id f).heap.length = mux.heap.length := by
  unfold modify
  split
  · simp
  · rfl

namespace WellFormed

theorem of_eq {mux next : MuxInner} (h : mux.WellFormed)
    (hlength : mux.heap.length ≤ next.heap.length)
    (hstreams : next.streams = mux.streams) : next.WellFormed where
  bound id number hid := by
    rw [hstreams] at hid
    exact Nat.lt_of_lt_of_le (h.bound id number hid) hlength
  unique id id' number hid hid' := by
    rw [hstreams] at hid hid'
    exact h.unique id id' number hid hid'

/-- A removed entry's number is in the map no more. -/
theorem lookup_erase_ne_some {mux : MuxInner} (h : mux.WellFormed)
    {id : UInt32} {number : Nat} (hid : mux.streams.lookup id = some number)
    (other : UInt32) :
    (mux.streams.erase id).lookup other ≠ some number := by
  by_cases heq : other = id
  · subst heq
    simp
  · rw [AList.lookup_erase_ne heq]
    exact fun hother => heq (h.unique other id number hother hid)

end WellFormed

namespace Step

theorem refl (mux : MuxInner) : Step mux mux := ⟨.refl mux, id⟩

theorem trans {mux mid next : MuxInner} (h₁ : Step mux mid)
    (h₂ : Step mid next) : Step mux next :=
  ⟨h₁.framed.trans h₂.framed, fun h => h₂.wellFormed (h₁.wellFormed h)⟩

theorem of_eq {mux next : MuxInner} (hheap : next.heap = mux.heap)
    (hstreams : next.streams = mux.streams) : Step mux next :=
  ⟨.of_eq hheap hstreams, fun h =>
    h.of_eq (by rw [hheap]) hstreams⟩

theorem modify (mux : MuxInner) (id : UInt32) {f : Stream → Stream}
    (hf : ∀ s, SameReader s (f s)) : Step mux (mux.modify id f) :=
  ⟨.modify mux id hf, fun h =>
    h.of_eq (by simp) (streams_modify mux id f)⟩

theorem dropReceiver (mux : MuxInner) (number : Nat) :
    Step mux { mux with
      heap := mux.heap.modify number fun stream =>
        { stream with channel := stream.channel.dropReceiver } } :=
  ⟨.dropReceiver mux number, fun h => h.of_eq (by simp) rfl⟩

theorem addStream (mux : MuxInner) (id : UInt32) (ty : StreamType) :
    Step mux (mux.addStream id ty).1 := by
  have hdrop : Framed mux (mux.modify id fun stream =>
      { stream with channel := stream.channel.dropSender }) :=
    .modify mux id fun _ => ⟨rfl, rfl⟩
  refine ⟨⟨?_, ?_, ?_⟩, fun h => ⟨?_, ?_⟩⟩
  · intro number s hs
    obtain ⟨t, ht, hrest⟩ := hdrop.kept number s hs
    refine ⟨t, ?_, hrest⟩
    unfold MuxInner.addStream
    dsimp only
    rw [List.getElem?_append_left (List.getElem?_eq_some_iff.mp ht).1]
    exact ht
  · intro number t hle ht
    unfold MuxInner.addStream at ht
    dsimp only at ht
    rw [List.getElem?_append_right (by simpa using hle),
      List.getElem?_singleton] at ht
    split at ht
    · cases ht
      exact ⟨rfl, taken_new _ _ _⟩
    · cases ht
  · intro other number hother
    change (mux.streams.insert id mux.heap.length).lookup other = _ at hother
    by_cases heq : other = id
    · subst heq
      rw [AList.lookup_insert] at hother
      cases hother
      exact .inr (Nat.le_refl _)
    · rw [AList.lookup_insert_ne heq] at hother
      exact .inl hother
  · intro other number hother
    change (mux.streams.insert id mux.heap.length).lookup other = _ at hother
    have hlength : (mux.addStream id ty).1.heap.length =
        mux.heap.length + 1 := by
      simp [MuxInner.addStream]
    rw [hlength]
    by_cases heq : other = id
    · subst heq
      rw [AList.lookup_insert] at hother
      cases hother
      exact Nat.lt_succ_self _
    · rw [AList.lookup_insert_ne heq] at hother
      exact Nat.lt_succ_of_lt (h.bound other number hother)
  · intro left right number hleft hright
    change (mux.streams.insert id mux.heap.length).lookup left = _ at hleft
    change (mux.streams.insert id mux.heap.length).lookup right = _ at hright
    have hnew : ∀ other, other ≠ id →
        mux.streams.lookup other ≠ some mux.heap.length := by
      intro other _ hother
      exact Nat.lt_irrefl _ (h.bound other _ hother)
    by_cases heq : left = id
    · subst heq
      rw [AList.lookup_insert] at hleft
      cases hleft
      by_cases heq' : right = left
      · exact heq'.symm
      · rw [AList.lookup_insert_ne heq'] at hright
        exact absurd hright (hnew right heq')
    · rw [AList.lookup_insert_ne heq] at hleft
      by_cases heq' : right = id
      · subst heq'
        rw [AList.lookup_insert] at hright
        cases hright
        exact absurd hleft (hnew left heq)
      · rw [AList.lookup_insert_ne heq'] at hright
        exact h.unique left right number hleft hright

theorem createStream (mux : MuxInner) (ty : StreamType) :
    Step mux (mux.createStream ty).1 := by
  unfold MuxInner.createStream
  split
  · have hid : Step mux { mux with currentId := mux.currentId + 1 } :=
      .of_eq rfl rfl
    exact hid.trans (.addStream _ _ _)
  · exact .refl mux

theorem closeStream (mux : MuxInner) (id : UInt32) (close : ClosePacket) :
    Step mux (mux.closeStream id close) := by
  have hclose : Step mux (mux.modify id fun stream => stream.close close) :=
    .modify mux id fun _ => ⟨rfl, rfl⟩
  have hsome : ∀ other number,
      (mux.streams.erase id).lookup other = some number →
      mux.streams.lookup other = some number := by
    intro other number hother
    by_cases heq : other = id
    · subst heq
      simp at hother
    · rwa [AList.lookup_erase_ne heq] at hother
  refine ⟨⟨hclose.framed.kept, hclose.framed.fresh, ?_⟩, fun h => ⟨?_, ?_⟩⟩
  · exact fun other number hother => .inl (hsome other number hother)
  · intro other number hother
    have hlength := hclose.framed.length_le
    exact Nat.lt_of_lt_of_le (h.bound other number (hsome other number hother))
      hlength
  · intro left right number hleft hright
    exact h.unique left right number (hsome left number hleft)
      (hsome right number hright)

theorem handleConnectPacket (mux : MuxInner) (stream : Nat)
    (pkt : ConnectPacket) :
    Step mux (mux.handleConnectPacket stream pkt).1 := by
  unfold MuxInner.handleConnectPacket
  dsimp only
  split
  · exact .dropReceiver mux stream
  · split
    · exact .of_eq rfl rfl
    · exact .dropReceiver mux stream

end Step

end MuxInner

theorem sameReader_handleDataPacket (actor : Actor) (stream : Stream)
    (data : Bytes) : SameReader stream (actor.handleDataPacket stream data) := by
  cases actor with
  | client => exact ⟨rfl, Channel.taken_trySend _ _⟩
  | server streamTx =>
      simp only [Actor.handleDataPacket, ServerActor.handleDataPacket]
      split
      · exact ⟨rfl, Channel.taken_trySend _ _⟩
      · exact ⟨rfl, Channel.taken_trySend _ _⟩

theorem sameReader_handleContinuePacket (stream : Stream)
    (cont : ContinuePacket) :
    SameReader stream (ClientActor.handleContinuePacket stream cont) := by
  unfold ClientActor.handleContinuePacket
  split
  · exact ⟨rfl, rfl⟩
  · exact .refl stream

namespace MuxInner

theorem step_handlePacket (mux : MuxInner) (packet : Packet) :
    Step mux (mux.handlePacket packet).1 := by
  unfold handlePacket
  cases packet.packetType with
  | connect connect =>
      exact .trans (.addStream mux _ _) (.handleConnectPacket _ _ _)
  | data data =>
      exact .modify mux _ fun s => sameReader_handleDataPacket mux.actor s data
  | cont cont =>
      dsimp only
      unfold handleContinuePacket
      cases mux.actor with
      | client =>
          exact .modify mux _ fun s => sameReader_handleContinuePacket s cont
      | server streamTx => exact .refl mux
  | close close =>
      dsimp only
      unfold handleClosePacket
      split
      · exact .refl mux
      · exact .closeStream mux _ _

theorem step_handleEvent (mux : MuxInner) (event : WsEvent)
    (send : SendAnswer) : Step mux (mux.handleEvent event send).mux := by
  cases event with
  | close id close channel =>
      simp only [handleEvent, handleClose]
      split
      · exact .trans (.closeStream mux id close) (.of_eq rfl rfl)
      · exact .refl mux
  | createStream connect channel =>
      have hcreate := Step.createStream mux connect.streamType
      simp only [handleEvent, handleCreateStream]
      split
      · next created error heq =>
          rw [heq] at hcreate
          exact hcreate
      · next created stream streamId heq =>
          rw [heq] at hcreate
          split
          · exact .trans hcreate (.of_eq rfl rfl)
          · exact .trans hcreate
              (.trans (.dropReceiver created stream) (.of_eq rfl rfl))
  | wispMessage packet => exact step_handlePacket mux packet
  | endFut reason =>
      cases reason with
      | none => exact .refl mux
      | some reason => exact .of_eq rfl rfl

/-- Closing streams, however often, leaves every queue as it was. -/
theorem getElem?_closeEntries (entries : List (Sigma fun _ : UInt32 => Nat))
    (heap : List Stream) {number : Nat} {s : Stream}
    (hs : heap[number]? = some s) :
    ∃ t, (closeEntries entries heap)[number]? = some t ∧
      SameReader s t ∧ t.channel.queue = s.channel.queue := by
  induction entries generalizing heap s with
  | nil => exact ⟨s, hs, .refl s, rfl⟩
  | cons entry rest ih =>
      let next := heap.modify entry.2 fun stream => stream.close ⟨.unknown⟩
      by_cases heq : entry.2 = number
      · have hnext : next[number]? = some (s.close ⟨.unknown⟩) := by
          simp [next, heq, hs]
        obtain ⟨t, ht, hst, hqueue⟩ := ih next hnext
        have hclose : SameReader s (s.close ⟨.unknown⟩) := ⟨rfl, rfl⟩
        exact ⟨t, ht, hclose.trans hst, hqueue⟩
      · have hnext : next[number]? = some s := by simp [next, heq, hs]
        exact ih next hnext

theorem length_closeEntries (entries : List (Sigma fun _ : UInt32 => Nat))
    (heap : List Stream) :
    (closeEntries entries heap).length = heap.length := by
  induction entries generalizing heap with
  | nil => rfl
  | cons entry rest ih => rw [closeEntries, ih, List.length_modify]

theorem step_drain (mux : MuxInner) : Step mux mux.drain where
  framed := {
    kept := by
      intro number s hs
      obtain ⟨t, ht, hst, hqueue⟩ :=
        getElem?_closeEntries mux.streams.entries mux.heap hs
      exact ⟨t, ht, hst, fun _ => hqueue⟩
    fresh := by
      intro number t hle ht
      rw [List.getElem?_eq_none] at ht
      · cases ht
      · change (closeEntries _ _).length ≤ number
        rw [length_closeEntries]
        exact hle
    mapped := by
      intro id number h
      simp [drain] at h }
  wellFormed _ := {
    bound := by
      intro id number h
      simp [drain] at h
    unique := by
      intro id id' number h
      simp [drain] at h }

end MuxInner

end Epoxy
