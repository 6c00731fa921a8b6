/-
One side of a tunnel.  What it gives to the transport is written by its actor
or by the handles of a stream, under the id of the stream; what it receives is
handled for the stream that the id finds.
-/
import Epoxy.Tunnel

namespace Epoxy

open ActionMachine ByteCursor KeyDirectory PollChannel

theorem exists_split_of_filterMap {α β : Type} {f : α → Option β} {l : List α}
    {k : Nat} {b : β} (h : (l.filterMap f)[k]? = some b) :
    ∃ before a after, l = before ++ a :: after ∧ f a = some b ∧
      before.filterMap f = (l.filterMap f).take k := by
  obtain ⟨hlt, hget⟩ := List.getElem?_eq_some_iff.mp h
  have hsplit : l.filterMap f = (l.filterMap f).take k ++
      b :: (l.filterMap f).drop (k + 1) := by
    rw [← hget, ← List.drop_eq_getElem_cons hlt, List.take_append_drop]
  obtain ⟨first, second, rfl, hfirst, hsecond⟩ :=
    List.filterMap_eq_append_iff.mp hsplit
  obtain ⟨skipped, a, after, rfl, hskipped, ha, -⟩ :=
    List.filterMap_eq_cons_iff.mp hsecond
  refine ⟨first ++ skipped, a, after, by simp, ha, ?_⟩
  rw [List.filterMap_append, List.filterMap_eq_nil_iff.mpr hskipped,
    List.append_nil, hfirst]

namespace Endpoint

/-- The payloads that an action hands to a stream. -/
def handled (endpoint : Endpoint) (number : Nat) (action : EndpointAction) :
    List Bytes :=
  match endpoint.muxAction action with
  | some action => MuxWorld.handled number (endpoint.world, []) action
  | none => []

/-- Handles write for their own streams, and an actor writes connects and
closes. -/
def Wrote (endpoint : Endpoint) : Report → Prop
  | .handleWrote stream packet =>
      ∃ id, endpoint.ids[stream]? = some id ∧ Packet.OfHandle id packet
  | .actorWrote packet =>
      ∃ id, Packet.head packet = some (0x01, id) ∨
        Packet.head packet = some (0x04, id)
  | _ => True

theorem length_ids (endpoint : Endpoint) :
    endpoint.ids.length = endpoint.world.mux.heap.length := List.length_map _

theorem Reports.wrote {endpoint : Endpoint} {action : EndpointAction}
    {report : Report} (h : endpoint.Reports action report) :
    endpoint.Wrote report := by
  cases h with
  | connect connect => exact ⟨_, .inl (Packet.head_encode _)⟩
  | close packet hclose =>
      refine ⟨packet.streamId, .inr ?_⟩
      rw [Packet.head_encode, hclose]
  | handle stream id packet hid hpacket => exact ⟨id, hid, hpacket⟩
  | opened => trivial
  | closed => trivial

theorem ids_step {endpoint next : Endpoint} {action : EndpointAction}
    (h : endpoint.step action = some next) :
    next.ids = (endpoint.world.mux.directory.move
      (endpoint.directoryMove action)).keys :=
  congrArg Directory.keys (directory_step h)

/-- An id is kept. -/
theorem getElem?_ids_step {endpoint next : Endpoint} {action : EndpointAction}
    (h : endpoint.step action = some next) {stream : Nat} {id : UInt32}
    (hid : endpoint.ids[stream]? = some id) : next.ids[stream]? = some id := by
  rw [ids_step h]
  exact Directory.getElem?_keys_move hid _

theorem wrote_step {endpoint next : Endpoint} {action : EndpointAction}
    (hraw : ∀ stream packetType data answer,
      action ≠ .send stream packetType data answer)
    (hwrote : ∀ report ∈ endpoint.trace, endpoint.Wrote report)
    (h : endpoint.step action = some next) :
    ∀ report ∈ next.trace, next.Wrote report := by
  have hkept : ∀ report, endpoint.Wrote report → next.Wrote report := by
    intro report hreport
    cases report with
    | actorWrote packet => exact hreport
    | handleWrote stream packet =>
        obtain ⟨id, hid, hpacket⟩ := hreport
        exact ⟨id, getElem?_ids_step h hid, hpacket⟩
    | opened stream => trivial
    | closed stream => trivial
  obtain ⟨reports, htrace, hreports⟩ := reports_step hraw h
  intro report hreport
  rw [htrace] at hreport
  rcases List.mem_append.mp hreport with hold | hnew
  · exact hkept report (hwrote report hold)
  · exact hkept report (hreports report hnew).wrote

end Endpoint

namespace Party

variable {party next : Party} {action : EndpointAction}

theorem act_eq_some (h : party.act action = some next) :
    party.endpoint.step action = some next.endpoint ∧
      next.received = party.received := by
  simp only [act, Option.map_eq_some_iff] at h
  obtain ⟨endpoint, hstep, rfl⟩ := h
  exact ⟨hstep, rfl⟩

/-- A step is one of the multiplexor beside its record, or no step of it. -/
theorem world_act (h : party.act action = some next) :
    (∃ inner, party.endpoint.muxAction action = some inner ∧
      MuxWorld.machine.step (party.endpoint.world, party.seen) inner =
        some (next.endpoint.world, next.seen)) ∨
    (party.endpoint.muxAction action = none ∧
      next.endpoint.world = party.endpoint.world ∧ next.seen = party.seen) := by
  simp only [act, Option.map_eq_some_iff] at h
  obtain ⟨endpoint, hstep, rfl⟩ := h
  rcases Endpoint.step_world hstep with
    ⟨inner, seen, haction, hinner⟩ | ⟨haction, hworld⟩
  · refine .inl ⟨inner, haction, ?_⟩
    simp [MuxWorld.machine, recording, hinner, Endpoint.observed, haction]
  · refine .inr ⟨haction, hworld, ?_⟩
    simp [Endpoint.observed, haction]

theorem arrival_cases (message : Bytes) (send : SendAnswer) :
    (∃ packet, Packet.decode message = .ok packet ∧
        arrival message send = .event (.wispMessage packet) send) ∨
      (∀ packet, Packet.decode message ≠ .ok packet) ∧
        arrival message send = .finish := by
  unfold arrival
  cases hdecode : Packet.decode message with
  | ok packet => exact .inl ⟨packet, rfl, rfl⟩
  | err error => exact .inr ⟨fun packet heq => (by cases heq), rfl⟩
  | panic => exact .inr ⟨fun packet heq => (by cases heq), rfl⟩

/-- What a party gets in a step. -/
theorem receive_eq_some {sent : List Bytes} {send : SendAnswer}
    (h : party.receive sent send = some next) :
    ∃ message left, sent[party.received]? = some message ∧
      party.act (.mux (arrival message send)) = some left ∧
      next = { left with received := party.received + 1 } := by
  simp only [receive, Option.bind_eq_some_iff, Option.map_eq_some_iff] at h
  obtain ⟨message, hmessage, left, hleft, rfl⟩ := h
  exact ⟨message, left, hmessage, hleft, rfl⟩

end Party

/-- Beside a party, what was handled for the stream of this number: of the
messages that have arrived, a beginning of the payloads for its id, and all of
them while the id finds it. -/
structure Receives (actor : Actor) (party : Party) (messages : List Bytes)
    (number : Nat) (history : List Bytes) : Prop where
  order : OrderInv actor number (party.endpoint.world, party.seen) history
  arrived : ∀ id, party.endpoint.ids[number]? = some id →
    history <+: dataFor id messages
  current : ∀ id, party.endpoint.world.mux.directory.find id = some number →
    history = dataFor id messages

namespace Receives

variable {actor : Actor} {party next : Party} {messages more : List Bytes}
  {number : Nat} {history : List Bytes} {action : EndpointAction}

/-- What is yielded was for the stream, in the same order. -/
theorem sublist (h : Receives actor party messages number history)
    {id : UInt32} (hid : party.endpoint.ids[number]? = some id) :
    (yieldedBy number party.seen).Sublist (dataFor id messages) :=
  h.order.demultiplexed.subsequence.trans (h.arrived id hid).sublist

/-- Where any number of payloads fit nothing is left out, and nothing is
missing once the open stream's queue is empty. -/
theorem whole (h : Receives actor party messages number history)
    {id : UInt32} (hid : party.endpoint.ids[number]? = some id) {s : Stream}
    (hs : party.endpoint.world.mux.heap[number]? = some s)
    (hcapacity : s.channel.capacity = none) :
    yieldedBy number party.seen <+: dataFor id messages ∧
      (party.endpoint.world.mux.streams.lookup id = some number →
        s.channel.receiver = true → s.channel.queue = [] →
        yieldedBy number party.seen = dataFor id messages) := by
  have horder := h.order.inOrder s hs
  refine ⟨(h.order.demultiplexed.whole s hs hcapacity).trans
    (h.arrived id hid), fun hfind hreceiver hqueue => ?_⟩
  have haccepted := (horder.whole hcapacity).2 hreceiver
  rw [Channel.accepted, hqueue, List.append_nil] at haccepted
  rw [(horder.settled (horder.bounded.mp hcapacity)).1, haccepted,
    h.current id hfind]

/-- A step in which these messages arrive; no stream is added under an id for
which a payload has come. -/
theorem act (h : Receives actor party messages number history)
    (hkeyed : party.endpoint.world.mux.directory.Keyed)
    (hact : party.act action = some next)
    (hfound : ∀ id,
      party.endpoint.world.mux.directory.find id = some number →
      party.endpoint.handled number action = dataFor id more)
    (hlost : party.endpoint.world.mux.directory.Lost number →
      party.endpoint.handled number action = [])
    (hadd : ∀ id, party.endpoint.directoryMove action = .add id →
      dataFor id (messages ++ more) = []) :
    ∃ history, Receives actor next (messages ++ more) number history := by
  have horder : OrderInv actor number (next.endpoint.world, next.seen)
      (history ++ party.endpoint.handled number action) := by
    rcases Party.world_act hact with
      ⟨inner, haction, hinner⟩ | ⟨haction, hworld, hseen⟩
    · have hstep := h.order.step hinner
      simp only [Endpoint.handled, haction]
      exact hstep
    · simp only [Endpoint.handled, haction, List.append_nil, hworld, hseen]
      exact h.order
  have hstep := (Party.act_eq_some hact).1
  -- a stream that is not there yet has got nothing
  have hunseen : party.endpoint.ids.length ≤ number →
      history ++ party.endpoint.handled number action = [] := by
    intro hle
    have hnone : party.endpoint.ids[number]? = none :=
      List.getElem?_eq_none hle
    rw [Endpoint.length_ids] at hle
    rw [(h.order.unseen (List.getElem?_eq_none hle)).2, List.nil_append]
    refine hlost fun id hfind => ?_
    cases hnone.symm.trans (hkeyed id number hfind)
  refine ⟨_, horder, fun id hid => ?_, fun id hfind => ?_⟩
  · rcases Nat.lt_or_ge number party.endpoint.ids.length with hlt | hge
    · have hold : party.endpoint.ids[number]? = some id := by
        rw [← hid, List.getElem?_eq_getElem hlt]
        exact (Endpoint.getElem?_ids_step hstep
          (List.getElem?_eq_getElem hlt)).symm
      rw [dataFor_append]
      by_cases hfind : party.endpoint.world.mux.directory.find id = some number
      · exact ⟨[], by
          rw [List.append_nil, hfound id hfind, h.current id hfind]⟩
      · have hnone : party.endpoint.handled number action = [] := by
          refine hlost fun other hother => hfind ?_
          have hkey := hkeyed other number hother
          obtain rfl := Option.some.inj (hkey.symm.trans hold)
          exact hother
        rw [hnone, List.append_nil]
        exact (h.arrived id hold).trans (List.prefix_append _ _)
    · rw [hunseen hge]
      exact List.nil_prefix
  · rw [Endpoint.directory_step hstep] at hfind
    rcases Directory.find_move hfind with hold | ⟨hmove, hnumber⟩
    · rw [h.current id hold, hfound id hold, dataFor_append]
    · rw [hadd id hmove, hunseen (Nat.le_of_eq hnumber.symm)]

/-- A step of the party's own. -/
theorem act_local {side : Side}
    (h : Receives actor party messages number history)
    (hkeyed : party.endpoint.world.mux.directory.Keyed)
    (hlocal : action.isLocal side = true)
    (hact : party.act action = some next)
    (hadd : ∀ id, party.endpoint.directoryMove action = .add id →
      dataFor id messages = []) :
    ∃ history, Receives actor next messages number history := by
  have hnone : party.endpoint.handled number action = [] := by
    cases action with
    | close stream close channel send =>
        simp only [Endpoint.handled, Endpoint.muxAction]
        cases party.endpoint.handleInfo stream with
        | none => rfl
        | some info => rfl
    | mux action =>
        cases action with
        | event event send =>
            cases event with
            | wispMessage packet => cases hlocal
            | close | createStream | endFut => rfl
        | finish | pollNext | pollReady | startSend | pollFlush | dropRead =>
            rfl
    | pollWrite | send => rfl
  have hact' := h.act hkeyed hact (fun _ _ => hnone.trans rfl)
    (fun _ => hnone) (fun id hmove => by
      rw [List.append_nil]
      exact hadd id hmove)
  rwa [List.append_nil] at hact'

/-- What a message that arrives brings to the stream. -/
theorem handled_message {message : Bytes} {inner : MuxAction}
    {send : SendAnswer} (hkeyed : party.endpoint.world.mux.directory.Keyed)
    (hinner : (∃ packet, Packet.decode message = .ok packet ∧
        inner = .event (.wispMessage packet) send) ∨
      (∀ packet, Packet.decode message ≠ .ok packet) ∧ inner = .finish) :
    (∀ id, party.endpoint.world.mux.directory.find id = some number →
        party.endpoint.handled number (.mux inner) = dataFor id [message]) ∧
      (party.endpoint.world.mux.directory.Lost number →
        party.endpoint.handled number (.mux inner) = []) := by
  have hnodata : (∀ id data, Packet.dataOf message ≠ some (id, data)) →
      party.endpoint.handled number (.mux inner) = [] →
      (∀ id, party.endpoint.world.mux.directory.find id = some number →
        party.endpoint.handled number (.mux inner) = dataFor id [message]) ∧
      (party.endpoint.world.mux.directory.Lost number →
        party.endpoint.handled number (.mux inner) = []) := by
    intro hother hnone
    refine ⟨fun id _ => ?_, fun _ => hnone⟩
    rw [hnone, dataFor_of_other (hother id)]
  rcases hinner with ⟨⟨other, packetType⟩, hdecode, rfl⟩ | ⟨hbad, rfl⟩
  · cases packetType with
    | data data =>
        have hdata : Packet.dataOf message = some (other, data) := by
          simp [Packet.dataOf, hdecode]
        have hhandled : party.endpoint.handled number
            (.mux (.event (.wispMessage ⟨other, .data data⟩) send)) =
            if party.endpoint.world.mux.directory.find other = some number
            then [data] else [] := rfl
        rw [hhandled]
        refine ⟨fun id hfind => ?_, fun hlost => if_neg (hlost other)⟩
        rw [dataFor_singleton, hdata, Option.bind_some]
        by_cases heq : other = id
        · rw [heq, if_pos hfind, if_pos rfl]
          rfl
        · rw [if_neg heq, if_neg fun hfound =>
            heq (hkeyed.key_unique hfound hfind)]
          rfl
    | connect | cont | close =>
        refine hnodata (fun id data hdata => ?_) rfl
        simp [Packet.dataOf, hdecode] at hdata
  · refine hnodata (fun id data hdata => ?_) rfl
    unfold Packet.dataOf at hdata
    split at hdata
    · next hdecode => exact hbad _ hdecode
    · cases hdata

end Receives

section Sent

variable {endpoint : Endpoint}

/-- The packet is reported by who wrote it. -/
theorem exists_report {message : Bytes} {ty : UInt8} {id : UInt32}
    (hwrote : ∀ report ∈ endpoint.trace, endpoint.Wrote report)
    {report : Report} (hreport : report ∈ endpoint.trace)
    (hpacket : report.packet = some message)
    (hhead : Packet.head message = some (ty, id)) :
    (report = .actorWrote message ∧ (ty = 0x01 ∨ ty = 0x04)) ∨
      ∃ stream, report = .handleWrote stream message ∧
        endpoint.ids[stream]? = some id ∧ (ty = 0x02 ∨ ty = 0x03) := by
  have hof := hwrote report hreport
  cases report with
  | actorWrote packet =>
      obtain rfl := Option.some.inj hpacket
      obtain ⟨other, hother⟩ := hof
      rw [hhead] at hother
      simp only [Option.some.injEq, Prod.mk.injEq] at hother
      exact .inl ⟨rfl, hother.imp And.left And.left⟩
  | handleWrote stream packet =>
      obtain rfl := Option.some.inj hpacket
      obtain ⟨other, hother, hkind⟩ := hof
      rw [Packet.OfHandle, hhead] at hkind
      simp only [Option.some.injEq, Prod.mk.injEq] at hkind
      obtain rfl : id = other := hkind.elim And.right And.right
      exact .inr ⟨stream, rfl, hother, hkind.imp And.left And.left⟩
  | opened stream => cases hpacket
  | closed stream => cases hpacket

/-- Data in what was sent is that of a stream of this id. -/
theorem exists_stream_of_data
    (hwrote : ∀ report ∈ endpoint.trace, endpoint.Wrote report)
    {id : UInt32} {trace : List Report} (hsub : trace ⊆ endpoint.trace)
    (hdata : dataFor id (sentIn trace) ≠ []) :
    ∃ stream message, .handleWrote stream message ∈ trace ∧
      Packet.head message = some (0x02, id) ∧
      endpoint.ids[stream]? = some id := by
  obtain ⟨message, hmessage, hhead⟩ := exists_of_dataFor hdata
  obtain ⟨report, hreport, hpacket⟩ := List.mem_filterMap.mp hmessage
  rcases exists_report hwrote (hsub hreport) hpacket hhead with
    ⟨-, hty | hty⟩ | ⟨stream, rfl, hid, -⟩
  · cases hty
  · cases hty
  · exact ⟨stream, message, hreport, hhead, hid⟩

theorem actorSent_of_connect
    (hwrote : ∀ report ∈ endpoint.trace, endpoint.Wrote report)
    {report : Report} (hreport : report ∈ endpoint.trace) (id : UInt32) :
    ((connects report.packet.toList).map (·.1)).count id ≤
      actorSent 0x01 id [report] := by
  cases hpacket : report.packet with
  | none => exact Nat.zero_le _
  | some message =>
      cases hconnect : Packet.connectOf message with
      | none => simp [connects, hconnect]
      | some pair =>
          obtain ⟨other, connect⟩ := pair
          have hhead := Packet.head_of_connectOf hconnect
          rcases exists_report hwrote hreport hpacket hhead with
            ⟨rfl, -⟩ | ⟨-, -, -, hty | hty⟩
          · simp [connects, hconnect, actorSent, Report.actorHead, hhead,
              List.count_cons, List.countP_cons]
          · cases hty
          · cases hty

/-- Every request among the messages is a packet of the actor. -/
theorem count_connects_le
    (hwrote : ∀ report ∈ endpoint.trace, endpoint.Wrote report)
    (id : UInt32) :
    ((connects endpoint.sent).map (·.1)).count id ≤
      actorSent 0x01 id endpoint.trace := by
  have hall : ∀ trace : List Report, trace ⊆ endpoint.trace →
      ((connects (sentIn trace)).map (·.1)).count id ≤
        actorSent 0x01 id trace := by
    intro trace hsub
    induction trace with
    | nil => exact Nat.le_refl _
    | cons report rest ih =>
        have hrest := ih fun report hreport =>
          hsub (List.mem_cons_of_mem _ hreport)
        have hfirst := actorSent_of_connect hwrote (hsub List.mem_cons_self) id
        have hcounted := actorSent_append 0x01 id [report] rest
        rw [List.singleton_append] at hcounted
        rw [sentIn_cons, connects_append, List.map_append, List.count_append,
          hcounted]
        exact Nat.add_le_add hfirst hrest
  exact hall endpoint.trace (List.Subset.refl _)

end Sent

end Epoxy
