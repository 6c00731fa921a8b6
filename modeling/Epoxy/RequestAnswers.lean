/-
Whether every request of a local handle is answered.  Requests wait in the
actor's channel with the sending half of a oneshot channel each; what is left
there when the actor stops is freed with the last sender of the channel, and
until then nobody answers it.
-/
import Epoxy.ActorLoop
import Epoxy.ActionMachine

namespace Epoxy

open ActionMachine ByteCursor PollChannel

/-- The oneshot channel that is to be answered. -/
def WsEvent.reply : WsEvent → Option Nat
  | .close _ _ channel => some channel
  | .createStream _ channel => some channel
  | .wispMessage _ => none
  | .endFut _ => none

/-- `entry`, up to the loop: the packet that came instead of an info packet is
handled first, and may already end the actor. -/
def ActorLoop.entry {E : Type} (mux : MuxInner) (extensions : List E) :
    Option Packet → ActorLoop E
  | none => .new mux extensions
  | some packet =>
      match mux.handlePacket packet with
      | (mux, .ok false) => .new mux extensions
      | (mux, .ok true) => (ActorLoop.new mux extensions).finish (.ok ())
      | (mux, .error error) => (ActorLoop.new mux extensions).finish (.err error)

/-- The actor with the channel of its events.  `senders` counts the senders
that the handles have; the actor keeps one of its own until it has completed.
`accepted` and `dropped` are histories of oneshot channels: those whose request
was sent, and those that were freed without an answer. -/
structure AnswerWorld (E : Type) where
  loop : ActorLoop E
  receiver : Bool
  completed : Bool
  senders : Nat
  accepted : List Nat
  dropped : List Nat

inductive RequestAction where
  | receive (message : Except WispError Bytes)
  | transportEnd
  /-- One round of the loop. -/
  | poll (send : SendAnswer)
  /-- A handle sends a request. -/
  | request (event : WsEvent)
  | addSender
  | dropSender
  /-- The loop is over, and the streams it selected from are dropped. -/
  | dropReceiver
  /-- `into_future` returns. -/
  | complete

namespace AnswerWorld

variable {E : Type}

def queue (world : AnswerWorld E) : List WsEvent := world.loop.select.stream2

/-- The oneshot channels of the requests that wait. -/
def queued (world : AnswerWorld E) : List Nat :=
  world.queue.filterMap WsEvent.reply

def answered (world : AnswerWorld E) : List Nat :=
  world.loop.replies.map (·.1)

def init (loop : ActorLoop E) (senders : Nat) : AnswerWorld E :=
  ⟨loop, true, false, senders, [], []⟩

def setQueue (world : AnswerWorld E) (queue : List WsEvent) :
    AnswerWorld E :=
  { world with
    loop := { world.loop with
      select := { world.loop.select with stream2 := queue } } }

/-- Free the channel if neither end is left. -/
def free (world : AnswerWorld E) : AnswerWorld E :=
  if world.completed = true ∧ world.senders = 0 then
    { world.setQueue [] with dropped := world.dropped ++ world.queued }
  else world

/-- A request has a oneshot channel of its own; sending it fails only if the
receiver is gone. -/
def sendRequest (world : AnswerWorld E) (event : WsEvent) :
    Option (AnswerWorld E) :=
  if world.senders = 0 ∨ ∃ channel ∈ world.accepted, event.reply = some channel
  then none
  else if world.receiver then
    some { world.setQueue (world.queue ++ [event]) with
      accepted := world.accepted ++ event.reply.toList }
  else some world

variable [ProtocolExtension E] [PacketHandler E]

def step (world : AnswerWorld E) : RequestAction → Option (AnswerWorld E)
  | .receive message =>
      some { world with loop := world.loop.step (.receive message) }
  | .transportEnd => some { world with loop := world.loop.step .transportEnd }
  | .poll send => some { world with loop := world.loop.step (.poll send) }
  | .request event => world.sendRequest event
  | .addSender =>
      if world.completed = true ∧ world.senders = 0 then none
      else some { world with senders := world.senders + 1 }
  | .dropSender =>
      if world.senders = 0 then none
      else some { world with senders := world.senders - 1 }.free
  | .dropReceiver =>
      if world.loop.result.isSome then some { world with receiver := false }
      else none
  | .complete =>
      if world.receiver || world.completed then none
      else some { world with completed := true }.free

def machine : Machine (AnswerWorld E) RequestAction := ⟨step⟩

/-- Once the actor has completed, every request that was sent has its answer,
or will never have one and its sender knows. -/
def Answers (world : AnswerWorld E) : Prop :=
  world.completed = true →
    ∀ channel ∈ world.accepted,
      channel ∈ world.answered ∨ channel ∈ world.dropped

/-- When the actor completes, no request is left in its channel, or nobody is
left who could wait for it. -/
def LeavesNoRequest (world : AnswerWorld E) : RequestAction → Prop
  | .complete => world.senders = 0 ∨ world.queued = []
  | _ => True

end AnswerWorld

theorem MuxInner.replies_handleEvent (mux : MuxInner) (event : WsEvent)
    (send : SendAnswer) :
    (mux.handleEvent event send).replies.map (·.1) = event.reply.toList := by
  cases event with
  | close id close channel =>
      simp only [handleEvent, handleClose]
      split
      · rfl
      · rfl
  | createStream connect channel =>
      simp only [handleEvent, handleCreateStream]
      split
      · rfl
      · split
        · rfl
        · rfl
  | wispMessage packet => rfl
  | endFut reason =>
      cases reason with
      | none => rfl
      | some reason => rfl

section Poll

variable {E : Type}

/-- Handling an event answers it and leaves the queue alone. -/
theorem ActorLoop.handleEvent_request (loop : ActorLoop E) (event : WsEvent)
    (send : SendAnswer) :
    (loop.handleEvent event send).select = loop.select ∧
      (loop.handleEvent event send).replies.map (·.1) =
        loop.replies.map (·.1) ++ event.reply.toList := by
  have hreplies := loop.mux.replies_handleEvent event send
  unfold handleEvent
  dsimp only
  split
  · exact ⟨rfl, by rw [List.map_append, hreplies]⟩
  · exact ⟨rfl, by simp only [finish, List.map_append, hreplies]⟩
  · exact ⟨rfl, by simp only [finish, List.map_append, hreplies]⟩

variable [ProtocolExtension E] [PacketHandler E]

/-- What comes from the transport is no request. -/
theorem ReadStream.reply_of_nextEvent (read : ReadStream E) {event : WsEvent}
    (h : read.nextEvent.2 = .ready (.ok (some event))) :
    event.reply = none := by
  unfold nextEvent at h
  split at h
  · split at h
    · cases h
    · cases h
  · dsimp only at h
    split at h
    · cases h
    · split at h
      · cases h
        rfl
      · next before extension after ty packet heq =>
          simp only [handle, Poll.ready.injEq] at h
          generalize (PacketHandler.handlePacket extension ty packet _).result
            = result at h
          cases result with
          | ok value => cases h
          | err error => cases h
          | panic => cases h
      · cases h
      · cases h

theorem ReadStream.reply_of_pollNext (read : ReadStream E) {event : WsEvent}
    (h : read.pollNext.2 = .ready (some (.ok event))) :
    event.reply = none := by
  unfold pollNext at h
  split at h
  · split at h
    · cases h
    · next stream result hnext =>
        have hevent : ∀ event, read.nextEvent.2 = .ready (.ok (some event)) →
            event.reply = none := fun _ => read.reply_of_nextEvent
        rw [hnext] at hevent
        cases result with
        | ok value =>
            cases value with
            | none => cases h
            | some value =>
                cases h
                exact hevent event rfl
        | err error => cases h
        | panic => cases h
  · cases h

/-- The select serves one side: the queue stays as it is, or loses its head,
which is then the item. -/
theorem pollNext_select
    (select : UnfairSelect (ReadStream E) (List WsEvent)) :
    ((select.pollNext ReadStream.pollNext pollEvents).1.stream2 =
        select.stream2 ∧
      ∀ event, (select.pollNext ReadStream.pollNext pollEvents).2 =
        .ready (some (.ok event)) → event.reply = none) ∨
    ∃ event rest, select.stream2 = event :: rest ∧
      (select.pollNext ReadStream.pollNext pollEvents).1.stream2 = rest ∧
      (select.pollNext ReadStream.pollNext pollEvents).2 =
        .ready (some (.ok event)) := by
  cases hfinished : select.finished with
  | true =>
      refine .inl ⟨?_, fun event h => ?_⟩
      · simp [UnfairSelect.pollNext, hfinished]
      · simp [UnfairSelect.pollNext, hfinished] at h
  | false =>
      cases hqueue : select.stream2 with
      | nil =>
          rw [UnfairSelect.pollNext_of_right_pending _ hfinished
            (by rw [hqueue]; rfl)]
          exact .inl ⟨hqueue, fun event h =>
            select.stream1.reply_of_pollNext h⟩
      | cons event rest =>
          cases hnext : select.next with
          | right =>
              refine .inr ⟨event, rest, rfl, ?_, ?_⟩
              · simp [UnfairSelect.pollNext, UnfairSelect.pollInner,
                  UnfairSelect.pollSide, PollNext.toggle, hnext, hfinished,
                  hqueue, pollEvents]
              · simp [UnfairSelect.pollNext, UnfairSelect.pollInner,
                  UnfairSelect.pollSide, PollNext.toggle, hnext, hfinished,
                  hqueue, pollEvents]
          | left =>
              cases hread : select.stream1.pollNext.2 with
              | pending =>
                  refine .inr ⟨event, rest, rfl, ?_, ?_⟩
                  · simp [UnfairSelect.pollNext, UnfairSelect.pollInner,
                      UnfairSelect.pollSide, PollNext.toggle, PollNext.other,
                      hnext, hfinished, hqueue, hread, pollEvents]
                  · simp [UnfairSelect.pollNext, UnfairSelect.pollInner,
                      UnfairSelect.pollSide, PollNext.toggle, PollNext.other,
                      hnext, hfinished, hqueue, hread, pollEvents]
              | ready item =>
                  refine .inl ⟨?_, fun other h => ?_⟩
                  · cases item with
                    | none =>
                        simp [UnfairSelect.pollNext, UnfairSelect.pollInner,
                          UnfairSelect.pollSide, PollNext.toggle, hnext,
                          hfinished, hqueue, hread]
                    | some item =>
                        simp [UnfairSelect.pollNext, UnfairSelect.pollInner,
                          UnfairSelect.pollSide, PollNext.toggle, hnext,
                          hfinished, hqueue, hread]
                  · refine select.stream1.reply_of_pollNext (hread.trans ?_)
                    cases item with
                    | none =>
                        simp [UnfairSelect.pollNext, UnfairSelect.pollInner,
                          UnfairSelect.pollSide, PollNext.toggle, hnext,
                          hfinished, hread] at h
                    | some item =>
                        simpa [UnfairSelect.pollNext, UnfairSelect.pollInner,
                          UnfairSelect.pollSide, PollNext.toggle, hnext,
                          hfinished, hread] using h

/-- A round of the loop moves at most one request, from the queue to the
answers. -/
theorem ActorLoop.poll_request (loop : ActorLoop E) (send : SendAnswer) :
    ∃ served, loop.select.stream2.filterMap WsEvent.reply =
        served ++ (loop.poll send).select.stream2.filterMap WsEvent.reply ∧
      (loop.poll send).replies.map (·.1) =
        loop.replies.map (·.1) ++ served := by
  have hselect := pollNext_select loop.select
  unfold poll
  generalize loop.select.pollNext ReadStream.pollNext pollEvents = polled
    at hselect ⊢
  obtain ⟨select, answer⟩ := polled
  rcases hselect with ⟨hqueue, hreply⟩ | ⟨event, rest, hqueue, hrest, hanswer⟩
  · refine ⟨[], ?_, ?_⟩
    · dsimp only at hqueue ⊢
      rw [← hqueue, List.nil_append]
      split
      · rfl
      · rfl
      · rw [(handleEvent_request _ _ send).1]
      · rfl
      · rfl
    · dsimp only at hreply ⊢
      rw [List.append_nil]
      split
      · rfl
      · rfl
      · next _ event =>
          rw [(handleEvent_request _ _ send).2, hreply event rfl]
          exact List.append_nil _
      · rfl
      · rfl
  · dsimp only at hrest hanswer ⊢
    subst hanswer
    refine ⟨event.reply.toList, ?_, ?_⟩
    · rw [(handleEvent_request _ _ send).1, hqueue, hrest]
      cases hreply : event.reply with
      | none => simp [hreply]
      | some channel => simp [hreply]
    · rw [(handleEvent_request _ _ send).2]

end Poll

namespace AnswerWorld

variable {E : Type}

/-- Every request that was sent waits, was answered or was freed, and only
once.  A completed actor has left none behind. -/
structure Inv (world : AnswerWorld E) : Prop where
  accounts : (world.answered ++ world.dropped ++ world.queued).Perm
    world.accepted
  nodup : world.accepted.Nodup
  stopped : world.receiver = false → world.loop.result.isSome = true
  closed : world.completed = true → world.receiver = false
  empty : world.completed = true → world.queued = []

namespace Inv

variable {world : AnswerWorld E}

theorem init (mux : MuxInner) (extensions : List E) (downgrade : Option Packet)
    (senders : Nat) :
    Inv (AnswerWorld.init (.entry mux extensions downgrade) senders) := by
  have hquiet : (ActorLoop.entry mux extensions downgrade).replies = [] ∧
      (ActorLoop.entry mux extensions downgrade).select.stream2 = [] := by
    unfold ActorLoop.entry
    split
    · exact ⟨rfl, rfl⟩
    · split
      · exact ⟨rfl, rfl⟩
      · exact ⟨rfl, rfl⟩
      · exact ⟨rfl, rfl⟩
  refine ⟨?_, List.nodup_nil, nofun, nofun, nofun⟩
  simp [AnswerWorld.init, answered, queued, queue, hquiet]

theorem answers (h : Inv world) : Answers world := by
  intro hcompleted channel hchannel
  have hmem := h.accounts.mem_iff.mpr hchannel
  rw [h.empty hcompleted, List.append_nil, List.mem_append] at hmem
  exact hmem

/-- Freeing the channel, if it is time, drops what is queued. -/
theorem free (haccounts : (world.answered ++ world.dropped ++
      world.queued).Perm world.accepted)
    (hnodup : world.accepted.Nodup)
    (hstopped : world.receiver = false → world.loop.result.isSome = true)
    (hclosed : world.completed = true → world.receiver = false)
    (hempty : world.completed = true → world.senders ≠ 0 →
      world.queued = []) : Inv world.free := by
  unfold AnswerWorld.free
  split
  · refine ⟨?_, hnodup, hstopped, hclosed, fun _ => rfl⟩
    have hfreed : (world.answered ++ (world.dropped ++ world.queued) ++
        []).Perm world.accepted := by
      rw [List.append_nil, ← List.append_assoc]
      exact haccounts
    exact hfreed
  · next hkept =>
      refine ⟨haccounts, hnodup, hstopped, hclosed, fun hcompleted => ?_⟩
      exact hempty hcompleted fun hzero => hkept ⟨hcompleted, hzero⟩

theorem sendRequest {next : AnswerWorld E} {event : WsEvent} (h : Inv world)
    (hsend : world.sendRequest event = some next) : Inv next := by
  unfold AnswerWorld.sendRequest at hsend
  split at hsend
  · cases hsend
  · next hfresh =>
      split at hsend
      · next hreceiver =>
          obtain rfl := Option.some.inj hsend
          have hqueued : (world.queue ++ [event]).filterMap WsEvent.reply =
              world.queued ++ event.reply.toList := by
            rw [List.filterMap_append]
            cases hreply : event.reply with
            | none => simp [hreply, queued]
            | some channel => simp [hreply, queued]
          refine ⟨?_, ?_, h.stopped, h.closed, fun hcompleted => ?_⟩
          · change (world.answered ++ world.dropped ++
              (world.queue ++ [event]).filterMap WsEvent.reply).Perm
                (world.accepted ++ event.reply.toList)
            rw [hqueued, ← List.append_assoc]
            exact h.accounts.append_right _
          · refine List.nodup_append.mpr ⟨h.nodup, ?_, ?_⟩
            · cases event.reply with
              | none => exact List.nodup_nil
              | some channel => exact List.nodup_singleton channel
            · rintro channel hold other hother rfl
              exact hfresh (.inr ⟨channel, hold, Option.mem_toList.mp hother⟩)
          · have hgone : world.receiver = false := h.closed hcompleted
            rw [hgone] at hreceiver
            cases hreceiver
      · obtain rfl := Option.some.inj hsend
        exact h

variable [ProtocolExtension E] [PacketHandler E]

/-- A step of the loop moves requests from the queue to the answers. -/
theorem loopStep (h : Inv world) (action : LoopAction)
    (hrequest : ∀ event, action ≠ .request event) :
    Inv { world with loop := world.loop.step action } := by
  cases hresult : world.loop.result with
  | some result =>
      have hsame : world.loop.step action = world.loop := by
        simp [ActorLoop.step, hresult]
      rw [hsame]
      exact h
  | none =>
      have hopen : world.receiver = true := by
        cases hreceiver : world.receiver with
        | true => rfl
        | false =>
            have hsome := h.stopped hreceiver
            rw [hresult] at hsome
            cases hsome
      have hrunning : world.completed = false := by
        cases hcompleted : world.completed with
        | false => rfl
        | true =>
            have hclosed := h.closed hcompleted
            rw [hopen] at hclosed
            cases hclosed
      have hkept : ∀ {loop : ActorLoop E} (served : List Nat),
          world.queued = served ++
            loop.select.stream2.filterMap WsEvent.reply →
          loop.replies.map (·.1) = world.answered ++ served →
          Inv { world with loop } := by
        intro loop served hqueued hanswered
        refine ⟨?_, h.nodup, ?_, ?_, ?_⟩
        · have haccounts := h.accounts
          rw [hqueued] at haccounts
          change (loop.replies.map (·.1) ++ world.dropped ++
            loop.select.stream2.filterMap WsEvent.reply).Perm world.accepted
          rw [hanswered]
          refine List.Perm.trans ?_ haccounts
          simp only [List.append_assoc]
          refine List.Perm.append_left _ ?_
          rw [← List.append_assoc, ← List.append_assoc]
          exact List.perm_append_comm.append_right _
        · intro hgone
          rw [show world.receiver = true from hopen] at hgone
          cases hgone
        · intro hdone
          rw [show world.completed = false from hrunning] at hdone
          cases hdone
        · intro hdone
          rw [show world.completed = false from hrunning] at hdone
          cases hdone
      cases action with
      | receive message =>
          refine hkept [] ?_ ?_
          · simp [ActorLoop.step, hresult, ActorLoop.mapRead, queued, queue]
          · simp [ActorLoop.step, hresult, ActorLoop.mapRead, answered]
      | transportEnd =>
          refine hkept [] ?_ ?_
          · simp [ActorLoop.step, hresult, ActorLoop.mapRead, queued, queue]
          · simp [ActorLoop.step, hresult, ActorLoop.mapRead, answered]
      | request event => exact absurd rfl (hrequest event)
      | poll send =>
          obtain ⟨served, hqueued, hanswered⟩ := world.loop.poll_request send
          simp only [ActorLoop.step, hresult]
          exact hkept served hqueued hanswered

theorem step {next : AnswerWorld E} {action : RequestAction} (h : Inv world)
    (hleaves : LeavesNoRequest world action)
    (hstep : world.step action = some next) : Inv next := by
  cases action with
  | receive message =>
      obtain rfl := Option.some.inj hstep
      exact h.loopStep _ nofun
  | transportEnd =>
      obtain rfl := Option.some.inj hstep
      exact h.loopStep _ nofun
  | poll send =>
      obtain rfl := Option.some.inj hstep
      exact h.loopStep _ nofun
  | request event => exact h.sendRequest hstep
  | addSender =>
      simp only [AnswerWorld.step] at hstep
      split at hstep
      · cases hstep
      · obtain rfl := Option.some.inj hstep
        exact ⟨h.accounts, h.nodup, h.stopped, h.closed, h.empty⟩
  | dropSender =>
      simp only [AnswerWorld.step] at hstep
      split at hstep
      · cases hstep
      · obtain rfl := Option.some.inj hstep
        exact .free h.accounts h.nodup h.stopped h.closed
          fun hcompleted _ => h.empty hcompleted
  | dropReceiver =>
      simp only [AnswerWorld.step] at hstep
      split at hstep
      · next hresult =>
          obtain rfl := Option.some.inj hstep
          exact ⟨h.accounts, h.nodup, fun _ => hresult, fun _ => rfl, h.empty⟩
      · cases hstep
  | complete =>
      simp only [AnswerWorld.step] at hstep
      split at hstep
      · cases hstep
      · next hopen =>
          obtain rfl := Option.some.inj hstep
          have hgone : world.receiver = false := by
            simp at hopen
            exact hopen.1
          refine .free h.accounts h.nodup h.stopped (fun _ => hgone) ?_
          intro _ hsenders
          exact hleaves.resolve_left hsenders

/-- A request that is left behind has no answer, since it still waits. -/
theorem leavesNoRequest {next : AnswerWorld E} {action : RequestAction}
    (h : Inv world) (hstep : world.step action = some next)
    (hanswers : Answers next) : LeavesNoRequest world action := by
  cases action with
  | complete =>
      rcases Nat.eq_zero_or_pos world.senders with hzero | hpos
      · exact .inl hzero
      · right
        simp only [AnswerWorld.step] at hstep
        split at hstep
        · cases hstep
        · have hkept : world.senders ≠ 0 := Nat.ne_of_gt hpos
          simp only [AnswerWorld.free, hkept, and_false, if_false,
            Option.some.injEq] at hstep
          subst hstep
          refine List.eq_nil_iff_forall_not_mem.mpr fun channel hqueued => ?_
          have hsent : channel ∈ world.accepted :=
            h.accounts.mem_iff.mp (List.mem_append_right _ hqueued)
          have hdistinct := h.accounts.nodup_iff.mpr h.nodup
          have hanswered : channel ∈ world.answered ++ world.dropped :=
            List.mem_append.mpr (hanswers rfl channel hsent)
          exact (List.nodup_append.mp hdistinct).2.2 channel hanswered
            channel hqueued rfl
  | receive message => trivial
  | transportEnd => trivial
  | poll send => trivial
  | request event => trivial
  | addSender => trivial
  | dropSender => trivial
  | dropReceiver => trivial

end Inv

variable [ProtocolExtension E] [PacketHandler E]

/-- Every state that a run comes through answers its requests. -/
def StaysAnswered (world : AnswerWorld E) (actions : List RequestAction) :
    Prop :=
  machine.Meets (fun world action =>
    ∀ next, machine.step world action = some next → Answers next) world actions

/-- A run answers its requests exactly if its actor leaves none behind. -/
theorem staysAnswered_iff (mux : MuxInner) (extensions : List E)
    (downgrade : Option Packet) (senders : Nat)
    {actions : List RequestAction} {world : AnswerWorld E}
    (hrun : machine.run (.init (.entry mux extensions downgrade) senders)
      actions = some world) :
    StaysAnswered (.init (.entry mux extensions downgrade) senders) actions ↔
      machine.Meets LeavesNoRequest
        (.init (.entry mux extensions downgrade) senders) actions := by
  have hiff : ∀ (s : AnswerWorld E) action t, Inv s →
      machine.step s action = some t →
      ((∀ next, machine.step s action = some next → Answers next) ↔
        LeavesNoRequest s action) := by
    intro s action t hs hstep
    constructor
    · intro hanswers
      exact hs.leavesNoRequest hstep (hanswers t hstep)
    · intro hleaves next hnext
      exact (hs.step hleaves hnext).answers
  exact machine.meets_iff_of_invariant hiff
    (fun s action t hs hleaves hstep => hs.step hleaves hstep)
    (Inv.init mux extensions downgrade senders) hrun

/-- A client's actor with one handle, and no extensions. -/
def idleClient : AnswerWorld TWispServerProtocolExtension :=
  .init (.entry (.new .client [0x01] 1) [] none) 1

theorem staysAnswered_of_early_request :
    StaysAnswered idleClient
      [.request (.close 1 ⟨.voluntary⟩ 7), .poll ActorLoop.takes,
        .request (.endFut none), .poll ActorLoop.takes, .dropReceiver,
        .complete] := by
  obtain ⟨world, hrun⟩ : ∃ world, machine.run idleClient
      [.request (.close 1 ⟨.voluntary⟩ 7), .poll ActorLoop.takes,
        .request (.endFut none), .poll ActorLoop.takes, .dropReceiver,
        .complete] =
          some world := ⟨_, rfl⟩
  refine (staysAnswered_iff _ _ none 1 hrun).mpr ?_
  exact .cons trivial rfl (.cons trivial rfl (.cons trivial rfl
    (.cons trivial rfl (.cons trivial rfl (.cons (.inr rfl) rfl trivial)))))

/-- The close is queued behind the request that ends the actor. -/
theorem not_staysAnswered_of_late_request :
    ¬ StaysAnswered idleClient
      [.request (.endFut none), .request (.close 1 ⟨.voluntary⟩ 7),
        .poll ActorLoop.takes, .dropReceiver, .complete] := by
  intro hstays
  obtain ⟨world, hrun, hworld⟩ : ∃ world, machine.run idleClient
      [.request (.endFut none), .request (.close 1 ⟨.voluntary⟩ 7),
        .poll ActorLoop.takes, .dropReceiver, .complete] = some world ∧
      (world.completed, world.accepted, world.answered, world.dropped) =
        (true, [7], [], []) := ⟨_, rfl, rfl⟩
  simp only [Prod.mk.injEq] at hworld
  obtain ⟨hcompleted, haccepted, hanswered, hdropped⟩ := hworld
  have hanswers := hstays.holds (fun hnever => nomatch hnever) hrun
  have hlost := hanswers hcompleted 7 (by simp [haccepted])
  simp [hanswered, hdropped] at hlost

end AnswerWorld

end Epoxy
