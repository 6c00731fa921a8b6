/-
Writing on a stream that has been closed.  The closed state lives in the
actor's map; the writers ask at most whether the actor is still there, so that
as long as it is only a failing transport keeps them from writing.
-/
import Epoxy.StreamIsolation

namespace Epoxy

open ActionMachine ByteCursor PollChannel

/-- `MuxProtocolExtensionStream::send` -/
def MuxProtocolExtensionStream.send (info : StreamInfo) (actorGone : Bool)
    (packetType : UInt8) (data : Bytes) (answer : SendAnswer) :
    Except WispError Unit × List Bytes :=
  if actorGone then (.error .streamAlreadyClosed, [])
  else
    (answer.result,
      if answer.taken then [extensionPacket packetType info.id data] else [])

/-- One call of a writer: what it answers and what it hands over. -/
structure WriteAttempt where
  stream : Nat
  answer : Poll (Except WispError Unit)
  sent : List Bytes

/-- The call that an action is, if it is one of a writer. -/
def Endpoint.writeAttempt (endpoint : Endpoint) :
    EndpointAction → Option WriteAttempt
  | .mux (.pollReady stream cx sink) =>
      (endpoint.world.mux.heap[stream]?).map fun s =>
        let result := s.write.pollReady s.info endpoint.actorGone cx sink
        ⟨stream, result.answer, result.sent⟩
  | .mux (.startSend stream _) => some ⟨stream, .ready (.ok ()), []⟩
  | .mux (.pollFlush stream sink) =>
      (endpoint.world.mux.heap[stream]?).map fun s =>
        let result := s.write.pollFlush s.info sink
        ⟨stream, result.answer, result.sent⟩
  | .pollWrite stream write buf sink =>
      (endpoint.handleInfo stream).map fun info =>
        let result := write.pollWrite info buf sink
        ⟨stream, result.answer.map fun answer => answer.map fun _ => (),
          result.sent⟩
  | .send stream packetType data answer =>
      (endpoint.handleInfo stream).map fun info =>
        let result := MuxProtocolExtensionStream.send info endpoint.actorGone
          packetType data answer
        ⟨stream, .ready result.1, result.2⟩
  | _ => none

/-- If the action is a call of a writer whose stream has been closed, it hands
nothing to the transport and reports an error. -/
def RefusesWrite (endpoint : Endpoint) (action : EndpointAction)
    (next : Endpoint) : Prop :=
  ∀ attempt, endpoint.writeAttempt action = some attempt →
    .closed attempt.stream ∈ endpoint.trace →
    next.trace = endpoint.trace ∧
      ∃ error, attempt.answer = .ready (.error error)

/-- Nothing is written on closed streams in a run that starts here. -/
def StaysClosed (endpoint : Endpoint) (actions : List EndpointAction) : Prop :=
  Endpoint.machine.Meets (fun endpoint action =>
    ∀ next, Endpoint.machine.step endpoint action = some next →
      RefusesWrite endpoint action next) endpoint actions

/-- The lock is there, but the sink fails before it takes anything. -/
def SinkAnswers.Fails (sink : SinkAnswers) (locked : Bool) : Prop :=
  sink.pollLock locked = .ready () ∧
    ((∃ error, sink.ready = .ready (.error error)) ∨
      sink.ready = .ready (.ok ()) ∧ ∃ error, sink.send = .error error)

/-- What keeps the call from writing and makes it an error: the actor is gone
and the writer asks for it, or the transport fails.  Nothing does for
`start_send`. -/
def WriteFails (endpoint : Endpoint) : EndpointAction → Prop
  | .mux (.pollReady stream _ sink) =>
      endpoint.actorGone = true ∨
        ∃ s, endpoint.world.mux.heap[stream]? = some s ∧
          ¬ (s.info.flowStatus = .enabledTrackAmount ∧
            s.info.flowEmpty = true) ∧
          s.write.chunk.isSome = true ∧ sink.Fails s.write.locked
  | .mux (.startSend _ _) => False
  | .mux (.pollFlush stream sink) =>
      ∃ s, endpoint.world.mux.heap[stream]? = some s ∧
        if s.write.chunk.isSome then sink.Fails s.write.locked
        else sink.pollLock s.write.locked = .ready () ∧
          ∃ error, sink.flush = .ready (.error error)
  | .pollWrite _ write _ sink => sink.Fails write.locked
  | .send _ _ _ answer =>
      endpoint.actorGone = true ∨
        answer.taken = false ∧ ∃ error, answer.result = .error error
  | _ => True

/-- Every writer that is used on a closed stream fails. -/
def FailsOnceClosed (endpoint : Endpoint) (action : EndpointAction) : Prop :=
  ∀ attempt, endpoint.writeAttempt action = some attempt →
    .closed attempt.stream ∈ endpoint.trace → WriteFails endpoint action

/-- Nothing went out, and the caller knows. -/
def Refused (answer : Poll (Except WispError Unit)) (sent : List Bytes) :
    Prop :=
  sent = [] ∧ ∃ error, answer = .ready (.error error)

section Writers

variable {sink : SinkAnswers}

theorem MuxStreamAsyncWrite.refused_pollWrite_iff
    (write : MuxStreamAsyncWrite) (info : StreamInfo) (buf : Bytes) :
    Refused ((write.pollWrite info buf sink).answer.map
        fun answer => answer.map fun _ => ())
      (write.pollWrite info buf sink).sent ↔ sink.Fails write.locked := by
  unfold pollWrite SinkAnswers.Fails Refused
  cases sink.pollLock write.locked with
  | pending => simp [Poll.map]
  | ready =>
      cases sink.ready with
      | pending => simp [Poll.map]
      | ready answer =>
          cases answer with
          | error error => simp [Poll.map, Except.map]
          | ok =>
              cases sink.send with
              | error error => simp [Poll.map, Except.map]
              | ok => simp

namespace MuxStreamWrite

variable (write : MuxStreamWrite) (info : StreamInfo)

theorem refused_pollReady_iff (actorGone : Bool) (cx : Waker) :
    Refused (write.pollReady info actorGone cx sink).answer
        (write.pollReady info actorGone cx sink).sent ↔
      actorGone = true ∨
        ¬ (info.flowStatus = .enabledTrackAmount ∧ info.flowEmpty = true) ∧
          write.chunk.isSome = true ∧ sink.Fails write.locked := by
  have hpolled := write.polledReady info actorGone cx sink
  generalize write.pollReady info actorGone cx sink = result at hpolled ⊢
  unfold Refused SinkAnswers.Fails
  cases hpolled with
  | closed hgone => simp [hgone]
  | parked hgone hempty => simp [hgone, hempty]
  | nothing hgone _ hchunk => simp [hgone, hchunk]
  | lockTaken hgone _ _ hlock => simp [hgone, hlock]
  | kept _ hgone hcredit hchunk hlock hwritten hanswer =>
      cases hwritten with
      | notReady hready => simp [hgone, hready]
      | failed _ hready => simp [hcredit, hchunk, hlock, hready]
      | refused _ _ hready _ hsend =>
          simp [hcredit, hchunk, hlock, hready, hsend]
      | nothing | written => exact absurd rfl hanswer
  | written _ hgone _ _ _ hready hsend => simp [hgone, hready, hsend]

/-- A poll that wrote its chunk is no refusal, whatever the flush does. -/
theorem refused_pollFlush_iff :
    Refused (write.pollFlush info sink).answer
        (write.pollFlush info sink).sent ↔
      if write.chunk.isSome then sink.Fails write.locked
      else sink.pollLock write.locked = .ready () ∧
        ∃ error, sink.flush = .ready (.error error) := by
  have hpolled := write.polledFlush info sink
  generalize write.pollFlush info sink = result at hpolled ⊢
  unfold Refused SinkAnswers.Fails
  cases hpolled with
  | lockTaken hlock => simp [hlock]
  | kept _ hchunk hlock hwritten hanswer =>
      cases hwritten with
      | notReady hready => simp [hchunk, hready]
      | failed _ hready => simp [hchunk, hlock, hready]
      | refused _ _ hready _ hsend => simp [hchunk, hlock, hready, hsend]
      | nothing | written => exact absurd rfl hanswer
  | nothing hchunk hlock => simp [hchunk, hlock]
  | written _ hchunk _ hready hsend => simp [hchunk, hready, hsend]

end MuxStreamWrite

end Writers

theorem MuxProtocolExtensionStream.refused_send_iff (info : StreamInfo)
    (actorGone : Bool) (packetType : UInt8) (data : Bytes)
    (answer : SendAnswer) :
    Refused (.ready (send info actorGone packetType data answer).1)
        (send info actorGone packetType data answer).2 ↔
      actorGone = true ∨
        answer.taken = false ∧ ∃ error, answer.result = .error error := by
  unfold send Refused
  cases actorGone with
  | true => simp
  | false =>
      cases answer.taken with
      | true => simp
      | false => simp

namespace Endpoint

variable {endpoint next : Endpoint} {action : EndpointAction}
  {attempt : WriteAttempt}

theorem refused_iff_writeFails
    (hattempt : endpoint.writeAttempt action = some attempt) :
    Refused attempt.answer attempt.sent ↔ WriteFails endpoint action := by
  cases action with
  | close stream close channel send => cases hattempt
  | mux action =>
      cases action with
      | event event send => cases hattempt
      | finish => cases hattempt
      | pollNext stream sink => cases hattempt
      | dropRead stream => cases hattempt
      | startSend stream item =>
          obtain rfl := Option.some.inj hattempt
          simp [Refused, WriteFails]
      | pollReady stream cx sink =>
          simp only [writeAttempt, Option.map_eq_some_iff] at hattempt
          obtain ⟨s, hs, rfl⟩ := hattempt
          have hiff := @MuxStreamWrite.refused_pollReady_iff sink s.write
            s.info endpoint.actorGone cx
          simpa [WriteFails, hs] using hiff
      | pollFlush stream sink =>
          simp only [writeAttempt, Option.map_eq_some_iff] at hattempt
          obtain ⟨s, hs, rfl⟩ := hattempt
          have hiff := @MuxStreamWrite.refused_pollFlush_iff sink s.write s.info
          simpa [WriteFails, hs] using hiff
  | pollWrite stream write buf sink =>
      simp only [writeAttempt, Option.map_eq_some_iff] at hattempt
      obtain ⟨info, -, rfl⟩ := hattempt
      exact write.refused_pollWrite_iff info buf
  | send stream packetType data answer =>
      simp only [writeAttempt, Option.map_eq_some_iff] at hattempt
      obtain ⟨info, -, rfl⟩ := hattempt
      exact MuxProtocolExtensionStream.refused_send_iff info _ packetType data
        answer

/-- A call that only its own stream's state decides is reported as it is. -/
theorem trace_of_update {action : MuxAction} {stream : Nat}
    {f : Stream → Stream × List Bytes} {s : Stream}
    (hhandle : action.handle = some stream)
    (hoffered : endpoint.world.offered action = [])
    (hstep : endpoint.world.step action =
      endpoint.world.update stream fun s => ((f s).1, (f s).2.map .wrote))
    (hs : endpoint.world.mux.heap[stream]? = some s)
    (h : endpoint.step (.mux action) = some next) :
    next.trace = endpoint.trace ++ (f s).2.map (.handleWrote stream) := by
  obtain ⟨-, -, hmux⟩ := step_mux h
  obtain ⟨seen, hseen, htrace⟩ := stepMux_eq_some hmux
  rw [hstep] at hseen
  simp only [MuxWorld.update, hs, Option.map_some, Option.some.injEq,
    Prod.mk.injEq] at hseen
  obtain ⟨-, rfl⟩ := hseen
  rw [htrace, hoffered, List.flatMap_map]
  simp only [MuxWorld.report, hhandle, ← List.map_eq_flatMap]
  rfl

/-- What a writer's call hands over is all that is reported of it. -/
theorem trace_of_writeAttempt (h : endpoint.step action = some next)
    (hattempt : endpoint.writeAttempt action = some attempt) :
    next.trace =
      endpoint.trace ++ attempt.sent.map (.handleWrote attempt.stream) := by
  cases action with
  | close stream close channel send => cases hattempt
  | mux action =>
      cases action with
      | event event send => cases hattempt
      | finish => cases hattempt
      | pollNext stream sink => cases hattempt
      | dropRead stream => cases hattempt
      | startSend stream item =>
          obtain rfl := Option.some.inj hattempt
          obtain ⟨-, -, hmux⟩ := step_mux h
          obtain ⟨seen, hseen, htrace⟩ := stepMux_eq_some hmux
          simp only [MuxWorld.step, MuxWorld.update, Option.map_eq_some_iff,
            Prod.mk.injEq] at hseen
          obtain ⟨s, -, -, rfl⟩ := hseen
          rw [htrace]
          rfl
      | pollReady stream cx sink =>
          simp only [writeAttempt, Option.map_eq_some_iff] at hattempt
          obtain ⟨s, hs, rfl⟩ := hattempt
          exact @trace_of_update _ _ _ stream (fun s =>
            let result := s.write.pollReady s.info endpoint.actorGone cx sink
            ({ s with write := result.write, info := result.info },
              result.sent)) s rfl rfl rfl hs h
      | pollFlush stream sink =>
          simp only [writeAttempt, Option.map_eq_some_iff] at hattempt
          obtain ⟨s, hs, rfl⟩ := hattempt
          exact @trace_of_update _ _ _ stream (fun s =>
            let result := s.write.pollFlush s.info sink
            ({ s with write := result.write, info := result.info },
              result.sent)) s rfl rfl rfl hs h
  | pollWrite stream write buf sink =>
      simp only [writeAttempt, Option.map_eq_some_iff] at hattempt
      obtain ⟨info, hinfo, rfl⟩ := hattempt
      simp only [step, hinfo, Option.map_some, Option.some.injEq] at h
      rw [← h]
  | send stream packetType data answer =>
      simp only [writeAttempt, Option.map_eq_some_iff] at hattempt
      obtain ⟨info, hinfo, rfl⟩ := hattempt
      simp only [step, hinfo, Option.map_some, Option.some.injEq] at h
      rw [← h]
      simp only [MuxProtocolExtensionStream.send]
      cases endpoint.actorGone with
      | true => simp
      | false =>
          cases answer.taken with
          | true => simp
          | false => simp

theorem refusesWrite_iff (hstep : endpoint.step action = some next) :
    RefusesWrite endpoint action next ↔ FailsOnceClosed endpoint action := by
  unfold RefusesWrite FailsOnceClosed
  refine forall_congr' fun attempt => forall_congr' fun hattempt =>
    forall_congr' fun _ => ?_
  rw [← refused_iff_writeFails hattempt,
    trace_of_writeAttempt hstep hattempt, List.append_right_eq_self,
    List.map_eq_nil_iff]
  rfl

end Endpoint

/-- In a run nothing is written on closed streams exactly if every writer that
is used on one fails for a reason of its own. -/
theorem staysClosed_iff (mux : MuxInner) {actions : List EndpointAction}
    {endpoint : Endpoint}
    (hrun : Endpoint.machine.run (.init mux) actions = some endpoint) :
    StaysClosed (.init mux) actions ↔
      Endpoint.machine.Meets FailsOnceClosed (.init mux) actions := by
  have hiff : ∀ s action t, True →
      Endpoint.machine.step s action = some t →
      ((∀ next, Endpoint.machine.step s action = some next →
        RefusesWrite s action next) ↔ FailsOnceClosed s action) := by
    intro s action t _ hstep
    constructor
    · intro hrefuses
      exact (Endpoint.refusesWrite_iff hstep).mp (hrefuses t hstep)
    · intro hfails next hnext
      exact (Endpoint.refusesWrite_iff hnext).mpr hfails
  exact Endpoint.machine.meets_iff_of_invariant hiff
    (fun _ _ _ _ _ _ => trivial) trivial hrun

/-- The actor is told to end. -/
def ended : EndpointAction :=
  .mux (.event (.endFut none) ⟨false, .error .wsImplSocketClosed,
    SendAnswer.taken_of_error⟩)

theorem staysClosed_of_ended_actor :
    StaysClosed quietServer
      [connected 1, closedBy 0, ended, .mux (.pollReady 0 0 .prompt)] := by
  obtain ⟨endpoint, hrun⟩ : ∃ endpoint, Endpoint.machine.run quietServer
      [connected 1, closedBy 0, ended, .mux (.pollReady 0 0 .prompt)] =
        some endpoint := ⟨_, rfl⟩
  refine (staysClosed_iff _ hrun).mpr ?_
  refine .cons nofun rfl (.cons nofun rfl (.cons nofun rfl (.cons ?_ rfl ?_)))
  · exact fun _ _ _ => .inl rfl
  · trivial

/-- After a close by a handle, or by the peer, data goes out as before. -/
theorem not_staysClosed_of_writing :
    ¬ StaysClosed quietServer
        [connected 1, closedBy 0, .pollWrite 0 ⟨false⟩ [7] .prompt] ∧
      ¬ StaysClosed quietServer
        [connected 1, received ⟨1, .close ⟨.voluntary⟩⟩,
          .mux (.startSend 0 [7]), .mux (.pollFlush 0 .prompt)] := by
  constructor
  · rintro ⟨-, hrest⟩
    have hlast := ((hrest _ rfl).2 _ rfl).1 _ rfl
    obtain ⟨htrace, -⟩ := hlast _ rfl (by decide)
    revert htrace
    decide
  · rintro ⟨-, hrest⟩
    have hlast := (((hrest _ rfl).2 _ rfl).2 _ rfl).1 _ rfl
    obtain ⟨htrace, -⟩ := hlast _ rfl (by decide)
    revert htrace
    decide

end Epoxy
