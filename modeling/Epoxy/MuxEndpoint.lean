/-
A multiplexor with the application behind it.  The application acts through
the handles of the streams it was given; what is reported is what the actor and
the handles gave to the transport, and when streams are opened and closed.
-/
import Epoxy.MuxDirectory
import Epoxy.StreamPackets

namespace Epoxy

open ActionMachine ByteCursor KeyDirectory PollChannel

inductive Report where
  | actorWrote (packet : Bytes)
  | handleWrote (stream : Nat) (packet : Bytes)
  /-- The handles of the stream were given to the application. -/
  | opened (stream : Nat)
  /-- A close of the stream returned `Ok`, or the peer's was handled. -/
  | closed (stream : Nat)
deriving Repr, DecidableEq

structure Endpoint where
  world : MuxWorld
  trace : List Report

inductive EndpointAction where
  /-- The actor handles the close that a handle of this stream asked for. -/
  | close (stream : Nat) (close : ClosePacket) (channel : Nat)
      (send : SendAnswer)
  /-- Any other step of the actor or of a handle. -/
  | mux (action : MuxAction)
  /-- `poll_write` of the asynchronous writer of this stream. -/
  | pollWrite (stream : Nat) (write : MuxStreamAsyncWrite) (buf : Bytes)
      (sink : SinkAnswers)
  /-- `MuxProtocolExtensionStream::send` -/
  | send (stream : Nat) (packetType : UInt8) (data : Bytes)
      (answer : SendAnswer)

/-- The stream whose handle acts. -/
def MuxAction.handle : MuxAction → Option Nat
  | .event _ _ => none
  | .finish => none
  | .pollNext stream _ => some stream
  | .pollReady stream _ _ => some stream
  | .startSend stream _ => some stream
  | .pollFlush stream _ => some stream
  | .dropRead stream => some stream

def MuxAction.isClose : MuxAction → Bool
  | .event (.close _ _ _) _ => true
  | _ => false

/-- What the application learns from a reply. -/
def Reply.reports : Reply → List Report
  | .created (.ok stream) => [.opened stream]
  | _ => []

namespace MuxWorld

/-- The stream that a packet of the peer opens. -/
def offered (world : MuxWorld) : MuxAction → List Nat
  | .event (.wispMessage ⟨streamId, .connect connect⟩) _ =>
      match (world.mux.handlePacket ⟨streamId, .connect connect⟩).2 with
      | .ok _ => [world.mux.heap.length]
      | .error _ => []
  | _ => []

def report (action : MuxAction) : Observation → List Report
  | .wrote packet =>
      match action.handle with
      | some stream => [.handleWrote stream packet]
      | none => [.actorWrote packet]
  | .replied _ (.created (.ok stream)) => [.opened stream]
  | .peerEnded stream =>
      match action with
      | .event _ _ => [.closed stream]
      | _ => []
  | _ => []

theorem report_replied (action : MuxAction) (channel : Nat) (reply : Reply) :
    report action (.replied channel reply) = reply.reports := by
  cases reply with
  | created stream => cases stream <;> rfl
  | closed result => rfl

end MuxWorld

namespace Endpoint

def init (mux : MuxInner) : Endpoint := ⟨.init mux, []⟩

/-- The actor's receiver is gone, as the handles see it. -/
def actorGone (endpoint : Endpoint) : Bool := endpoint.world.phase ≠ .running

/-- The record of a stream whose handles the application has. -/
def handleInfo (endpoint : Endpoint) (stream : Nat) : Option StreamInfo :=
  if .opened stream ∈ endpoint.trace then
    (endpoint.world.mux.heap[stream]?).map fun s => s.info
  else none

def stepMux (endpoint : Endpoint) (action : MuxAction) : Option Endpoint :=
  (endpoint.world.step action).map fun (world, seen) =>
    ⟨world, endpoint.trace ++ ((endpoint.world.offered action).map .opened ++
      seen.flatMap (MuxWorld.report action))⟩

/-- A close returns `Ok` if its stream was in the map and the packet went
out. -/
def closeReport (endpoint : Endpoint) (stream : Nat) (id : UInt32)
    (send : SendAnswer) : List Report :=
  match endpoint.world.mux.streams.lookup id, send.result with
  | some _, .ok () => [.closed stream]
  | _, _ => []

/-- Closes come from handles, and handles are used by who has them. -/
def step (endpoint : Endpoint) : EndpointAction → Option Endpoint
  | .close stream close channel send =>
      (endpoint.handleInfo stream).bind fun info =>
        (endpoint.stepMux (.event (.close info.id close channel) send)).map
          fun next => { next with
            trace := next.trace ++ endpoint.closeReport stream info.id send }
  | .mux action =>
      if action.isClose then none
      else
        match action.handle with
        | some stream =>
            (endpoint.handleInfo stream).bind fun _ => endpoint.stepMux action
        | none => endpoint.stepMux action
  | .pollWrite stream write buf sink =>
      (endpoint.handleInfo stream).map fun info =>
        { endpoint with
          trace := endpoint.trace ++
            (write.pollWrite info buf sink).sent.map (.handleWrote stream) }
  | .send stream packetType data answer =>
      (endpoint.handleInfo stream).map fun info =>
        if endpoint.actorGone then endpoint
        else { endpoint with
          trace := endpoint.trace ++
            if answer.taken then
              [.handleWrote stream (extensionPacket packetType info.id data)]
            else [] }

def machine : Machine Endpoint EndpointAction := ⟨step⟩

/-- What the action is for the multiplexor, if it concerns it. -/
def muxAction (endpoint : Endpoint) : EndpointAction → Option MuxAction
  | .close stream close channel send =>
      (endpoint.handleInfo stream).map fun info =>
        .event (.close info.id close channel) send
  | .mux action => some action
  | .pollWrite _ _ _ _ => none
  | .send _ _ _ _ => none

def directoryMove (endpoint : Endpoint) (action : EndpointAction) :
    Move UInt32 :=
  match endpoint.muxAction action with
  | some action => endpoint.world.directoryMove action
  | none => .stay

theorem stepMux_eq_some {endpoint next : Endpoint} {action : MuxAction}
    (h : endpoint.stepMux action = some next) :
    ∃ seen, endpoint.world.step action = some (next.world, seen) ∧
      next.trace = endpoint.trace ++
        ((endpoint.world.offered action).map .opened ++
          seen.flatMap (MuxWorld.report action)) := by
  simp only [stepMux, Option.map_eq_some_iff] at h
  obtain ⟨⟨world, seen⟩, hstep, rfl⟩ := h
  exact ⟨seen, hstep, rfl⟩

/-- What an event of the actor does, and what is reported of it. -/
theorem stepMux_event {endpoint next : Endpoint} {event : WsEvent}
    {send : SendAnswer}
    (h : endpoint.stepMux (.event event send) = some next) :
    endpoint.world.phase = .running ∧
      next.world.mux = (endpoint.world.mux.handleEvent event send).mux ∧
      (next.world.phase = .running ↔
        (endpoint.world.mux.handleEvent event send).result = .ok false) ∧
      next.trace = endpoint.trace ++
        ((endpoint.world.offered (.event event send)).map .opened ++
          ((endpoint.world.peerEnds (.event event send)).map .closed ++
            (endpoint.world.mux.handleEvent event send).sent.map .actorWrote ++
            (endpoint.world.mux.handleEvent event send).replies.flatMap
              fun reply => reply.2.reports)) := by
  obtain ⟨seen, hstep, htrace⟩ := stepMux_eq_some h
  obtain ⟨hphase, hmux, hrunning, rfl⟩ := MuxWorld.stepEvent_eq_some hstep
  refine ⟨hphase, hmux, hrunning, ?_⟩
  rw [htrace]
  simp only [List.flatMap_append, List.flatMap_map, MuxWorld.report_replied]
  simp only [MuxWorld.report, MuxAction.handle, ← List.map_eq_flatMap]

theorem handleInfo_eq_some {endpoint : Endpoint} {stream : Nat}
    {info : StreamInfo} (h : endpoint.handleInfo stream = some info) :
    .opened stream ∈ endpoint.trace ∧
      ∃ s, endpoint.world.mux.heap[stream]? = some s ∧ s.info = info := by
  unfold handleInfo at h
  split at h
  · next hopened => exact ⟨hopened, Option.map_eq_some_iff.mp h⟩
  · cases h

theorem step_mux {endpoint next : Endpoint} {action : MuxAction}
    (h : endpoint.step (.mux action) = some next) :
    action.isClose = false ∧
      (∀ stream, action.handle = some stream →
        .opened stream ∈ endpoint.trace) ∧
      endpoint.stepMux action = some next := by
  simp only [step] at h
  split at h
  · cases h
  · next hclose =>
      refine ⟨by simpa using hclose, ?_⟩
      split at h
      · next stream hhandle =>
          obtain ⟨info, hinfo, hstep⟩ := Option.bind_eq_some_iff.mp h
          refine ⟨fun other hother => ?_, hstep⟩
          obtain rfl := Option.some.inj (hhandle.symm.trans hother)
          exact (handleInfo_eq_some hinfo).1
      · next hhandle =>
          refine ⟨fun other hother => ?_, h⟩
          rw [hhandle] at hother
          cases hother

/-- A close that a handle asked for is handled under the id of its stream. -/
theorem step_close {endpoint next : Endpoint} {stream channel : Nat}
    {close : ClosePacket} {send : SendAnswer}
    (h : endpoint.step (.close stream close channel send) = some next) :
    ∃ s, .opened stream ∈ endpoint.trace ∧
      endpoint.world.mux.heap[stream]? = some s ∧
      endpoint.world.phase = .running ∧
      next.world.mux =
        (endpoint.world.mux.handleClose s.info.id close channel send).mux ∧
      endpoint.directoryMove (.close stream close channel send) =
        .remove s.info.id := by
  simp only [step, Option.bind_eq_some_iff, Option.map_eq_some_iff] at h
  obtain ⟨info, hinfo, mid, hmid, rfl⟩ := h
  obtain ⟨hopened, s, hs, rfl⟩ := handleInfo_eq_some hinfo
  obtain ⟨seen, hstep, -⟩ := stepMux_eq_some hmid
  obtain ⟨hphase, hmux, -, -⟩ := MuxWorld.stepEvent_eq_some hstep
  refine ⟨s, hopened, hs, hphase, hmux, ?_⟩
  simp only [directoryMove, muxAction, hinfo, Option.map_some]
  rfl

/-- A step is one of the multiplexor, or leaves the multiplexor alone. -/
theorem step_world {endpoint next : Endpoint} {action : EndpointAction}
    (h : endpoint.step action = some next) :
    (∃ inner seen, endpoint.muxAction action = some inner ∧
      endpoint.world.step inner = some (next.world, seen)) ∨
    (endpoint.muxAction action = none ∧ next.world = endpoint.world) := by
  cases action with
  | close stream close channel send =>
      simp only [step, Option.bind_eq_some_iff, Option.map_eq_some_iff] at h
      obtain ⟨info, hinfo, mid, hmid, rfl⟩ := h
      obtain ⟨seen, hstep, -⟩ := stepMux_eq_some hmid
      exact .inl ⟨_, seen, by simp [muxAction, hinfo], hstep⟩
  | mux action =>
      obtain ⟨-, -, hmux⟩ := step_mux h
      obtain ⟨seen, hstep, -⟩ := stepMux_eq_some hmux
      exact .inl ⟨action, seen, rfl, hstep⟩
  | pollWrite stream write buf sink =>
      simp only [step, Option.map_eq_some_iff] at h
      obtain ⟨info, hinfo, rfl⟩ := h
      exact .inr ⟨rfl, rfl⟩
  | send stream packetType data answer =>
      simp only [step, Option.map_eq_some_iff] at h
      obtain ⟨info, hinfo, rfl⟩ := h
      refine .inr ⟨rfl, ?_⟩
      split
      · rfl
      · rfl

theorem directory_step {endpoint next : Endpoint} {action : EndpointAction}
    (h : endpoint.step action = some next) :
    next.world.mux.directory =
      endpoint.world.mux.directory.move (endpoint.directoryMove action) := by
  unfold directoryMove
  rcases step_world h with ⟨inner, seen, haction, hstep⟩ | ⟨haction, hworld⟩
  · rw [haction]
    exact MuxWorld.directory_step hstep
  · rw [haction, hworld]
    rfl

end Endpoint

end Epoxy
