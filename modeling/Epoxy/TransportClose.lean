/-
Closing the transports.  The adapters between a transport and its websocket
are sinks over the inner one; a task that awaits the close of an adapter, as
`MuxInner::into_future` does, sleeps until the waker it left with an inner
poll is called.  Only one of the adapters always gets to the inner close.
-/
import Epoxy.IteratorTransport
import Epoxy.Packet
import Epoxy.PolledSink

namespace Epoxy

open ByteCursor PolledSink
open PollChannel (Poll)

universe u v w x y z t

/-- The errors of the websocket libraries, as far as they are told apart. -/
inductive WebSocketLibError where
  | alreadyClosed
  | other
deriving Repr, DecidableEq

/-- The one kind of message that is sent. -/
inductive Message where
  | binary (data : Bytes)
deriving Repr, DecidableEq

def mapErr : WebSocketLibError → WispError
  | .alreadyClosed => .wsImplSocketClosed
  | .other => .wsImplError

structure TokioWebsocketsTransport (Ws : Type u) where
  inner : Ws

structure TokioTungsteniteTransport (Ws : Type u) where
  inner : Ws

/-- The writing half; its lock is free between the polls. -/
structure WebSocketSplitWrite (S : Type u) where
  inner : S

/-- Hand a poll on to what is inside. -/
def delegated {W : Type u} {S : Type v} {T : Type w} {A : Type x} {B : Type y}
    (wrap : S → T) (convert : A → B) :
    Option (W × S × A) → Option (W × T × B) :=
  Option.map fun (world, inner, answer) => (world, wrap inner, convert answer)

def mapErrPoll : Poll (Except WebSocketLibError Unit) →
    Poll (Except WispError Unit) :=
  Poll.map (Except.mapError mapErr)

variable {W : Type u} {Ws : Type v}

def TokioWebsocketsTransport.sink
    (ws : Sink W Ws Message WebSocketLibError) :
    Sink W (TokioWebsocketsTransport Ws) Bytes WispError where
  pollReady world this :=
    delegated .mk mapErrPoll (ws.pollReady world this.inner)
  startSend world this item :=
    delegated .mk (Except.mapError mapErr)
      (ws.startSend world this.inner (.binary item))
  pollFlush world this :=
    delegated .mk mapErrPoll (ws.pollFlush world this.inner)
  pollClose world this :=
    delegated .mk mapErrPoll (ws.pollClose world this.inner)

def TokioTungsteniteTransport.sink
    (ws : Sink W Ws Message WebSocketLibError) :
    Sink W (TokioTungsteniteTransport Ws) Bytes WispError where
  pollReady world this :=
    delegated .mk mapErrPoll (ws.pollReady world this.inner)
  startSend world this item :=
    delegated .mk (Except.mapError mapErr)
      (ws.startSend world this.inner (.binary item))
  pollFlush world this :=
    delegated .mk mapErrPoll (ws.pollFlush world this.inner)
  -- the inner sink is flushed here, and never closed
  pollClose world this :=
    delegated .mk mapErrPoll (ws.pollFlush world this.inner)

theorem TokioWebsocketsTransport.closes
    {ws : Sink (W × Seen) Ws Message WebSocketLibError} {env : Environment W}
    {world : W} {this : TokioWebsocketsTransport Ws} {closed : Bool}
    (h : Closes env ws.pollClose world this.inner closed) :
    Closes env (sink ws).pollClose world this closed := by
  obtain ⟨inner⟩ := this
  refine Closes.map TokioWebsocketsTransport.mk (Except.mapError mapErr)
    (fun world this => ?_) h
  rfl

def WebSocketSplitWrite.sink {S : Type v} {P : Type w} {E : Type x}
    (inner : Sink W S P E) : Sink W (WebSocketSplitWrite S) P E where
  pollReady world this := delegated .mk id (inner.pollReady world this.inner)
  startSend world this item :=
    delegated .mk id (inner.startSend world this.inner item)
  pollFlush world this := delegated .mk id (inner.pollFlush world this.inner)
  pollClose world this := delegated .mk id (inner.pollClose world this.inner)

section Split

variable {S : Type v} {P : Type w} {E : Type x} {inner : Sink W S P E}

theorem WebSocketSplitWrite.delegates_mk :
    inner.Delegates (WebSocketSplitWrite.sink inner) .mk :=
  ⟨fun _ _ => rfl, fun _ _ _ => rfl, fun _ _ => rfl, fun _ _ => rfl⟩

theorem WebSocketSplitWrite.delegates_inner :
    (WebSocketSplitWrite.sink inner).Delegates inner
      WebSocketSplitWrite.inner where
  pollReady world this := by
    cases hpoll : inner.pollReady world this.inner <;>
      simp [sink, delegated, hpoll]
  startSend world this item := by
    cases hsend : inner.startSend world this.inner item <;>
      simp [sink, delegated, hsend]
  pollFlush world this := by
    cases hpoll : inner.pollFlush world this.inner <;>
      simp [sink, delegated, hpoll]
  pollClose world this := by
    cases hpoll : inner.pollClose world this.inner <;>
      simp [sink, delegated, hpoll]

end Split

def AsyncIteratorTransportWrite.sink {S : Type v} {F : Type w} {C : Type x}
    {G : Type y} {P : Type z} {E : Type t}
    (func : AsyncFn W (S × P) F (Except E S))
    (close : AsyncFn W C G (Except E Unit)) :
    Sink W (AsyncIteratorTransportWrite S F C G) P E where
  pollReady world this := some (this.pollReady func world)
  startSend world this item :=
    (this.startSend func world item).map fun (world, this) =>
      (world, this, .ok ())
  pollFlush world this := some (this.pollFlush func world)
  pollClose world this := this.pollClose func close world

section Iterator

variable {S : Type v} {F : Type w} {C : Type x} {G : Type y} {P : Type z}
  {E : Type t} (func : AsyncFn W (S × P) F (Except E S))
  (close : AsyncFn W C G (Except E Unit)) (env : Environment W)

namespace AsyncIteratorTransportWrite

/-- The futures that the writer holds answer in the end. -/
def FuturesReady (world : W) (this : AsyncIteratorTransportWrite S F C G) :
    Prop :=
  (∀ fut, this.state = .future fut →
    EventuallyReady env (futurePoll func) world fut) ∧
  ∀ fut, this.closeState = .future fut →
    EventuallyReady env (futurePoll close) world fut

/-- The close was begun before, and the send in flight does not fail. -/
def ClosesWhen (world : W) (this : AsyncIteratorTransportWrite S F C G) :
    Prop :=
  (∃ fut, this.closeState = .future fut) ∧
  ∀ fut, this.state = .future fut →
    ∀ err, ¬ Answers env (futurePoll func) world fut (.error err)

section PollClose

variable {func close} {world first : W} {closeState : IteratorState C G}

theorem pollClose_pending {fut fut' : F}
    (hpoll : func.poll world fut = (first, fut', .pending)) :
    (mk (.future fut) closeState).pollClose func close world =
      some (first, ⟨.future fut', closeState⟩, .pending) := by
  simp only [pollClose, pollFlush, IteratorState.getFuture, hpoll]

theorem pollClose_error {fut fut' : F} {err : E}
    (hpoll : func.poll world fut = (first, fut', .ready (.error err))) :
    (mk (.future fut) closeState).pollClose func close world =
      some (first, ⟨.empty, closeState⟩, .ready (.error err)) := by
  simp only [pollClose, pollFlush, IteratorState.getFuture, hpoll]

/-- A send that completes leaves the rest of the poll to a flushed writer. -/
theorem pollClose_ok {fut fut' : F} {state : S}
    (hpoll : func.poll world fut = (first, fut', .ready (.ok state))) :
    (mk (.future fut) closeState).pollClose func close world =
      (mk (.value state) closeState).pollClose func close first := by
  simp only [pollClose, pollFlush, IteratorState.getFuture, hpoll]

variable {state : IteratorState S F} (hflushed : state.getFuture = none)
include hflushed

theorem pollFlush_flushed :
    (mk state closeState).pollFlush func world =
      (world, mk state closeState, .ready (.ok ())) := by
  simp only [pollFlush, hflushed]

theorem pollClose_close_pending {fut fut' : G}
    (hpoll : close.poll world fut = (first, fut', .pending)) :
    (mk state (.future fut)).pollClose func close world =
      some (first, ⟨state, .future fut'⟩, .pending) := by
  simp only [pollClose, pollFlush_flushed hflushed, IteratorState.getFuture,
    hpoll]

theorem pollClose_close_ready {fut fut' : G} {ret : Except E Unit}
    (hpoll : close.poll world fut = (first, fut', .ready ret)) :
    (mk state (.future fut)).pollClose func close world =
      some (first, ⟨state, .empty⟩, .ready ret) := by
  simp only [pollClose, pollFlush_flushed hflushed, IteratorState.getFuture,
    hpoll]

/-- The poll that makes the close future waits for nobody. -/
theorem pollClose_value {value : C} :
    (mk state (.value value)).pollClose func close world =
      some ((close.call world value).1,
        ⟨state, .future (close.call world value).2⟩, .pending) := by
  simp only [pollClose, pollFlush_flushed hflushed, IteratorState.getFuture,
    IteratorState.takeState]

theorem pollClose_empty :
    (mk state (.empty : IteratorState C G)).pollClose func close world =
      none := by
  simp only [pollClose, pollFlush_flushed hflushed, IteratorState.getFuture,
    IteratorState.takeState]

end PollClose

variable {func close env} {world : W} {closed : Bool}

abbrev watchedClose (func : AsyncFn W (S × P) F (Except E S))
    (close : AsyncFn W C G (Except E Unit)) :=
  fun world (this : AsyncIteratorTransportWrite S F C G) =>
    this.pollClose (watchedFn false func) (watchedFn true close) world

/-- Once there is nothing to flush the close future is polled to its end. -/
theorem closes_flushed {state : IteratorState S F} {fut : G}
    (hflushed : state.getFuture = none)
    (hready : EventuallyReady env (futurePoll close) world fut) :
    Closes env (watchedClose func close) world ⟨state, .future fut⟩
      closed := by
  induction hready generalizing closed with
  | ready hpoll =>
      exact .ready (pollClose_close_ready hflushed
        (watchedFn_poll (futurePoll_eq_some.mp hpoll)))
  | again hpoll hwoken _ ih =>
      exact .again (pollClose_close_pending hflushed
        (watchedFn_poll (futurePoll_eq_some.mp hpoll))) hwoken
        fun later hlater => ih later hlater

variable {start : W} {initial this : AsyncIteratorTransportWrite S F C G}
  {ready : Bool}

theorem closes_of_closesWhen
    (hready : ∀ world this ready,
      (sink func close).InUse env start initial world this ready →
      FuturesReady func close env world this)
    (huse : (sink func close).InUse env start initial world this ready)
    (hwhen : ClosesWhen func env world this) :
    Closes env (watchedClose func close) world this closed := by
  obtain ⟨state, closeState⟩ := this
  obtain ⟨⟨closeFut, hclose⟩, hok⟩ := hwhen
  change closeState = _ at hclose
  subst hclose
  cases state with
  | value state => exact closes_flushed rfl ((hready _ _ _ huse).2 _ rfl)
  | empty => exact closes_flushed rfl ((hready _ _ _ huse).2 _ rfl)
  | future fut =>
      -- the send in flight is polled until it has been accepted
      have hfut := (hready _ _ _ huse).1 _ rfl
      specialize hok fut rfl
      induction hfut generalizing ready closed with
      | @ready world first fut fut' ret hpoll =>
          rw [futurePoll_eq_some] at hpoll
          cases ret with
          | error err =>
              exact absurd (.ready (futurePoll_eq_some.mpr hpoll)) (hok err)
          | ok state =>
              have hpollFlush : (sink func close).pollFlush world
                  ⟨.future fut, .future closeFut⟩ = some (first,
                    ⟨.value state, .future closeFut⟩, .ready (.ok ())) := by
                simp only [sink, pollFlush, IteratorState.getFuture, hpoll]
              have hflush := huse.pollFlush hpollFlush (by simp)
              exact (closes_flushed rfl ((hready _ _ _ hflush).2 _ rfl)).congr
                (pollClose_ok (watchedFn_poll hpoll))
      | @again world first fut fut' hpoll hwoken _ ih =>
          rw [futurePoll_eq_some] at hpoll
          refine .again (pollClose_pending (watchedFn_poll hpoll)) hwoken
            fun later hlater => ?_
          have hwait := huse.pollClose (pollClose_pending hpoll)
          refine ih later hlater (hwait.change (env.wakes_changes hlater)) ?_
          intro err herr
          exact hok err (.again (futurePoll_eq_some.mpr hpoll) hlater herr)

/-- With nothing to flush, a close that comes to an end was begun before. -/
theorem exists_closeFut_of_closes {state : IteratorState S F}
    {closeState : IteratorState C G} (hflushed : state.getFuture = none)
    (h : Closes env (watchedClose func close) world ⟨state, closeState⟩
      closed) : ∃ fut, closeState = .future fut := by
  cases closeState with
  | future fut => exact ⟨fut, rfl⟩
  | value value =>
      cases h with
      | ready hpoll => cases (pollClose_value hflushed).symm.trans hpoll
      | again hpoll => cases (pollClose_value hflushed).symm.trans hpoll
  | empty =>
      cases h with
      | ready hpoll => cases (pollClose_empty hflushed).symm.trans hpoll
      | again hpoll => cases (pollClose_empty hflushed).symm.trans hpoll

theorem closesWhen_of_flushed {first : W} {fut fut' : F}
    {closeState : IteratorState C G} {ret : Except E S}
    (hpoll : func.poll world fut = (first, fut', .ready ret))
    (h : Closes env (watchedClose func close) world
      ⟨.future fut, closeState⟩ false) :
    ClosesWhen func env world ⟨.future fut, closeState⟩ := by
  cases ret with
  | error err =>
      -- the poll ends with the send's error, and nothing was closed
      have hwatched : (watchedFn false func).poll (world, ⟨false, false⟩)
          fut = ((first, ⟨false, false⟩), fut', .ready (.error err)) :=
        watchedFn_poll hpoll
      have herror : watchedClose func close (world, ⟨false, false⟩)
          ⟨.future fut, closeState⟩ = some ((first, ⟨false, false⟩),
            ⟨.empty, closeState⟩, .ready (.error err)) :=
        pollClose_error hwatched
      cases h with
      | ready hready => cases herror.symm.trans hready
      | again hagain => cases herror.symm.trans hagain
  | ok state =>
      constructor
      · have hwatched : (watchedFn false func).poll (world, ⟨false, false⟩)
            fut = ((first, ⟨false, false⟩), fut', .ready (.ok state)) :=
          watchedFn_poll hpoll
        have hvalue : Closes env (watchedClose func close) first
            ⟨.value state, closeState⟩ false :=
          h.congr (pollClose_ok hwatched).symm
        exact exists_closeFut_of_closes rfl hvalue
      · intro current hcurrent err herr
        cases hcurrent
        cases herr with
        | ready hready => cases hpoll.symm.trans (futurePoll_eq_some.mp hready)
        | again hagain => cases hpoll.symm.trans (futurePoll_eq_some.mp hagain)

theorem closesWhen_of_closes
    (h : Closes env (watchedClose func close) world this false) :
    ClosesWhen func env world this := by
  obtain ⟨state, closeState⟩ := this
  cases state with
  | value value => exact ⟨exists_closeFut_of_closes rfl h, by simp⟩
  | empty => exact ⟨exists_closeFut_of_closes rfl h, by simp⟩
  | future fut =>
      generalize hclosed : false = closed at h
      generalize hthis : mk (.future fut) closeState = this at h ⊢
      induction h generalizing fut with
      | @ready world _ _ _ _ _ _ hready =>
          subst hthis hclosed
          obtain ⟨first, fut', answer, hpoll⟩ : ∃ first fut' answer,
              func.poll world fut = (first, fut', answer) := ⟨_, _, _, rfl⟩
          cases answer with
          | ready ret => exact closesWhen_of_flushed hpoll (.ready hready)
          | pending =>
              cases (pollClose_pending (watchedFn_poll hpoll)).symm.trans hready
      | @again world _ _ _ _ _ hagain hwoken hlater ih =>
          subst hthis hclosed
          obtain ⟨first, fut', answer, hpoll⟩ : ∃ first fut' answer,
              func.poll world fut = (first, fut', answer) := ⟨_, _, _, rfl⟩
          cases answer with
          | ready ret =>
              exact closesWhen_of_flushed hpoll (.again hagain hwoken hlater)
          | pending =>
              cases (pollClose_pending (watchedFn_poll hpoll)).symm.trans hagain
              obtain ⟨later, hwakes⟩ := hwoken
              refine ⟨(ih later hwakes fut' rfl rfl).1, ?_⟩
              intro current hcurrent err herr
              cases hcurrent
              cases herr with
              | ready hready =>
                  cases hpoll.symm.trans (futurePoll_eq_some.mp hready)
              | again hagain hwakes hlater =>
                  cases hpoll.symm.trans (futurePoll_eq_some.mp hagain)
                  exact (ih _ hwakes fut' rfl rfl).2 fut' rfl err hlater

end AsyncIteratorTransportWrite

end Iterator

/-- The transport write adapters: three over the inner ones, and the writing
half of a split transport over any of them. -/
inductive Adapter where
  | iterator
  | tokioWebsockets
  | tokioTungstenite
  | splitWrite (inner : Adapter)
deriving Repr, DecidableEq

/-- What the adapters are made over. -/
structure Inner (W : Type u) (S F C G Ws : Type v) where
  write : AsyncFn W (S × Bytes) F (Except WispError S)
  close : AsyncFn W C G (Except WispError Unit)
  websocket : Sink W Ws Message WebSocketLibError

variable {S F C G Ws : Type v}

/-- The inner polls, observed. -/
def Inner.watched (inner : Inner W S F C G Ws) :
    Inner (W × Seen) S F C G Ws where
  write := watchedFn false inner.write
  close := watchedFn true inner.close
  websocket := inner.websocket.watched

namespace Adapter

def Own (S F C G Ws : Type v) : Adapter → Type v
  | .iterator => AsyncIteratorTransportWrite S F C G
  | .tokioWebsockets => TokioWebsocketsTransport Ws
  | .tokioTungstenite => TokioTungsteniteTransport Ws
  | .splitWrite inner => WebSocketSplitWrite (inner.Own S F C G Ws)

def sink {W : Type u} (inner : Inner W S F C G Ws) :
    (adapter : Adapter) → Sink W (adapter.Own S F C G Ws) Bytes WispError
  | .iterator => AsyncIteratorTransportWrite.sink inner.write inner.close
  | .tokioWebsockets => TokioWebsocketsTransport.sink inner.websocket
  | .tokioTungstenite => TokioTungsteniteTransport.sink inner.websocket
  | .splitWrite adapter => WebSocketSplitWrite.sink (adapter.sink inner)

variable {W : Type u} (inner : Inner W S F C G Ws) (env : Environment W)

/-- Every inner poll that may be waited for is ready in the end. -/
def InnerReady (world : W) :
    (adapter : Adapter) → adapter.Own S F C G Ws → Prop
  | .iterator, this => this.FuturesReady inner.write inner.close env world
  | .tokioWebsockets, this =>
      EventuallyReady env inner.websocket.pollFlush world this.inner ∧
        EventuallyReady env inner.websocket.pollClose world this.inner
  | .tokioTungstenite, this =>
      EventuallyReady env inner.websocket.pollFlush world this.inner ∧
        EventuallyReady env inner.websocket.pollClose world this.inner
  | .splitWrite adapter, this => InnerReady world adapter this.inner

/-- The adapters, and the states of the iterator transport, that get to the
inner close. -/
def ClosesWhen (world : W) :
    (adapter : Adapter) → adapter.Own S F C G Ws → Prop
  | .iterator, this => this.ClosesWhen inner.write env world
  | .tokioWebsockets, _ => True
  | .tokioTungstenite, _ => False
  | .splitWrite adapter, this => ClosesWhen world adapter this.inner

/-- In whatever state its user has brought it to, an adapter gets to the end
of its close, with the inner close done, exactly in these cases. -/
theorem closes_iff_closesWhen (adapter : Adapter) (start : W)
    (initial : adapter.Own S F C G Ws)
    (hready : ∀ world this ready,
      (adapter.sink inner).InUse env start initial world this ready →
      adapter.InnerReady inner env world this)
    {world : W} {this : adapter.Own S F C G Ws} {ready : Bool}
    (huse : (adapter.sink inner).InUse env start initial world this ready) :
    Closes env (adapter.sink inner.watched).pollClose world this false ↔
      adapter.ClosesWhen inner env world this := by
  induction adapter with
  | iterator =>
      exact ⟨AsyncIteratorTransportWrite.closesWhen_of_closes,
        AsyncIteratorTransportWrite.closes_of_closesWhen hready huse⟩
  | tokioWebsockets =>
      refine iff_of_true ?_ trivial
      have hclose : Closes env inner.watched.websocket.pollClose world
          this.inner false :=
        closes_of_eventuallyReady (hready world this ready huse).2
      exact TokioWebsocketsTransport.closes hclose
  | tokioTungstenite =>
      refine iff_of_false (not_closes_of_never ?_) id
      intro world this world' seen next answer hpoll
      -- every poll of this close is one of the inner flush
      obtain ⟨polled, hflush, hseen⟩ := Option.map_eq_some_iff.mp hpoll
      obtain ⟨first, -, rfl⟩ := Option.map_eq_some_iff.mp hflush
      cases hseen
      rfl
  | splitWrite adapter ih =>
      have hmk := @WebSocketSplitWrite.delegates_mk _ _ _ _ (adapter.sink inner)
      have hinner := @WebSocketSplitWrite.delegates_inner _ _ _ _
        (adapter.sink inner)
      refine Iff.trans ⟨fun h => ?_, fun h => ?_⟩
        (ih initial.inner (fun world this ready huse => ?_) (huse.map hinner))
      · exact WebSocketSplitWrite.delegates_inner.closes h
      · exact WebSocketSplitWrite.delegates_mk.closes h
      · exact hready world ⟨this⟩ ready (huse.map hmk)

/-- Inner functions and a websocket that are ready at once. -/
def promptInner : Inner Unit Unit Unit Unit Unit Unit where
  write := ⟨fun _ _ => ((), ()), fun _ _ => ((), (), .ready (.ok ()))⟩
  close := ⟨fun _ _ => ((), ()), fun _ _ => ((), (), .ready (.ok ()))⟩
  websocket :=
    ⟨fun _ _ => some ((), (), .ready (.ok ())),
      fun _ _ _ => some ((), (), .ok ()),
      fun _ _ => some ((), (), .ready (.ok ())),
      fun _ _ => some ((), (), .ready (.ok ()))⟩

def promptEnv : Environment Unit :=
  ⟨fun _ _ => True, fun _ _ => True, fun _ => trivial⟩

theorem innerReady_promptInner (adapter : Adapter) (world : Unit)
    (this : adapter.Own Unit Unit Unit Unit Unit) :
    adapter.InnerReady promptInner promptEnv world this := by
  induction adapter with
  | iterator => exact ⟨fun _ _ => .ready rfl, fun _ _ => .ready rfl⟩
  | tokioWebsockets => exact ⟨.ready rfl, .ready rfl⟩
  | tokioTungstenite => exact ⟨.ready rfl, .ready rfl⟩
  | splitWrite adapter ih => exact ih this.inner

theorem closes_iff_closesWhen_promptInner :
    Closes promptEnv (sink promptInner.watched
        (.splitWrite .tokioWebsockets)).pollClose () ⟨⟨()⟩⟩ false ↔
      ClosesWhen promptInner promptEnv () (.splitWrite .tokioWebsockets)
        ⟨⟨()⟩⟩ :=
  closes_iff_closesWhen promptInner promptEnv (.splitWrite .tokioWebsockets)
    () ⟨⟨()⟩⟩ (fun world this _ _ => innerReady_promptInner _ world this)
    .start

/-- A new iterator transport waits for a waker that nobody has, and a new
tungstenite transport flushes instead of closing. -/
theorem not_closes_promptInner :
    (∀ adapter world this,
      InnerReady promptInner promptEnv world adapter this) ∧
    ¬ Closes promptEnv (sink promptInner.watched .iterator).pollClose ()
        (asyncIteratorTransportWrite () ()) false ∧
    ¬ Closes promptEnv (sink promptInner.watched .tokioTungstenite).pollClose
        () ⟨()⟩ false := by
  refine ⟨innerReady_promptInner, fun h => ?_, fun h => ?_⟩
  · cases h with
    | ready hpoll => cases hpoll
    | again hpoll => cases hpoll
  · cases h with
    | ready hpoll => cases hpoll
    | again hpoll => cases hpoll

end Adapter

end Epoxy
