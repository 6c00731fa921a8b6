/-
Sinks that are polled by a task that sleeps in between.  A poll that answers
`Pending` is made again only when a waker that was left with an inner poll has
been called, so closing a sink comes to an end only if every such answer has
left the waker somewhere.  What the inner polls do is observed beside the
world, as in `AsyncFn`.
-/
import Epoxy.AsyncFn

open PollChannel (Poll)

namespace PolledSink

universe u v w x y

/-- The polls of a sink; `none` is a panic. -/
structure Sink (W : Type u) (T : Type v) (P : Type w) (E : Type x) where
  pollReady : W → T → Option (W × T × Poll (Except E Unit))
  startSend : W → T → P → Option (W × T × Except E Unit)
  pollFlush : W → T → Option (W × T × Poll (Except E Unit))
  pollClose : W → T → Option (W × T × Poll (Except E Unit))

/-- What may become of the world between two polls, and what may have become
of it by the time the waker of the last inner poll is called. -/
structure Environment (W : Type u) where
  changes : W → W → Prop
  wakes : W → W → Prop
  wakes_changes : ∀ {world world'}, wakes world world' → changes world world'

/-- Whether the last inner poll has kept the waker, and whether the inner
close has happened. -/
structure Seen where
  parked : Bool
  closed : Bool
deriving Repr, DecidableEq

def Seen.polled {R : Type u} (seen : Seen) (closing : Bool)
    (answer : Poll R) : Seen :=
  ⟨answer.isPending, closing && !answer.isPending || seen.closed⟩

variable {W : Type u} {T : Type v} {P : Type w} {E : Type x}

/-- A function whose futures are inner polls; `closing` is set for the one
whose future closes the connection. -/
def watchedFn {A : Type v} {F : Type w} {R : Type x} (closing : Bool)
    (fn : AsyncFn W A F R) : AsyncFn (W × Seen) A F R where
  call world arg :=
    let (first, future) := fn.call world.1 arg
    ((first, world.2), future)
  poll world future :=
    let (first, future, answer) := fn.poll world.1 future
    ((first, world.2.polled closing answer), future, answer)

/-- The polls of a future, as those of a sink. -/
def futurePoll {A : Type v} {F : Type w} {R : Type x} (fn : AsyncFn W A F R)
    (world : W) (future : F) : Option (W × F × Poll R) :=
  some (fn.poll world future)

theorem futurePoll_eq_some {A : Type v} {F : Type w} {R : Type x}
    {fn : AsyncFn W A F R} {world : W} {future : F} {result : W × F × Poll R} :
    futurePoll fn world future = some result ↔
      fn.poll world future = result := by
  rw [futurePoll, Option.some.injEq]

theorem watchedFn_poll {A : Type v} {F : Type w} {R : Type x}
    {closing : Bool} {fn : AsyncFn W A F R} {world world' : W} {seen : Seen}
    {future next : F} {answer : Poll R}
    (hpoll : fn.poll world future = (world', next, answer)) :
    (watchedFn closing fn).poll (world, seen) future =
      ((world', seen.polled closing answer), next, answer) := by
  simp only [watchedFn, hpoll]

/-- A poll of an inner sink, observed. -/
def watchedPoll {R : Type x} (closing : Bool)
    (poll : W → T → Option (W × T × Poll R)) (world : W × Seen) (this : T) :
    Option ((W × Seen) × T × Poll R) :=
  (poll world.1 this).map fun (first, this, answer) =>
    ((first, world.2.polled closing answer), this, answer)

theorem watchedPoll_eq {R : Type x} {closing : Bool}
    {poll : W → T → Option (W × T × Poll R)} {world world' : W} {seen : Seen}
    {this next : T} {answer : Poll R}
    (hpoll : poll world this = some (world', next, answer)) :
    watchedPoll closing poll (world, seen) this =
      some ((world', seen.polled closing answer), next, answer) := by
  rw [watchedPoll, hpoll]
  rfl

namespace Sink

/-- An inner sink, observed. -/
def watched (sink : Sink W T P E) : Sink (W × Seen) T P E where
  pollReady := watchedPoll false sink.pollReady
  startSend world this item :=
    (sink.startSend world.1 this item).map fun (first, this, answer) =>
      ((first, world.2), this, answer)
  pollFlush := watchedPoll false sink.pollFlush
  pollClose := watchedPoll true sink.pollClose

/-- The states of a sink that is used as the contract says and has not
reported an error or the end of its close; the flag says whether it has just
reported to be ready. -/
inductive InUse (sink : Sink W T P E) (env : Environment W) (world : W)
    (this : T) : W → T → Bool → Prop where
  | start : InUse sink env world this world this false
  | change {first second : W} {current : T} {ready : Bool}
      (h : InUse sink env world this first current ready)
      (hchanges : env.changes first second) :
      InUse sink env world this second current ready
  | pollReady {first second : W} {current next : T} {ready : Bool}
      (h : InUse sink env world this first current ready)
      (hpoll : sink.pollReady first current =
        some (second, next, .ready (.ok ()))) :
      InUse sink env world this second next true
  | waitReady {first second : W} {current next : T} {ready : Bool}
      (h : InUse sink env world this first current ready)
      (hpoll : sink.pollReady first current = some (second, next, .pending)) :
      InUse sink env world this second next false
  | startSend {first second : W} {current next : T} {item : P}
      (h : InUse sink env world this first current true)
      (hsend : sink.startSend first current item =
        some (second, next, .ok ())) :
      InUse sink env world this second next false
  | pollFlush {first second : W} {current next : T} {ready : Bool}
      {answer : Poll (Except E Unit)}
      (h : InUse sink env world this first current ready)
      (hpoll : sink.pollFlush first current = some (second, next, answer))
      (hok : ∀ err, answer ≠ .ready (.error err)) :
      InUse sink env world this second next false
  | pollClose {first second : W} {current next : T} {ready : Bool}
      (h : InUse sink env world this first current ready)
      (hpoll : sink.pollClose first current = some (second, next, .pending)) :
      InUse sink env world this second next false

end Sink

section Progress

variable {R : Type y} (env : Environment W)
  (poll : W → T → Option (W × T × Poll R))

/-- Polled again whenever its waker has been called, it answers in the end:
the waker is always called, and not for ever. -/
inductive EventuallyReady : W → T → Prop where
  | ready {world world' : W} {this next : T} {ret : R}
      (hpoll : poll world this = some (world', next, .ready ret)) :
      EventuallyReady world this
  | again {world world' : W} {this next : T}
      (hpoll : poll world this = some (world', next, .pending))
      (hwoken : ∃ later, env.wakes world' later)
      (hlater : ∀ later, env.wakes world' later →
        EventuallyReady later next) :
      EventuallyReady world this

/-- An answer that it may give in the end. -/
inductive Answers : W → T → R → Prop where
  | ready {world world' : W} {this next : T} {ret : R}
      (hpoll : poll world this = some (world', next, .ready ret)) :
      Answers world this ret
  | again {world world' later : W} {this next : T} {ret : R}
      (hpoll : poll world this = some (world', next, .pending))
      (hwakes : env.wakes world' later) (hlater : Answers later next ret) :
      Answers world this ret

/-- Awaiting the close comes to an end, and then the inner close has
happened.  No `Pending` may come without a waker left with an inner poll. -/
inductive Closes (poll : W × Seen → T → Option ((W × Seen) × T × Poll R)) :
    W → T → Bool → Prop where
  | ready {world world' : W} {this next : T} {closed parked : Bool} {ret : R}
      (hpoll : poll (world, ⟨false, closed⟩) this =
        some ((world', ⟨parked, true⟩), next, .ready ret)) :
      Closes poll world this closed
  | again {world world' : W} {this next : T} {closed closed' : Bool}
      (hpoll : poll (world, ⟨false, closed⟩) this =
        some ((world', ⟨true, closed'⟩), next, .pending))
      (hwoken : ∃ later, env.wakes world' later)
      (hlater : ∀ later, env.wakes world' later →
        Closes poll later next closed') :
      Closes poll world this closed

variable {env poll}

/-- Only the next poll matters. -/
theorem Closes.congr {poll : W × Seen → T → Option ((W × Seen) × T × Poll R)}
    {world world' : W} {this next : T} {closed closed' : Bool}
    (h : Closes env poll world this closed)
    (hpoll : poll (world', ⟨false, closed'⟩) next =
      poll (world, ⟨false, closed⟩) this) :
    Closes env poll world' next closed' := by
  cases h with
  | ready hready => exact .ready (hpoll.trans hready)
  | again hagain hwoken hlater =>
      exact .again (hpoll.trans hagain) hwoken hlater

/-- The close of a sink that only hands the polls on to the inner close. -/
theorem closes_of_eventuallyReady {world : W} {this : T} {closed : Bool}
    (h : EventuallyReady env poll world this) :
    Closes env (watchedPoll true poll) world this closed := by
  induction h generalizing closed with
  | ready hpoll => exact .ready (watchedPoll_eq hpoll)
  | again hpoll hwoken _ ih =>
      exact .again (watchedPoll_eq hpoll) hwoken fun later hlater =>
        ih later hlater

/-- A sink whose polls never do the inner close is not closed by them. -/
theorem not_closes_of_never
    {poll : W × Seen → T → Option ((W × Seen) × T × Poll R)}
    (hnever : ∀ world this world' seen next answer,
      poll (world, ⟨false, false⟩) this =
        some ((world', seen), next, answer) → seen.closed = false)
    {world : W} {this : T} : ¬ Closes env poll world this false := by
  intro h
  generalize hclosed : false = closed at h
  induction h with
  | ready hpoll =>
      subst hclosed
      cases hnever _ _ _ _ _ _ hpoll
  | again hpoll hwoken _ ih =>
      subst hclosed
      obtain ⟨later, hlater⟩ := hwoken
      exact ih later hlater (hnever _ _ _ _ _ _ hpoll).symm

/-- What one sink closes, so does one that hands its polls on to it. -/
theorem Closes.map {V : Type w} {A : Type y} (wrap : T → V) (convert : R → A)
    {poll : W × Seen → T → Option ((W × Seen) × T × Poll R)}
    {outer : W × Seen → V → Option ((W × Seen) × V × Poll A)}
    (houter : ∀ world this, outer world (wrap this) =
      (poll world this).map fun (world, next, answer) =>
        (world, wrap next, answer.map convert))
    {world : W} {this : T} {closed : Bool}
    (h : Closes env poll world this closed) :
    Closes env outer world (wrap this) closed := by
  induction h with
  | @ready world _ this _ closed _ _ hpoll =>
      have hmapped := houter (world, ⟨false, closed⟩) this
      rw [hpoll] at hmapped
      exact .ready hmapped
  | @again world _ this _ closed _ hpoll hwoken _ ih =>
      have hmapped := houter (world, ⟨false, closed⟩) this
      rw [hpoll] at hmapped
      exact .again hmapped hwoken ih

end Progress

namespace Sink

/-- The outer sink hands every call on to the inner one. -/
structure Delegates {V : Type v} (inner : Sink W T P E) (outer : Sink W V P E)
    (wrap : T → V) : Prop where
  pollReady : ∀ world this, outer.pollReady world (wrap this) =
    (inner.pollReady world this).map fun (world, next, answer) =>
      (world, wrap next, answer)
  startSend : ∀ world this item, outer.startSend world (wrap this) item =
    (inner.startSend world this item).map fun (world, next, answer) =>
      (world, wrap next, answer)
  pollFlush : ∀ world this, outer.pollFlush world (wrap this) =
    (inner.pollFlush world this).map fun (world, next, answer) =>
      (world, wrap next, answer)
  pollClose : ∀ world this, outer.pollClose world (wrap this) =
    (inner.pollClose world this).map fun (world, next, answer) =>
      (world, wrap next, answer)

theorem InUse.map {V : Type v} {inner : Sink W T P E} {outer : Sink W V P E}
    {wrap : T → V} (hwrap : inner.Delegates outer wrap) {env : Environment W}
    {start world : W} {initial this : T} {ready : Bool}
    (h : inner.InUse env start initial world this ready) :
    outer.InUse env start (wrap initial) world (wrap this) ready := by
  induction h with
  | start => exact .start
  | change _ hchanges ih => exact ih.change hchanges
  | pollReady _ hpoll ih =>
      exact ih.pollReady (by rw [hwrap.pollReady, hpoll]; rfl)
  | waitReady _ hpoll ih =>
      exact ih.waitReady (by rw [hwrap.pollReady, hpoll]; rfl)
  | startSend _ hsend ih =>
      exact ih.startSend (by rw [hwrap.startSend, hsend]; rfl)
  | pollFlush _ hpoll hok ih =>
      exact ih.pollFlush (by rw [hwrap.pollFlush, hpoll]; rfl) hok
  | pollClose _ hpoll ih =>
      exact ih.pollClose (by rw [hwrap.pollClose, hpoll]; rfl)

theorem Delegates.closes {V : Type v} {inner : Sink (W × Seen) T P E}
    {outer : Sink (W × Seen) V P E} {wrap : T → V}
    (hwrap : inner.Delegates outer wrap) {env : Environment W} {world : W}
    {this : T} {closed : Bool}
    (h : Closes env inner.pollClose world this closed) :
    Closes env outer.pollClose world (wrap this) closed := by
  refine Closes.map wrap id (fun world this => ?_) h
  rw [hwrap.pollClose]
  cases inner.pollClose world this with
  | none => rfl
  | some polled =>
      obtain ⟨world, next, answer⟩ := polled
      cases answer <;> rfl

end Sink

end PolledSink
