/-
Transports made of user functions.  The reader asks a function for the next
payload and keeps its future until it has answered; the writer does the same
with every payload it is given, and with the close.  Both remember no more
than whether they hold a state, a future, or nothing.
-/
import Epoxy.AsyncFn

namespace Epoxy

open PollChannel (Poll)

universe u v w x y z t

inductive IteratorState (S : Type u) (Fut : Type v) where
  | value (state : S)
  | future (fut : Fut)
  | empty
deriving Repr, DecidableEq

namespace IteratorState

variable {S : Type u} {Fut : Type v}

def takeState : IteratorState S Fut → IteratorState S Fut × Option S
  | .value state => (.empty, some state)
  | state => (state, none)

def getFuture : IteratorState S Fut → Option Fut
  | .future fut => some fut
  | _ => none

end IteratorState

structure AsyncIteratorTransportRead (S : Type u) (Fut : Type v) where
  state : IteratorState S Fut
deriving Repr, DecidableEq

def asyncIteratorTransportRead {S : Type u} {Fut : Type v} (init : S) :
    AsyncIteratorTransportRead S Fut :=
  { state := .value init }

namespace AsyncIteratorTransportRead

variable {W : Type u} {S : Type v} {Fut : Type w} {P : Type x} {E : Type y}

/-- `none` is the panic on a reader that has nothing to poll. -/
def pollNext (func : AsyncFn W S Fut (Except E (Option (P × S)))) (world : W)
    (this : AsyncIteratorTransportRead S Fut) :
    Option (W × AsyncIteratorTransportRead S Fut ×
      Poll (Option (Except E P))) :=
  let (world, state) : W × IteratorState S Fut :=
    match this.state.takeState with
    | (_, some state) =>
        let (world, fut) := func.call world state
        (world, .future fut)
    | (state, none) => (world, state)
  match state.getFuture with
  | none => none
  | some fut =>
      match func.poll world fut with
      | (world, fut, .pending) => some (world, ⟨.future fut⟩, .pending)
      | (world, _, .ready (.ok (some (ret, state)))) =>
          some (world, ⟨.value state⟩, .ready (some (.ok ret)))
      -- the completed future stays where it is
      | (world, fut, .ready (.ok none)) =>
          some (world, ⟨.future fut⟩, .ready none)
      | (world, fut, .ready (.error err)) =>
          some (world, ⟨.future fut⟩, .ready (some (.error err)))

theorem pollNext_value {func : AsyncFn W S Fut (Except E (Option (P × S)))}
    {world : W} {state : S} :
    (mk (.value state)).pollNext func world =
      (mk (.future (func.call world state).2)).pollNext func
        (func.call world state).1 := rfl

theorem pollNext_future {func : AsyncFn W S Fut (Except E (Option (P × S)))}
    {world : W} {fut : Fut} :
    (mk (.future fut)).pollNext func world =
      match func.poll world fut with
      | (world, fut, .pending) => some (world, ⟨.future fut⟩, .pending)
      | (world, _, .ready (.ok (some (ret, state)))) =>
          some (world, ⟨.value state⟩, .ready (some (.ok ret)))
      | (world, fut, .ready (.ok none)) =>
          some (world, ⟨.future fut⟩, .ready none)
      | (world, fut, .ready (.error err)) =>
          some (world, ⟨.future fut⟩, .ready (some (.error err))) := rfl

end AsyncIteratorTransportRead

structure AsyncIteratorTransportWrite (S : Type u) (Fut : Type v)
    (C : Type w) (CloseFut : Type x) where
  state : IteratorState S Fut
  closeState : IteratorState C CloseFut
deriving Repr, DecidableEq

def asyncIteratorTransportWrite {S : Type u} {Fut : Type v} {C : Type w}
    {CloseFut : Type x} (init : S) (closeInit : C) :
    AsyncIteratorTransportWrite S Fut C CloseFut :=
  { state := .value init, closeState := .value closeInit }

namespace AsyncIteratorTransportWrite

variable {W : Type u} {S : Type v} {Fut : Type w} {C : Type x}
  {CloseFut : Type y} {P : Type z} {E : Type t}

def pollFlush (func : AsyncFn W (S × P) Fut (Except E S)) (world : W)
    (this : AsyncIteratorTransportWrite S Fut C CloseFut) :
    W × AsyncIteratorTransportWrite S Fut C CloseFut × Poll (Except E Unit) :=
  match this.state.getFuture with
  | some fut =>
      match func.poll world fut with
      | (world, fut, .pending) =>
          (world, { this with state := .future fut }, .pending)
      | (world, _, .ready (.ok state)) =>
          (world, { this with state := .value state }, .ready (.ok ()))
      | (world, _, .ready (.error err)) =>
          (world, { this with state := .empty }, .ready (.error err))
  | none => (world, this, .ready (.ok ()))

def pollReady (func : AsyncFn W (S × P) Fut (Except E S)) (world : W)
    (this : AsyncIteratorTransportWrite S Fut C CloseFut) :
    W × AsyncIteratorTransportWrite S Fut C CloseFut × Poll (Except E Unit) :=
  this.pollFlush func world

/-- `none` is the panic on a writer that was not asked to be ready first. -/
def startSend (func : AsyncFn W (S × P) Fut (Except E S)) (world : W)
    (this : AsyncIteratorTransportWrite S Fut C CloseFut) (item : P) :
    Option (W × AsyncIteratorTransportWrite S Fut C CloseFut) :=
  match this.state.takeState with
  | (_, some state) =>
      let (world, fut) := func.call world (state, item)
      some (world, { this with state := .future fut })
  | (_, none) => none

/-- `none` is the panic on a writer whose close has finished. -/
def pollClose (func : AsyncFn W (S × P) Fut (Except E S))
    (close : AsyncFn W C CloseFut (Except E Unit)) (world : W)
    (this : AsyncIteratorTransportWrite S Fut C CloseFut) :
    Option (W × AsyncIteratorTransportWrite S Fut C CloseFut ×
      Poll (Except E Unit)) :=
  match this.pollFlush func world with
  | (world, this, .pending) => some (world, this, .pending)
  | (world, this, .ready (.error err)) =>
      some (world, this, .ready (.error err))
  | (world, this, .ready (.ok ())) =>
      match this.closeState.getFuture with
      | some fut =>
          match close.poll world fut with
          | (world, fut, .pending) =>
              some (world, { this with closeState := .future fut }, .pending)
          | (world, _, .ready ret) =>
              some (world, { this with closeState := .empty }, .ready ret)
      | none =>
          match this.closeState.takeState with
          | (_, some value) =>
              -- the future is made here but not polled
              let (world, fut) := close.call world value
              some (world, { this with closeState := .future fut }, .pending)
          | (_, none) => none

end AsyncIteratorTransportWrite

end Epoxy
