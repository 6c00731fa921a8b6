/-
The unfair asynchronous lock around the shared transport sink.  Handles that
find it taken leave a waker in a slab; an unlock wakes the first sleeping
entry.  Any number of handles act on one shared state, each call being one
atomic step.
-/
import Epoxy.ActionMachine
import Epoxy.PollChannel
import Epoxy.SlabStore
import Mathlib.Logic.Function.Basic

namespace Epoxy

open ActionMachine PollChannel SlabStore

/-- A task, named by the waker that its polls carry. -/
abbrev Waker := Nat

inductive Waiter where
  | sleeping (waker : Waker)
  | woken
deriving Repr, DecidableEq

namespace Waiter

def new (cx : Waker) : Waiter := .sleeping cx

def register (cx : Waker) : Waiter → Waiter
  | .sleeping _ => .sleeping cx
  | .woken => .sleeping cx

def wake : Waiter → Waiter × Option Waker
  | .sleeping waker => (.woken, some waker)
  | .woken => (.woken, none)

@[simp] theorem register_eq (cx : Waker) (waiter : Waiter) :
    waiter.register cx = .sleeping cx := by
  cases waiter <;> rfl

@[simp] theorem wake_fst (waiter : Waiter) : waiter.wake.1 = .woken := by
  cases waiter <;> rfl

end Waiter

abbrev WakerList := Slab Waiter

namespace WakerList

def new : WakerList := Slab.empty

def add (list : WakerList) (cx : Waker) : WakerList × Nat :=
  (list.insert (Waiter.new cx), list.nextKey)

/-- A missing key is the panic of `expect`. -/
def update (list : WakerList) (key : Nat) (cx : Waker) : Option WakerList :=
  list.modify? key (Waiter.register cx)

def remove (list : WakerList) (key : Nat) : Option WakerList :=
  list.remove? key

def getNext (list : WakerList) : WakerList × Option Waker :=
  list.visit Waiter.wake

private theorem exists_woken_visitEntries (entries : List (Option Waiter))
    {key : Nat} {waiter : Waiter} (hentry : entries[key]? = some (some waiter)) :
    ∃ next : Nat, (Slab.visitEntries Waiter.wake entries).1[next]? =
      some (some .woken) := by
  induction entries generalizing key with
  | nil => simp at hentry
  | cons head tail ih =>
      cases head with
      | none =>
          cases key with
          | zero => simp at hentry
          | succ key =>
              obtain ⟨next, hnext⟩ := ih (by simpa using hentry)
              exact ⟨next + 1, by simpa [Slab.visitEntries] using hnext⟩
      | some first =>
          refine ⟨0, ?_⟩
          cases first <;> simp [Slab.visitEntries, Waiter.wake]

/-- After a wakeup somebody is awake, unless the list is empty. -/
theorem exists_woken_getNext {list : WakerList} {key : Nat}
    (hkey : (list.get? key).isSome) :
    ∃ next : Nat, list.getNext.1.get? next = some Waiter.woken := by
  have hentry : ∃ waiter, list.entries[key]? = some (some waiter) := by
    rw [Slab.get?] at hkey
    cases hslot : list.entries[key]? with
    | none => simp [hslot] at hkey
    | some slot =>
        cases slot with
        | none => simp [hslot] at hkey
        | some waiter => exact ⟨waiter, rfl⟩
  obtain ⟨waiter, hwaiter⟩ := hentry
  obtain ⟨next, hnext⟩ := exists_woken_visitEntries list.entries hwaiter
  exact ⟨next, by simp [getNext, Slab.visit, Slab.get?, hnext]⟩

theorem getNext_isSome (list : WakerList) (key : Nat) :
    (list.getNext.1.get? key).isSome = (list.get? key).isSome :=
  list.visit_isSome Waiter.wake key

end WakerList

inductive LockStatus where
  | joined (pos : Nat)
  | waiting
  | unlocked
deriving Repr, DecidableEq

structure SinkState where
  locked : Bool
  waiters : WakerList

namespace SinkState

def new : SinkState := ⟨false, WakerList.new⟩

/-- The swap on `locked` and the update of the waiter list that follows. -/
def lock (state : SinkState) (key : Option Nat) (cx : Waker) :
    Option (SinkState × LockStatus) :=
  let oldState := state.locked
  match key, oldState with
  | some key, true =>
      (state.waiters.update key cx).map fun waiters =>
        (⟨true, waiters⟩, .waiting)
  | none, true =>
      let (waiters, pos) := state.waiters.add cx
      some (⟨true, waiters⟩, .joined pos)
  | _, false => some (⟨true, state.waiters⟩, .unlocked)

def unlock (state : SinkState) : SinkState × Option Waker :=
  let (waiters, next) := state.waiters.getNext
  (⟨false, waiters⟩, next)

def remove (state : SinkState) (key : Nat) : Option SinkState :=
  (state.waiters.remove key).map fun waiters => ⟨state.locked, waiters⟩

end SinkState

structure LockedSink where
  pos : Option Nat
  locked : Bool
deriving Repr, DecidableEq

namespace LockedSink

def new : LockedSink := ⟨none, false⟩

/-- Leave the waiter list and own the lock. -/
def acquire (state : SinkState) (sink : LockedSink) :
    Option (SinkState × LockedSink × Poll Unit) :=
  match sink.pos with
  | some pos =>
      (state.remove pos).map fun state => (state, ⟨none, true⟩, .ready ())
  | none => some (state, ⟨none, true⟩, .ready ())

/-- Make sure the registration has not raced an unlock. -/
def recheck (state : SinkState) (sink : LockedSink) (cx : Waker) :
    Option (SinkState × LockedSink × Poll Unit) :=
  (state.lock sink.pos cx).bind fun (state, status) =>
    match status with
    | .unlocked => acquire state sink
    | _ => some (state, sink, .pending)

def pollLock (state : SinkState) (sink : LockedSink) (cx : Waker) :
    Option (SinkState × LockedSink × Poll Unit) :=
  if sink.locked then some (state, sink, .ready ())
  else
    (state.lock sink.pos cx).bind fun (state, status) =>
      match status with
      | .joined pos => recheck state { sink with pos := some pos } cx
      | .waiting => recheck state sink cx
      | .unlocked => acquire state sink

def unlock (state : SinkState) (sink : LockedSink) :
    SinkState × LockedSink :=
  if sink.locked then (state.unlock.1, { sink with locked := false })
  else (state, sink)

@[simp] theorem unlock_of_locked {state : SinkState} {sink : LockedSink}
    (hlocked : sink.locked = true) :
    sink.unlock state = (state.unlock.1, { sink with locked := false }) :=
  if_pos hlocked

@[simp] theorem unlock_of_not_locked {state : SinkState} {sink : LockedSink}
    (hlocked : sink.locked = false) : sink.unlock state = (state, sink) := by
  simp [unlock, hlocked]

theorem acquire_eq_some {state next : SinkState} {sink left : LockedSink}
    {answer : Poll Unit}
    (hacquire : sink.acquire state = some (next, left, answer)) :
    left = ⟨none, true⟩ ∧ next.locked = state.locked ∧
      ((sink.pos = none ∧ next.waiters = state.waiters) ∨
        ∃ pos, sink.pos = some pos ∧
          state.waiters.remove pos = some next.waiters) := by
  unfold acquire at hacquire
  split at hacquire
  · next pos hpos =>
      simp only [SinkState.remove, Option.map_map, Option.map_eq_some_iff,
        Function.comp_apply, Prod.mk.injEq] at hacquire
      obtain ⟨waiters, hwaiters, rfl, rfl, _⟩ := hacquire
      exact ⟨rfl, rfl, .inr ⟨pos, hpos, hwaiters⟩⟩
  · next hpos =>
      simp only [Option.some.injEq, Prod.mk.injEq] at hacquire
      obtain ⟨rfl, rfl, _⟩ := hacquire
      exact ⟨rfl, rfl, .inl ⟨hpos, rfl⟩⟩

/-- Everything one poll of the lock can do: it is held already, it was free
and is now held, or it is taken and the sink's entry sleeps. -/
theorem pollLock_cases {state next : SinkState} {sink left : LockedSink}
    {cx : Waker} {answer : Poll Unit}
    (hpoll : sink.pollLock state cx = some (next, left, answer)) :
    (sink.locked = true ∧ next = state ∧ left = sink) ∨
    (state.locked = false ∧ next.locked = true ∧ left = ⟨none, true⟩ ∧
      ((sink.pos = none ∧ next.waiters = state.waiters) ∨
        ∃ pos, sink.pos = some pos ∧
          state.waiters.remove pos = some next.waiters)) ∨
    (next.locked = true ∧ left.locked = false ∧ ∃ pos, left.pos = some pos ∧
      next.waiters.get? pos = some (.sleeping cx) ∧
      (∀ other, other ≠ pos →
        next.waiters.get? other = state.waiters.get? other) ∧
      ((sink.pos = some pos ∧ (state.waiters.get? pos).isSome) ∨
        (sink.pos = none ∧ state.waiters.get? pos = none))) := by
  unfold pollLock at hpoll
  split at hpoll
  · next hlocked =>
      simp only [Option.some.injEq, Prod.mk.injEq] at hpoll
      exact .inl ⟨hlocked, hpoll.1.symm, hpoll.2.1.symm⟩
  · next hlocked =>
      have hfree : sink.locked = false := by simpa using hlocked
      right
      cases htaken : state.locked with
      | false =>
          left
          simp only [SinkState.lock, htaken, Option.bind_some] at hpoll
          obtain ⟨hleft, hnext, hpos⟩ := acquire_eq_some hpoll
          exact ⟨rfl, hnext, hleft, hpos⟩
      | true =>
          right
          cases hpos : sink.pos with
          | none =>
              -- joined; the second attempt still finds the lock taken
              simp only [SinkState.lock, hpos, htaken, WakerList.add,
                Option.bind_some, recheck, WakerList.update,
                Option.bind_map, Option.bind_eq_some_iff, Option.some.injEq,
                Function.comp_apply, Prod.mk.injEq] at hpoll
              obtain ⟨waiters, hwaiters, rfl, rfl, _⟩ := hpoll
              obtain ⟨value, _, hself, hother⟩ :=
                Slab.modify?_eq_some hwaiters
              refine ⟨rfl, hfree, state.waiters.nextKey, rfl,
                by simpa using hself, ?_, .inr ⟨rfl, ?_⟩⟩
              · intro other hne
                rw [hother other hne, Slab.get?_insert_of_ne hne]
              · exact Slab.get?_nextKey state.waiters
          | some pos =>
              simp only [SinkState.lock, hpos, htaken, WakerList.update,
                Option.bind_map, Option.bind_eq_some_iff, recheck,
                Option.some.injEq, Function.comp_apply,
                Prod.mk.injEq] at hpoll
              obtain ⟨first, hfirst, second, hsecond, rfl, rfl, _⟩ := hpoll
              obtain ⟨_, hvalue, _, hothers⟩ := Slab.modify?_eq_some hfirst
              obtain ⟨_, _, hself, hother⟩ := Slab.modify?_eq_some hsecond
              refine ⟨rfl, hfree, pos, hpos, by simpa using hself, ?_,
                .inl ⟨rfl, by simp [hvalue]⟩⟩
              intro other hne
              rw [hother other hne, hothers other hne]

end LockedSink

/-- Every live object that shares one sink.  `handles` and `guards` count the
live `LockedSinkHandle`s and `LockedSinkGuard`s, which carry no data. -/
structure LockWorld where
  shared : SinkState
  sinks : Nat → Option LockedSink
  handles : Nat
  guards : Nat

inductive LockAction where
  | clone (source copy : Nat)
  | pollLock (sink : Nat) (cx : Waker)
  | unlock (sink : Nat)
  | getHandle (sink : Nat)
  | getGuard (sink : Nat)
  | dropHandle
  | dropGuard
  | drop (sink : Nat)
deriving Repr, DecidableEq

namespace LockWorld

/-- `LockedSink::new`. -/
def init : LockWorld :=
  ⟨SinkState.new, Function.update (fun _ => none) 0 (some LockedSink.new),
    0, 0⟩

def set (world : LockWorld) (index : Nat) (sink : Option LockedSink) :
    LockWorld :=
  { world with sinks := Function.update world.sinks index sink }

def step (world : LockWorld) : LockAction → Option LockWorld
  | .clone source copy =>
      match world.sinks source, world.sinks copy with
      | some _, none => some (world.set copy (some LockedSink.new))
      | _, _ => none
  | .pollLock index cx =>
      (world.sinks index).bind fun sink =>
        (sink.pollLock world.shared cx).map fun (shared, sink, _) =>
          { world with shared }.set index (some sink)
  | .unlock index =>
      (world.sinks index).map fun sink =>
        let (shared, sink) := sink.unlock world.shared
        { world with shared }.set index (some sink)
  | .getHandle index =>
      (world.sinks index).map fun sink =>
        { world with handles := world.handles + 1 }.set index
          (some { sink with locked := false })
  | .getGuard index =>
      (world.sinks index).map fun sink =>
        { world with guards := world.guards + 1 }.set index
          (some { sink with locked := false })
  | .dropHandle =>
      if world.handles = 0 then none
      else some { world with
        shared := world.shared.unlock.1, handles := world.handles - 1 }
  | .dropGuard =>
      if world.guards = 0 then none
      else some { world with
        shared := world.shared.unlock.1, guards := world.guards - 1 }
  | .drop index =>
      (world.sinks index).map fun sink =>
        { world with shared := (sink.unlock world.shared).1 }.set index none

/-- The lock as a machine; a step that would panic is refused. -/
def machine : Machine LockWorld LockAction := ⟨step⟩

end LockWorld

end Epoxy
