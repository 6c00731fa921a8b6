/-
Wakeups of the shared write lock.  While no waiting handle is dropped, the
slab entries and the waiting handles name each other, and a free lock with
waiters has one that was woken.  A handle dropped while it waits leaves an
entry that can swallow the wakeup of a live one.
-/
import Epoxy.LockedSink

namespace Epoxy

open ActionMachine PollChannel SlabStore

namespace LockWorld

/-- The live sink `index` waits for the lock under the slab key `pos`. -/
def Waiting (world : LockWorld) (index pos : Nat) : Prop :=
  ∃ sink, world.sinks index = some sink ∧ sink.pos = some pos

/-- Some live waiting sink will retry whenever the lock is free. -/
def NoLostWakeup (world : LockWorld) : Prop :=
  world.shared.locked = false → (∃ index pos, world.Waiting index pos) →
    ∃ index pos, world.Waiting index pos ∧
      world.shared.waiters.get? pos = some .woken

/-- The action drops no sink that is still waiting. -/
def KeepsWaiters (world : LockWorld) : LockAction → Prop
  | .drop index => ∀ sink, world.sinks index = some sink → sink.pos = none
  | _ => True

/-- Slab entries and waiting sinks name each other one to one, and a free
lock has a woken entry unless nobody waits. -/
structure WakeInv (world : LockWorld) : Prop where
  registered : ∀ index pos, world.Waiting index pos →
    (world.shared.waiters.get? pos).isSome
  owned : ∀ pos, (world.shared.waiters.get? pos).isSome →
    ∃ index, world.Waiting index pos
  unique : ∀ left right pos, world.Waiting left pos →
    world.Waiting right pos → left = right
  woken : world.shared.locked = false →
    ∀ pos, (world.shared.waiters.get? pos).isSome →
      ∃ next : Nat, world.shared.waiters.get? next = some .woken

theorem waiting_set {world : LockWorld} {index : Nat}
    {sink : Option LockedSink} {other pos : Nat} :
    (world.set index sink).Waiting other pos ↔
      if other = index then ∃ left, sink = some left ∧ left.pos = some pos
      else world.Waiting other pos := by
  unfold Waiting set
  by_cases heq : other = index
  · simp [heq]
  · simp [heq]

/-- A sink replaced by one with the same entry leaves the waiters alone. -/
theorem waiting_set_of_pos_eq (world : LockWorld) {index : Nat}
    {sink : LockedSink} (left : LockedSink)
    (hsink : world.sinks index = some sink)
    (hpos : left.pos = sink.pos) {other pos : Nat} :
    (world.set index (some left)).Waiting other pos ↔
      world.Waiting other pos := by
  rw [waiting_set]
  by_cases heq : other = index
  · subst heq
    simp [Waiting, hsink, hpos]
  · simp [heq]

namespace WakeInv

theorem noLostWakeup {world : LockWorld} (hinv : world.WakeInv) :
    world.NoLostWakeup := by
  rintro hfree ⟨index, pos, hwaiting⟩
  obtain ⟨next, hnext⟩ :=
    hinv.woken hfree pos (hinv.registered index pos hwaiting)
  obtain ⟨owner, howner⟩ := hinv.owned next (by simp [hnext])
  exact ⟨owner, next, howner, hnext⟩

theorem init : LockWorld.init.WakeInv where
  registered := by
    rintro index pos ⟨sink, hsink, hpos⟩
    by_cases heq : index = 0
    · subst heq
      simp only [LockWorld.init, Function.update_self,
        Option.some.injEq] at hsink
      rw [← hsink] at hpos
      cases hpos
    · simp [LockWorld.init, heq] at hsink
  owned := by simp [LockWorld.init, SinkState.new, WakerList.new]
  unique := by
    rintro left right pos ⟨sink, hsink, hpos⟩
    by_cases heq : left = 0
    · subst heq
      simp only [LockWorld.init, Function.update_self,
        Option.some.injEq] at hsink
      rw [← hsink] at hpos
      cases hpos
    · simp [LockWorld.init, heq] at hsink
  woken := by simp [LockWorld.init, SinkState.new, WakerList.new]

/-- Steps that keep the waiting sinks and the occupied entries only have to
account for the wakeup. -/
theorem of_same_waiters {world next : LockWorld} (hinv : world.WakeInv)
    (hwaiting : ∀ index pos,
      next.Waiting index pos ↔ world.Waiting index pos)
    (hoccupied : ∀ pos, (next.shared.waiters.get? pos).isSome =
      (world.shared.waiters.get? pos).isSome)
    (hwoken : next.shared.locked = false →
      ∀ pos, (next.shared.waiters.get? pos).isSome →
        ∃ other : Nat, next.shared.waiters.get? other = some .woken) :
    next.WakeInv where
  registered index pos h := by
    rw [hoccupied]
    exact hinv.registered index pos ((hwaiting index pos).mp h)
  owned pos h := by
    rw [hoccupied] at h
    obtain ⟨index, hindex⟩ := hinv.owned pos h
    exact ⟨index, (hwaiting index pos).mpr hindex⟩
  unique left right pos hleft hright :=
    hinv.unique left right pos ((hwaiting left pos).mp hleft)
      ((hwaiting right pos).mp hright)
  woken := hwoken

/-- An unlock wakes somebody whenever somebody is registered. -/
theorem of_unlock {world next : LockWorld} (hinv : world.WakeInv)
    (hshared : next.shared = world.shared.unlock.1)
    (hwaiting : ∀ index pos,
      next.Waiting index pos ↔ world.Waiting index pos) :
    next.WakeInv := by
  have hlist : next.shared.waiters = world.shared.waiters.getNext.1 := by
    rw [hshared]
    rfl
  apply hinv.of_same_waiters hwaiting
  · intro pos
    rw [hlist]
    exact world.shared.waiters.getNext_isSome pos
  · intro _ pos hpos
    rw [hlist] at hpos ⊢
    rw [WakerList.getNext_isSome] at hpos
    exact WakerList.exists_woken_getNext hpos

/-- The sink `index` leaves the list and owns the lock. -/
theorem of_acquire {world : LockWorld} (hinv : world.WakeInv)
    {index : Nat} {sink : LockedSink} {shared : SinkState}
    (hsink : world.sinks index = some sink) (hlocked : shared.locked = true)
    (hleaves : (sink.pos = none ∧ shared.waiters = world.shared.waiters) ∨
      ∃ pos, sink.pos = some pos ∧
        world.shared.waiters.remove pos = some shared.waiters) :
    ({ world with shared }.set index (some ⟨none, true⟩)).WakeInv := by
  rcases hleaves with ⟨hpos, hsame⟩ | ⟨pos, hpos, hremove⟩
  · apply hinv.of_same_waiters
    · intro other key
      rw [waiting_set_of_pos_eq { world with shared } _ hsink
        (by simp [hpos])]
      rfl
    · intro key
      rw [← hsame]
      rfl
    · intro hfree
      exact absurd hfree (by simp [set, hlocked])
  · obtain ⟨_, hgone, hothers⟩ := Slab.remove?_eq_some hremove
    have hmine : world.Waiting index pos := ⟨sink, hsink, hpos⟩
    have hwaiting : ∀ other key,
        ({ world with shared }.set index (some ⟨none, true⟩)).Waiting
          other key ↔ other ≠ index ∧ world.Waiting other key := by
      intro other key
      rw [waiting_set]
      by_cases heq : other = index
      · simp [heq]
      · simp [heq, Waiting]
    constructor
    · intro other key hother
      obtain ⟨hne, hkey⟩ := (hwaiting other key).mp hother
      have hkeys : key ≠ pos := by
        rintro rfl
        exact hne (hinv.unique other index key hkey hmine)
      change (shared.waiters.get? key).isSome
      rw [hothers key hkeys]
      exact hinv.registered other key hkey
    · intro key hkey
      change (shared.waiters.get? key).isSome at hkey
      have hkeys : key ≠ pos := by
        rintro rfl
        simp [hgone] at hkey
      rw [hothers key hkeys] at hkey
      obtain ⟨other, hother⟩ := hinv.owned key hkey
      refine ⟨other, (hwaiting other key).mpr ⟨?_, hother⟩⟩
      rintro rfl
      obtain ⟨same, hsame, hsamePos⟩ := hother
      rw [hsink] at hsame
      cases hsame
      rw [hpos] at hsamePos
      cases hsamePos
      exact hkeys rfl
    · intro left right key hleft hright
      exact hinv.unique left right key ((hwaiting left key).mp hleft).2
        ((hwaiting right key).mp hright).2
    · intro hfree
      exact absurd hfree (by simp [set, hlocked])

/-- The sink `index` sleeps under `pos`, which was its own key or vacant. -/
theorem of_sleep {world : LockWorld} (hinv : world.WakeInv)
    {index pos : Nat} {sink left : LockedSink} {shared : SinkState}
    (hsink : world.sinks index = some sink) (hlocked : shared.locked = true)
    (hpos : left.pos = some pos)
    (hself : (shared.waiters.get? pos).isSome)
    (hothers : ∀ other, other ≠ pos →
      shared.waiters.get? other = world.shared.waiters.get? other)
    (hkey : (sink.pos = some pos ∧
        (world.shared.waiters.get? pos).isSome) ∨
      (sink.pos = none ∧ world.shared.waiters.get? pos = none)) :
    ({ world with shared }.set index (some left)).WakeInv := by
  rcases hkey with ⟨hold, hsome⟩ | ⟨hold, hvacant⟩
  · apply hinv.of_same_waiters
    · intro other key
      rw [waiting_set_of_pos_eq { world with shared } _ hsink
        (by rw [hpos, hold])]
      rfl
    · intro key
      change (shared.waiters.get? key).isSome = _
      by_cases heq : key = pos
      · rw [heq, hself, hsome]
      · rw [hothers key heq]
    · intro hfree
      exact absurd hfree (by simp [set, hlocked])
  · have hwaiting : ∀ other key,
        ({ world with shared }.set index (some left)).Waiting other key ↔
          (other = index ∧ key = pos) ∨ world.Waiting other key := by
      intro other key
      rw [waiting_set]
      by_cases heq : other = index
      · subst heq
        simp [Waiting, hsink, hpos, hold, eq_comm]
      · simp [heq, Waiting]
    have hfresh : ∀ other, ¬ world.Waiting other pos := by
      intro other hother
      have := hinv.registered other pos hother
      simp [hvacant] at this
    constructor
    · intro other key hother
      change (shared.waiters.get? key).isSome
      rcases (hwaiting other key).mp hother with ⟨_, rfl⟩ | hold
      · exact hself
      · have hne : key ≠ pos := by
          rintro rfl
          exact hfresh other hold
        rw [hothers key hne]
        exact hinv.registered other key hold
    · intro key hkey
      change (shared.waiters.get? key).isSome at hkey
      by_cases heq : key = pos
      · exact ⟨index, (hwaiting index key).mpr (.inl ⟨rfl, heq⟩)⟩
      · rw [hothers key heq] at hkey
        obtain ⟨other, hother⟩ := hinv.owned key hkey
        exact ⟨other, (hwaiting other key).mpr (.inr hother)⟩
    · intro first second key hfirst hsecond
      rcases (hwaiting first key).mp hfirst with ⟨rfl, rfl⟩ | hold
      · rcases (hwaiting second key).mp hsecond with ⟨rfl, _⟩ | hold
        · rfl
        · exact absurd hold (hfresh second)
      · rcases (hwaiting second key).mp hsecond with ⟨rfl, rfl⟩ | hnew
        · exact absurd hold (hfresh first)
        · exact hinv.unique first second key hold hnew
    · intro hfree
      exact absurd hfree (by simp [set, hlocked])

theorem pollLock {world : LockWorld} (hinv : world.WakeInv)
    {index : Nat} {sink left : LockedSink} {cx : Waker}
    {shared : SinkState} {answer : Poll Unit}
    (hsink : world.sinks index = some sink)
    (hpoll : sink.pollLock world.shared cx = some (shared, left, answer)) :
    ({ world with shared }.set index (some left)).WakeInv := by
  rcases LockedSink.pollLock_cases hpoll with
    ⟨_, rfl, rfl⟩ | ⟨_, hlocked, rfl, hleaves⟩ |
      ⟨hlocked, _, pos, hpos, hself, hothers, hkey⟩
  · apply hinv.of_same_waiters
    · intro other pos
      exact waiting_set_of_pos_eq _ _ hsink rfl
    · exact fun pos => rfl
    · exact hinv.woken
  · exact hinv.of_acquire hsink hlocked hleaves
  · exact hinv.of_sleep hsink hlocked hpos (by simp [hself]) hothers hkey

theorem unlock {world : LockWorld} (hinv : world.WakeInv)
    {index : Nat} {sink : LockedSink} (left : Option LockedSink)
    (hwaiting : ∀ other pos,
      ({ world with shared := (sink.unlock world.shared).1 }.set
        index left).Waiting other pos ↔ world.Waiting other pos) :
    ({ world with shared := (sink.unlock world.shared).1 }.set
      index left).WakeInv := by
  cases hlocked : sink.locked with
  | true =>
      refine hinv.of_unlock ?_ hwaiting
      simp [set, hlocked]
  | false =>
      refine hinv.of_same_waiters hwaiting ?_ ?_
      · simp [set, hlocked]
      · simpa [set, hlocked] using hinv.woken

theorem step {world next : LockWorld} {action : LockAction}
    (hinv : world.WakeInv) (hkeeps : world.KeepsWaiters action)
    (hstep : machine.step world action = some next) : next.WakeInv := by
  cases action with
  | clone source copy =>
      simp only [machine, LockWorld.step] at hstep
      split at hstep
      · next hsource hcopy =>
          cases hstep
          refine hinv.of_same_waiters (fun other pos => ?_)
            (fun pos => rfl) hinv.woken
          rw [waiting_set]
          by_cases heq : other = copy
          · subst heq
            simp [Waiting, hcopy, LockedSink.new]
          · simp [heq]
      · cases hstep
  | pollLock index cx =>
      simp only [machine, LockWorld.step, Option.bind_eq_some_iff,
        Option.map_eq_some_iff] at hstep
      obtain ⟨sink, hsink, ⟨shared, left, answer⟩, hpoll, rfl⟩ := hstep
      exact hinv.pollLock hsink hpoll
  | unlock index =>
      simp only [machine, LockWorld.step, Option.map_eq_some_iff] at hstep
      obtain ⟨sink, hsink, rfl⟩ := hstep
      refine hinv.unlock _ fun other pos => ?_
      refine waiting_set_of_pos_eq { world with
        shared := (sink.unlock world.shared).1 } _ hsink ?_
      cases hlocked : sink.locked <;> simp [hlocked]
  | getHandle index =>
      simp only [machine, LockWorld.step, Option.map_eq_some_iff] at hstep
      obtain ⟨sink, hsink, rfl⟩ := hstep
      refine hinv.of_same_waiters (fun other pos => ?_)
        (fun pos => rfl) hinv.woken
      exact waiting_set_of_pos_eq { world with
        handles := world.handles + 1 } { sink with locked := false } hsink rfl
  | getGuard index =>
      simp only [machine, LockWorld.step, Option.map_eq_some_iff] at hstep
      obtain ⟨sink, hsink, rfl⟩ := hstep
      refine hinv.of_same_waiters (fun other pos => ?_)
        (fun pos => rfl) hinv.woken
      exact waiting_set_of_pos_eq { world with
        guards := world.guards + 1 } { sink with locked := false } hsink rfl
  | dropHandle =>
      simp only [machine, LockWorld.step] at hstep
      split at hstep
      · cases hstep
      · cases hstep
        exact hinv.of_unlock rfl fun _ _ => Iff.rfl
  | dropGuard =>
      simp only [machine, LockWorld.step] at hstep
      split at hstep
      · cases hstep
      · cases hstep
        exact hinv.of_unlock rfl fun _ _ => Iff.rfl
  | drop index =>
      simp only [machine, LockWorld.step, Option.map_eq_some_iff] at hstep
      obtain ⟨sink, hsink, rfl⟩ := hstep
      have hnone := hkeeps sink hsink
      refine hinv.unlock _ fun other pos => ?_
      rw [waiting_set]
      by_cases heq : other = index
      · subst heq
        simp [Waiting, hsink, hnone]
      · simp [heq, Waiting]

end WakeInv

/-- While no waiting sink is dropped, no run of any number of handles loses
a wakeup: a free lock with live waiters has a woken one. -/
theorem noLostWakeup_of_keepsWaiters {world : LockWorld}
    (actions : List LockAction)
    (hkeeps : machine.Meets KeepsWaiters init actions)
    (hrun : machine.run init actions = some world) :
    world.NoLostWakeup := by
  have hinv : world.WakeInv :=
    machine.run_invariant_of_meets
      (fun _ _ _ hinv hkeep hstep => hinv.step hkeep hstep)
      WakeInv.init hkeeps hrun
  exact hinv.noLostWakeup

/-- Sink 0 holds the lock, 1 and 2 wait for it, 3 never asked. -/
def contended : List LockAction :=
  [.clone 0 1, .clone 0 2, .clone 0 3, .pollLock 0 10, .pollLock 1 11,
    .pollLock 2 12]

/-- Dropping a sink that never asked costs nobody the wakeup. -/
theorem noLostWakeup_of_drop_idle :
    ∃ world, machine.run init (contended ++ [.drop 3, .unlock 0]) =
        some world ∧
      world.shared.locked = false ∧ world.Waiting 1 0 ∧
      world.Waiting 2 1 ∧ world.NoLostWakeup := by
  refine ⟨_, rfl, rfl, ⟨_, rfl, rfl⟩, ⟨_, rfl, rfl⟩, ?_⟩
  refine noLostWakeup_of_keepsWaiters (contended ++ [.drop 3, .unlock 0])
    ?_ rfl
  refine .cons trivial rfl <| .cons trivial rfl <| .cons trivial rfl <|
    .cons trivial rfl <| .cons trivial rfl <| .cons trivial rfl <|
    .cons ?_ rfl <| .cons trivial rfl trivial
  intro sink hsink
  cases Option.some.inj (show some LockedSink.new = some sink from hsink)
  rfl

/-- Dropping the first waiter leaves its sleeping entry behind; the unlock
wakes that entry, and the live waiter sleeps on under a free lock. -/
theorem lost_wakeup_of_drop_waiting :
    ∃ world, machine.run init (contended ++ [.drop 1, .unlock 0]) =
        some world ∧
      world.shared.locked = false ∧ world.Waiting 2 1 ∧
      ¬ world.NoLostWakeup := by
  refine ⟨_, rfl, rfl, ⟨_, rfl, rfl⟩, fun hwakeup => ?_⟩
  obtain ⟨index, pos, ⟨sink, hsink, hpos⟩, hwoken⟩ :=
    hwakeup rfl ⟨2, 1, _, rfl, rfl⟩
  match index with
  | 0 =>
      cases Option.some.inj (show some LockedSink.new = some sink from hsink)
      cases hpos
  | 1 => exact nomatch (show (none : Option LockedSink) = some sink from hsink)
  | 2 =>
      cases Option.some.inj
        (show some (⟨some 1, false⟩ : LockedSink) = some sink from hsink)
      cases hpos
      exact nomatch
        (show some (Waiter.sleeping 12) = some Waiter.woken from hwoken)
  | 3 =>
      cases Option.some.inj (show some LockedSink.new = some sink from hsink)
      cases hpos
  | index + 4 =>
      exact nomatch (show (none : Option LockedSink) = some sink from hsink)

end LockWorld

end Epoxy
