/-
The lock of the shared sink, one atomic step at a time.  A call of a handle is
a row of steps on the flag, on the mutex of the waiter list and on the list
itself; any number of objects are in the middle of their calls at once.  At
most one of them holds the lock, and the keys of the waiter list stay valid.
-/
import Epoxy.LockedSink

namespace Epoxy

open ActionMachine SlabStore

/-- How far an unlock has come: before the mutex is taken, with it taken, and
after the flag has been cleared under it. -/
inductive UnlockStage where
  | entering
  | storing
  | waking
deriving Repr, DecidableEq

/-- The objects that share a sink, and where they are in their calls.  `again`
marks the second attempt of `poll_lock`, after the waiter list was joined; an
unlock leaves a `LockedSink` with its key, or nothing if the object is
dropped. -/
inductive SharedObject where
  | sink (pos : Option Nat) (locked : Bool)
  | handle
  | guard
  | registering (pos : Option Nat) (cx : Waker) (again : Bool)
  | rechecking (pos : Option Nat) (cx : Waker)
  | acquired (pos : Option Nat)
  | unlocking (stage : UnlockStage) (left : Option (Option Nat))
deriving Repr, DecidableEq

namespace SharedObject

/-- The object owns the lock, as far as its callers are concerned. -/
def Owns : SharedObject → Prop
  | .sink _ locked => locked = true
  | .handle => True
  | .guard => True
  | _ => False

/-- The object has set the flag and not cleared it yet. -/
def Holds : SharedObject → Prop
  | .sink _ locked => locked = true
  | .handle => True
  | .guard => True
  | .acquired _ => True
  | .unlocking stage _ => stage ≠ .waking
  | _ => False

theorem Owns.holds {object : SharedObject} (h : object.Owns) :
    object.Holds := by
  cases object with
  | sink pos locked => exact h
  | handle => trivial
  | guard => trivial
  | registering | rechecking | acquired | unlocking => exact h.elim

/-- The key in the waiter list that the object goes by. -/
def pos : SharedObject → Option Nat
  | .sink pos _ => pos
  | .registering pos _ _ => pos
  | .rechecking pos _ => pos
  | .acquired pos => pos
  | .unlocking _ left => left.join
  | .handle => none
  | .guard => none

end SharedObject

/-- `mutex` says that somebody is in the critical section of the waiter list,
`panicked` that a key was not there. -/
structure SinkWorld where
  locked : Bool
  waiters : WakerList
  mutex : Bool
  objects : Nat → Option SharedObject
  panicked : Bool

/-- `proceed` takes the next atomic step of the call that the object is in;
the others begin a call. -/
inductive SinkStep where
  | clone (source copy : Nat)
  | pollLock (sink : Nat) (cx : Waker)
  | unlock (sink : Nat)
  | getHandle (sink handle : Nat)
  | getGuard (sink guard : Nat)
  | drop (object : Nat)
  | proceed (object : Nat)
deriving Repr, DecidableEq

namespace SinkWorld

/-- `LockedSink::new` -/
def init : SinkWorld :=
  ⟨false, WakerList.new, false,
    Function.update (fun _ => none) 0 (some (.sink none false)), false⟩

def set (world : SinkWorld) (index : Nat) (object : Option SharedObject) :
    SinkWorld :=
  { world with objects := Function.update world.objects index object }

def panic (world : SinkWorld) : SinkWorld := { world with panicked := true }

/-- The swap on the flag; the lock is acquired if it was clear. -/
def swap (world : SinkWorld) (index : Nat) (pos : Option Nat) (cx : Waker)
    (again : Bool) : SinkWorld :=
  if world.locked then world.set index (some (.registering pos cx again))
  else { world with locked := true }.set index (some (.acquired pos))

/-- The waiter list is brought up to date under its mutex.  What the second
attempt of `poll_lock` is told is not looked at unless it is the lock. -/
def register (world : SinkWorld) (index : Nat) (pos : Option Nat) (cx : Waker)
    (again : Bool) : SinkWorld :=
  match pos with
  | some key =>
      match world.waiters.update key cx with
      | none => world.panic
      | some waiters =>
          { world with waiters }.set index (some (
            if again then .sink (some key) false
            else .rechecking (some key) cx))
  | none =>
      let (waiters, key) := world.waiters.add cx
      { world with waiters }.set index (some (
        if again then .sink none false else .rechecking (some key) cx))

/-- The key is given up under the mutex, and the lock is owned. -/
def leave (world : SinkWorld) (index key : Nat) : SinkWorld :=
  match world.waiters.remove key with
  | none => world.panic
  | some waiters =>
      { world with waiters }.set index (some (.sink none true))

def proceed (world : SinkWorld) (index : Nat) :
    SharedObject → Option SinkWorld
  | .registering pos cx again =>
      if world.mutex then none else some (world.register index pos cx again)
  | .rechecking pos cx => some (world.swap index pos cx true)
  | .acquired none => some (world.set index (some (.sink none true)))
  | .acquired (some key) =>
      if world.mutex then none else some (world.leave index key)
  | .unlocking .entering left =>
      if world.mutex then none
      else some ({ world with mutex := true }.set index
        (some (.unlocking .storing left)))
  | .unlocking .storing left =>
      some ({ world with locked := false }.set index
        (some (.unlocking .waking left)))
  | .unlocking .waking left =>
      some ({ world with
        waiters := world.waiters.getNext.1, mutex := false }.set index
          (left.map fun pos => .sink pos false))
  | .sink _ _ | .handle | .guard => none

/-- Hand the lock over to a new object. -/
def handOver (world : SinkWorld) (index target : Nat)
    (object : SharedObject) : Option SinkWorld :=
  match world.objects index, world.objects target with
  | some (.sink pos true), none =>
      some ((world.set index (some (.sink pos false))).set target (some object))
  | _, _ => none

def step (world : SinkWorld) : SinkStep → Option SinkWorld
  | .clone source copy =>
      match world.objects source, world.objects copy with
      | some (.sink _ _), none =>
          some (world.set copy (some (.sink none false)))
      | _, _ => none
  | .pollLock index cx =>
      match world.objects index with
      | some (.sink _ true) => some world
      | some (.sink pos false) => some (world.swap index pos cx false)
      | _ => none
  | .unlock index =>
      match world.objects index with
      | some (.sink pos true) =>
          some (world.set index (some (.unlocking .entering (some pos))))
      | some (.sink _ false) => some world
      | _ => none
  | .getHandle index handle => world.handOver index handle .handle
  | .getGuard index guard => world.handOver index guard .guard
  | .drop index =>
      match world.objects index with
      | some (.sink _ false) => some (world.set index none)
      | some (.sink _ true) | some .handle | some .guard =>
          some (world.set index (some (.unlocking .entering none)))
      | _ => none
  | .proceed index => (world.objects index).bind (world.proceed index)

def machine : Machine SinkWorld SinkStep := ⟨step⟩

variable {world next : SinkWorld} {holder : Option Nat} {index : Nat}
  {new : Option SharedObject}

/-- An object replaces the one that was there without taking the lock or a
key that the other did not have. -/
def Succeeds (world : SinkWorld) (index : Nat) (object : SharedObject) :
    Prop :=
  (object.Holds → ∃ old, world.objects index = some old ∧ old.Holds) ∧
    ∀ key, object.pos = some key →
      ∃ old, world.objects index = some old ∧ old.pos = some key

/-- What one step does: nothing, an object goes on with what it has, or one
of the five steps that change who has the lock or a key. -/
inductive Moved (world : SinkWorld) : SinkWorld → Prop where
  | still : Moved world world
  | changed {next : SinkWorld} (index : Nat) (new : Option SharedObject)
      (hobjects : next.objects = Function.update world.objects index new)
      (hlocked : next.locked = world.locked)
      (hwaiters : ∀ key, (next.waiters.get? key).isSome =
        (world.waiters.get? key).isSome)
      (hpanicked : next.panicked = world.panicked)
      (hnew : ∀ object, new = some object → world.Succeeds index object) :
      Moved world next
  | acquired (index : Nat) (object : SharedObject)
      (hobject : world.objects index = some object)
      (hlocked : world.locked = false) :
      Moved world ({ world with locked := true }.set index
        (some (.acquired object.pos)))
  | registered (index : Nat) (pos : Option Nat) (cx : Waker) (again : Bool)
      (hobject : world.objects index = some (.registering pos cx again)) :
      Moved world (world.register index pos cx again)
  | left (index key : Nat)
      (hobject : world.objects index = some (.acquired (some key))) :
      Moved world (world.leave index key)
  | released (index : Nat) (left : Option (Option Nat))
      (hobject : world.objects index = some (.unlocking .storing left)) :
      Moved world ({ world with locked := false }.set index
        (some (.unlocking .waking left)))
  | handed (index target : Nat) (pos : Option Nat) (object : SharedObject)
      (hobject : world.objects index = some (.sink pos true))
      (htarget : world.objects target = none) (hne : target ≠ index)
      (hpos : object.pos = none) :
      Moved world ((world.set index (some (.sink pos false))).set target
        (some object))

/-- An object goes on, and the lists are as they were. -/
theorem Moved.set (world : SinkWorld) (mutex : Bool) (index : Nat)
    (new : Option SharedObject)
    (hnew : ∀ object, new = some object → world.Succeeds index object) :
    Moved world ({ world with mutex }.set index new) :=
  .changed index new rfl rfl (fun _ => rfl) rfl hnew

theorem succeeds_of_idle (object : SharedObject) (hholds : ¬ object.Holds)
    (hpos : object.pos = none) : world.Succeeds index object := by
  refine ⟨fun h => absurd h hholds, fun key hkey => ?_⟩
  rw [hpos] at hkey
  cases hkey

theorem succeeds_of_same {old object : SharedObject}
    (hobject : world.objects index = some old)
    (hholds : object.Holds → old.Holds)
    (hpos : object.pos = none ∨ object.pos = old.pos) :
    world.Succeeds index object := by
  refine ⟨fun h => ⟨old, hobject, hholds h⟩, fun key hkey => ?_⟩
  rcases hpos with hpos | hpos
  · rw [hpos] at hkey
    cases hkey
  · exact ⟨old, hobject, hpos.symm.trans hkey⟩

theorem moved_swap {object : SharedObject} (cx : Waker) (again : Bool)
    (hobject : world.objects index = some object) :
    Moved world (world.swap index object.pos cx again) := by
  unfold swap
  split
  · refine .set world world.mutex index _ ?_
    rintro _ ⟨⟩
    exact succeeds_of_same hobject (fun h => h.elim) (.inr rfl)
  · next hlocked =>
      exact .acquired index object hobject (by simpa using hlocked)

theorem moved_proceed {object : SharedObject}
    (hobject : world.objects index = some object)
    (hstep : world.proceed index object = some next) : Moved world next := by
  cases object with
  | sink | handle | guard => cases hstep
  | registering pos cx again =>
      simp only [proceed, Option.ite_none_left_eq_some,
        Option.some.injEq] at hstep
      obtain ⟨-, rfl⟩ := hstep
      exact .registered index pos cx again hobject
  | rechecking pos cx =>
      obtain rfl := Option.some.inj hstep
      exact moved_swap cx true hobject
  | acquired pos =>
      cases pos with
      | none =>
          obtain rfl := Option.some.inj hstep
          refine .set world world.mutex index _ ?_
          rintro _ ⟨⟩
          exact succeeds_of_same hobject (fun _ => trivial) (.inl rfl)
      | some key =>
          simp only [proceed, Option.ite_none_left_eq_some,
            Option.some.injEq] at hstep
          obtain ⟨-, rfl⟩ := hstep
          exact .left index key hobject
  | unlocking stage left =>
      cases stage with
      | entering =>
          simp only [proceed, Option.ite_none_left_eq_some,
            Option.some.injEq] at hstep
          obtain ⟨-, rfl⟩ := hstep
          refine .set world true index _ ?_
          rintro _ ⟨⟩
          refine succeeds_of_same hobject (fun _ => ?_) (.inr rfl)
          simp [SharedObject.Holds]
      | storing =>
          obtain rfl := Option.some.inj hstep
          exact .released index left hobject
      | waking =>
          obtain rfl := Option.some.inj hstep
          refine .changed index _ rfl rfl
            (fun key => world.waiters.getNext_isSome key) rfl ?_
          intro object hleft
          obtain ⟨pos, rfl, rfl⟩ := Option.map_eq_some_iff.mp hleft
          refine succeeds_of_same hobject (fun h => ?_) (.inr rfl)
          simp [SharedObject.Holds] at h

theorem moved_handOver {target : Nat} {object : SharedObject}
    (hpos : object.pos = none)
    (hstep : world.handOver index target object = some next) :
    Moved world next := by
  unfold handOver at hstep
  split at hstep
  · next pos hobject htarget =>
      obtain rfl := Option.some.inj hstep
      refine .handed index target pos object hobject htarget ?_ hpos
      rintro rfl
      rw [hobject] at htarget
      cases htarget
  · cases hstep

theorem moved_of_step {action : SinkStep}
    (hstep : world.step action = some next) : Moved world next := by
  cases action with
  | clone source copy =>
      simp only [step] at hstep
      split at hstep
      · obtain rfl := Option.some.inj hstep
        refine .set world world.mutex copy _ ?_
        rintro _ ⟨⟩
        exact succeeds_of_idle _ (by simp [SharedObject.Holds]) rfl
      · cases hstep
  | pollLock sink cx =>
      simp only [step] at hstep
      split at hstep
      · obtain rfl := Option.some.inj hstep
        exact .still
      · next pos hobject =>
          obtain rfl := Option.some.inj hstep
          exact moved_swap cx false hobject
      · cases hstep
  | unlock sink =>
      simp only [step] at hstep
      split at hstep
      · next pos hobject =>
          obtain rfl := Option.some.inj hstep
          refine .set world world.mutex sink _ ?_
          rintro _ ⟨⟩
          exact succeeds_of_same hobject (fun _ => rfl) (.inr rfl)
      · obtain rfl := Option.some.inj hstep
        exact .still
      · cases hstep
  | getHandle sink handle => exact moved_handOver rfl hstep
  | getGuard sink guard => exact moved_handOver rfl hstep
  | drop object =>
      simp only [step] at hstep
      split at hstep
      · obtain rfl := Option.some.inj hstep
        exact .set world world.mutex object none (by rintro _ ⟨⟩)
      · next hobject =>
          obtain rfl := Option.some.inj hstep
          refine .set world world.mutex object _ ?_
          rintro _ ⟨⟩
          exact succeeds_of_same hobject (fun _ => rfl) (.inl rfl)
      · next hobject =>
          obtain rfl := Option.some.inj hstep
          refine .set world world.mutex object _ ?_
          rintro _ ⟨⟩
          exact succeeds_of_same hobject (fun _ => trivial) (.inl rfl)
      · next hobject =>
          obtain rfl := Option.some.inj hstep
          refine .set world world.mutex object _ ?_
          rintro _ ⟨⟩
          exact succeeds_of_same hobject (fun _ => trivial) (.inl rfl)
      · cases hstep
  | proceed object =>
      obtain ⟨value, hobject, hproceed⟩ := Option.bind_eq_some_iff.mp hstep
      exact moved_proceed hobject hproceed

/-- Nobody but the holder has the lock, and the flag says so. -/
structure HeldBy (world : SinkWorld) (holder : Option Nat) : Prop where
  sole : ∀ i object, world.objects i = some object → object.Holds →
    holder = some i
  flag : holder ≠ none → world.locked = true

/-- One object moves on, and the lock with it. -/
theorem HeldBy.set (h : world.HeldBy holder) {holder' : Option Nat}
    (hobjects : next.objects = Function.update world.objects index new)
    (hnew : ∀ object, new = some object → object.Holds →
      holder' = some index)
    (hothers : ∀ i, i ≠ index → holder = some i → holder' = some i)
    (hflag : holder' ≠ none → next.locked = true) : next.HeldBy holder' := by
  refine ⟨fun i object hobject hholds => ?_, hflag⟩
  rw [hobjects] at hobject
  by_cases hi : i = index
  · subst hi
    rw [Function.update_self] at hobject
    exact hnew object hobject hholds
  · rw [Function.update_of_ne hi] at hobject
    exact hothers i hi (h.sole i object hobject hholds)

/-- The holder gives the lock up, and then nobody has it. -/
theorem HeldBy.release (h : world.HeldBy holder) {old : SharedObject}
    (hold : world.objects index = some old) (hholds : old.Holds)
    (hobjects : next.objects = Function.update world.objects index new)
    (hnew : ∀ object, new = some object → ¬ object.Holds) :
    next.HeldBy none := by
  have hholder := h.sole index old hold hholds
  refine h.set hobjects ?_ ?_ (fun hne => absurd rfl hne)
  · intro object hobject hholds
    exact absurd hholds (hnew object hobject)
  · intro i hi hother
    rw [hholder] at hother
    exact absurd (Option.some.inj hother).symm hi

/-- An object without the lock moves on. -/
theorem HeldBy.set_of_not_holds (h : world.HeldBy holder)
    (hobjects : next.objects = Function.update world.objects index new)
    (hnew : ∀ object, new = some object → ¬ object.Holds)
    (hlocked : next.locked = world.locked) : next.HeldBy holder := by
  refine h.set hobjects ?_ (fun _ _ hi => hi) ?_
  · intro object hobject hholds
    exact absurd hholds (hnew object hobject)
  · rw [hlocked]
    exact h.flag

theorem HeldBy.register (h : world.HeldBy holder) (pos : Option Nat)
    (cx : Waker) (again : Bool) :
    (world.register index pos cx again).HeldBy holder := by
  unfold SinkWorld.register
  cases pos with
  | none =>
      refine h.set_of_not_holds rfl ?_ rfl
      rintro _ ⟨⟩
      cases again <;> simp [SharedObject.Holds]
  | some key =>
      dsimp only
      cases world.waiters.update key cx with
      | none => exact ⟨h.sole, h.flag⟩
      | some waiters =>
          refine h.set_of_not_holds rfl ?_ rfl
          rintro _ ⟨⟩
          cases again <;> simp [SharedObject.Holds]

theorem HeldBy.leave (h : world.HeldBy holder) {key : Nat}
    (hobject : world.objects index = some (.acquired (some key))) :
    (world.leave index key).HeldBy holder := by
  unfold SinkWorld.leave
  cases world.waiters.remove key with
  | none => exact ⟨h.sole, h.flag⟩
  | some waiters =>
      refine h.set rfl (fun _ _ _ => ?_) (fun _ _ hi => hi) h.flag
      exact h.sole index _ hobject trivial

theorem HeldBy.moved (h : world.HeldBy holder) (hmoved : Moved world next) :
    ∃ holder', next.HeldBy holder' := by
  cases hmoved with
  | still => exact ⟨holder, h⟩
  | changed index new hobjects hlocked _ _ hnew =>
      refine ⟨holder, h.set hobjects ?_ (fun _ _ hi => hi) ?_⟩
      · intro object hobject hholds
        obtain ⟨old, hold, hhad⟩ := (hnew object hobject).1 hholds
        exact h.sole index old hold hhad
      · rw [hlocked]
        exact h.flag
  | acquired index object hobject hlocked =>
      have hnobody : holder = none := by
        by_contra hsome
        rw [h.flag hsome] at hlocked
        cases hlocked
      refine ⟨some index, h.set rfl (fun _ _ _ => rfl) ?_ fun _ => rfl⟩
      intro i _ hi
      rw [hnobody] at hi
      cases hi
  | registered index pos cx again _ =>
      exact ⟨holder, h.register pos cx again⟩
  | left index key hobject => exact ⟨holder, h.leave hobject⟩
  | released index left hobject =>
      refine ⟨none, h.release hobject (by simp [SharedObject.Holds]) rfl ?_⟩
      rintro _ ⟨⟩
      simp [SharedObject.Holds]
  | handed index target pos object hobject htarget hne _ =>
      have hholder := h.sole index _ hobject rfl
      have hlocked := h.flag (by rw [hholder]; simp)
      have hfree : (world.set index (some (.sink pos false))).HeldBy none := by
        refine h.release hobject rfl rfl ?_
        rintro _ ⟨⟩
        simp [SharedObject.Holds]
      refine ⟨some target, hfree.set rfl (fun _ _ _ => rfl) ?_
        fun _ => hlocked⟩
      rintro i - ⟨⟩

/-- The keys that objects go by are those of entries of the waiter list, a
different one for each of them. -/
structure Keyed (world : SinkWorld) : Prop where
  live : ∀ i object key, world.objects i = some object →
    object.pos = some key → (world.waiters.get? key).isSome = true
  distinct : ∀ i j a b key, world.objects i = some a →
    world.objects j = some b → a.pos = some key → b.pos = some key → i = j
  calm : world.panicked = false

/-- One object moves on with its key, with a fresh one or with none, and the
keys of the others stay. -/
theorem Keyed.set (h : world.Keyed)
    (hobjects : next.objects = Function.update world.objects index new)
    (hnew : ∀ object key, new = some object → object.pos = some key →
      (next.waiters.get? key).isSome = true ∧
        ((∃ old, world.objects index = some old ∧ old.pos = some key) ∨
          world.waiters.get? key = none))
    (hothers : ∀ i object key, i ≠ index → world.objects i = some object →
      object.pos = some key → (next.waiters.get? key).isSome = true)
    (hcalm : next.panicked = world.panicked) : next.Keyed := by
  have hfresh : ∀ i object other key, i ≠ index → new = some other →
      other.pos = some key → world.objects i = some object →
      object.pos ≠ some key := by
    intro i object other key hi hother hkey hobject hpos
    rcases (hnew other key hother hkey).2 with ⟨old, hold, holdpos⟩ | hnone
    · exact hi (h.distinct i index object old key hobject hold hpos holdpos)
    · have := h.live i object key hobject hpos
      rw [hnone] at this
      cases this
  refine ⟨?_, ?_, hcalm.trans h.calm⟩
  · intro i object key hobject hpos
    rw [hobjects] at hobject
    by_cases hi : i = index
    · rw [hi, Function.update_self] at hobject
      exact (hnew object key hobject hpos).1
    · rw [Function.update_of_ne hi] at hobject
      exact hothers i object key hi hobject hpos
  · intro i j a b key ha hb hapos hbpos
    rw [hobjects] at ha hb
    by_cases hi : i = index
    · by_cases hj : j = index
      · rw [hi, hj]
      · rw [hi, Function.update_self] at ha
        rw [Function.update_of_ne hj] at hb
        exact absurd hbpos (hfresh j b a key hj ha hapos hb)
    · rw [Function.update_of_ne hi] at ha
      by_cases hj : j = index
      · rw [hj, Function.update_self] at hb
        exact absurd hapos (hfresh i a b key hi hb hbpos ha)
      · rw [Function.update_of_ne hj] at hb
        exact h.distinct i j a b key ha hb hapos hbpos

/-- The list keeps its keys, and the object has no new one. -/
theorem Keyed.set_of_succeeds (h : world.Keyed)
    (hobjects : next.objects = Function.update world.objects index new)
    (hwaiters : ∀ key, (next.waiters.get? key).isSome =
      (world.waiters.get? key).isSome)
    (hnew : ∀ object key, new = some object → object.pos = some key →
      ∃ old, world.objects index = some old ∧ old.pos = some key)
    (hcalm : next.panicked = world.panicked) : next.Keyed := by
  refine h.set hobjects ?_ ?_ hcalm
  · intro object key hobject hpos
    obtain ⟨old, hold, holdpos⟩ := hnew object key hobject hpos
    refine ⟨?_, .inl ⟨old, hold, holdpos⟩⟩
    rw [hwaiters]
    exact h.live index old key hold holdpos
  · intro i object key _ hobject hpos
    rw [hwaiters]
    exact h.live i object key hobject hpos

theorem Keyed.register (h : world.Keyed) {pos : Option Nat} {cx : Waker}
    {again : Bool}
    (hobject : world.objects index = some (.registering pos cx again)) :
    (world.register index pos cx again).Keyed := by
  cases pos with
  | none =>
      have hvacant := Slab.get?_nextKey world.waiters
      refine h.set rfl ?_ ?_ rfl
      · rintro _ key ⟨⟩ hpos
        cases again with
        | true => cases hpos
        | false =>
            obtain rfl : world.waiters.nextKey = key := Option.some.inj hpos
            refine ⟨?_, .inr hvacant⟩
            change ((world.waiters.insert _).get? _).isSome = true
            rw [Slab.get?_insert_nextKey]
            rfl
      · intro i object key _ hobject hpos
        have hlive := h.live i object key hobject hpos
        have hne : key ≠ world.waiters.nextKey := by
          rintro rfl
          rw [hvacant] at hlive
          cases hlive
        change ((world.waiters.insert _).get? key).isSome = true
        rw [Slab.get?_insert_of_ne hne]
        exact hlive
  | some key =>
      have hlive := h.live index _ key hobject rfl
      obtain ⟨waiters, hwaiters⟩ :=
        Slab.exists_modify? (Waiter.register cx) hlive
      obtain ⟨value, hvalue, hself, hother⟩ := Slab.modify?_eq_some hwaiters
      have hregister : world.register index (some key) cx again =
          { world with waiters }.set index (some (
            if again then .sink (some key) false
            else .rechecking (some key) cx)) := by
        simp only [SinkWorld.register, WakerList.update, hwaiters]
      rw [hregister]
      refine h.set_of_succeeds rfl (fun other => ?_) ?_ rfl
      · change (waiters.get? other).isSome = _
        by_cases hkey : other = key
        · rw [hkey, hself, hvalue]
          rfl
        · rw [hother other hkey]
      · rintro _ other ⟨⟩ hpos
        refine ⟨_, hobject, ?_⟩
        cases again with
        | true => exact hpos
        | false => exact hpos

theorem Keyed.leave (h : world.Keyed) {key : Nat}
    (hobject : world.objects index = some (.acquired (some key))) :
    (world.leave index key).Keyed := by
  have hlive := h.live index _ key hobject rfl
  obtain ⟨waiters, hwaiters⟩ := Slab.exists_remove? hlive
  obtain ⟨-, -, hother⟩ := Slab.remove?_eq_some hwaiters
  have hleave : world.leave index key =
      { world with waiters }.set index (some (.sink none true)) := by
    simp only [SinkWorld.leave, WakerList.remove, hwaiters]
  rw [hleave]
  refine h.set rfl ?_ ?_ rfl
  · rintro _ other ⟨⟩ ⟨⟩
  · intro i object other hi hobject' hpos
    have hne : other ≠ key := by
      rintro rfl
      exact hi (h.distinct i index object _ other hobject' hobject hpos rfl)
    change (waiters.get? other).isSome = true
    rw [hother other hne]
    exact h.live i object other hobject' hpos

theorem Keyed.moved (h : world.Keyed) (hmoved : Moved world next) :
    next.Keyed := by
  cases hmoved with
  | still => exact h
  | changed index new hobjects _ hwaiters hpanicked hnew =>
      refine h.set_of_succeeds hobjects hwaiters ?_ hpanicked
      intro object key hobject
      exact (hnew object hobject).2 key
  | acquired index object hobject _ =>
      refine h.set_of_succeeds rfl (fun _ => rfl) ?_ rfl
      rintro _ key ⟨⟩ hpos
      exact ⟨object, hobject, hpos⟩
  | registered index pos cx again hobject => exact h.register hobject
  | left index key hobject => exact h.leave hobject
  | released index left hobject =>
      refine h.set_of_succeeds rfl (fun _ => rfl) ?_ rfl
      rintro _ key ⟨⟩ hpos
      exact ⟨_, hobject, hpos⟩
  | handed index target pos object hobject _ _ hpos =>
      have hleft : (world.set index (some (.sink pos false))).Keyed := by
        refine h.set_of_succeeds rfl (fun _ => rfl) ?_ rfl
        rintro _ key ⟨⟩ hkey
        exact ⟨_, hobject, hkey⟩
      refine hleft.set_of_succeeds rfl (fun _ => rfl) ?_ rfl
      rintro _ key ⟨⟩ hkey
      rw [hpos] at hkey
      cases hkey

theorem heldBy_init : init.HeldBy none := by
  refine ⟨?_, fun h => absurd rfl h⟩
  intro i object hobject hholds
  simp only [init, Function.update_apply] at hobject
  split at hobject
  · cases hobject
    cases hholds
  · cases hobject

theorem keyed_init : init.Keyed := by
  have hnone : ∀ i object key, init.objects i = some object →
      object.pos ≠ some key := by
    intro i object key hobject
    simp only [init, Function.update_apply] at hobject
    split at hobject
    · cases hobject
      simp [SharedObject.pos]
    · cases hobject
  refine ⟨?_, ?_, rfl⟩
  · intro i object key hobject hpos
    exact absurd hpos (hnone i object key hobject)
  · intro i j a b key ha _ hpos _
    exact absurd hpos (hnone i a key ha)

/-- At most one object owns the lock, the flag is set while one does, and no
key has been missing from the waiter list. -/
structure Exclusive (world : SinkWorld) : Prop where
  unique : ∀ i j a b, world.objects i = some a → world.objects j = some b →
    a.Owns → b.Owns → i = j
  flag : ∀ i a, world.objects i = some a → a.Owns → world.locked = true
  calm : world.panicked = false

/-- However the steps of any number of objects are interleaved. -/
theorem exclusive_of_reachable {world : SinkWorld}
    (hreach : machine.Reachable init world) : world.Exclusive := by
  have hstep : ∀ s action t, (s.Keyed ∧ ∃ holder, s.HeldBy holder) →
      machine.step s action = some t → t.Keyed ∧ ∃ holder, t.HeldBy holder := by
    rintro s action t ⟨hkeyed, holder, hheld⟩ ht
    have hmoved := moved_of_step ht
    exact ⟨hkeyed.moved hmoved, hheld.moved hmoved⟩
  obtain ⟨hkeyed, holder, hheld⟩ :=
    hreach.invariant hstep ⟨keyed_init, none, heldBy_init⟩
  refine ⟨?_, ?_, hkeyed.calm⟩
  · intro i j a b ha hb haowns hbowns
    have hi := hheld.sole i a ha haowns.holds
    have hj := hheld.sole j b hb hbowns.holds
    rw [hi] at hj
    exact Option.some.inj hj
  · intro i a ha howns
    apply hheld.flag
    rw [hheld.sole i a ha howns.holds]
    simp

/-- A handle is dropped while a clone joins the waiter list: the clone's
second attempt comes between the clearing of the flag and the wakeup. -/
theorem exclusive_of_raced_unlock :
    ∃ world, machine.run init
      [.clone 0 1, .pollLock 0 7, .proceed 0, .getHandle 0 2, .pollLock 1 8,
        .proceed 1, .drop 2, .proceed 2, .proceed 2, .proceed 1, .proceed 2,
        .proceed 1] = some world ∧ world.Exclusive := by
  obtain ⟨world, hrun⟩ : ∃ world, machine.run init
      [.clone 0 1, .pollLock 0 7, .proceed 0, .getHandle 0 2, .pollLock 1 8,
        .proceed 1, .drop 2, .proceed 2, .proceed 2, .proceed 1, .proceed 2,
        .proceed 1] = some world := ⟨_, rfl⟩
  exact ⟨world, hrun, exclusive_of_reachable ⟨_, hrun⟩⟩

end SinkWorld

end Epoxy
