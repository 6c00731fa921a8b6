/-
The record of the streams over whole runs.  Every stream is a task that
records itself under its client and, if it was routed to a wispnet server,
under that server's client too; the second entry is made and removed inside
of a future that the end of the connection drops wherever it waits.
-/
import Epoxy.RequestPanics
import Epoxy.TaskWorld

namespace Epoxy.Server

open ActionMachine TaskWorld

namespace Clients

variable {clients : Clients} {id key : String} {uuid other : Uuid}

/-- The stream is in the client's entry. -/
def Lists (clients : Clients) (id : String) (uuid : Uuid) : Prop :=
  ∃ client, clients.lookup id = some client ∧ uuid ∈ client.streams

theorem not_lists_empty : ¬ (∅ : Clients).Lists id uuid := by
  rintro ⟨client, hclient, -⟩
  simp at hclient

theorem lists_insert_empty {clientType : String}
    (h : Lists (clients.insert id ⟨∅, clientType⟩) key uuid) :
    clients.Lists key uuid := by
  obtain ⟨client, hclient, huuid⟩ := h
  by_cases hkey : key = id
  · subst hkey
    rw [AList.lookup_insert, Option.some.injEq] at hclient
    subst hclient
    exact absurd huuid (AList.notMem_empty uuid)
  · rw [AList.lookup_insert_ne hkey] at hclient
    exact ⟨client, hclient, huuid⟩

theorem lists_erase (h : Lists (clients.erase id) key uuid) :
    clients.Lists key uuid := by
  obtain ⟨client, hclient, huuid⟩ := h
  by_cases hkey : key = id
  · subst hkey
    simp at hclient
  · rw [AList.lookup_erase_ne hkey] at hclient
    exact ⟨client, hclient, huuid⟩

/-- What a change of one client's streams makes of the entries. -/
theorem lists_modify {f : Streams → Streams} :
    (clients.modify id f).Lists key uuid ↔
      clients.Lists key uuid ∧ key ≠ id ∨
        key = id ∧ ∃ client, clients.lookup id = some client ∧
          uuid ∈ f client.streams := by
  unfold modify
  cases hlookup : clients.lookup id with
  | none =>
      constructor
      · intro h
        refine .inl ⟨h, ?_⟩
        rintro rfl
        obtain ⟨client, hclient, -⟩ := h
        rw [hlookup] at hclient
        cases hclient
      · rintro (⟨h, -⟩ | ⟨-, client, hclient, -⟩)
        · exact h
        · cases hclient
  | some client =>
      by_cases hkey : key = id
      · subst hkey
        simp [Lists]
      · simp [Lists, hkey, AList.lookup_insert_ne hkey]

theorem lists_record {entry : ConnectPacket × ConnectPacket}
    (h : (clients.record id uuid entry).Lists key other) :
    clients.Lists key other ∨ key = id ∧ other = uuid := by
  obtain ⟨h, -⟩ | ⟨rfl, client, hclient, hother⟩ := lists_modify.mp h
  · exact .inl h
  · rw [AList.mem_insert] at hother
    obtain rfl | hother := hother
    · exact .inr ⟨rfl, rfl⟩
    · exact .inl ⟨client, hclient, hother⟩

theorem lists_forget (h : (clients.forget id uuid).Lists key other) :
    clients.Lists key other ∧ ¬ (key = id ∧ other = uuid) := by
  obtain ⟨h, hkey⟩ | ⟨rfl, client, hclient, hother⟩ := lists_modify.mp h
  · exact ⟨h, fun hboth => hkey hboth.1⟩
  · rw [AList.mem_erase] at hother
    exact ⟨⟨client, hclient, hother.2⟩, fun hboth => hother.1 hboth.2⟩

theorem lists_forget_of_ne (hkey : key ≠ id) (h : clients.Lists key other) :
    (clients.forget id uuid).Lists key other :=
  lists_modify.mpr (.inl ⟨h, hkey⟩)

/-- What a step of a task must keep: it touches only its own stream, and lists
it nowhere but where it is allowed to. -/
structure Keeps (clients clients' : Clients) (uuid : Uuid)
    (Allowed : String → Prop) : Prop where
  others : ∀ key other, other ≠ uuid → clients'.Lists key other →
    clients.Lists key other
  own : ∀ key, clients'.Lists key uuid → Allowed key

section Keeps

variable {Allowed : String → Prop}

theorem Keeps.of_eq (h : ∀ key, clients.Lists key uuid → Allowed key) :
    Keeps clients clients uuid Allowed :=
  ⟨fun _ _ _ hlists => hlists, h⟩

theorem Keeps.record {entry : ConnectPacket × ConnectPacket}
    (hid : Allowed id) (h : ∀ key, clients.Lists key uuid → Allowed key) :
    Keeps clients (clients.record id uuid entry) uuid Allowed := by
  constructor
  · intro key other hother hlists
    obtain hlists | ⟨-, huuid⟩ := lists_record hlists
    · exact hlists
    · exact absurd huuid hother
  · intro key hlists
    obtain hlists | ⟨rfl, -⟩ := lists_record hlists
    · exact h key hlists
    · exact hid

theorem Keeps.forget
    (h : ∀ key, key ≠ id → clients.Lists key uuid → Allowed key) :
    Keeps clients (clients.forget id uuid) uuid Allowed := by
  constructor
  · intro key other _ hlists
    exact (lists_forget hlists).1
  · intro key hlists
    obtain ⟨hlists, hkey⟩ := lists_forget hlists
    exact h key (fun heq => hkey ⟨heq, rfl⟩) hlists

end Keeps

end Clients

/-- Where `wispnet::handle_stream` stands: it waits for the map to record the
stream, copies and closes, or waits for the map to forget the stream. -/
inductive WispnetStage where
  | inserting
  | copying
  | removing
deriving Repr, DecidableEq

/-- Where `forward_stream` stands; only streams that were routed to a wispnet
server touch the map. -/
inductive Forwarding where
  | plain
  | wispnet (muxId : String) (resolved : ConnectPacket)
      (stage : WispnetStage)
deriving Repr, DecidableEq

/-- Where `handle_stream` stands. -/
inductive StreamPhase where
  | resolving (connect : ConnectPacket)
  | inserting (requested resolved : ConnectPacket) (stream : ClientStream)
  | forwarding (forward : Forwarding)
  | removing
  | finished
deriving Repr, DecidableEq

/-- A `handle_stream` task.  `connection` is the connection whose shutdown
event it listens to, and `notified` whether its listener has been notified. -/
structure StreamTask where
  connection : Nat
  id : String
  phase : StreamPhase
  notified : Bool
deriving Repr, DecidableEq

namespace StreamTask

/-- Only tasks that wait in a `select!` listen. -/
def notify (connection : Nat) (task : StreamTask) : StreamTask :=
  match task.phase with
  | .resolving _ | .forwarding _ =>
      { task with
        notified := task.notified || decide (task.connection = connection) }
  | _ => task

/-- `Forwarding` at its start. -/
def forwardStream (resolved : ConnectPacket) : ClientStream → Forwarding
  | .wispnet muxId => .wispnet muxId resolved .inserting
  | _ => .plain

/-- The next step of `forward_stream`; `none` for the next place is its
end. -/
def forwardStep (clients : Clients) (uuid : Uuid) :
    Forwarding → Clients × Option Forwarding
  | .plain => (clients, none)
  | .wispnet muxId resolved .inserting =>
      (clients.record muxId uuid (resolved, resolved),
        some (.wispnet muxId resolved .copying))
  | .wispnet muxId resolved .copying =>
      (clients, some (.wispnet muxId resolved .removing))
  | .wispnet muxId _ .removing => (clients.forget muxId uuid, none)

inductive Action where
  | resolve (around : Surroundings)
  | insert
  | forward
  | remove
  | cancel

/-- A step of one task; `none` where it is somewhere else. -/
def step (config : Config) (uuid : Uuid) (action : Action)
    (clients : Clients) (task : StreamTask) : Option (Clients × StreamTask) :=
  match action with
  | .resolve around =>
      match task.phase with
      | .resolving connect =>
          match resolveStream config around connect with
          | .ok (requested, resolved, stream) =>
              some (clients, { task with
                phase := .inserting requested resolved stream })
          | .err _ => some (clients, { task with phase := .finished })
          -- a panic ends the process
          | .panic => none
      | _ => none
  | .insert =>
      match task.phase with
      | .inserting requested resolved stream =>
          -- the second `select!` listens anew
          some (clients.record task.id uuid (requested, resolved),
            { task with
              phase := .forwarding (forwardStream resolved stream)
              notified := false })
      | _ => none
  | .forward =>
      match task.phase with
      | .forwarding forward =>
          match forwardStep clients uuid forward with
          | (clients, some forward) =>
              some (clients, { task with phase := .forwarding forward })
          | (clients, none) => some (clients, { task with phase := .removing })
      | _ => none
  | .remove =>
      match task.phase with
      | .removing =>
          some (clients.forget task.id uuid, { task with phase := .finished })
      | _ => none
  | .cancel =>
      if task.notified then
        match task.phase with
        | .resolving _ => some (clients, { task with phase := .finished })
        | .forwarding _ => some (clients, { task with phase := .removing })
        | _ => none
      else none

/-- Under whose clients a task may have its stream listed. -/
def Allows (task : StreamTask) (key : String) : Prop :=
  match task.phase with
  | .resolving _ | .inserting _ _ _ | .finished => False
  | .forwarding .plain | .removing => key = task.id
  | .forwarding (.wispnet muxId _ stage) =>
      key = task.id ∨ stage ≠ .inserting ∧ key = muxId

theorem allows_notify (task : StreamTask) (connection : Nat) (key : String) :
    Allows (task.notify connection) key ↔ Allows task key := by
  unfold notify
  cases hphase : task.phase <;> simp [Allows, hphase]

section Step

open Clients (Keeps)

variable {config : Config} {clients clients' : Clients} {uuid : Uuid}
  {task task' : StreamTask}
  (hallows : ∀ key, clients.Lists key uuid → Allows task key)
include hallows

/-- The forwarding lists its stream under the wispnet server's client, and
forgets it there before it ends. -/
theorem keeps_forward
    (hstep : step config uuid .forward clients task = some (clients', task')) :
    Keeps clients clients' uuid task'.Allows := by
  cases hphase : task.phase with
  | forwarding forward =>
      simp only [step, hphase] at hstep
      simp only [Allows, hphase] at hallows
      cases forward with
      | plain =>
          cases hstep
          exact .of_eq hallows
      | wispnet muxId resolved stage =>
          cases stage with
          | inserting =>
              cases hstep
              refine .record (.inr ⟨by decide, rfl⟩) fun key hlists => .inl ?_
              simpa using hallows key hlists
          | copying =>
              cases hstep
              refine .of_eq fun key hlists => ?_
              simpa [Allows] using hallows key hlists
          | removing =>
              cases hstep
              refine .forget fun key hkey hlists => ?_
              simpa [Allows, hkey] using hallows key hlists
  | removing | resolving | inserting | finished =>
      simp only [step, hphase] at hstep
      cases hstep

/-- A cancelled task forgets its stream under its own client only. -/
theorem keeps_cancel
    (hforgotten : ∀ muxId resolved stage,
      task.phase = .forwarding (.wispnet muxId resolved stage) →
      muxId ≠ task.id → ¬ clients.Lists muxId uuid)
    (hstep : step config uuid .cancel clients task = some (clients', task')) :
    Keeps clients clients' uuid task'.Allows := by
  simp only [step, Option.ite_none_right_eq_some] at hstep
  obtain ⟨-, hstep⟩ := hstep
  cases hphase : task.phase with
  | resolving connect =>
      simp only [hphase] at hstep
      cases hstep
      refine .of_eq fun key hlists => ?_
      simpa [Allows, hphase] using hallows key hlists
  | forwarding forward =>
      simp only [hphase] at hstep
      cases hstep
      simp only [Allows, hphase] at hallows
      refine .of_eq fun key hlists => ?_
      cases forward with
      | plain => exact hallows key hlists
      | wispnet muxId resolved stage =>
          obtain hkey | ⟨-, rfl⟩ := hallows key hlists
          · exact hkey
          · by_contra hne
            exact hforgotten key resolved stage hphase hne hlists
  | inserting requested resolved stream =>
      simp only [hphase] at hstep
      cases hstep
  | removing =>
      simp only [hphase] at hstep
      cases hstep
  | finished =>
      simp only [hphase] at hstep
      cases hstep

/-- Nothing is listed of a stream that has not been recorded. -/
theorem keeps_resolve {around : Surroundings}
    (hstep : step config uuid (.resolve around) clients task =
      some (clients', task')) : Keeps clients clients' uuid task'.Allows := by
  cases hphase : task.phase with
  | resolving connect =>
      have hnone : ∀ key, clients.Lists key uuid → False := by
        simpa [Allows, hphase] using hallows
      simp only [step, hphase] at hstep
      cases hresult : resolveStream config around connect with
      | ok result =>
          rw [hresult] at hstep
          cases hstep
          exact .of_eq fun key hlists => (hnone key hlists).elim
      | err reason =>
          rw [hresult] at hstep
          cases hstep
          exact .of_eq fun key hlists => (hnone key hlists).elim
      | panic =>
          rw [hresult] at hstep
          cases hstep
  | forwarding | inserting | removing | finished =>
      simp only [step, hphase] at hstep
      cases hstep

theorem keeps_insert
    (hstep : step config uuid .insert clients task = some (clients', task')) :
    Keeps clients clients' uuid task'.Allows := by
  cases hphase : task.phase with
  | inserting requested resolved stream =>
      simp only [Allows, hphase] at hallows
      simp only [step, hphase] at hstep
      cases hstep
      refine .record ?_ fun key hlists => (hallows key hlists).elim
      cases stream <;> simp [Allows, forwardStream]
  | forwarding | resolving | removing | finished =>
      simp only [step, hphase] at hstep
      cases hstep

theorem keeps_remove
    (hstep : step config uuid .remove clients task = some (clients', task')) :
    Keeps clients clients' uuid task'.Allows := by
  cases hphase : task.phase with
  | removing =>
      simp only [Allows, hphase] at hallows
      simp only [step, hphase] at hstep
      cases hstep
      exact .forget fun key hkey hlists => absurd (hallows key hlists) hkey
  | forwarding | resolving | inserting | finished =>
      simp only [step, hphase] at hstep
      cases hstep

theorem keeps_step {action : Action}
    (hforgotten : action = .cancel → ∀ muxId resolved stage,
      task.phase = .forwarding (.wispnet muxId resolved stage) →
      muxId ≠ task.id → ¬ clients.Lists muxId uuid)
    (hstep : step config uuid action clients task = some (clients', task')) :
    Keeps clients clients' uuid task'.Allows := by
  cases action with
  | resolve around => exact keeps_resolve hallows hstep
  | insert => exact keeps_insert hallows hstep
  | forward => exact keeps_forward hallows hstep
  | remove => exact keeps_remove hallows hstep
  | cancel => exact keeps_cancel hallows (hforgotten rfl) hstep

end Step

end StreamTask

/-- The clients and the tasks of all connections. -/
abbrev ServerWorld := World Uuid Clients StreamTask

namespace ServerWorld

inductive Action where
  | connected (id clientType : String)
  | disconnected (id : String)
  | spawn (uuid : Uuid) (connection : Nat) (id : String)
      (connect : ConnectPacket)
  | shutdown (connection : Nat)
  | task (uuid : Uuid) (action : StreamTask.Action)

def init : ServerWorld := World.init ∅

/-- Uuids are drawn anew for every stream, and not twice. -/
def move (config : Config) : Action → Move Uuid Clients StreamTask
  | .connected id clientType =>
      .change fun clients => clients.insert id ⟨∅, clientType⟩
  | .disconnected id => .change fun clients => clients.erase id
  | .spawn uuid connection id connect =>
      .spawn uuid ⟨connection, id, .resolving connect, false⟩
  | .shutdown connection => .every (StreamTask.notify connection)
  | .task uuid action => .own uuid (StreamTask.step config uuid action)

def machine (config : Config) : Machine ServerWorld Action :=
  World.machine (move config)

/-- A stream whose task has finished is in nobody's entry. -/
def Undone (world : ServerWorld) : Prop :=
  ∀ uuid task, world.tasks uuid = some task → task.phase = .finished →
    ∀ id, ¬ world.shared.Lists id uuid

/-- No task is cancelled while its stream is listed under the client of the
wispnet server that it was routed to, unless that client is its own. -/
def ForgottenFirst (world : ServerWorld) : Action → Prop
  | .task uuid .cancel => ∀ task muxId resolved stage,
      world.tasks uuid = some task →
      task.phase = .forwarding (.wispnet muxId resolved stage) →
      muxId ≠ task.id → ¬ world.shared.Lists muxId uuid
  | _ => True

/-- Every stream that is listed has a task that will forget it. -/
def Tracked (world : ServerWorld) : Prop :=
  world.Ties fun clients uuid task => ∀ key, clients.Lists key uuid →
    ∃ found, task = some found ∧ found.Allows key

theorem tracked_init : Tracked init := by
  intro uuid key hlists
  exact absurd hlists Clients.not_lists_empty

section Step

variable {config : Config} {world next : ServerWorld} {action : Action}

theorem Tracked.undone (h : Tracked world) : Undone world := by
  intro uuid task htask hfinished key hlists
  obtain ⟨found, hfound, hallows⟩ := h uuid key hlists
  obtain rfl := Option.some.inj (htask.symm.trans hfound)
  simp [StreamTask.Allows, hfinished] at hallows

theorem Tracked.step (h : Tracked world)
    (hforgotten : ForgottenFirst world action)
    (hstep : (machine config).step world action = some next) :
    Tracked next := by
  cases action with
  | connected id clientType =>
      exact World.Ties.change h (fun uuid task hties key hlists =>
        hties key (Clients.lists_insert_empty hlists)) hstep
  | disconnected id =>
      exact World.Ties.change h (fun uuid task hties key hlists =>
        hties key (Clients.lists_erase hlists)) hstep
  | spawn uuid connection id connect =>
      refine World.Ties.spawn h (fun hties key hlists => ?_) hstep
      obtain ⟨found, hfound, -⟩ := hties key hlists
      cases hfound
  | shutdown connection =>
      refine World.Ties.every h (fun uuid task hties key hlists => ?_) hstep
      obtain ⟨found, hfound, hallowed⟩ := hties key hlists
      obtain rfl := Option.some.inj hfound
      exact ⟨_, rfl, (task.allows_notify connection key).mpr hallowed⟩
  | task uuid action =>
      refine World.Ties.own h ?_ hstep
      intro task clients task' htask hresult hties
      have hallows : ∀ key, world.shared.Lists key uuid →
          task.Allows key := by
        intro key hlists
        obtain ⟨found, hfound, hallowed⟩ := hties key hlists
        obtain rfl := Option.some.inj hfound
        exact hallowed
      have hkeeps := StreamTask.keeps_step hallows (fun hcancel => ?_) hresult
      · refine ⟨fun key hlists => ⟨task', rfl, hkeeps.own key hlists⟩, ?_⟩
        intro other hother hties key hlists
        exact hties key (hkeeps.others key other hother hlists)
      · subst hcancel
        exact fun muxId resolved stage =>
          hforgotten task muxId resolved stage htask

/-- A stream that is cancelled over such an entry is still listed there when
its task has finished, right away if nothing else comes in between. -/
theorem leaks_of_not_forgottenFirst
    (hforgotten : ¬ ForgottenFirst world action)
    (hstep : (machine config).step world action = some next) :
    ∃ uuid last,
      (machine config).step next (.task uuid .remove) = some last ∧
        ¬ Undone last := by
  cases action with
  | connected | disconnected | spawn | shutdown =>
      exact absurd trivial hforgotten
  | task uuid action =>
      cases action with
      | resolve | insert | forward | remove => exact absurd trivial hforgotten
      | cancel =>
          simp only [ForgottenFirst, not_forall, not_not] at hforgotten
          obtain ⟨task, muxId, resolved, stage, htask, hphase, hne, hlists⟩ :=
            hforgotten
          obtain ⟨found, clients, task', hfound, hresult, rfl⟩ :=
            World.move_own hstep
          obtain rfl := Option.some.inj (htask.symm.trans hfound)
          simp only [StreamTask.step, hphase, Option.ite_none_right_eq_some,
            Option.some.injEq, Prod.mk.injEq] at hresult
          obtain ⟨-, rfl, rfl⟩ := hresult
          let removing : ServerWorld :=
            world.put world.shared uuid { task with phase := .removing }
          refine ⟨uuid, removing.put (world.shared.forget task.id uuid) uuid
            { task with phase := .finished }, ?_, fun hundone => ?_⟩
          · simp [machine, World.machine, move, World.move, StreamTask.step,
              removing]
          · exact hundone uuid _ (World.tasks_put_self _ _ _ _) rfl muxId
              (Clients.lists_forget_of_ne hne hlists)

end Step

/-- While no stream is cancelled over its entry at a wispnet server, every
stream is forgotten once its task has finished. -/
theorem undone_of_forgottenFirst (config : Config) (actions : List Action)
    (world : ServerWorld)
    (hrun : (machine config).run init actions = some world)
    (hforgotten : (machine config).Meets ForgottenFirst init actions) :
    Undone world :=
  ((machine config).run_invariant_of_meets
    (fun _ _ _ htracked hforgotten hstep =>
      Tracked.step htracked hforgotten hstep)
    tracked_init hforgotten hrun).undone

section Example

open RequestWorld (fullConfig agreeable)

/-- A stream for the wispnet server 1, whose client is there. -/
def routedStream : List Action :=
  [.connected "server" "wispnet", .connected "client" "wisp",
    .spawn 0 0 "client" ⟨.tcp, "MQ==.wisp", 80⟩,
    .task 0 (.resolve (agreeable [])), .task 0 .insert, .task 0 .forward]

theorem undone_of_forgottenFirst_routedStream :
    ∃ world, (machine fullConfig).run init
        (routedStream ++
          [.task 0 .forward, .task 0 .forward, .task 0 .remove]) =
        some world ∧
      Undone world := by
  refine ⟨_, rfl, undone_of_forgottenFirst fullConfig
    (routedStream ++
      [.task 0 .forward, .task 0 .forward, .task 0 .remove]) _ rfl ?_⟩
  apply Machine.meets_of_forall
  intro world action haction
  simp only [routedStream, List.cons_append, List.nil_append, List.mem_cons,
    List.not_mem_nil, or_false] at haction
  obtain rfl | rfl | rfl | rfl | rfl | rfl | rfl | rfl | rfl := haction <;>
    trivial

/-- The connection of the client ends while the stream is copied. -/
theorem not_undone_of_cancel :
    ∃ world, (machine fullConfig).run init
        (routedStream ++
          [.shutdown 0, .task 0 .cancel, .task 0 .remove]) = some world ∧
      ¬ Undone world := by
  refine ⟨_, rfl, fun h => ?_⟩
  exact h 0 _ rfl rfl "server" ⟨_, rfl, by decide⟩

end Example

end ServerWorld

end Epoxy.Server
