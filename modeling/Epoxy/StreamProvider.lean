/-
The client's provider of streams.  It keeps one multiplexor for all of them;
every multiplexor that it ever installed has left a task behind, which waits
for the end of its future and then empties the slot, whatever is in it by then.
-/
import Epoxy.ActionMachine
import Epoxy.Packet

namespace Epoxy

open ActionMachine

/-- The errors of the transport's generator and of the multiplexor. -/
inductive EpoxyError where
  | wisp (error : WispError)
  | webSocketConnectFailed (message : String)
  | wispTransport (message : String)
  | invalidWispTransport (message : String)
deriving Repr, DecidableEq

/-- The task of an installed multiplexor: its future runs, or has ended and the
task waits for the lock, or the task has emptied the slot and is gone. -/
inductive MuxTask where
  | running
  | ended
  | gone
deriving Repr, DecidableEq

/-- Multiplexors are numbered as they are installed. -/
structure StreamProvider where
  udpExtension : Bool
  currentClient : Option Nat
  tasks : List MuxTask
deriving Repr, DecidableEq

/-- How the three waits of `create_client` end. -/
structure CreateAnswers where
  wispGenerator : Except EpoxyError Unit
  clientMux : Except WispError Unit
  withUdpExtensionRequired : Except WispError Unit

/-- How a critical section of `get_stream` ends. -/
inductive StreamAnswer where
  | stream (result : Except EpoxyError Nat)
  /-- A multiplexor was created; `get_stream` asks again. -/
  | again

namespace StreamProvider

def new (udpExtension : Bool) : StreamProvider := ⟨udpExtension, none, []⟩

/-- The outcome of the waits before the multiplexor is installed. -/
def connect (provider : StreamProvider) (answers : CreateAnswers) :
    Except EpoxyError Unit :=
  match answers.wispGenerator with
  | .error error => .error error
  | .ok () =>
      match answers.clientMux with
      | .error error => .error (.wisp error)
      | .ok () =>
          if provider.udpExtension then
            answers.withUdpExtensionRequired.mapError .wisp
          else .ok ()

/-- The multiplexor that was in the slot is dropped, its task goes on. -/
def install (provider : StreamProvider) : StreamProvider :=
  { provider with
    currentClient := some provider.tasks.length
    tasks := provider.tasks ++ [.running] }

def createClient (provider : StreamProvider) (answers : CreateAnswers) :
    StreamProvider × Except EpoxyError Unit :=
  match provider.connect answers with
  | .ok () => (provider.install, .ok ())
  | .error error => (provider, .error error)

def replaceClient (provider : StreamProvider) (answers : CreateAnswers) :
    StreamProvider × Except EpoxyError Unit := provider.createClient answers

/-- `newStream` is the answer of the multiplexor in the slot. -/
def getStream (provider : StreamProvider) (answers : CreateAnswers)
    (newStream : Except WispError Nat) : StreamProvider × StreamAnswer :=
  match provider.currentClient with
  | some _ => (provider, .stream (newStream.mapError .wisp))
  | none =>
      match provider.createClient answers with
      | (provider, .ok ()) => (provider, .again)
      | (provider, .error error) => (provider, .stream (.error error))

/-- The last thing the task does. -/
def takeClient (provider : StreamProvider) (mux : Nat) : StreamProvider :=
  { provider with
    currentClient := none
    tasks := provider.tasks.set mux .gone }

end StreamProvider

inductive ProviderAction where
  | replaceClient (answers : CreateAnswers)
  | getStream (answers : CreateAnswers) (newStream : Except WispError Nat)
  /-- The future of the multiplexor ends. -/
  | futureEnds (mux : Nat)
  /-- The multiplexor's task gets the lock. -/
  | taskFinishes (mux : Nat)

namespace StreamProvider

def step (provider : StreamProvider) (action : ProviderAction) :
    Option StreamProvider :=
  match action with
  | .replaceClient answers => some (provider.replaceClient answers).1
  | .getStream answers newStream =>
      some (provider.getStream answers newStream).1
  | .futureEnds mux =>
      if provider.tasks[mux]? = some .running then
        some { provider with tasks := provider.tasks.set mux .ended }
      else none
  | .taskFinishes mux =>
      if provider.tasks[mux]? = some .ended then some (provider.takeClient mux)
      else none

def machine : Machine StreamProvider ProviderAction := ⟨step⟩

/-- The multiplexor's task has still to empty the slot. -/
def Pending (provider : StreamProvider) (mux : Nat) : Prop :=
  provider.tasks[mux]? = some .running ∨ provider.tasks[mux]? = some .ended

/-- The action puts a new multiplexor into the slot. -/
def Installs (provider : StreamProvider) : ProviderAction → Prop
  | .replaceClient answers => provider.connect answers = .ok ()
  | .getStream answers _ =>
      provider.currentClient = none ∧ provider.connect answers = .ok ()
  | _ => False

/-- A multiplexor is installed while the task of an earlier one is pending. -/
def InstallsOver (provider : StreamProvider) (action : ProviderAction) : Prop :=
  provider.Installs action ∧ ∃ mux, provider.Pending mux

/-- A task that finishes takes no multiplexor but its own. -/
def EvictsOwn (provider : StreamProvider) (action : ProviderAction)
    (next : StreamProvider) : Prop :=
  ∀ mux held, action = .taskFinishes mux →
    provider.currentClient = some held → next.currentClient = none → held = mux

/-- The newest multiplexor is in the slot as long as its future runs. -/
def HoldsNewest (provider : StreamProvider) : Prop :=
  ∀ mux, provider.tasks.length = mux + 1 →
    provider.tasks[mux]? = some .running → provider.currentClient = some mux

/-- The run evicts a multiplexor only by its own end. -/
def KeepsClient (provider : StreamProvider) (actions : List ProviderAction) :
    Prop :=
  machine.Meets (fun provider action => ∀ next,
    machine.step provider action = some next →
      provider.EvictsOwn action next ∧ next.HoldsNewest) provider actions

/-- What an action does to the slot and the tasks. -/
inductive Stepped (provider : StreamProvider) (action : ProviderAction)
    (next : StreamProvider) : Prop where
  | installed (hinstalls : provider.Installs action)
      (hnext : next = provider.install)
  | kept (hinstalls : ¬ provider.Installs action) (hnext : next = provider)
  | ended (mux : Nat) (haction : action = .futureEnds mux)
      (hrunning : provider.tasks[mux]? = some .running)
      (hnext : next =
        { provider with tasks := provider.tasks.set mux .ended })
  | finished (mux : Nat) (haction : action = .taskFinishes mux)
      (hended : provider.tasks[mux]? = some .ended)
      (hnext : next = provider.takeClient mux)

variable {provider next : StreamProvider} {action : ProviderAction}

theorem createClient_cases (provider : StreamProvider)
    (answers : CreateAnswers) :
    (provider.connect answers = .ok () ∧
        (provider.createClient answers).1 = provider.install) ∨
      (provider.connect answers ≠ .ok () ∧
        (provider.createClient answers).1 = provider) := by
  unfold createClient
  cases provider.connect answers with
  | ok => exact .inl ⟨rfl, rfl⟩
  | error error => exact .inr ⟨by simp, rfl⟩

theorem getStream_fst (provider : StreamProvider) (answers : CreateAnswers)
    (newStream : Except WispError Nat) :
    (provider.getStream answers newStream).1 =
      if provider.currentClient = none then (provider.createClient answers).1
      else provider := by
  unfold getStream
  cases provider.currentClient with
  | some mux => rfl
  | none =>
      simp only [if_true]
      split
      · next created heq => rw [heq]
      · next created error heq => rw [heq]

theorem stepped (hstep : provider.step action = some next) :
    Stepped provider action next := by
  cases action with
  | replaceClient answers =>
      cases hstep
      rcases provider.createClient_cases answers with ⟨hok, hcreated⟩ |
        ⟨herror, hcreated⟩
      · exact .installed hok hcreated
      · exact .kept herror hcreated
  | getStream answers newStream =>
      simp only [step, getStream_fst, Option.some.injEq] at hstep
      subst hstep
      by_cases hnone : provider.currentClient = none
      · rw [if_pos hnone]
        rcases provider.createClient_cases answers with ⟨hok, hcreated⟩ |
          ⟨herror, hcreated⟩
        · exact .installed ⟨hnone, hok⟩ hcreated
        · exact .kept (fun hinstalls => herror hinstalls.2) hcreated
      · rw [if_neg hnone]
        exact .kept (fun hinstalls => hnone hinstalls.1) rfl
  | futureEnds mux =>
      simp only [step] at hstep
      split at hstep
      · next hrunning =>
          cases hstep
          exact .ended mux rfl hrunning rfl
      · cases hstep
  | taskFinishes mux =>
      simp only [step] at hstep
      split at hstep
      · next hended =>
          cases hstep
          exact .finished mux rfl hended rfl
      · cases hstep

/-- The slot holds the one multiplexor whose task is pending. -/
def Sole (provider : StreamProvider) : Prop :=
  ∀ mux, provider.Pending mux ↔ provider.currentClient = some mux

theorem sole_new (udpExtension : Bool) : (new udpExtension).Sole := by
  intro mux
  simp [Pending, new]

theorem Pending.lt {mux : Nat} (h : provider.Pending mux) :
    mux < provider.tasks.length := by
  rcases h with h | h
  · exact (List.getElem?_eq_some_iff.mp h).1
  · exact (List.getElem?_eq_some_iff.mp h).1

theorem pending_install (provider : StreamProvider) (mux : Nat) :
    provider.install.Pending mux ↔
      provider.Pending mux ∨ mux = provider.tasks.length := by
  unfold Pending install
  rcases Nat.lt_trichotomy mux provider.tasks.length with hlt | rfl | hgt
  · simp [List.getElem?_append_left hlt, Nat.ne_of_lt hlt]
  · simp
  · have hout : (provider.tasks ++ [MuxTask.running])[mux]? = none :=
      List.getElem?_eq_none (by simp; omega)
    have hold : provider.tasks[mux]? = none :=
      List.getElem?_eq_none (Nat.le_of_lt hgt)
    simp [hout, hold, Nat.ne_of_gt hgt]

/-- The future's end leaves the task pending. -/
theorem pending_set_ended {mux : Nat}
    (hrunning : provider.tasks[mux]? = some .running) (other : Nat) :
    Pending { provider with tasks := provider.tasks.set mux .ended } other ↔
      provider.Pending other := by
  unfold Pending
  have hlt := (List.getElem?_eq_some_iff.mp hrunning).1
  by_cases heq : mux = other
  · subst heq
    rw [hrunning, List.getElem?_set_self hlt]
    simp
  · simp [heq]

theorem pending_takeClient (provider : StreamProvider) (mux other : Nat) :
    (provider.takeClient mux).Pending other ↔
      provider.Pending other ∧ other ≠ mux := by
  unfold Pending takeClient
  by_cases heq : mux = other
  · subst heq
    simp [List.getElem?_set]
  · simp [heq, Ne.symm heq]

theorem Sole.step (h : provider.Sole) (hover : ¬ provider.InstallsOver action)
    (hstep : Stepped provider action next) : next.Sole := by
  intro mux
  cases hstep with
  | installed hinstalls hnext =>
      subst hnext
      have hnone : ¬ provider.Pending mux := by
        intro hpending
        exact hover ⟨hinstalls, mux, hpending⟩
      rw [pending_install]
      simp [hnone, install, eq_comm]
  | kept _ hnext =>
      subst hnext
      exact h mux
  | ended other _ hrunning hnext =>
      subst hnext
      rw [pending_set_ended hrunning]
      exact h mux
  | finished other _ hended hnext =>
      subst hnext
      have hheld : provider.currentClient = some other :=
        (h other).mp (.inr hended)
      rw [pending_takeClient, h mux, hheld]
      simp [takeClient, eq_comm]

theorem Sole.holdsNewest (h : provider.Sole) : provider.HoldsNewest := by
  intro mux _ hrunning
  exact (h mux).mp (.inl hrunning)

theorem Sole.evictsOwn (h : provider.Sole)
    (hstep : Stepped provider action next) :
    provider.EvictsOwn action next := by
  rintro mux held rfl hheld hnone
  cases hstep with
  | installed hinstalls => cases hinstalls
  | kept _ hnext =>
      rw [hnext, hheld] at hnone
      cases hnone
  | ended other haction => cases haction
  | finished other haction hended =>
      cases haction
      have howned := (h mux).mp (.inr hended)
      rw [hheld] at howned
      exact Option.some.inj howned

theorem keepsClient_of_meets {actions : List ProviderAction}
    (h : provider.Sole)
    (hover : machine.Meets
      (fun provider action => ¬ provider.InstallsOver action) provider actions)
    {last : StreamProvider}
    (hrun : machine.run provider actions = some last) :
    provider.KeepsClient actions := by
  apply machine.meets_of_invariant ?_ ?_ h hrun hover
  · intro s a t hs hguard hstep u hu
    obtain rfl : u = t := by
      rw [hstep] at hu
      exact (Option.some.inj hu).symm
    have hstepped := stepped hstep
    exact ⟨hs.evictsOwn hstepped, (hs.step hguard hstepped).holdsNewest⟩
  · intro s a t hs hguard hstep
    exact hs.step hguard (stepped hstep)

/-- A task finishes while the newest multiplexor, another one, runs. -/
theorem exists_evicted_of_ended {mux held : Nat}
    (hended : provider.tasks[mux]? = some .ended)
    (hheld : provider.currentClient = some held)
    (hnewest : provider.tasks.length = held + 1)
    (hrunning : provider.tasks[held]? = some .running) :
    ∃ last, machine.step provider (.taskFinishes mux) = some last ∧
      ¬ provider.EvictsOwn (.taskFinishes mux) last ∧
      ¬ last.HoldsNewest := by
  have hne : held ≠ mux := by
    rintro rfl
    rw [hrunning] at hended
    cases hended
  refine ⟨provider.takeClient mux, ?_, ?_, ?_⟩
  · simp only [machine, step, hended, if_true]
  · intro hevicts
    exact hne (hevicts mux held rfl hheld rfl)
  · intro hholds
    have hkept := hholds held
    simp only [takeClient, List.length_set, hnewest,
      List.getElem?_set_ne (Ne.symm hne), hrunning] at hkept
    cases hkept trivial trivial

/-- The pending task empties the slot under the new multiplexor. -/
theorem exists_not_keepsClient (hover : provider.InstallsOver action)
    (hstep : provider.step action = some next) :
    ∃ actions last, machine.run next actions = some last ∧
      ¬ next.KeepsClient actions ∧ ¬ last.HoldsNewest := by
  obtain ⟨hinstalls, mux, hpending⟩ := hover
  have hlt := hpending.lt
  obtain rfl : next = provider.install := by
    cases stepped hstep with
    | installed _ hnext => exact hnext
    | kept hnot => exact absurd hinstalls hnot
    | ended _ haction => rw [haction] at hinstalls; cases hinstalls
    | finished _ haction => rw [haction] at hinstalls; cases hinstalls
  have hnewest : provider.install.tasks.length = provider.tasks.length + 1 :=
    List.length_append
  have hrunning : provider.install.tasks[provider.tasks.length]? =
      some .running := List.getElem?_concat_length
  have hkept : provider.install.tasks[mux]? = provider.tasks[mux]? :=
    List.getElem?_append_left hlt
  rcases hpending with hfirst | hended
  · have hends : machine.step provider.install (.futureEnds mux) =
        some { provider.install with
          tasks := provider.install.tasks.set mux .ended } := by
      simp only [machine, step, hkept, hfirst, if_true]
    obtain ⟨last, hlast, hevicts, hholds⟩ := @exists_evicted_of_ended
      { provider.install with
        tasks := provider.install.tasks.set mux .ended } mux
      provider.tasks.length (List.getElem?_set_self (by omega)) rfl
      (by rw [List.length_set]; exact hnewest)
      (by rw [List.getElem?_set_ne (Nat.ne_of_lt hlt)]; exact hrunning)
    refine ⟨[.futureEnds mux, .taskFinishes mux], last, ?_, ?_, hholds⟩
    · simp only [Machine.run_cons, hends, hlast, Option.bind_some,
        Machine.run_nil]
    · rintro ⟨-, hrest⟩
      exact hevicts ((hrest _ hends).1 last hlast).1
  · obtain ⟨last, hlast, hevicts, hholds⟩ := exists_evicted_of_ended
      (hkept.trans hended) rfl hnewest hrunning
    refine ⟨[.taskFinishes mux], last, ?_, ?_, hholds⟩
    · simp only [Machine.run_cons, hlast, Option.bind_some, Machine.run_nil]
    · rintro ⟨hfirst, -⟩
      exact hevicts (hfirst last hlast).1

/-- Over every run in which no multiplexor is installed while the task of an
earlier one is pending, a multiplexor leaves the slot only by its own end; and
an installation over a pending task can be followed by an eviction of the
running newest multiplexor. -/
theorem keepsClient_only_without_installing_over (udpExtension : Bool) :
    (∀ actions last, machine.run (new udpExtension) actions = some last →
      machine.Meets (fun provider action => ¬ provider.InstallsOver action)
        (new udpExtension) actions →
      (new udpExtension).KeepsClient actions) ∧
    ∀ provider action next, machine.Reachable (new udpExtension) provider →
      provider.InstallsOver action → provider.step action = some next →
      ∃ actions last, machine.run next actions = some last ∧
        ¬ next.KeepsClient actions ∧ ¬ last.HoldsNewest := by
  constructor
  · intro actions last hrun hover
    exact keepsClient_of_meets (sole_new udpExtension) hover hrun
  · intro provider action next _ hover hstep
    exact exists_not_keepsClient hover hstep

/-- Every wait ends well. -/
def connects : CreateAnswers := ⟨.ok (), .ok (), .ok ()⟩

/-- The multiplexor is replaced, and then the connection of the first one
ends. -/
theorem not_keepsClient_of_replaced :
    ¬ (new false).KeepsClient
        [.getStream connects (.ok 0), .replaceClient connects,
          .futureEnds 0, .taskFinishes 0] ∧
      ∃ last, machine.run (new false)
          [.getStream connects (.ok 0), .replaceClient connects,
            .futureEnds 0, .taskFinishes 0] = some last ∧
        ¬ last.HoldsNewest := by
  constructor
  · intro hkeeps
    have hlast := (((hkeeps.2 _ rfl).2 _ rfl).2 _ rfl).1 _ rfl
    have hheld := hlast.1 0 1 rfl rfl rfl
    cases hheld
  · refine ⟨_, rfl, ?_⟩
    intro hholds
    have hheld := hholds 1 rfl rfl
    cases hheld

end StreamProvider

end Epoxy
