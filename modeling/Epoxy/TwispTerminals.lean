/-
The terminals of one Wisp connection and the map by which they are resized.
Every terminal records itself under its stream id and removes that id again,
whatever the map has for it by then.
-/
import Epoxy.TaskWorld
import Epoxy.Twisp

namespace Epoxy

open ActionMachine TaskWorld

/-- Where `handle_twisp` stands: it waits for the map to record the terminal,
copies, or waits for the map again. -/
inductive TerminalPhase where
  | inserting
  | running
  | removing
  | finished
deriving Repr, DecidableEq

structure Terminal where
  id : UInt32
  phase : TerminalPhase
deriving Repr, DecidableEq

namespace Terminal

inductive Action where
  | insert
  | ended
  | remove
deriving Repr, DecidableEq

/-- A step of the terminal `pty`; `none` where it is somewhere else. -/
def step (pty : Nat) (action : Action)
    (extension : TWispServerProtocolExtension) (terminal : Terminal) :
    Option (TWispServerProtocolExtension × Terminal) :=
  match terminal.phase, action with
  | .inserting, .insert =>
      some ({ extension with map := extension.map.insert terminal.id pty },
        { terminal with phase := .running })
  | .running, .ended => some (extension, { terminal with phase := .removing })
  | .removing, .remove =>
      some ({ extension with map := extension.map.erase terminal.id },
        { terminal with phase := .finished })
  | _, _ => none

end Terminal

/-- The map and the terminals of a connection. -/
abbrev TwispWorld := World Nat TWispServerProtocolExtension Terminal

namespace TwispWorld

inductive Action where
  | opened (pty : Nat) (id : UInt32)
  | task (pty : Nat) (action : Terminal.Action)
  | resize (id : UInt32) (row col : UInt16)

def init : TwispWorld := World.init ⟨∅, []⟩

/-- The number of a terminal is not drawn again. -/
def move : Action → Move Nat TWispServerProtocolExtension Terminal
  | .opened pty id => .spawn pty ⟨id, .inserting⟩
  | .task pty action => .own pty (Terminal.step pty action)
  | .resize id row col =>
      .change fun extension => extension.setTermSize id row col

def machine : Machine TwispWorld Action := World.machine move

/-- A resize for the stream of a running terminal reaches that terminal. -/
def Served (world : TwispWorld) : Prop :=
  ∀ pty terminal, world.tasks pty = some terminal →
    terminal.phase = .running → ∀ row col,
      (world.shared.setTermSize terminal.id row col).resized =
        world.shared.resized ++ [(pty, row, col)]

/-- A terminal is recorded, and removed, while no other one runs under its
stream id. -/
def OwnId (world : TwispWorld) : Action → Prop
  | .task pty .insert | .task pty .remove =>
      ∀ terminal, world.tasks pty = some terminal → ∀ other found,
        other ≠ pty → world.tasks other = some found →
        found.phase = .running → found.id ≠ terminal.id
  | _ => True

/-- Every running terminal is what the map has for its stream id. -/
def Tracked (world : TwispWorld) : Prop :=
  world.Ties fun extension pty terminal =>
    ∀ found, terminal = some found → found.phase = .running →
      extension.map.lookup found.id = some pty

variable {world next : TwispWorld} {action : Action}

theorem resized_setTermSize {extension : TWispServerProtocolExtension}
    {id : UInt32} {row col : UInt16} {pty : Nat} :
    (extension.setTermSize id row col).resized =
        extension.resized ++ [(pty, row, col)] ↔
      extension.map.lookup id = some pty := by
  unfold TWispServerProtocolExtension.setTermSize
  cases hlookup : extension.map.lookup id with
  | none => simp
  | some found => simp [eq_comm]

theorem served_iff : Served world ↔ Tracked world := by
  constructor
  · rintro h pty found hfound hrunning
    exact resized_setTermSize.mp (h pty found hfound hrunning 0 0)
  · intro h pty terminal hterminal hrunning row col
    exact resized_setTermSize.mpr (h pty terminal hterminal hrunning)

theorem tracked_init : Tracked init := by
  intro pty found hfound
  cases hfound

theorem map_setTermSize (extension : TWispServerProtocolExtension)
    (id : UInt32) (row col : UInt16) :
    (extension.setTermSize id row col).map = extension.map := by
  unfold TWispServerProtocolExtension.setTermSize
  cases extension.map.lookup id with
  | none => rfl
  | some found => rfl

/-- What the steps of a terminal are. -/
theorem step_cases {pty : Nat} {act : Terminal.Action}
    {extension extension' : TWispServerProtocolExtension}
    {terminal terminal' : Terminal}
    (hstep : Terminal.step pty act extension terminal =
      some (extension', terminal')) :
    act = .insert ∧ terminal' = { terminal with phase := .running } ∧
        extension' =
          { extension with map := extension.map.insert terminal.id pty } ∨
      act = .ended ∧ terminal' = { terminal with phase := .removing } ∧
        extension' = extension ∨
      act = .remove ∧ terminal' = { terminal with phase := .finished } ∧
        extension' =
          { extension with map := extension.map.erase terminal.id } := by
  obtain ⟨id, phase⟩ := terminal
  cases phase with
  | inserting =>
      cases act with
      | insert =>
          cases hstep
          exact .inl ⟨rfl, rfl, rfl⟩
      | ended | remove => cases hstep
  | running =>
      cases act with
      | ended =>
          cases hstep
          exact .inr (.inl ⟨rfl, rfl, rfl⟩)
      | insert | remove => cases hstep
  | removing =>
      cases act with
      | remove =>
          cases hstep
          exact .inr (.inr ⟨rfl, rfl, rfl⟩)
      | insert | ended => cases hstep
  | finished => cases act <;> cases hstep

theorem Tracked.step (h : Tracked world) (hown : OwnId world action)
    (hstep : machine.step world action = some next) : Tracked next := by
  cases action with
  | opened pty id =>
      refine World.Ties.spawn h (fun _ found hfound hrunning => ?_) hstep
      cases hfound
      cases hrunning
  | resize id row col =>
      have hchange : World.move world (.change fun extension =>
          extension.setTermSize id row col) = some next := hstep
      refine World.Ties.change h (fun pty task hties found hfound hrunning =>
        ?_) hchange
      rw [map_setTermSize]
      exact hties found hfound hrunning
  | task pty act =>
      refine World.Ties.own h ?_ hstep
      intro terminal extension terminal' hterminal hresult hties
      rcases step_cases hresult with ⟨rfl, rfl, rfl⟩ | ⟨rfl, rfl, rfl⟩ |
        ⟨rfl, rfl, rfl⟩
      · refine ⟨fun found hfound _ => ?_, fun other hother hties found hfound
          hrunning => ?_⟩
        · cases hfound
          exact AList.lookup_insert _
        · rw [AList.lookup_insert_ne
            (hown terminal hterminal other found hother hfound hrunning)]
          exact hties found hfound hrunning
      · refine ⟨fun found hfound hrunning => ?_, fun _ _ hties => hties⟩
        cases hfound
        cases hrunning
      · refine ⟨fun found hfound hrunning => ?_, fun other hother hties found
          hfound hrunning => ?_⟩
        · cases hfound
          cases hrunning
        · rw [AList.lookup_erase_ne
            (hown terminal hterminal other found hother hfound hrunning)]
          exact hties found hfound hrunning

/-- The step that breaks the guard takes the entry of a terminal that goes
on running. -/
theorem not_tracked_of_not_ownId (hown : ¬ OwnId world action)
    (hstep : machine.step world action = some next) : ¬ Tracked next := by
  cases action with
  | opened | resize => exact absurd trivial hown
  | task pty act =>
      obtain ⟨terminal, extension, terminal', hterminal, hresult, rfl⟩ :=
        World.move_own hstep
      have hother : (∃ other found, other ≠ pty ∧
          world.tasks other = some found ∧ found.phase = .running ∧
          found.id = terminal.id) ∧ act ≠ .ended := by
        cases act with
        | ended => exact absurd trivial hown
        | insert | remove =>
            simp only [OwnId, not_forall, not_not] at hown
            obtain ⟨same, hsame, other, found, hne, hfound, hrunning, hid⟩ :=
              hown
            obtain rfl := Option.some.inj (hterminal.symm.trans hsame)
            exact ⟨⟨other, found, hne, hfound, hrunning, hid⟩, by simp⟩
      obtain ⟨⟨other, found, hne, hfound, hrunning, hid⟩, hact⟩ := hother
      intro htracked
      have hlookup := htracked other found
        (by rwa [World.tasks_put_of_ne _ _ hne]) hrunning
      rw [World.shared_put, hid] at hlookup
      rcases step_cases hresult with ⟨rfl, rfl, rfl⟩ | ⟨rfl, rfl, rfl⟩ |
        ⟨rfl, rfl, rfl⟩
      · rw [AList.lookup_insert] at hlookup
        exact hne (Option.some.inj hlookup).symm
      · exact hact rfl
      · rw [AList.lookup_erase] at hlookup
        cases hlookup

/-- Resizes reach their terminals all along a run exactly if no terminal is
recorded or removed over another one that runs under its stream id. -/
theorem served_run_iff {actions : List Action}
    (hrun : machine.run init actions = some world) :
    machine.Meets (fun world action => ∀ next,
        machine.step world action = some next → Served next) init actions ↔
      machine.Meets OwnId init actions :=
  machine.meets_iff_of_invariant
    (fun s action next hs hstep => ⟨fun hserved => by
      by_contra hown
      exact not_tracked_of_not_ownId hown hstep
        (served_iff.mp (hserved next hstep)),
      fun hown other hother => served_iff.mpr
        (Tracked.step hs hown hother)⟩)
    (fun _ _ _ hs hown hstep => Tracked.step hs hown hstep)
    tracked_init hrun

section Example

/-- A terminal is removed after its stream id was used again. -/
def reused : List Action :=
  [.opened 0 5, .task 0 .insert, .task 0 .ended, .opened 1 5,
    .task 1 .insert, .resize 5 24 80, .task 0 .remove]

/-- The second terminal can no longer be resized. -/
theorem not_served_of_reused :
    ∃ world, machine.run init reused = some world ∧
      ¬ machine.Meets (fun world action => ∀ next,
          machine.step world action = some next → Served next)
        init reused := by
  refine ⟨_, rfl, fun h => ?_⟩
  have hown := (served_run_iff rfl).mp h
  have hlast := ((((((hown.2 _ rfl).2 _ rfl).2 _ rfl).2 _ rfl).2 _ rfl).2 _
    rfl).1
  exact hlast _ rfl 1 _ (by decide) rfl rfl rfl

end Example

end TwispWorld

end Epoxy
