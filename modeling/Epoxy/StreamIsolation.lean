/-
Whether the streams of a server stay apart.  The client chooses the ids, and
the server's handles name their streams by id only, so that streams are kept
apart exactly as long as the client keeps its ids apart.
-/
import Epoxy.MuxEndpoint

namespace Epoxy

open ActionMachine ByteCursor KeyDirectory PollChannel

/-- The step kept the streams apart: the control id has no entry, every entry
is under its own id, and neither a connect nor the close of one stream touches
another open stream. -/
structure Isolates (endpoint : Endpoint) (action : EndpointAction)
    (next : Endpoint) : Prop where
  control : next.world.mux.streams.lookup 0 = none
  keyed : ∀ id number, next.world.mux.streams.lookup id = some number →
    ∃ s, next.world.mux.heap[number]? = some s ∧ s.info.id = id
  connect : ∀ id connect send number,
    action = .mux (.event (.wispMessage ⟨id, .connect connect⟩) send) →
    endpoint.world.mux.streams.lookup id = some number →
    next.world.mux.streams.lookup id = some number ∧
      next.world.mux.heap[number]? = endpoint.world.mux.heap[number]?
  close : ∀ stream close channel send,
    action = .close stream close channel send →
    ∀ id number, number ≠ stream →
      endpoint.world.mux.streams.lookup id = some number →
      next.world.mux.streams.lookup id = some number ∧
        next.world.mux.heap[number]? = endpoint.world.mux.heap[number]?

/-- Every step of a run that starts here keeps the streams apart. -/
def StaysIsolated (endpoint : Endpoint) (actions : List EndpointAction) :
    Prop :=
  Endpoint.machine.Meets (fun endpoint action =>
    ∀ next, Endpoint.machine.step endpoint action = some next →
      Isolates endpoint action next) endpoint actions

/-- The client keeps its ids apart: it connects with an id that is not the
control id and not in use, and a stream is closed by a handle only while no
later stream with its id is open. -/
def KeepsIdsApart (endpoint : Endpoint) : EndpointAction → Prop
  | .mux (.event (.wispMessage ⟨id, .connect _⟩) _) =>
      id ≠ 0 ∧ endpoint.world.mux.streams.lookup id = none
  | .close stream _ _ _ =>
      ∀ s, endpoint.world.mux.heap[stream]? = some s →
        ∀ number, stream < number →
          endpoint.world.mux.streams.lookup s.info.id ≠ some number
  | _ => True

/-- What holds of the directory as long as the streams are kept apart. -/
structure ApartInv (endpoint : Endpoint) : Prop where
  control : endpoint.world.mux.streams.lookup 0 = none
  keyed : endpoint.world.mux.directory.Keyed
  latest : endpoint.world.mux.directory.Latest

namespace ApartInv

theorem init (actor : Actor) (flowStreamTypes : List UInt8)
    (bufferSize : UInt32) :
    ApartInv (.init (.new actor flowStreamTypes bufferSize)) where
  control := rfl
  keyed := by
    change (MuxInner.new actor flowStreamTypes bufferSize).directory.Keyed
    rw [MuxInner.directory_new]
    exact Directory.keyed_empty
  latest := by
    change (MuxInner.new actor flowStreamTypes bufferSize).directory.Latest
    rw [MuxInner.directory_new]
    exact Directory.latest_empty

/-- Only the control id needs care. -/
theorem step {endpoint next : Endpoint} {action : EndpointAction}
    (h : ApartInv endpoint) (hstep : endpoint.step action = some next)
    (hcontrol : endpoint.directoryMove action ≠ .add 0) : ApartInv next where
  control := by
    have hdirectory := Endpoint.directory_step hstep
    cases hfind : next.world.mux.streams.lookup 0 with
    | none => rfl
    | some number =>
        have hmoved : (endpoint.world.mux.directory.move
            (endpoint.directoryMove action)).find 0 = some number := by
          rw [← hdirectory]
          exact hfind
        rcases Directory.find_move hmoved with hold | ⟨hadd, -⟩
        · rw [← h.control]
          exact hold.symm
        · exact (hcontrol hadd).elim
  keyed := by
    rw [Endpoint.directory_step hstep]
    exact h.keyed.move _
  latest := by
    rw [Endpoint.directory_step hstep]
    exact h.latest.move _

end ApartInv

/-- The directory after a connect packet. -/
theorem directoryMove_connect (endpoint : Endpoint) (id : UInt32)
    (connect : ConnectPacket) (send : SendAnswer) :
    endpoint.directoryMove
      (.mux (.event (.wispMessage ⟨id, .connect connect⟩) send)) =
        .add id := rfl

/-- Only a connect packet can add the control id. -/
theorem ne_control_of_keepsIdsApart {endpoint next : Endpoint}
    {action : EndpointAction} (hapart : KeepsIdsApart endpoint action)
    (hstep : endpoint.step action = some next) :
    endpoint.directoryMove action ≠ .add 0 := by
  cases action with
  | close stream close channel send =>
      obtain ⟨s, -, -, -, -, hmove⟩ := Endpoint.step_close hstep
      rw [hmove]
      nofun
  | pollWrite stream write buf sink => nofun
  | send stream packetType data answer => nofun
  | mux action =>
      change endpoint.world.directoryMove action ≠ .add 0
      cases action with
      | event event send =>
          simp only [MuxWorld.directoryMove]
          unfold MuxInner.eventMove
          split
          · split
            · next hlt =>
                intro hadd
                have hid := congrArg UInt32.toNat (Move.add.inj hadd)
                rw [UInt32.toNat_add] at hid
                change (_ + 1) % 2 ^ 32 = 0 at hid
                omega
            · nofun
          · nofun
          · next id connect =>
              intro hadd
              exact hapart.1 (Move.add.inj hadd)
          · split
            · nofun
            · nofun
          · nofun
          · nofun
      | finish => nofun
      | pollNext stream sink => nofun
      | pollReady stream cx sink => nofun
      | startSend stream item => nofun
      | pollFlush stream sink => nofun
      | dropRead stream => nofun

theorem isolates_of_keepsIdsApart {endpoint next : Endpoint}
    {action : EndpointAction} (h : ApartInv endpoint)
    (hapart : KeepsIdsApart endpoint action)
    (hstep : endpoint.step action = some next) :
    Isolates endpoint action next := by
  have hnext := h.step hstep (ne_control_of_keepsIdsApart hapart hstep)
  refine ⟨hnext.control, ?_, ?_, ?_⟩
  · intro id number hfind
    have hkey := hnext.keyed id number hfind
    simp only [MuxInner.directory, List.getElem?_map,
      Option.map_eq_some_iff] at hkey
    exact hkey
  · rintro id connect send number rfl hfind
    rw [hapart.2] at hfind
    cases hfind
  · rintro stream close channel send rfl id number hne hfind
    obtain ⟨s, -, hs, -, hmux, hmove⟩ := Endpoint.step_close hstep
    have hkey : endpoint.world.mux.directory.keys[stream]? =
        some s.info.id := by
      simp [MuxInner.directory, hs]
    have hid : id ≠ s.info.id := by
      rintro rfl
      rcases Nat.lt_or_gt_of_ne hne with hlt | hgt
      · exact h.latest _ number hfind stream hlt hkey
      · exact hapart s hs number hgt hfind
    constructor
    · have hdirectory := Endpoint.directory_step hstep
      rw [hmove] at hdirectory
      have hfound := congrFun (congrArg Directory.find hdirectory) id
      simp only [Directory.move, Function.update_of_ne hid] at hfound
      exact hfound.trans hfind
    · rw [hmux]
      refine MuxInner.getElem?_heap_handleClose close channel send ?_
      exact fun hother => hid (h.keyed.key_unique hfind hother)

theorem keepsIdsApart_of_isolates {endpoint next : Endpoint}
    {action : EndpointAction} (h : ApartInv endpoint)
    (hstep : endpoint.step action = some next)
    (hisolates : Isolates endpoint action next) :
    KeepsIdsApart endpoint action := by
  have hdirectory := Endpoint.directory_step hstep
  unfold KeepsIdsApart
  split
  · next id connect send =>
      rw [directoryMove_connect] at hdirectory
      have hadded : next.world.mux.streams.lookup id =
          some endpoint.world.mux.directory.keys.length := by
        have hfound := congrFun (congrArg Directory.find hdirectory) id
        simp only [Directory.move, Function.update_self] at hfound
        exact hfound
      constructor
      · rintro rfl
        rw [hisolates.control] at hadded
        cases hadded
      · cases hfind : endpoint.world.mux.streams.lookup id with
        | none => rfl
        | some number =>
            have hkept := (hisolates.connect id connect send number rfl
              hfind).1
            obtain rfl := Option.some.inj (hadded.symm.trans hkept)
            have hkey := h.keyed id _ hfind
            simp at hkey
  · next stream close channel send =>
      intro s hs number hlater hfind
      obtain ⟨t, -, ht, -, -, hmove⟩ := Endpoint.step_close hstep
      obtain rfl := Option.some.inj (hs.symm.trans ht)
      rw [hmove] at hdirectory
      have hkept := (hisolates.close stream close channel send rfl s.info.id
        number (Nat.ne_of_gt hlater) hfind).1
      have hfound := congrFun (congrArg Directory.find hdirectory) s.info.id
      simp only [Directory.move, Function.update_self] at hfound
      rw [show next.world.mux.directory.find s.info.id =
        some number from hkept] at hfound
      cases hfound
  · trivial

/-- The streams of a server stay apart in a run exactly if the client keeps
its ids apart. -/
theorem staysIsolated_iff (streamTx : Channel (ConnectPacket × Nat))
    (flowStreamTypes : List UInt8) (bufferSize : UInt32)
    {actions : List EndpointAction} {endpoint : Endpoint}
    (hrun : Endpoint.machine.run
      (.init (.new (.server streamTx) flowStreamTypes bufferSize)) actions =
        some endpoint) :
    StaysIsolated (.init (.new (.server streamTx) flowStreamTypes bufferSize))
        actions ↔
      Endpoint.machine.Meets KeepsIdsApart
        (.init (.new (.server streamTx) flowStreamTypes bufferSize))
        actions := by
  have hiff : ∀ s action t, ApartInv s →
      Endpoint.machine.step s action = some t →
      ((∀ next, Endpoint.machine.step s action = some next →
        Isolates s action next) ↔ KeepsIdsApart s action) := by
    intro s action t hs hstep
    constructor
    · intro hisolates
      exact keepsIdsApart_of_isolates hs hstep (hisolates t hstep)
    · intro hapart next hnext
      exact isolates_of_keepsIdsApart hs hapart hnext
  have hinv : ∀ s action t, ApartInv s → KeepsIdsApart s action →
      Endpoint.machine.step s action = some t → ApartInv t := by
    intro s action t hs hapart hstep
    exact hs.step hstep (ne_control_of_keepsIdsApart hapart hstep)
  exact Endpoint.machine.meets_iff_of_invariant hiff hinv
    (ApartInv.init (.server streamTx) flowStreamTypes bufferSize) hrun

/-- A server that nobody has connected to, with a buffer of one packet. -/
def quietServer : Endpoint := .init (.new (.server .unbounded) [0x01] 1)

/-- The client sends a packet. -/
def received (packet : Packet) : EndpointAction :=
  .mux (.event (.wispMessage packet) ⟨false, .error .wsImplSocketClosed,
    SendAnswer.taken_of_error⟩)

/-- The client opens a stream with this id. -/
def connected (id : UInt32) : EndpointAction :=
  received ⟨id, .connect ⟨.tcp, "a", 80⟩⟩

/-- A handle of this stream closes it, and the packet goes out. -/
def closedBy (stream : Nat) : EndpointAction :=
  .close stream ⟨.voluntary⟩ 0 ⟨true, .ok (), fun _ => rfl⟩

theorem staysIsolated_of_two_streams :
    StaysIsolated quietServer [connected 1, connected 2, closedBy 0] := by
  obtain ⟨endpoint, hrun⟩ : ∃ endpoint, Endpoint.machine.run quietServer
      [connected 1, connected 2, closedBy 0] = some endpoint := ⟨_, rfl⟩
  refine (staysIsolated_iff _ _ _ hrun).mpr ?_
  refine .cons ⟨by decide, rfl⟩ rfl (.cons ⟨by decide, rfl⟩ rfl
    (.cons ?_ rfl trivial))
  intro s hs number hlater hfind
  obtain rfl := Option.some.inj hs
  have hfirst : some 0 = some number := hfind
  cases hfirst
  exact Nat.lt_irrefl 0 hlater

/-- The control id gets an entry, an open stream is replaced, and the handle
of a stream that is gone closes the one that has its id now. -/
theorem not_staysIsolated_of_reused_ids :
    ¬ StaysIsolated quietServer [connected 0] ∧
      ¬ StaysIsolated quietServer [connected 1, connected 1] ∧
      ¬ StaysIsolated quietServer
        [connected 1, received ⟨1, .close ⟨.voluntary⟩⟩, connected 1,
          closedBy 0] := by
  refine ⟨?_, ?_, ?_⟩
  · rintro ⟨hisolates, -⟩
    have hcontrol := (hisolates _ rfl).control
    revert hcontrol
    decide
  · rintro ⟨-, hrest⟩
    have hisolates := (hrest _ rfl).1 _ rfl
    have hkept := (hisolates.connect 1 _ _ 0 rfl rfl).1
    revert hkept
    decide
  · rintro ⟨-, hrest⟩
    have hlast := ((((hrest _ rfl).2 _ rfl).2 _ rfl).1) _ rfl
    have hkept := (hlast.close 0 _ _ _ rfl 1 1 (by decide) rfl).1
    revert hkept
    decide

end Epoxy
