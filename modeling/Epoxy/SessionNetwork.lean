/-
Two programs that talk to each other over a reliable transport.  A session is
a program that sends, receives and ends; a network is two of them with the
messages in flight.  A step of one side never disturbs a step of the other, so
that all schedules of a network agree on how it ends.
-/
import Epoxy.ActionMachine

namespace SessionNetwork

open ActionMachine

variable {M A I R R' : Type}

/-- A program that sends messages in `M`, is answered in `A` when it does,
and receives inputs in `I`. -/
inductive Session (M A I R : Type) where
  | ret (result : R)
  | send (message : M) (next : A → Session M A I R)
  | recv (next : I → Session M A I R)

namespace Session

/-- Run the second session on the result of the first. -/
protected def bind : Session M A I R → (R → Session M A I R') →
    Session M A I R'
  | .ret result, rest => rest result
  | .send message next, rest => .send message fun a => (next a).bind rest
  | .recv next, rest => .recv fun i => (next i).bind rest

theorem bind_assoc {R'' : Type} (first : Session M A I R)
    (second : R → Session M A I R') (third : R' → Session M A I R'') :
    (first.bind second).bind third =
      first.bind fun result => (second result).bind third := by
  induction first with
  | ret result => rfl
  | send message next ih => simp only [Session.bind, ih]
  | recv next ih => simp only [Session.bind, ih]

/-- The session can end with this result once it has received the inputs,
whatever its sends were answered. -/
inductive Ends : Session M A I R → List I → R → Prop where
  | ret (result : R) : Ends (.ret result) [] result
  | send {message : M} {next : A → Session M A I R} {inputs : List I}
      {result : R} (a : A) (hrest : Ends (next a) inputs result) :
      Ends (.send message next) inputs result
  | recv {next : I → Session M A I R} {i : I} {inputs : List I} {result : R}
      (hrest : Ends (next i) inputs result) :
      Ends (.recv next) (i :: inputs) result

@[simp] theorem ends_ret {result result' : R} {inputs : List I} :
    Ends (.ret result : Session M A I R) inputs result' ↔
      inputs = [] ∧ result' = result := by
  constructor
  · rintro ⟨⟩
    exact ⟨rfl, rfl⟩
  · rintro ⟨rfl, rfl⟩
    exact .ret result'

theorem Ends.of_send {message : M} {next : A → Session M A I R}
    {inputs : List I} {result : R} (h : Ends (.send message next) inputs result) :
    ∃ a, Ends (next a) inputs result := by
  rcases h with _ | ⟨a, hrest⟩
  exact ⟨a, hrest⟩

theorem Ends.of_recv {next : I → Session M A I R} {inputs : List I}
    {result : R} (h : Ends (.recv next) inputs result) :
    ∃ i after, inputs = i :: after ∧ Ends (next i) after result := by
  rcases h with _ | _ | hrest
  exact ⟨_, _, rfl, hrest⟩

/-- What a composed session ended with came from the first part. -/
theorem Ends.of_bind {first : Session M A I R} {rest : R → Session M A I R'}
    {inputs : List I} {result : R'} (h : Ends (first.bind rest) inputs result) :
    ∃ before mid after, inputs = before ++ after ∧ Ends first before mid ∧
      Ends (rest mid) after result := by
  induction first generalizing inputs with
  | ret mid => exact ⟨[], mid, inputs, rfl, .ret mid, h⟩
  | send message next ih =>
      obtain ⟨a, hrest⟩ := h.of_send
      obtain ⟨before, mid, after, hsplit, hfirst, hlast⟩ := ih a hrest
      exact ⟨before, mid, after, hsplit, .send a hfirst, hlast⟩
  | recv next ih =>
      obtain ⟨i, received, rfl, hrest⟩ := h.of_recv
      obtain ⟨before, mid, after, rfl, hfirst, hlast⟩ := ih i hrest
      exact ⟨i :: before, mid, after, rfl, .recv hfirst, hlast⟩

end Session

/-- How a reliable transport answers a send, and as what a message arrives. -/
structure Transport (M A I : Type) where
  ack : A
  carry : M → I

/-- Both sides with what they have yet to do, and the messages in flight. -/
structure Network (M A I R R' : Type) where
  left : Session M A I R
  right : Session M A I R'
  toLeft : List M
  toRight : List M

inductive Side where
  | left
  | right
deriving Repr, DecidableEq

namespace Network

/-- Both sides at their beginning, and nothing in flight. -/
def start (left : Session M A I R) (right : Session M A I R') :
    Network M A I R R' :=
  ⟨left, right, [], []⟩

/-- A side that has ended, or that waits for a message, makes no step. -/
def step (transport : Transport M A I) (net : Network M A I R R') :
    Side → Option (Network M A I R R')
  | .left =>
      match net.left, net.toLeft with
      | .ret _, _ => none
      | .send message next, _ =>
          some { net with
            left := next transport.ack
            toRight := net.toRight ++ [message] }
      | .recv _, [] => none
      | .recv next, message :: rest =>
          some { net with
            left := next (transport.carry message), toLeft := rest }
  | .right =>
      match net.right, net.toRight with
      | .ret _, _ => none
      | .send message next, _ =>
          some { net with
            right := next transport.ack
            toLeft := net.toLeft ++ [message] }
      | .recv _, [] => none
      | .recv next, message :: rest =>
          some { net with
            right := next (transport.carry message), toRight := rest }

def machine (transport : Transport M A I) :
    Machine (Network M A I R R') Side :=
  ⟨step transport⟩

variable {transport : Transport M A I} {net net' final : Network M A I R R'}

/-- The steps of the two sides commute. -/
theorem step_comm {u : Network M A I R R'}
    (hleft : step transport net .left = some net')
    (hright : step transport net .right = some u) :
    ∃ v, step transport net' .right = some v ∧
      step transport u .left = some v := by
  rcases net with ⟨_ | ⟨_, nextLeft⟩ | nextLeft, right, toLeft, toRight⟩
  · cases hleft
  · cases hleft
    rcases right with _ | ⟨_, nextRight⟩ | nextRight
    · cases hright
    · cases hright
      exact ⟨_, rfl, rfl⟩
    · cases toRight with
      | nil => cases hright
      | cons message rest =>
          cases hright
          exact ⟨_, rfl, rfl⟩
  · cases toLeft with
    | nil => cases hleft
    | cons first others =>
        cases hleft
        rcases right with _ | ⟨_, nextRight⟩ | nextRight
        · cases hright
        · cases hright
          exact ⟨_, rfl, rfl⟩
        · cases toRight with
          | nil => cases hright
          | cons message rest =>
              cases hright
              exact ⟨_, rfl, rfl⟩

theorem diamond :
    (machine transport : Machine (Network M A I R R') Side).Diamond := by
  intro net a b t u hab hfirst hsecond
  cases a with
  | left =>
      cases b with
      | left => exact absurd rfl hab
      | right => exact step_comm hfirst hsecond
  | right =>
      cases b with
      | left =>
          obtain ⟨v, ht, hu⟩ := step_comm hsecond hfirst
          exact ⟨v, hu, ht⟩
      | right => exact absurd rfl hab

theorem terminal_of_ret {result : R} {result' : R'} {toLeft toRight : List M} :
    (machine transport).Terminal
      (⟨.ret result, .ret result', toLeft, toRight⟩ :
        Network M A I R R') := by
  intro side
  cases side <;> rfl

/-- A side that has ended keeps its result. -/
theorem left_of_step {side : Side} {result : R}
    (hresult : net.left = .ret result)
    (hstep : step transport net side = some net') :
    net'.left = .ret result := by
  rcases net with ⟨left, right, toLeft, toRight⟩
  obtain rfl : left = .ret result := hresult
  cases side with
  | left => cases hstep
  | right =>
      rcases right with _ | ⟨_, next⟩ | next
      · cases hstep
      · cases hstep
        rfl
      · cases toRight with
        | nil => cases hstep
        | cons message rest =>
            cases hstep
            rfl

theorem right_of_step {side : Side} {result : R'}
    (hresult : net.right = .ret result)
    (hstep : step transport net side = some net') :
    net'.right = .ret result := by
  rcases net with ⟨left, right, toLeft, toRight⟩
  obtain rfl : right = .ret result := hresult
  cases side with
  | right => cases hstep
  | left =>
      rcases left with _ | ⟨_, next⟩ | next
      · cases hstep
      · cases hstep
        rfl
      · cases toLeft with
        | nil => cases hstep
        | cons message rest =>
            cases hstep
            rfl

/-- The network can run from `net` to `final`. -/
def Leads (transport : Transport M A I) (net final : Network M A I R R') :
    Prop :=
  (machine transport).Reachable net final

theorem Leads.left {result : R} (hleads : Leads transport net final)
    (hresult : net.left = .ret result) : final.left = .ret result := by
  have hkept : ∀ (s : Network M A I R R') side t, s.left = .ret result →
      (machine transport).step s side = some t → t.left = .ret result :=
    fun _ _ _ hleft hstep => left_of_step hleft hstep
  exact hleads.invariant hkept hresult

theorem Leads.right {result : R'} (hleads : Leads transport net final)
    (hresult : net.right = .ret result) : final.right = .ret result := by
  have hkept : ∀ (s : Network M A I R R') side t, s.right = .ret result →
      (machine transport).step s side = some t → t.right = .ret result :=
    fun _ _ _ hright hstep => right_of_step hright hstep
  exact hleads.invariant hkept hresult

/-- A step on the way does not change where the network ends. -/
theorem Leads.step {side : Side} (hleads : Leads transport net final)
    (hend : (machine transport).Terminal final)
    (hstep : Network.step transport net side = some net') :
    Leads transport net' final := by
  obtain ⟨actions, hrun⟩ := hleads
  obtain ⟨rest, hrest, -⟩ := diamond.run_of_step hend hrun hstep
  exact ⟨rest, hrest⟩

end Network

end SessionNetwork
