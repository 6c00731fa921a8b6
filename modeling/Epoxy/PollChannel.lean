/-
Polled message channels, as `flume` documents its own.  A channel has one
queue, with a capacity if it is bounded, and knows whether a sender and the
receiver are still alive.  A send that does not wait fails once the receiver is
gone, and while the queue is full; what is queued can be received after the
last sender is gone, and only then the channel ends.  A receiver that waits at
an empty queue is handed the next message whatever the capacity, which is how
a channel of capacity zero is a rendezvous.
-/
import Mathlib.Data.List.Basic

namespace PollChannel

universe u

/-- The answer of one poll. -/
inductive Poll (α : Type u) where
  | ready (value : α)
  | pending
deriving Repr, DecidableEq

protected def Poll.map {α β : Type u} (f : α → β) : Poll α → Poll β
  | .ready value => .ready (f value)
  | .pending => .pending

def Poll.isPending {α : Type u} : Poll α → Bool
  | .ready _ => false
  | .pending => true

@[simp] theorem Poll.isPending_ready {α : Type u} (value : α) :
    (Poll.ready value).isPending = false := rfl

@[simp] theorem Poll.isPending_pending {α : Type u} :
    (Poll.pending : Poll α).isPending = true := rfl

theorem Poll.isPending_iff {α : Type u} {poll : Poll α} :
    poll.isPending = true ↔ poll = .pending := by
  cases poll with
  | pending => simp
  | ready => simp

/-- `taken` is a history variable: what the receiver has taken so far, which
no operation reads. -/
structure Channel (α : Type u) where
  taken : List α
  queue : List α
  capacity : Option Nat
  waiting : Bool
  sender : Bool
  receiver : Bool
  idle : waiting = true → queue = []
deriving Repr, DecidableEq

namespace Channel

variable {α : Type u}

def unbounded : Channel α := ⟨[], [], none, false, true, true, by simp⟩

def bounded (capacity : Nat) : Channel α :=
  ⟨[], [], some capacity, false, true, true, by simp⟩

/-- Every message the channel ever accepted, oldest first. -/
def accepted (channel : Channel α) : List α := channel.taken ++ channel.queue

def isDisconnected (channel : Channel α) : Bool := !channel.sender

/-- Whether the queue has a free slot. -/
def hasRoom (channel : Channel α) : Bool :=
  match channel.capacity with
  | none => true
  | some capacity => channel.queue.length < capacity

/-- Send without waiting; the flag says whether the message was accepted. -/
def trySend (channel : Channel α) (message : α) : Channel α × Bool :=
  if channel.receiver && (channel.waiting || channel.hasRoom) then
    ({ channel with
        queue := channel.queue ++ [message]
        waiting := false
        idle := by simp }, true)
  else (channel, false)

/-- Poll the receiving end: queued messages first, then the end of the
stream once no sender is left. -/
def pollNext (channel : Channel α) : Channel α × Poll (Option α) :=
  match hqueue : channel.queue with
  | message :: rest =>
      ({ channel with
          taken := channel.taken ++ [message]
          queue := rest
          idle := by
            intro hwaiting
            rw [channel.idle hwaiting] at hqueue
            cases hqueue }, .ready (some message))
  | [] =>
      if channel.sender then
        ({ channel with waiting := true, idle := fun _ => hqueue }, .pending)
      else (channel, .ready none)

def dropSender (channel : Channel α) : Channel α :=
  { channel with sender := false }

def dropReceiver (channel : Channel α) : Channel α :=
  { channel with receiver := false }

@[simp] theorem accepted_unbounded : (unbounded : Channel α).accepted = [] := rfl

@[simp] theorem accepted_bounded (capacity : Nat) :
    (bounded capacity : Channel α).accepted = [] := rfl

@[simp] theorem accepted_dropSender (channel : Channel α) :
    channel.dropSender.accepted = channel.accepted := rfl

@[simp] theorem taken_dropSender (channel : Channel α) :
    channel.dropSender.taken = channel.taken := rfl

@[simp] theorem queue_dropSender (channel : Channel α) :
    channel.dropSender.queue = channel.queue := rfl

@[simp] theorem taken_trySend (channel : Channel α) (message : α) :
    (channel.trySend message).1.taken = channel.taken := by
  unfold trySend
  split <;> rfl

theorem accepted_trySend (channel : Channel α) (message : α) :
    (channel.trySend message).1.accepted =
      if (channel.trySend message).2 then channel.accepted ++ [message]
      else channel.accepted := by
  unfold trySend accepted
  split <;> simp

/-- A rejected message leaves the channel as it was. -/
theorem trySend_of_rejected {channel : Channel α} {message : α}
    (hrejected : (channel.trySend message).2 = false) :
    (channel.trySend message).1 = channel := by
  unfold trySend at hrejected ⊢
  split at hrejected
  · cases hrejected
  · next hroom => rw [if_neg hroom]

theorem trySend_of_unbounded {channel : Channel α}
    (hcapacity : channel.capacity = none) (hreceiver : channel.receiver = true)
    (message : α) : (channel.trySend message).2 = true := by
  simp [trySend, hasRoom, hcapacity, hreceiver]

theorem trySend_of_dropped {channel : Channel α}
    (hreceiver : channel.receiver = false) (message : α) :
    (channel.trySend message).2 = false := by
  simp [trySend, hreceiver]

/-- A registered receiver never makes a difference when slots exist at all. -/
theorem trySend_accepts_iff {channel : Channel α} {capacity : Nat}
    (hcapacity : channel.capacity = some capacity) (hpos : 0 < capacity)
    (hreceiver : channel.receiver = true) (message : α) :
    (channel.trySend message).2 = true ↔ channel.queue.length < capacity := by
  have hwaiting : channel.waiting = true → channel.queue.length < capacity := by
    intro hwaiting
    rw [channel.idle hwaiting]
    exact hpos
  unfold trySend hasRoom
  rw [hreceiver, hcapacity]
  cases hflag : channel.waiting with
  | false => by_cases hlt : channel.queue.length < capacity <;> simp [hlt]
  | true => simpa using hwaiting hflag

theorem queue_trySend_of_accepted {channel : Channel α} {message : α}
    (haccepted : (channel.trySend message).2 = true) :
    (channel.trySend message).1.queue = channel.queue ++ [message] := by
  unfold trySend at haccepted ⊢
  split at haccepted
  · next hroom => rw [if_pos hroom]
  · cases haccepted

theorem waiting_of_trySend {channel : Channel α} {message : α}
    (hwaiting : (channel.trySend message).1.waiting = true) :
    channel.waiting = true := by
  unfold trySend at hwaiting
  split at hwaiting
  · cases hwaiting
  · exact hwaiting

@[simp] theorem capacity_trySend (channel : Channel α) (message : α) :
    (channel.trySend message).1.capacity = channel.capacity := by
  unfold trySend
  split <;> rfl

@[simp] theorem sender_trySend (channel : Channel α) (message : α) :
    (channel.trySend message).1.sender = channel.sender := by
  unfold trySend
  split <;> rfl

@[simp] theorem receiver_trySend (channel : Channel α) (message : α) :
    (channel.trySend message).1.receiver = channel.receiver := by
  unfold trySend
  split <;> rfl

@[simp] theorem capacity_pollNext (channel : Channel α) :
    channel.pollNext.1.capacity = channel.capacity := by
  unfold pollNext
  split
  · rfl
  · split <;> rfl

@[simp] theorem sender_pollNext (channel : Channel α) :
    channel.pollNext.1.sender = channel.sender := by
  unfold pollNext
  split
  · rfl
  · split <;> rfl

@[simp] theorem receiver_pollNext (channel : Channel α) :
    channel.pollNext.1.receiver = channel.receiver := by
  unfold pollNext
  split
  · rfl
  · split <;> rfl

@[simp] theorem accepted_pollNext (channel : Channel α) :
    channel.pollNext.1.accepted = channel.accepted := by
  unfold pollNext accepted
  split
  · next message rest hqueue => simp [hqueue]
  · split <;> rfl

/-- What one poll of the receiving end can do. -/
theorem pollNext_cases (channel : Channel α) :
    (∃ message, channel.pollNext.2 = .ready (some message) ∧
      channel.queue = message :: channel.pollNext.1.queue ∧
      channel.pollNext.1.taken = channel.taken ++ [message]) ∨
    (channel.queue = [] ∧ channel.pollNext.1.queue = [] ∧
      channel.pollNext.1.taken = channel.taken ∧
      channel.pollNext.2 =
        if channel.sender then .pending else .ready none) := by
  unfold pollNext
  split
  · next message rest hqueue => exact .inl ⟨message, rfl, hqueue, rfl⟩
  · next hqueue =>
      right
      refine ⟨hqueue, ?_, ?_, ?_⟩
      · split
        · exact hqueue
        · exact hqueue
      · split <;> rfl
      · split <;> rfl

theorem waiting_pollNext_of_queued {channel : Channel α} {message : α}
    {rest : List α} (hqueue : channel.queue = message :: rest) :
    channel.pollNext.1.waiting = false := by
  have hwaiting : channel.waiting = false := by
    rw [← Bool.not_eq_true]
    intro hwaiting
    rw [channel.idle hwaiting] at hqueue
    cases hqueue
  unfold pollNext
  split
  · exact hwaiting
  · next hempty =>
      rw [hqueue] at hempty
      cases hempty

theorem waiting_pollNext_of_empty {channel : Channel α}
    (hqueue : channel.queue = []) (hsender : channel.sender = true) :
    channel.pollNext.1.waiting = true := by
  unfold pollNext
  split
  · next message rest hcons =>
      rw [hqueue] at hcons
      cases hcons
  · rw [if_pos hsender]

theorem answer_pollNext_of_queued {channel : Channel α} {message : α}
    {rest : List α} (hqueue : channel.queue = message :: rest) :
    channel.pollNext.2 = .ready (some message) := by
  rcases channel.pollNext_cases with
    ⟨first, hanswer, hfirst, _⟩ | ⟨hempty, _⟩
  · rw [hqueue] at hfirst
    cases hfirst
    exact hanswer
  · rw [hqueue] at hempty
    cases hempty

theorem taken_pollNext_of_queued {channel : Channel α} {message : α}
    {rest : List α} (hqueue : channel.queue = message :: rest) :
    channel.pollNext.1.taken = channel.taken ++ [message] ∧
      channel.pollNext.1.queue = rest := by
  rcases channel.pollNext_cases with
    ⟨first, _, hfirst, htaken⟩ | ⟨hempty, _⟩
  · rw [hqueue] at hfirst
    cases hfirst
    exact ⟨htaken, rfl⟩
  · rw [hqueue] at hempty
    cases hempty

theorem taken_pollNext_of_empty {channel : Channel α}
    (hqueue : channel.queue = []) :
    channel.pollNext.1.taken = channel.taken ∧
      channel.pollNext.1.queue = [] := by
  rcases channel.pollNext_cases with
    ⟨first, _, hfirst, _⟩ | ⟨_, hempty, htaken, _⟩
  · rw [hqueue] at hfirst
    cases hfirst
  · exact ⟨htaken, hempty⟩

end Channel

end PollChannel
