/-
Credit flow control with absolute announcements.  A sender spends one credit
per message; a receiver with a bounded buffer counts what was read and, above
a threshold, announces the credit it believes to be free, which replaces the
sender's.  Both directions are queues, a full buffer drops what arrives, and
the receiver's counter saturates.
-/
import Epoxy.ActionMachine

namespace CreditWindow

open ActionMachine

universe u

variable {α : Type u}

/-- `limit` is the largest credit that can be counted. -/
structure Setup where
  capacity : Nat
  threshold : Nat
  limit : Nat

/-- A sender asks for credit, is then allowed one message, and sends it. -/
inductive Sender (α : Type u) where
  | idle
  | ready
  | holding (message : α)

def Sender.pending : Sender α → List α
  | .idle => []
  | .ready => []
  | .holding message => [message]

/-- `written`, `obtained` and `dropped` are histories. -/
structure Window (α : Type u) where
  credit : Nat
  sender : Sender α
  data : List α
  flow : Nat
  queue : List α
  readCnt : Nat
  held : Option α
  announced : List Nat
  written : List α
  obtained : List α
  dropped : List α

inductive Action (α : Type u) where
  /-- The sender is allowed a message, takes one, and sends it. -/
  | prepare
  | offer (message : α)
  | send
  /-- The sender sends what it has and is allowed the next message, on credit
  that it had before. -/
  | feed
  /-- A message arrives at the receiver's buffer. -/
  | deliver
  /-- The reader takes a message out, announces what it has read, and hands
  the message on. -/
  | pop
  | announce
  | yield
  /-- An announcement arrives at the sender. -/
  | update

namespace Window

variable (setup : Setup)

def init (setup : Setup) : Window α :=
  ⟨setup.capacity, .idle, [], setup.capacity, [], 0, none, [], [], [], []⟩

def step (window : Window α) : Action α → Option (Window α)
  | .prepare =>
      match window.sender with
      | .idle =>
          if 0 < window.credit then some { window with sender := .ready }
          else none
      | _ => none
  | .offer message =>
      match window.sender with
      | .ready =>
          some { window with
            sender := .holding message
            written := window.written ++ [message] }
      | _ => none
  | .send =>
      match window.sender with
      | .holding message =>
          some { window with
            credit := window.credit - 1
            sender := .idle
            data := window.data ++ [message] }
      | _ => none
  | .feed =>
      match window.sender with
      | .holding message =>
          if 0 < window.credit then
            some { window with
              credit := window.credit - 1
              sender := .ready
              data := window.data ++ [message] }
          else none
      | _ => none
  | .deliver =>
      match window.data with
      | [] => none
      | message :: rest =>
          if window.queue.length < setup.capacity then
            some { window with
              data := rest
              flow := window.flow - 1
              queue := window.queue ++ [message] }
          else
            some { window with
              data := rest
              dropped := window.dropped ++ [message] }
  | .pop =>
      match window.held, window.queue with
      | none, message :: rest =>
          some { window with
            queue := rest
            readCnt := window.readCnt + 1
            held := some message }
      | _, _ => none
  | .announce =>
      if window.held.isSome ∧ setup.threshold < window.readCnt then
        let flow := min (window.flow + window.readCnt) setup.limit
        some { window with
          flow
          readCnt := 0
          announced := window.announced ++ [flow] }
      else none
  | .yield =>
      match window.held with
      | some message =>
          if window.readCnt ≤ setup.threshold then
            some { window with
              held := none
              obtained := window.obtained ++ [message] }
          else none
      | none => none
  | .update =>
      match window.announced with
      | [] => none
      | credit :: rest => some { window with credit, announced := rest }

def machine : Machine (Window α) (Action α) := ⟨step setup⟩

/-- Nothing was dropped, and what was handed on is how the writing began. -/
def Lossless (window : Window α) : Prop :=
  window.dropped = [] ∧ window.obtained <+: window.written

/-- Nothing is on its way and the reader has nothing left. -/
structure Quiescent (window : Window α) : Prop where
  data : window.data = []
  announced : window.announced = []
  queue : window.queue = []
  held : window.held = none

variable {setup}

/-- Every way in which a window takes a step. -/
inductive Moved (setup : Setup) (window : Window α) (action : Action α) :
    Window α → Prop where
  | prepared (hidle : window.sender = .idle) (hcredit : 0 < window.credit) :
      Moved setup window action { window with sender := .ready }
  | offered (message : α) (hready : window.sender = .ready) :
      Moved setup window action { window with
        sender := .holding message
        written := window.written ++ [message] }
  | sent {message : α} (hholding : window.sender = .holding message) :
      Moved setup window action { window with
        credit := window.credit - 1
        sender := .idle
        data := window.data ++ [message] }
  | fed {message : α} (hfeed : action = .feed)
      (hholding : window.sender = .holding message) :
      Moved setup window action { window with
        credit := window.credit - 1
        sender := .ready
        data := window.data ++ [message] }
  | delivered {message : α} {rest : List α}
      (hdata : window.data = message :: rest)
      (hroom : window.queue.length < setup.capacity) :
      Moved setup window action { window with
        data := rest
        flow := window.flow - 1
        queue := window.queue ++ [message] }
  | dropped {message : α} {rest : List α}
      (hdata : window.data = message :: rest)
      (hfull : ¬ window.queue.length < setup.capacity) :
      Moved setup window action { window with
        data := rest
        dropped := window.dropped ++ [message] }
  | popped {message : α} {rest : List α} (hheld : window.held = none)
      (hqueue : window.queue = message :: rest) :
      Moved setup window action { window with
        queue := rest
        readCnt := window.readCnt + 1
        held := some message }
  | announced (hdue : setup.threshold < window.readCnt) {flow : Nat}
      (hflow : flow = min (window.flow + window.readCnt) setup.limit) :
      Moved setup window action { window with
        flow
        readCnt := 0
        announced := window.announced ++ [flow] }
  | yielded {message : α} (hheld : window.held = some message)
      (hsettled : window.readCnt ≤ setup.threshold) :
      Moved setup window action { window with
        held := none
        obtained := window.obtained ++ [message] }
  | updated {credit : Nat} {rest : List Nat}
      (hannounced : window.announced = credit :: rest) :
      Moved setup window action { window with credit, announced := rest }

theorem moved_of_step {window next : Window α} {action : Action α}
    (hstep : window.step setup action = some next) :
    Moved setup window action next := by
  cases action with
  | prepare =>
      simp only [step] at hstep
      split at hstep
      · next hidle =>
          split at hstep
          · next hcredit =>
              cases hstep
              exact .prepared hidle hcredit
          · cases hstep
      · cases hstep
  | offer message =>
      simp only [step] at hstep
      split at hstep
      · next hready =>
          cases hstep
          exact .offered message hready
      · cases hstep
  | send =>
      simp only [step] at hstep
      split at hstep
      · next hholding =>
          cases hstep
          exact .sent hholding
      · cases hstep
  | feed =>
      simp only [step] at hstep
      split at hstep
      · next hholding =>
          split at hstep
          · cases hstep
            exact .fed rfl hholding
          · cases hstep
      · cases hstep
  | deliver =>
      simp only [step] at hstep
      split at hstep
      · cases hstep
      · next hdata =>
          split at hstep
          · next hroom =>
              cases hstep
              exact .delivered hdata hroom
          · next hfull =>
              cases hstep
              exact .dropped hdata hfull
  | pop =>
      simp only [step] at hstep
      split at hstep
      · next hheld hqueue =>
          cases hstep
          exact .popped hheld hqueue
      · cases hstep
  | announce =>
      simp only [step] at hstep
      split at hstep
      · next hdue =>
          cases hstep
          exact .announced hdue.2 rfl
      · cases hstep
  | yield =>
      simp only [step] at hstep
      split at hstep
      · next hheld =>
          split at hstep
          · next hsettled =>
              cases hstep
              exact .yielded hheld hsettled
          · cases hstep
      · cases hstep
  | update =>
      simp only [step] at hstep
      split at hstep
      · cases hstep
      · next hannounced =>
          cases hstep
          exact .updated hannounced

/-- The ledger when one read short of the whole buffer is still below the
threshold and nothing is sent without credit: either no announcement is out
and every slot is accounted for, or the one announcement that is out offers
the whole empty buffer. -/
structure Ledger (setup : Setup) (window : Window α) : Prop where
  slots : (window.announced = [] ∧
      window.credit + window.data.length = window.flow ∧
      window.flow + window.queue.length + window.readCnt = setup.capacity) ∨
    (window.announced = [setup.capacity] ∧ window.credit = 0 ∧
      window.data = [] ∧ window.flow = setup.capacity ∧ window.queue = [] ∧
      window.readCnt = 0)
  allowed : window.credit = 0 → window.sender = .idle
  dropped : window.dropped = []
  order : window.written = window.obtained ++ window.held.toList ++
    window.queue ++ window.data ++ window.sender.pending

namespace Ledger

theorem lossless {window : Window α} (h : Ledger setup window) :
    window.Lossless := by
  refine ⟨h.dropped, ?_⟩
  rw [h.order]
  simp only [List.append_assoc]
  exact List.prefix_append _ _

theorem init (hcapacity : 0 < setup.capacity) :
    Ledger setup (init setup : Window α) where
  slots := .inl ⟨rfl, rfl, rfl⟩
  allowed h := absurd h (Nat.ne_of_gt hcapacity)
  dropped := rfl
  order := rfl

theorem step {window next : Window α} {action : Action α}
    (hthreshold : setup.threshold + 1 = setup.capacity)
    (hlimit : setup.capacity ≤ setup.limit) (h : Ledger setup window)
    (hturn : action ≠ .feed)
    (hstep : window.step setup action = some next) : Ledger setup next := by
  obtain ⟨hslots, hallowed, hdropped, horder⟩ := h
  have hnotIdle : window.sender ≠ .idle → window.credit ≠ 0 :=
    fun hbusy hzero => hbusy (hallowed hzero)
  cases moved_of_step hstep with
  | prepared hidle hcredit =>
      rw [hidle] at horder
      exact ⟨hslots, fun hzero => absurd hzero (Nat.ne_of_gt hcredit),
        hdropped, horder⟩
  | offered message hready =>
      refine ⟨hslots, fun hzero => ?_, hdropped, ?_⟩
      · exact absurd hzero (hnotIdle (by simp [hready]))
      · simp [horder, hready, Sender.pending]
  | sent hholding =>
      have hcredit := hnotIdle (by simp [hholding])
      refine ⟨?_, fun _ => rfl, hdropped, ?_⟩
      · rcases hslots with ⟨hannounced, hsum, hrest⟩ | ⟨_, hzero, _⟩
        · refine .inl ⟨hannounced, ?_, hrest⟩
          simp only [List.length_append, List.length_singleton]
          omega
        · exact absurd hzero hcredit
      · simp [horder, hholding, Sender.pending]
  | fed hfeed => exact absurd hfeed hturn
  | delivered hdata hroom =>
      rcases hslots with ⟨hannounced, hsum, hrest⟩ | ⟨_, _, hnone, _⟩
      · rw [hdata, List.length_cons] at hsum
        refine ⟨.inl ⟨hannounced, ?_, ?_⟩, hallowed, hdropped, ?_⟩
        · dsimp only
          omega
        · simp only [List.length_append, List.length_singleton]
          omega
        · simp [horder, hdata]
      · rw [hdata] at hnone
        cases hnone
  | dropped hdata hfull =>
      -- there is a free slot for whatever was sent
      rcases hslots with ⟨_, hsum, hrest⟩ | ⟨_, _, hnone, _⟩
      · rw [hdata, List.length_cons] at hsum
        omega
      · rw [hdata] at hnone
        cases hnone
  | popped hheld hqueue =>
      rcases hslots with ⟨hannounced, hsum, hrest⟩ | ⟨_, _, _, _, hnone, _⟩
      · rw [hqueue, List.length_cons] at hrest
        refine ⟨.inl ⟨hannounced, hsum, ?_⟩, hallowed, hdropped, ?_⟩
        · dsimp only
          omega
        · simp [horder, hheld, hqueue]
      · rw [hqueue] at hnone
        cases hnone
  | announced hdue hflow =>
      rcases hslots with ⟨hannounced, hsum, hrest⟩ | ⟨_, _, _, _, _, hzero⟩
      · have hdata : window.data = [] :=
          List.eq_nil_of_length_eq_zero (by omega)
        have hqueue : window.queue = [] :=
          List.eq_nil_of_length_eq_zero (by omega)
        have hwhole : min (window.flow + window.readCnt) setup.limit =
            setup.capacity := by omega
        rw [hwhole] at hflow
        refine ⟨.inr ⟨?_, ?_, hdata, hflow, hqueue, rfl⟩, hallowed,
          hdropped, horder⟩
        · simp [hannounced, hflow]
        · dsimp only
          omega
      · omega
  | yielded hheld _ =>
      exact ⟨hslots, hallowed, hdropped, by simp [horder, hheld]⟩
  | updated hannounced =>
      rcases hslots with
        ⟨hnone, _⟩ | ⟨hone, hzero, hdata, hflow, hqueue, hread⟩
      · rw [hannounced] at hnone
        cases hnone
      · rw [hannounced] at hone
        obtain ⟨rfl, rfl⟩ := List.cons.inj hone
        refine ⟨.inl ⟨rfl, ?_, ?_⟩, fun _ => hallowed hzero, hdropped,
          horder⟩
        · simp [hdata, hflow]
        · simp [hqueue, hflow, hread]

/-- Without feeding the ledger is kept by whole runs. -/
theorem run {window next : Window α} {actions : List (Action α)}
    (hthreshold : setup.threshold + 1 = setup.capacity)
    (hlimit : setup.capacity ≤ setup.limit) (h : Ledger setup window)
    (hturn : .feed ∉ actions)
    (hrun : (machine setup).run window actions = some next) :
    Ledger setup next := by
  refine (machine setup).run_invariant_of_meets
    (fun _ action _ hold hne => hold.step hthreshold hlimit hne) h ?_ hrun
  refine Machine.meets_of_forall _ fun _ action hmem => ?_
  rintro rfl
  exact hturn hmem

end Ledger

/-- The sender's credit covers what the receiver believes to be free, or an
announcement is on its way that does. -/
structure Funded (setup : Setup) (window : Window α) : Prop where
  free : setup.capacity ≤
    window.flow + window.queue.length + window.readCnt
  direct : window.announced = [] →
    window.flow ≤ window.credit + window.data.length ∨
      setup.capacity ≤ window.queue.length + window.readCnt
  indirect : ∀ credit, window.announced.getLast? = some credit →
    window.flow ≤ credit
  settled : window.held = none → window.readCnt ≤ setup.threshold

namespace Funded

theorem init (setup : Setup) : Funded setup (init setup : Window α) where
  free := by simp [Window.init]
  direct _ := .inl (by simp [Window.init])
  indirect := by simp [Window.init]
  settled _ := Nat.zero_le _

/-- Dropped messages leave a full buffer behind, which will be announced. -/
theorem step {window next : Window α} {action : Action α}
    (hlimit : setup.capacity ≤ setup.limit) (h : Funded setup window)
    (hstep : window.step setup action = some next) : Funded setup next := by
  obtain ⟨hfree, hdirect, hindirect, hsettled⟩ := h
  cases moved_of_step hstep with
  | prepared | offered => exact ⟨hfree, hdirect, hindirect, hsettled⟩
  | sent | fed =>
      refine ⟨hfree, fun hnone => ?_, hindirect, hsettled⟩
      have hold := hdirect hnone
      simp only [List.length_append, List.length_singleton]
      omega
  | delivered hdata hroom =>
      rw [hdata, List.length_cons] at hdirect
      refine ⟨?_, fun hnone => ?_, fun credit hlast => ?_, hsettled⟩
      · simp only [List.length_append, List.length_singleton]
        omega
      · have hold := hdirect hnone
        simp only [List.length_append, List.length_singleton]
        omega
      · have hold := hindirect credit hlast
        dsimp only
        omega
  | dropped _ hfull =>
      refine ⟨hfree, fun _ => .inr ?_, hindirect, hsettled⟩
      dsimp only
      omega
  | popped _ hqueue =>
      rw [hqueue, List.length_cons] at hfree hdirect
      refine ⟨?_, fun hnone => ?_, hindirect, fun hheld => by cases hheld⟩
      · dsimp only
        omega
      · have hold := hdirect hnone
        dsimp only
        omega
  | announced _ hflow =>
      refine ⟨?_, fun hnone => by simp at hnone, fun credit hlast => ?_,
        fun _ => Nat.zero_le _⟩
      · dsimp only
        omega
      · simp only [List.getLast?_concat, Option.some.injEq] at hlast
        exact Nat.le_of_eq hlast
  | yielded _ hle =>
      exact ⟨hfree, hdirect, hindirect, fun _ => hle⟩
  | @updated credit rest hannounced =>
      refine ⟨hfree, fun hnone => .inl ?_, fun last hlast => ?_, hsettled⟩
      · have hlast := hindirect credit (by
          rw [hannounced]
          simp [show rest = [] from hnone])
        dsimp only
        omega
      · refine hindirect last ?_
        rw [hannounced]
        cases rest with
        | nil => cases hlast
        | cons head tail => simpa using hlast

/-- A quiescent window has credit left, whatever was dropped before. -/
theorem credit_pos {window : Window α} (h : Funded setup window)
    (hthreshold : setup.threshold < setup.capacity)
    (hquiescent : window.Quiescent) : 0 < window.credit := by
  have hfree := h.free
  have hread := h.settled hquiescent.held
  have hdirect := h.direct hquiescent.announced
  rw [hquiescent.queue, List.length_nil] at hfree hdirect
  rw [hquiescent.data, List.length_nil] at hdirect
  omega

end Funded

end Window

/-- What a sender or a receiver does without stopping half way. -/
inductive Operation (α : Type u) where
  | write (message : α)
  | deliver
  | read
  | update

namespace Operation

def actions (setup : Setup) (window : Window α) :
    Operation α → List (Action α)
  | .write message => [.prepare, .offer message, .send]
  | .deliver => [.deliver]
  | .read =>
      if setup.threshold < window.readCnt + 1 then [.pop, .announce, .yield]
      else [.pop, .yield]
  | .update => [.update]

/-- The machine of whole operations. -/
def machine (setup : Setup) : Machine (Window α) (Operation α) where
  step window operation :=
    (Window.machine setup).run window (operation.actions setup window)

end Operation

namespace Window

/-- A window between operations, up to the messages themselves. -/
structure At (window : Window α) (credit data flow queued readCnt : Nat)
    (announced : List Nat) : Prop where
  sender : window.sender = .idle
  held : window.held = none
  credit : window.credit = credit
  data : window.data.length = data
  flow : window.flow = flow
  queued : window.queue.length = queued
  readCnt : window.readCnt = readCnt
  announced : window.announced = announced

namespace At

variable (setup : Setup) {window : Window α}
  {credit data flow queued readCnt : Nat} {announced : List Nat}

theorem init : (Window.init setup : Window α).At
    setup.capacity 0 setup.capacity 0 0 [] where
  sender := rfl
  held := rfl
  credit := rfl
  data := rfl
  flow := rfl
  queued := rfl
  readCnt := rfl
  announced := rfl

theorem write (message : α)
    (h : window.At (credit + 1) data flow queued readCnt announced) :
    ∃ next, (Operation.machine setup).step window (.write message) =
        some next ∧
      next.At credit (data + 1) flow queued readCnt announced := by
  refine ⟨{ window with
    credit := window.credit - 1
    data := window.data ++ [message]
    written := window.written ++ [message] }, ?_,
    { h with
      credit := by simp [h.credit]
      data := by simp [h.data] }⟩
  have hcredit : 0 < window.credit := by
    rw [h.credit]
    omega
  cases window
  obtain rfl := h.sender
  simp [Operation.machine, Operation.actions, Window.machine, step] at hcredit ⊢
  simp [hcredit]

theorem deliver
    (h : window.At credit (data + 1) flow queued readCnt announced)
    (hroom : queued < setup.capacity) :
    ∃ next, (Operation.machine setup).step window .deliver = some next ∧
      next.At credit data (flow - 1) (queued + 1) readCnt announced := by
  cases hmessages : window.data with
  | nil =>
      have hdata := h.data
      simp [hmessages] at hdata
  | cons message rest =>
      have hdata := h.data
      rw [hmessages, List.length_cons] at hdata
      refine ⟨{ window with
        data := rest
        flow := window.flow - 1
        queue := window.queue ++ [message] }, ?_,
        { h with
          data := Nat.succ.inj hdata
          flow := by simp [h.flow]
          queued := by simp [h.queued] }⟩
      simp [Operation.machine, Operation.actions, Window.machine, step,
        hmessages, h.queued, hroom]

/-- The message that finds the buffer full. -/
theorem overflow
    (h : window.At credit (data + 1) flow setup.capacity readCnt announced) :
    ∃ next, (Operation.machine setup).step window .deliver = some next ∧
      next.dropped ≠ [] := by
  cases hmessages : window.data with
  | nil =>
      have hdata := h.data
      simp [hmessages] at hdata
  | cons message rest =>
      refine ⟨{ window with
        data := rest
        dropped := window.dropped ++ [message] }, ?_, by simp⟩
      simp [Operation.machine, Operation.actions, Window.machine, step,
        hmessages, h.queued]

theorem read
    (h : window.At credit data flow (queued + 1) readCnt announced)
    (hbelow : readCnt + 1 ≤ setup.threshold) :
    ∃ next, (Operation.machine setup).step window .read = some next ∧
      next.At credit data flow queued (readCnt + 1) announced := by
  cases hmessages : window.queue with
  | nil =>
      have hqueued := h.queued
      simp [hmessages] at hqueued
  | cons message rest =>
      have hqueued := h.queued
      rw [hmessages, List.length_cons] at hqueued
      have hle : window.readCnt + 1 ≤ setup.threshold := by
        rw [h.readCnt]
        exact hbelow
      refine ⟨{ window with
        queue := rest
        readCnt := window.readCnt + 1
        obtained := window.obtained ++ [message] }, ?_,
        { h with
          queued := Nat.succ.inj hqueued
          readCnt := by simp [h.readCnt] }⟩
      have hactions : Operation.read.actions setup window =
          [.pop, .yield] := if_neg (Nat.not_lt.mpr hle)
      simp only [Operation.machine, hactions, Window.machine,
        Machine.run_cons, Machine.run_nil, step, h.held, hmessages,
        Option.bind_some, if_pos hle]

theorem read_announcing
    (h : window.At credit data flow (queued + 1) setup.threshold announced) :
    ∃ next, (Operation.machine setup).step window .read = some next ∧
      next.At credit data (min (flow + (setup.threshold + 1)) setup.limit)
        queued 0
        (announced ++ [min (flow + (setup.threshold + 1)) setup.limit]) := by
  cases hmessages : window.queue with
  | nil =>
      have hqueued := h.queued
      simp [hmessages] at hqueued
  | cons message rest =>
      have hqueued := h.queued
      rw [hmessages, List.length_cons] at hqueued
      let credit := min (window.flow + (setup.threshold + 1)) setup.limit
      refine ⟨{ window with
        flow := credit
        queue := rest
        readCnt := 0
        announced := window.announced ++ [credit]
        obtained := window.obtained ++ [message] }, ?_,
        { h with
          flow := by simp [credit, h.flow]
          queued := Nat.succ.inj hqueued
          readCnt := rfl
          announced := by simp [credit, h.flow, h.announced] }⟩
      simp [Operation.machine, Operation.actions, Window.machine, step,
        h.held, hmessages, h.readCnt, credit]

theorem update {value : Nat}
    (h : window.At credit data flow queued readCnt (value :: announced)) :
    ∃ next, (Operation.machine setup).step window .update = some next ∧
      next.At value data flow queued readCnt announced := by
  refine ⟨{ window with credit := value, announced }, ?_,
    { h with credit := rfl, announced := rfl }⟩
  simp [Operation.machine, Operation.actions, Window.machine, step,
    h.announced]

theorem writes (message : α) (k : Nat)
    (h : window.At (credit + k) data flow queued readCnt announced) :
    ∃ next, (Operation.machine setup).run window
        (List.replicate k (.write message)) = some next ∧
      next.At credit (data + k) flow queued readCnt announced := by
  induction k generalizing window data with
  | zero => exact ⟨window, rfl, h⟩
  | succ k ih =>
      obtain ⟨mid, hmid, hat⟩ := h.write setup message
      obtain ⟨next, hnext, hlast⟩ := ih hat
      refine ⟨next, ?_, ?_⟩
      · simp [List.replicate_succ, hmid, hnext]
      · rw [show data + (k + 1) = data + 1 + k by omega]
        exact hlast

theorem delivers (k : Nat)
    (h : window.At credit (data + k) flow queued readCnt announced)
    (hroom : queued + k ≤ setup.capacity) :
    ∃ next, (Operation.machine setup).run window
        (List.replicate k .deliver) = some next ∧
      next.At credit data (flow - k) (queued + k) readCnt announced := by
  induction k generalizing window flow queued with
  | zero => exact ⟨window, rfl, h⟩
  | succ k ih =>
      obtain ⟨mid, hmid, hat⟩ := h.deliver setup (by omega)
      obtain ⟨next, hnext, hlast⟩ := ih hat (by omega)
      refine ⟨next, ?_, ?_⟩
      · simp [List.replicate_succ, hmid, hnext]
      · rw [show flow - (k + 1) = flow - 1 - k by omega,
          show queued + (k + 1) = queued + 1 + k by omega]
        exact hlast

theorem reads (k : Nat)
    (h : window.At credit data flow (queued + k) readCnt announced)
    (hbelow : readCnt + k ≤ setup.threshold) :
    ∃ next, (Operation.machine setup).run window
        (List.replicate k .read) = some next ∧
      next.At credit data flow queued (readCnt + k) announced := by
  induction k generalizing window readCnt with
  | zero => exact ⟨window, rfl, h⟩
  | succ k ih =>
      obtain ⟨mid, hmid, hat⟩ := h.read setup (by omega)
      obtain ⟨next, hnext, hlast⟩ := ih hat (by omega)
      refine ⟨next, ?_, ?_⟩
      · simp [List.replicate_succ, hmid, hnext]
      · rw [show readCnt + (k + 1) = readCnt + 1 + k by omega]
        exact hlast

end At

/-- An announcement made while messages are still queued counts the credit
that the sender has not spent yet a second time. -/
theorem exists_overflow (message : α) {setup : Setup}
    (hearly : setup.threshold + 2 ≤ setup.capacity)
    (hlimit : setup.capacity ≤ setup.limit) :
    ∃ window : Window α,
      (Operation.machine setup).Reachable (init setup) window ∧
        window.dropped ≠ [] := by
  obtain ⟨spare, hspare⟩ := Nat.exists_eq_add_of_le hearly
  have hstart : (init setup : Window α).At
      (1 + (setup.capacity - 1)) 0 setup.capacity 0 0 [] := by
    rw [show 1 + (setup.capacity - 1) = setup.capacity by omega]
    exact .init setup
  -- fill the buffer but for one slot, and read until the threshold is passed
  obtain ⟨w₁, h₁, hat₁⟩ := hstart.writes setup message _
  obtain ⟨w₂, h₂, hat₂⟩ := hat₁.delivers setup _ (by omega)
  rw [show 0 + (setup.capacity - 1) = spare + 1 + setup.threshold by omega,
    show setup.capacity - (setup.capacity - 1) = 1 by omega] at hat₂
  obtain ⟨w₃, h₃, hat₃⟩ := hat₂.reads setup _ (by omega)
  rw [Nat.zero_add] at hat₃
  obtain ⟨w₄, h₄, hat₄⟩ := hat₃.read_announcing setup
  rw [show min (1 + (setup.threshold + 1)) setup.limit =
    setup.threshold + 2 by omega] at hat₄
  -- spend the last credit before the announcement arrives, then the new one
  obtain ⟨w₅, h₅, hat₅⟩ := At.write setup message hat₄
  obtain ⟨w₆, h₆, hat₆⟩ := hat₅.update setup
  rw [← Nat.zero_add (setup.threshold + 2)] at hat₆
  obtain ⟨w₇, h₇, hat₇⟩ := hat₆.writes setup message _
  -- one message too many is on its way
  obtain ⟨w₈, h₈, hat₈⟩ := hat₇.delivers setup _ (by omega)
  rw [show spare + (setup.threshold + 2) = setup.capacity by omega] at hat₈
  obtain ⟨w₉, h₉, hdropped⟩ := At.overflow setup hat₈
  exact ⟨w₉, (((((((Machine.Reachable.run ⟨_, h₁⟩ h₂).run h₃).step h₄).step
    h₅).step h₆).run h₇).run h₈).step h₉, hdropped⟩

end Window

end CreditWindow
