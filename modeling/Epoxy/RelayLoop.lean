/-
A loop that relays between two ends.  It waits for either end at once; what it
takes from one end it hands to the other before it waits again, and the first
end or failure of either of them ends it.
-/
import Epoxy.ActionMachine

namespace RelayLoop

open ActionMachine

universe u v

variable {α : Type u} {E : Type v}

/-- One direction of a relay: what was taken from one end, what the other end
has got, and what is still to be handed over. -/
structure Pump (α : Type u) where
  taken : List α
  given : List α
  pending : List α
  conserves : given ++ pending = taken

namespace Pump

def empty : Pump α := ⟨[], [], [], rfl⟩

def take (pump : Pump α) (items : List α) : Pump α where
  taken := pump.taken ++ items
  given := pump.given
  pending := pump.pending ++ items
  conserves := by rw [← List.append_assoc, pump.conserves]

/-- The first `n` of the pending items are handed over. -/
def give (pump : Pump α) (n : Nat) : Pump α where
  taken := pump.taken
  given := pump.given ++ pump.pending.take n
  pending := pump.pending.drop n
  conserves := by
    rw [List.append_assoc, List.take_append_drop, pump.conserves]

/-- All of the pending items are handed over. -/
def giveAll (pump : Pump α) : Pump α := pump.give pump.pending.length

@[simp] theorem taken_take (pump : Pump α) (items : List α) :
    (pump.take items).taken = pump.taken ++ items := rfl

@[simp] theorem given_take (pump : Pump α) (items : List α) :
    (pump.take items).given = pump.given := rfl

@[simp] theorem pending_take (pump : Pump α) (items : List α) :
    (pump.take items).pending = pump.pending ++ items := rfl

@[simp] theorem taken_give (pump : Pump α) (n : Nat) :
    (pump.give n).taken = pump.taken := rfl

@[simp] theorem pending_give (pump : Pump α) (n : Nat) :
    (pump.give n).pending = pump.pending.drop n := rfl

@[simp] theorem taken_giveAll (pump : Pump α) :
    pump.giveAll.taken = pump.taken := rfl

@[simp] theorem given_giveAll (pump : Pump α) :
    pump.giveAll.given = pump.given ++ pump.pending := by
  simp [giveAll, give]

@[simp] theorem pending_giveAll (pump : Pump α) :
    pump.giveAll.pending = [] := by
  simp [giveAll]

/-- Nothing is handed over but what was taken, in the same order. -/
theorem given_prefix (pump : Pump α) : pump.given <+: pump.taken :=
  ⟨pump.pending, pump.conserves⟩

/-- Where nothing is pending, everything was handed over. -/
theorem given_of_pending {pump : Pump α} (h : pump.pending = []) :
    pump.given = pump.taken := by
  have hconserves := pump.conserves
  rwa [h, List.append_nil] at hconserves

end Pump

/-- What the loop waits for. -/
inductive Wait (E : Type v) where
  /-- either end -/
  | select
  /-- the right end, which is given what the left one sent -/
  | handing
  /-- the right end, which is told that the left one closes -/
  | closing
  /-- the left end, which is sent what the right one had -/
  | sending
  | ended (result : Except E Unit)

/-- What an end answers. -/
inductive Event (α : Type u) (E : Type v) where
  | left (items : List α)
  | leftClose
  | leftIgnored
  | leftEnd
  | leftFailed (error : E)
  | right (items : List α)
  | rightEnd
  | rightFailed (error : E)
  | handed (n : Nat)
  | handFailed (error : E)
  | closed (result : Except E Unit)
  | sent
  /-- The message may have been taken although sending it failed. -/
  | sendFailed (taken : Bool) (error : E)

namespace Event

/-- What the left end has sent. -/
def fromLeft : Event α E → List α
  | .left items => items
  | _ => []

def fromRight : Event α E → List α
  | .right items => items
  | _ => []

end Event

/-- `closes` if the right end is told of a close of the left one, and `skips`
if there is nothing to send for these items. -/
structure Kind (α : Type u) where
  closes : Bool
  skips : List α → Bool

/-- The two directions, what was sent to the left end message by message, and
what the loop waits for. -/
structure Relay (α : Type u) (E : Type v) where
  toRight : Pump α
  toLeft : Pump α
  messages : List (List α)
  wait : Wait E

namespace Relay

def init : Relay α E := ⟨.empty, .empty, [], .select⟩

def finish (relay : Relay α E) (result : Except E Unit) : Relay α E :=
  { relay with wait := .ended result }

/-- What either end answers while the loop waits for both. -/
def select (kind : Kind α) (relay : Relay α E) :
    Event α E → Option (Relay α E)
  | .left items =>
      some { relay with
        toRight := relay.toRight.take items
        wait := if items.isEmpty then .select else .handing }
  | .leftClose =>
      some { relay with wait := if kind.closes then .closing else .select }
  | .leftIgnored => some relay
  | .leftEnd => some (relay.finish (.ok ()))
  | .leftFailed error => some (relay.finish (.error error))
  | .right items =>
      let toLeft := relay.toLeft.take items
      if kind.skips items then some { relay with toLeft := toLeft.giveAll }
      else some { relay with toLeft, wait := .sending }
  | .rightEnd => some (relay.finish (.ok ()))
  | .rightFailed error => some (relay.finish (.error error))
  | _ => none

/-- The message that is being sent was taken. -/
def deliver (relay : Relay α E) : Relay α E :=
  { relay with
    toLeft := relay.toLeft.giveAll
    messages := relay.messages ++ [relay.toLeft.pending] }

def step (kind : Kind α) (relay : Relay α E) (event : Event α E) :
    Option (Relay α E) :=
  match relay.wait with
  | .select => relay.select kind event
  | .handing =>
      match event with
      | .handed n =>
          if 0 < n then
            let toRight := relay.toRight.give n
            some { relay with
              toRight
              wait := if toRight.pending.isEmpty then .select else .handing }
          else none
      | .handFailed error => some (relay.finish (.error error))
      | _ => none
  | .closing =>
      match event with
      | .closed (.ok ()) => some { relay with wait := .select }
      | .closed (.error error) => some (relay.finish (.error error))
      | _ => none
  | .sending =>
      match event with
      | .sent => some { relay.deliver with wait := .select }
      | .sendFailed taken error =>
          some ((if taken then relay.deliver else relay).finish
            (.error error))
      | _ => none
  | .ended _ => none

def machine (kind : Kind α) : Machine (Relay α E) (Event α E) :=
  ⟨step kind⟩

/-- Between two answers nothing is pending. -/
def Settled (kind : Kind α) (relay : Relay α E) : Prop :=
  match relay.wait with
  | .select | .closing | .ended (.ok ()) =>
      relay.toRight.pending = [] ∧ relay.toLeft.pending = []
  | .handing => relay.toLeft.pending = []
  | .sending =>
      relay.toRight.pending = [] ∧ kind.skips relay.toLeft.pending = false
  | .ended (.error _) => True

/-- What the left end got came in rounds, of which each was sent as a message
of its own if it was worth one. -/
structure InRounds (kind : Kind α) (P : List α → Prop) (relay : Relay α E)
    (rounds : List (List α)) : Prop where
  given : relay.toLeft.given = rounds.flatten
  messages : relay.messages = rounds.filter fun round => !kind.skips round
  each : ∀ round ∈ rounds, P round

structure Relays (kind : Kind α) (P : List α → Prop) (relay : Relay α E) :
    Prop where
  settled : relay.Settled kind
  rounds : ∃ rounds, relay.InRounds kind P rounds
  pending : relay.wait = .sending → P relay.toLeft.pending

variable {kind : Kind α} {P : List α → Prop} {relay next : Relay α E}
  {event : Event α E} {rounds : List (List α)}

theorem Relays.init : Relays kind P (init : Relay α E) where
  settled := ⟨rfl, rfl⟩
  rounds := ⟨[], rfl, rfl, fun round h => (by cases h)⟩
  pending h := by cases h

/-- Another round is handed over, with a message or without one. -/
theorem InRounds.concat (h : relay.InRounds kind P rounds) {round : List α}
    {messages : List (List α)} {toLeft : Pump α} (hP : P round)
    (hgiven : toLeft.given = relay.toLeft.given ++ round)
    (hmessages : messages =
      relay.messages ++ if kind.skips round then [] else [round])
    (toRight : Pump α) (wait : Wait E) :
    InRounds kind P ⟨toRight, toLeft, messages, wait⟩ (rounds ++ [round]) where
  given := by simp [hgiven, h.given]
  messages := by
    rw [hmessages, h.messages, List.filter_append]
    cases hskips : kind.skips round with
    | false => simp [hskips]
    | true => simp [hskips]
  each other hother := by
    rcases List.mem_append.mp hother with hold | hnew
    · exact h.each other hold
    · rwa [List.mem_singleton.mp hnew]

theorem InRounds.of_toLeft (h : relay.InRounds kind P rounds)
    (hgiven : next.toLeft.given = relay.toLeft.given)
    (hmessages : next.messages = relay.messages) :
    next.InRounds kind P rounds :=
  ⟨hgiven.trans h.given, hmessages.trans h.messages, h.each⟩

/-- What a step can do. -/
inductive Steps (kind : Kind α) (relay : Relay α E) :
    Event α E → Relay α E → Prop where
  | quiet {event : Event α E} {wait : Wait E} (hleft : event.fromLeft = [])
      (hright : event.fromRight = [])
      (hwait : (∃ error, wait = .ended (.error error)) ∨
        (relay.wait = .select ∨ relay.wait = .closing) ∧
          (wait = .select ∨ wait = .closing ∨ wait = .ended (.ok ()))) :
      Steps kind relay event { relay with wait }
  | left {items : List α} {wait : Wait E} (hselect : relay.wait = .select)
      (hwait : items = [] ∧ wait = .select ∨ wait = .handing) :
      Steps kind relay (.left items)
        { relay with toRight := relay.toRight.take items, wait }
  | skipped {items : List α} (hselect : relay.wait = .select)
      (hskips : kind.skips items = true) :
      Steps kind relay (.right items)
        { relay with toLeft := (relay.toLeft.take items).giveAll }
  | right {items : List α} (hselect : relay.wait = .select)
      (hskips : kind.skips items = false) :
      Steps kind relay (.right items)
        { relay with toLeft := relay.toLeft.take items, wait := .sending }
  | handed {n : Nat} {wait : Wait E} (hhanding : relay.wait = .handing)
      (hwait : (relay.toRight.give n).pending = [] ∧ wait = .select ∨
        wait = .handing) :
      Steps kind relay (.handed n)
        { relay with toRight := relay.toRight.give n, wait }
  | delivered {event : Event α E} {wait : Wait E}
      (hsending : relay.wait = .sending) (hleft : event.fromLeft = [])
      (hright : event.fromRight = [])
      (hwait : wait = .select ∨ ∃ error, wait = .ended (.error error)) :
      Steps kind relay event { relay.deliver with wait }

theorem steps_of_select (hselect : relay.wait = .select)
    (hstep : relay.select kind event = some next) :
    Steps kind relay event next := by
  have hquiet : ∀ {event : Event α E} {wait : Wait E},
      event.fromLeft = [] → event.fromRight = [] →
      (∃ error, wait = .ended (.error error)) ∨
        (wait = .select ∨ wait = .closing ∨ wait = .ended (.ok ())) →
      Steps kind relay event { relay with wait } :=
    fun hleft hright hwait => .quiet hleft hright
      (hwait.imp_right fun hwait => ⟨.inl hselect, hwait⟩)
  cases event with
  | left items =>
      cases hstep
      cases items with
      | nil => exact .left hselect (.inl ⟨rfl, rfl⟩)
      | cons item items => exact .left hselect (.inr rfl)
  | leftClose =>
      cases hstep
      cases hcloses : kind.closes with
      | false => exact hquiet rfl rfl (.inr (.inl rfl))
      | true => exact hquiet rfl rfl (.inr (.inr (.inl rfl)))
  | leftIgnored =>
      cases hstep
      exact hquiet rfl rfl (.inr (.inl hselect))
  | leftEnd =>
      cases hstep
      exact hquiet rfl rfl (.inr (.inr (.inr rfl)))
  | leftFailed error =>
      cases hstep
      exact hquiet rfl rfl (.inl ⟨error, rfl⟩)
  | right items =>
      simp only [Relay.select] at hstep
      cases hskips : kind.skips items with
      | false =>
          rw [hskips] at hstep
          cases hstep
          exact .right hselect hskips
      | true =>
          rw [hskips] at hstep
          cases hstep
          exact .skipped hselect hskips
  | rightEnd =>
      cases hstep
      exact hquiet rfl rfl (.inr (.inr (.inr rfl)))
  | rightFailed error =>
      cases hstep
      exact hquiet rfl rfl (.inl ⟨error, rfl⟩)
  | handed | handFailed | closed | sent | sendFailed => cases hstep

theorem steps_of_step (hstep : relay.step kind event = some next) :
    Steps kind relay event next := by
  unfold Relay.step at hstep
  cases hwait : relay.wait with
  | select =>
      rw [hwait] at hstep
      exact steps_of_select hwait hstep
  | handing =>
      rw [hwait] at hstep
      cases event with
      | handed n =>
          simp only [Option.ite_none_right_eq_some, Option.some.injEq] at hstep
          obtain ⟨-, rfl⟩ := hstep
          refine .handed hwait ?_
          cases hrest : (relay.toRight.give n).pending with
          | nil => exact .inl ⟨rfl, rfl⟩
          | cons item rest => exact .inr rfl
      | handFailed error =>
          cases hstep
          exact .quiet rfl rfl (.inl ⟨error, rfl⟩)
      | _ => cases hstep
  | closing =>
      rw [hwait] at hstep
      cases event with
      | closed result =>
          cases result with
          | ok =>
              cases hstep
              exact .quiet rfl rfl (.inr ⟨.inr hwait, .inl rfl⟩)
          | error error =>
              cases hstep
              exact .quiet rfl rfl (.inl ⟨error, rfl⟩)
      | _ => cases hstep
  | sending =>
      rw [hwait] at hstep
      cases event with
      | sent =>
          cases hstep
          exact .delivered hwait rfl rfl (.inl rfl)
      | sendFailed taken error =>
          cases hstep
          cases taken with
          | true => exact .delivered hwait rfl rfl (.inr ⟨error, rfl⟩)
          | false => exact .quiet rfl rfl (.inl ⟨error, rfl⟩)
      | _ => cases hstep
  | ended result =>
      rw [hwait] at hstep
      cases hstep

theorem Relays.steps (h : Relays kind P relay)
    (hP : ∀ items, event = .right items → P items)
    (hsteps : Steps kind relay event next) : Relays kind P next := by
  obtain ⟨rounds, hrounds⟩ := h.rounds
  have hsettled := h.settled
  rw [Settled] at hsettled
  cases hsteps with
  | quiet _ _ hwait =>
      refine ⟨?_, ⟨rounds, hrounds.of_toLeft rfl rfl⟩, ?_⟩
      · rcases hwait with ⟨error, rfl⟩ | ⟨hfrom, hto⟩
        · trivial
        · have hempty : relay.toRight.pending = [] ∧
              relay.toLeft.pending = [] := by
            rcases hfrom with hfrom | hfrom
            · rwa [hfrom] at hsettled
            · rwa [hfrom] at hsettled
          rcases hto with rfl | rfl | rfl
          · exact hempty
          · exact hempty
          · exact hempty
      · rintro rfl
        rcases hwait with ⟨error, hended⟩ | ⟨-, hto | hto | hto⟩
        · cases hended
        · cases hto
        · cases hto
        · cases hto
  | left hselect hwait =>
      rw [hselect] at hsettled
      refine ⟨?_, ⟨rounds, hrounds.of_toLeft rfl rfl⟩, ?_⟩
      · rcases hwait with ⟨rfl, rfl⟩ | rfl
        · exact ⟨by simp [hsettled.1], hsettled.2⟩
        · exact hsettled.2
      · rintro rfl
        rcases hwait with ⟨-, hwait⟩ | hwait
        · cases hwait
        · cases hwait
  | skipped hselect hskips =>
      rw [hselect] at hsettled
      refine ⟨?_, ⟨_, hrounds.concat (hP _ rfl) ?_ ?_ _ _⟩, fun hsending => ?_⟩
      · rw [Settled]
        simp only [hselect]
        exact ⟨hsettled.1, Pump.pending_giveAll _⟩
      · simp [hsettled.2]
      · simp [hskips]
      · rw [hselect] at hsending
        cases hsending
  | right hselect hskips =>
      rw [hselect] at hsettled
      refine ⟨⟨hsettled.1, ?_⟩, ⟨rounds, hrounds.of_toLeft rfl rfl⟩,
        fun _ => ?_⟩
      · simpa [hsettled.2] using hskips
      · simpa [hsettled.2] using hP _ rfl
  | handed hhanding hwait =>
      rw [hhanding] at hsettled
      refine ⟨?_, ⟨rounds, hrounds.of_toLeft rfl rfl⟩, ?_⟩
      · rcases hwait with ⟨hpending, rfl⟩ | rfl
        · exact ⟨hpending, hsettled⟩
        · exact hsettled
      · rintro rfl
        rcases hwait with ⟨-, hwait⟩ | hwait
        · cases hwait
        · cases hwait
  | delivered hsending _ _ hwait =>
      rw [hsending] at hsettled
      refine ⟨?_, ⟨_, hrounds.concat (h.pending hsending)
        (Pump.given_giveAll _) ?_ _ _⟩, ?_⟩
      · rcases hwait with rfl | ⟨error, rfl⟩
        · exact ⟨hsettled.1, Pump.pending_giveAll _⟩
        · trivial
      · simp [Relay.deliver, hsettled.2]
      · rintro rfl
        rcases hwait with hwait | ⟨error, hwait⟩
        · cases hwait
        · cases hwait

/-- What was taken in a step is what an end answered with. -/
theorem taken_step (hstep : relay.step kind event = some next) :
    next.toRight.taken = relay.toRight.taken ++ event.fromLeft ∧
      next.toLeft.taken = relay.toLeft.taken ++ event.fromRight := by
  cases steps_of_step hstep with
  | quiet hleft hright =>
      rw [hleft, hright]
      exact ⟨(List.append_nil _).symm, (List.append_nil _).symm⟩
  | left => exact ⟨rfl, (List.append_nil _).symm⟩
  | skipped => exact ⟨(List.append_nil _).symm, rfl⟩
  | right => exact ⟨(List.append_nil _).symm, rfl⟩
  | handed => exact ⟨(List.append_nil _).symm, (List.append_nil _).symm⟩
  | delivered _ hleft hright =>
      rw [hleft, hright]
      exact ⟨(List.append_nil _).symm, (List.append_nil _).symm⟩

/-- What was sent is not taken back. -/
theorem messages_step (hstep : relay.step kind event = some next) :
    relay.messages <+: next.messages := by
  cases steps_of_step hstep with
  | quiet | left | skipped | right | handed => exact List.prefix_refl _
  | delivered => exact List.prefix_append _ _

theorem taken_run {events : List (Event α E)}
    (hrun : (machine kind).run relay events = some next) :
    next.toRight.taken = relay.toRight.taken ++ events.flatMap Event.fromLeft ∧
      next.toLeft.taken =
        relay.toLeft.taken ++ events.flatMap Event.fromRight := by
  induction events generalizing relay with
  | nil =>
      cases hrun
      exact ⟨(List.append_nil _).symm, (List.append_nil _).symm⟩
  | cons event rest ih =>
      obtain ⟨mid, hstep, hrest⟩ := (machine kind).run_cons_eq_some hrun
      obtain ⟨hright, hleft⟩ := taken_step hstep
      obtain ⟨hright', hleft'⟩ := ih hrest
      rw [hright', hleft', hright, hleft]
      simp

/-- The rule for whole runs: a property of everything that the right end
answers with is one of every round. -/
theorem relays_run {events : List (Event α E)}
    (hP : ∀ event ∈ events, ∀ items, event = .right items → P items)
    (hrun : (machine kind).run init events = some relay) :
    Relays kind P relay :=
  (machine kind).run_invariant_of_meets
    (fun _ _ _ h hguard hstep => h.steps hguard (steps_of_step hstep))
    Relays.init
    ((machine kind).meets_of_forall fun _ => hP) hrun

/-- What is pending on either side is the rest of one answer. -/
structure Rest (events : List (Event α E)) (relay : Relay α E) : Prop where
  toRight : relay.toRight.pending = [] ∨
    ∃ items, .left items ∈ events ∧ relay.toRight.pending <:+ items
  toLeft : relay.toLeft.pending = [] ∨
    ∃ items, .right items ∈ events ∧ relay.toLeft.pending <:+ items

theorem Rest.mono {events more : List (Event α E)} (h : relay.Rest events) :
    relay.Rest (events ++ more) := by
  constructor
  · rcases h.toRight with hpending | ⟨items, hitems, hsuffix⟩
    · exact .inl hpending
    · exact .inr ⟨items, List.mem_append_left _ hitems, hsuffix⟩
  · rcases h.toLeft with hpending | ⟨items, hitems, hsuffix⟩
    · exact .inl hpending
    · exact .inr ⟨items, List.mem_append_left _ hitems, hsuffix⟩

/-- An end is only read from while nothing is pending. -/
theorem Rest.steps {events : List (Event α E)} (h : relay.Rest events)
    (hsettled : relay.Settled kind) (hsteps : Steps kind relay event next) :
    next.Rest (events ++ [event]) := by
  have hmore := (h.mono : relay.Rest (events ++ [event]))
  rw [Settled] at hsettled
  cases hsteps with
  | quiet => exact ⟨hmore.toRight, hmore.toLeft⟩
  | @left items _ hselect =>
      rw [hselect] at hsettled
      refine ⟨.inr ⟨items, by simp, ?_⟩, hmore.toLeft⟩
      exact ⟨[], by simp [hsettled.1]⟩
  | skipped => exact ⟨hmore.toRight, .inl (Pump.pending_giveAll _)⟩
  | @right items hselect =>
      rw [hselect] at hsettled
      refine ⟨hmore.toRight, .inr ⟨items, by simp, ?_⟩⟩
      exact ⟨[], by simp [hsettled.2]⟩
  | @handed n =>
      refine ⟨?_, hmore.toLeft⟩
      rcases hmore.toRight with hpending | ⟨items, hitems, hsuffix⟩
      · exact .inl (by simp [hpending])
      · exact .inr ⟨items, hitems, (List.drop_suffix _ _).trans hsuffix⟩
  | delivered => exact ⟨hmore.toRight, .inl (Pump.pending_giveAll _)⟩

theorem rest_run {events : List (Event α E)}
    (hrun : (machine kind).run init events = some relay) :
    relay.Rest events := by
  have hstart : Relays kind (fun _ => True) (init : Relay α E) ∧
      (init : Relay α E).Rest [] := ⟨Relays.init, .inl rfl, .inl rfl⟩
  have hkeep : ∀ (relay : Relay α E) (event : Event α E) (next : Relay α E)
      (seen : List (Event α E)),
      Relays kind (fun _ => True) relay ∧ relay.Rest seen →
      (machine kind).step relay event = some next →
      Relays kind (fun _ => True) next ∧ next.Rest (seen ++ [event]) := by
    intro relay event next seen h hstep
    have hsteps := steps_of_step hstep
    exact ⟨h.1.steps (fun _ _ => trivial) hsteps,
      h.2.steps h.1.settled hsteps⟩
  have hrest := (machine kind).run_history_invariant hkeep hstart hrun
  simpa using hrest.2

/-- A loop that has ended well has handed over all that it took. -/
theorem Relays.whole (h : Relays kind P relay)
    (hended : relay.wait = .ended (.ok ())) :
    relay.toRight.given = relay.toRight.taken ∧
      relay.toLeft.given = relay.toLeft.taken := by
  have hsettled := h.settled
  rw [Settled, hended] at hsettled
  exact ⟨Pump.given_of_pending hsettled.1, Pump.given_of_pending hsettled.2⟩

/-- Where every round is worth a message, the messages are the rounds. -/
theorem InRounds.messages_eq (h : relay.InRounds kind P rounds)
    (hskips : ∀ round, P round → kind.skips round = false) :
    relay.messages = rounds := by
  rw [h.messages, List.filter_eq_self]
  intro round hround
  rw [hskips round (h.each round hround)]
  rfl

/-- What a loop without skips does: each end gets a beginning of what the
other one had, the left one message by message, and all of it where the loop
ends well. -/
theorem relayed_run {events : List (Event α E)}
    (hskips : ∀ round, P round → kind.skips round = false)
    (hP : ∀ event ∈ events, ∀ items, event = .right items → P items)
    (hrun : (machine kind).run init events = some relay) :
    relay.toRight.given <+: events.flatMap Event.fromLeft ∧
      relay.messages.flatten <+: events.flatMap Event.fromRight ∧
      (∀ message ∈ relay.messages, P message) ∧
      (relay.wait = .ended (.ok ()) →
        relay.toRight.given = events.flatMap Event.fromLeft ∧
        relay.messages.flatten = events.flatMap Event.fromRight) := by
  have hrelays := relays_run hP hrun
  obtain ⟨hright, hleft⟩ := taken_run hrun
  rw [show (init : Relay α E).toRight.taken = [] from rfl,
    List.nil_append] at hright
  rw [show (init : Relay α E).toLeft.taken = [] from rfl,
    List.nil_append] at hleft
  obtain ⟨rounds, hrounds⟩ := hrelays.rounds
  rw [← hright, ← hleft, hrounds.messages_eq hskips, ← hrounds.given]
  exact ⟨relay.toRight.given_prefix, relay.toLeft.given_prefix, hrounds.each,
    hrelays.whole⟩

end Relay

end RelayLoop
