/-
The transport over a browser's websocket.  Its callbacks queue the messages
and raise a flag at the close; a read looks at the flag once and then waits
for the queue or for the close, whichever `select!` looks at first.  What is
queued when the flag is raised is yielded only if no read starts over it and
no wait is ended by the close before it.
-/
import Epoxy.ActionMachine
import Epoxy.IteratorTransport
import Epoxy.Packet

namespace Epoxy

open ByteCursor PollChannel

/-- The error that the callbacks report. -/
inductive WebSocketError where
  | unknown (description : String)
deriving Repr, DecidableEq

inductive WebSocketMessage where
  | error (err : WebSocketError)
  | message (data : Bytes)
deriving Repr, DecidableEq

/-- The two branches of the reader's `select!`. -/
inductive SelectBranch where
  | data
  | close
deriving Repr, DecidableEq

/-- What the callbacks and the reader share.  `listener` is the reader's
place at the close event, with whether it has been notified; `first` is the
branch that `select!` happens to look at first. -/
structure BrowserWorld where
  channel : Channel WebSocketMessage := .unbounded
  closed : Bool := false
  listener : Option Bool := none
  first : SelectBranch := .data

namespace BrowserWorld

/-- Nothing but an array buffer is passed on. -/
def onmessage (world : BrowserWorld) (data : Option Bytes) : BrowserWorld :=
  match data with
  | some arr =>
      { world with channel := (world.channel.trySend (.message arr)).1 }
  | none => world

/-- Only a listener that is there is notified. -/
def notifyClose (world : BrowserWorld) : BrowserWorld :=
  { world with listener := world.listener.map fun _ => true }

def onclose (world : BrowserWorld) : BrowserWorld :=
  { world with closed := true }.notifyClose

def onerror (world : BrowserWorld) (description : String) : BrowserWorld :=
  { world with
    channel := (world.channel.trySend (.error (.unknown description))).1
    closed := true }.notifyClose

/-- The callbacks are dropped with their wrapper. -/
def dropWrapper (world : BrowserWorld) : BrowserWorld :=
  { world with channel := world.channel.dropSender }

/-- The reader is dropped with its last future. -/
def dropReader (world : BrowserWorld) : BrowserWorld :=
  { world with channel := world.channel.dropReceiver }

def pollData (world : BrowserWorld) :
    BrowserWorld × Poll (Option WebSocketMessage) :=
  let (channel, answer) := world.channel.pollNext
  ({ world with channel := channel }, answer)

def pollListener (world : BrowserWorld) : Poll (Option WebSocketMessage) :=
  if world.listener = some true then .ready none else .pending

def select (world : BrowserWorld) :
    BrowserWorld × Poll (Option WebSocketMessage) :=
  match world.first with
  | .data =>
      match world.pollData with
      | (world, .ready res) => (world, .ready res)
      | (world, .pending) => (world, world.pollListener)
  | .close =>
      match world.pollListener with
      | .ready res => (world, .ready res)
      | .pending => world.pollData

end BrowserWorld

/-- The handles of the channel, the flag and the event. -/
structure WebSocketReader where
deriving Repr, DecidableEq

inductive ReadFuture where
  | start
  | selecting
  | finished
deriving Repr, DecidableEq

namespace WebSocketReader

/-- From the `select!` on. -/
def wait (world : BrowserWorld) : BrowserWorld × ReadFuture ×
    Poll (Except WispError (Option (Bytes × WebSocketReader))) :=
  match world.select with
  | (world, .pending) => (world, .selecting, .pending)
  | (world, .ready res) =>
      let world := { world with listener := none }
      match res with
      | some (.message x) => (world, .finished, .ready (.ok (some (x, ⟨⟩))))
      | some (.error _) =>
          (world.dropReader, .finished, .ready (.error .wsImplError))
      | none => (world.dropReader, .finished, .ready (.ok none))

/-- The function that `into_read` makes the transport of. -/
def read : AsyncFn BrowserWorld WebSocketReader ReadFuture
    (Except WispError (Option (Bytes × WebSocketReader))) where
  call world _ := (world, .start)
  poll world
    | .start =>
        if world.closed then
          (world.dropReader, .finished, .ready (.error .wsImplSocketClosed))
        else wait { world with listener := some false }
    | .selecting => wait world
    -- a future that has answered is not polled again
    | .finished => (world, .finished, .pending)

def intoRead (this : WebSocketReader) :
    AsyncIteratorTransportRead WebSocketReader ReadFuture :=
  asyncIteratorTransportRead this

end WebSocketReader

/-- The transport in use.  `arrived` are the messages of the callbacks,
`before` those of them that came before the first close or error, and
`yielded` those that the reader has given out. -/
structure BrowserTransport where
  world : BrowserWorld
  reader : AsyncIteratorTransportRead WebSocketReader ReadFuture
  arrived : List Bytes
  before : Option (List Bytes)
  yielded : List Bytes
  ended : Bool

inductive BrowserEvent where
  | onmessage (data : Option Bytes)
  | onclose
  | onerror (description : String)
  | dropWrapper
  | poll (first : SelectBranch)
deriving Repr, DecidableEq

/-- The messages among what went through the queue. -/
def messagesOf (items : List WebSocketMessage) : List Bytes :=
  items.filterMap fun
    | .message data => some data
    | .error _ => none

section Messages

variable (items : List WebSocketMessage)

@[simp] theorem messagesOf_nil : messagesOf [] = [] := rfl

@[simp] theorem messagesOf_append (others : List WebSocketMessage) :
    messagesOf (items ++ others) = messagesOf items ++ messagesOf others :=
  List.filterMap_append

@[simp] theorem messagesOf_message (data : Bytes) :
    messagesOf [.message data] = [data] := rfl

@[simp] theorem messagesOf_error (err : WebSocketError) :
    messagesOf [.error err] = [] := rfl

@[simp] theorem messagesOf_map (messages : List Bytes) :
    messagesOf (messages.map .message) = messages := by
  induction messages with
  | nil => rfl
  | cons data rest ih => simp [messagesOf]

variable {items}

theorem prefix_messagesOf {messages : List Bytes}
    (h : messages.map .message <+: items) : messages <+: messagesOf items := by
  obtain ⟨rest, rfl⟩ := h
  rw [messagesOf_append, messagesOf_map]
  exact List.prefix_append _ _

/-- Messages that came before an error came before all that follows it. -/
theorem prefix_of_prefix_error {messages : List Bytes}
    {rest : List WebSocketMessage} {err : WebSocketError}
    (h : messages.map .message <+: items ++ .error err :: rest) :
    messages.map .message <+: items := by
  obtain hitems | ⟨others, hothers⟩ := List.prefix_or_prefix_of_prefix h
    (List.prefix_append items _)
  · exact hitems
  · cases others with
    | nil =>
        rw [List.append_nil] at hothers
        exact hothers ▸ List.prefix_rfl
    | cons item others =>
        rw [← hothers, List.prefix_append_right_inj,
          List.cons_prefix_cons] at h
        have hmem : item ∈ messages.map WebSocketMessage.message := by
          rw [← hothers]
          simp
        rw [h.1] at hmem
        simp at hmem

end Messages

namespace BrowserTransport

def init : BrowserTransport :=
  ⟨{}, WebSocketReader.intoRead ⟨⟩, [], none, [], false⟩

/-- What the reader has to yield before its end. -/
def due (transport : BrowserTransport) : List Bytes :=
  transport.before.getD transport.arrived

def closeNow (transport : BrowserTransport) (world : BrowserWorld) :
    BrowserTransport :=
  { transport with world := world, before := some transport.due }

/-- One poll of the reader, and what it yields; a panic would be an end. -/
def poll (transport : BrowserTransport) (first : SelectBranch) :
    BrowserTransport :=
  match transport.reader.pollNext WebSocketReader.read
      { transport.world with first := first } with
  | none => { transport with ended := true }
  | some (world, reader, .pending) =>
      { transport with world := world, reader := reader }
  | some (world, reader, .ready (some (.ok payload))) =>
      { transport with
        world := world
        reader := reader
        yielded := transport.yielded ++ [payload] }
  | some (world, reader, .ready _) =>
      { transport with world := world, reader := reader, ended := true }

/-- The callbacks are called while their wrapper is there, and the reader is
polled until its end. -/
def step (transport : BrowserTransport) :
    BrowserEvent → Option BrowserTransport
  | .onmessage data =>
      if transport.world.channel.sender then
        some { transport with
          world := transport.world.onmessage data
          arrived := transport.arrived ++ data.toList }
      else none
  | .onclose =>
      if transport.world.channel.sender then
        some (transport.closeNow transport.world.onclose)
      else none
  | .onerror description =>
      if transport.world.channel.sender then
        some (transport.closeNow (transport.world.onerror description))
      else none
  | .dropWrapper =>
      some { transport with world := transport.world.dropWrapper }
  | .poll first =>
      if transport.ended then none else some (transport.poll first)

def machine : ActionMachine.Machine BrowserTransport BrowserEvent where
  step := step

/-- What is yielded is what arrived, in order, and with the end all of what
arrived before the close has been yielded. -/
structure Delivers (transport : BrowserTransport) : Prop where
  order : transport.yielded <+: transport.arrived
  complete : transport.ended = true → transport.due <+: transport.yielded

/-- A message that arrived before the close has not been taken yet. -/
def Queued (transport : BrowserTransport) : Prop :=
  transport.yielded.length < transport.due.length

/-- The poll does not look at the queue: it starts a read while the flag is
raised, or it looks first at a listener that has been notified. -/
def Skips (transport : BrowserTransport) (first : SelectBranch) : Prop :=
  transport.reader.state = .value ⟨⟩ ∧ transport.world.closed = true ∨
    first = .close ∧ transport.world.listener = some true

/-- No poll skips the queue while it holds such a message. -/
def Drains (transport : BrowserTransport) : BrowserEvent → Prop
  | .poll first => transport.Skips first → ¬ transport.Queued
  | _ => True

/-- The transport before the reader's end. -/
structure Open (transport : BrowserTransport) : Prop where
  reading : transport.ended = false
  order : messagesOf transport.world.channel.accepted = transport.arrived
  given : messagesOf transport.world.channel.taken = transport.yielded
  before : ∀ messages, transport.before = some messages →
    messages.map .message <+: transport.world.channel.accepted
  unclosed : transport.before = none →
    transport.world.channel.accepted = transport.arrived.map .message
  closed : transport.world.closed = transport.before.isSome
  state : transport.reader.state = .value ⟨⟩ ∧
      transport.world.listener = none ∨
    transport.reader.state = .future .selecting ∧
      transport.world.listener = some transport.world.closed
  capacity : transport.world.channel.capacity = none
  receiver : transport.world.channel.receiver = true

/-- The transport after an end with which everything was yielded. -/
structure Ended (transport : BrowserTransport) : Prop where
  ended : transport.ended = true
  order : transport.yielded <+: transport.arrived
  complete : transport.due <+: transport.yielded
  settled : transport.before.isSome = true ∨
    transport.world.channel.sender = false

/-- The transport after an end that came over a queued message. -/
structure Lost (transport : BrowserTransport) : Prop where
  ended : transport.ended = true
  settled : transport.before.isSome = true
  queued : transport.Queued

variable {transport next : BrowserTransport}

theorem Lost.not_delivers (h : transport.Lost) : ¬ transport.Delivers := by
  intro hdelivers
  exact absurd (hdelivers.complete h.ended).length_le (Nat.not_le.mpr h.queued)

theorem Open.order_yielded (h : transport.Open) :
    transport.yielded <+: transport.arrived := by
  rw [← h.given, ← h.order, Channel.accepted, messagesOf_append]
  exact List.prefix_append _ _

theorem Open.due_prefix (h : transport.Open) :
    transport.due <+: transport.arrived := by
  unfold due
  cases hbefore : transport.before with
  | none => exact List.prefix_rfl
  | some messages => exact h.order ▸ prefix_messagesOf (h.before _ hbefore)

theorem Open.delivers (h : transport.Open) : transport.Delivers where
  order := h.order_yielded
  complete hended := by
    rw [h.reading] at hended
    cases hended

theorem Ended.delivers (h : transport.Ended) : transport.Delivers :=
  ⟨h.order, fun _ => h.complete⟩

theorem open_init : init.Open where
  reading := rfl
  order := rfl
  given := rfl
  before messages hbefore := by cases hbefore
  unclosed _ := rfl
  closed := rfl
  state := .inl ⟨rfl, rfl⟩
  capacity := rfl
  receiver := rfl

section Callbacks

/-- While the reader reads everything that is sent is queued. -/
theorem Open.send (h : transport.Open) (item : WebSocketMessage) :
    (transport.world.channel.trySend item).1.accepted =
      transport.world.channel.accepted ++ [item] := by
  rw [Channel.accepted_trySend, if_pos
    (Channel.trySend_of_unbounded h.capacity h.receiver item)]

theorem Open.onmessage (h : transport.Open) (data : Option Bytes) :
    { transport with
      world := transport.world.onmessage data
      arrived := transport.arrived ++ data.toList }.Open := by
  cases data with
  | none => simpa [BrowserWorld.onmessage] using h
  | some arr =>
      refine ⟨h.reading, ?_, ?_, ?_, ?_, h.closed, h.state, ?_, ?_⟩
      · simp [BrowserWorld.onmessage, h.send, h.order]
      · simp [BrowserWorld.onmessage, h.given]
      · intro messages hbefore
        simp only [BrowserWorld.onmessage, h.send]
        exact (h.before messages hbefore).trans (List.prefix_append _ _)
      · intro hbefore
        simp [BrowserWorld.onmessage, h.send, h.unclosed hbefore]
      · simp [BrowserWorld.onmessage, h.capacity]
      · simp [BrowserWorld.onmessage, h.receiver]

theorem Open.before_due (h : transport.Open) :
    transport.due.map .message <+: transport.world.channel.accepted := by
  unfold due
  cases hbefore : transport.before with
  | none => exact h.unclosed hbefore ▸ List.prefix_rfl
  | some messages => exact h.before messages hbefore

theorem Open.onclose (h : transport.Open) :
    (transport.closeNow transport.world.onclose).Open := by
  refine ⟨h.reading, h.order, h.given, ?_, ?_, rfl, ?_, h.capacity,
    h.receiver⟩
  · intro messages hbefore
    cases hbefore
    exact h.before_due
  · intro hbefore
    cases hbefore
  · obtain ⟨hstate, hlistener⟩ | ⟨hstate, hlistener⟩ := h.state
    · exact .inl ⟨hstate, by
        simp [closeNow, BrowserWorld.onclose, BrowserWorld.notifyClose,
          hlistener]⟩
    · exact .inr ⟨hstate, by
        simp [closeNow, BrowserWorld.onclose, BrowserWorld.notifyClose,
          hlistener]⟩

theorem Open.sendError (h : transport.Open) (err : WebSocketError)
    (hclosed : transport.before.isSome = true) :
    { transport with world := { transport.world with
        channel := (transport.world.channel.trySend
          (.error err)).1 } }.Open := by
  refine ⟨h.reading, ?_, ?_, ?_, ?_, h.closed, h.state, ?_, ?_⟩
  · simp [h.send, h.order]
  · simp [h.given]
  · intro messages hbefore
    simp only [h.send]
    exact (h.before messages hbefore).trans (List.prefix_append _ _)
  · intro hbefore
    rw [show transport.before = none from hbefore] at hclosed
    cases hclosed
  · simp [h.capacity]
  · simp [h.receiver]

theorem Open.onerror (h : transport.Open) (description : String) :
    (transport.closeNow (transport.world.onerror description)).Open :=
  h.onclose.sendError (.unknown description) rfl

end Callbacks

section Poll

/-- What the poll of a read future makes of the transport. -/
def answered (transport : BrowserTransport) :
    BrowserWorld × ReadFuture ×
      Poll (Except WispError (Option (Bytes × WebSocketReader))) →
    BrowserTransport
  | (world, fut, .pending) =>
      { transport with world := world, reader := ⟨.future fut⟩ }
  | (world, _, .ready (.ok (some (payload, reader)))) =>
      { transport with
        world := world
        reader := ⟨.value reader⟩
        yielded := transport.yielded ++ [payload] }
  | (world, fut, .ready _) =>
      { transport with
        world := world
        reader := ⟨.future fut⟩
        ended := true }

/-- A reader without a future makes one, and polls it. -/
theorem poll_eq {first : SelectBranch} {fut : ReadFuture}
    (hstate : transport.reader.state = .future fut ∨
      transport.reader.state = .value ⟨⟩ ∧ fut = .start) :
    transport.poll first = transport.answered
      (WebSocketReader.read.poll { transport.world with first := first }
        fut) := by
  have hpoll : transport.reader.pollNext WebSocketReader.read
      { transport.world with first := first } =
        (AsyncIteratorTransportRead.mk (.future fut)).pollNext
          WebSocketReader.read { transport.world with first := first } := by
    obtain ⟨world, ⟨state⟩, _⟩ := transport
    obtain rfl | ⟨rfl, rfl⟩ := hstate
    · rfl
    · rfl
  unfold poll
  rw [hpoll, AsyncIteratorTransportRead.pollNext_future]
  obtain ⟨world', fut', answer⟩ :=
    WebSocketReader.read.poll { transport.world with first := first } fut
  cases answer with
  | pending => rfl
  | ready ret =>
      cases ret with
      | error err => rfl
      | ok item =>
          cases item with
          | none => rfl
          | some pair => rfl

/-- The ways through the `select!` while the listener is there. -/
inductive Selected (world : BrowserWorld) (flag : Bool) :
    BrowserWorld × Poll (Option WebSocketMessage) → Prop where
  | skipped (hfirst : world.first = .close) (hflag : flag = true) :
      Selected world flag (world, .ready none)
  | taken {channel : Channel WebSocketMessage} {item : WebSocketMessage}
      (hchannel : channel = world.channel.pollNext.1)
      (hqueue : world.channel.queue = item :: channel.queue)
      (htaken : channel.taken = world.channel.taken ++ [item]) :
      Selected world flag
        ({ world with channel := channel }, .ready (some item))
  | drained {channel : Channel WebSocketMessage}
      {answer : Poll (Option WebSocketMessage)}
      (hchannel : channel = world.channel.pollNext.1)
      (hempty : world.channel.queue = [])
      (hqueue : channel.queue = [])
      (htaken : channel.taken = world.channel.taken)
      (hanswer : answer = .pending ∨ answer = .ready none ∧
        (flag = true ∨ world.channel.sender = false)) :
      Selected world flag ({ world with channel := channel }, answer)

theorem pollData_eq (world : BrowserWorld) :
    world.pollData = ({ world with channel := world.channel.pollNext.1 },
      world.channel.pollNext.2) := rfl

theorem selected {world : BrowserWorld} {flag : Bool}
    (hlistener : world.listener = some flag) :
    Selected world flag world.select := by
  have hpoll := pollData_eq world
  unfold BrowserWorld.select BrowserWorld.pollListener
  rw [hlistener]
  obtain ⟨item, hanswer, hqueue, htaken⟩ | ⟨hempty, hqueue, htaken, hanswer⟩ :=
    world.channel.pollNext_cases
  · rw [hanswer] at hpoll
    have htakes : Selected world flag _ := .taken rfl hqueue htaken
    cases hfirst : world.first with
    | data => simpa only [hpoll] using htakes
    | close =>
        cases flag with
        | true => exact .skipped hfirst rfl
        | false => simpa [hpoll] using htakes
  · have hwaits : ∀ answer : Poll (Option WebSocketMessage),
        answer = .pending ∨ answer = .ready none ∧
          (flag = true ∨ world.channel.sender = false) →
        Selected world flag
          ({ world with channel := world.channel.pollNext.1 }, answer) :=
      fun answer hanswer => .drained rfl hempty hqueue htaken hanswer
    rw [hanswer] at hpoll
    cases hsender : world.channel.sender with
    | false =>
        rw [hsender, if_neg Bool.false_ne_true] at hpoll
        have hends := hwaits (.ready none) (.inr ⟨rfl, .inr hsender⟩)
        cases hfirst : world.first with
        | data => simpa only [hpoll] using hends
        | close =>
            cases flag with
            | true => exact .skipped hfirst rfl
            | false => simpa [hpoll] using hends
    | true =>
        rw [hsender, if_pos rfl] at hpoll
        cases hfirst : world.first with
        | data =>
            cases flag with
            | true =>
                simpa [hpoll, hlistener] using
                  hwaits _ (.inr ⟨rfl, .inl rfl⟩)
            | false => simpa [hpoll, hlistener] using hwaits _ (.inl rfl)
        | close =>
            cases flag with
            | true => exact .skipped hfirst rfl
            | false => simpa [hpoll] using hwaits _ (.inl rfl)

/-- Polls change neither what went into the queue nor the close. -/
theorem Open.move (h : transport.Open) {world : BrowserWorld}
    {reader : AsyncIteratorTransportRead WebSocketReader ReadFuture}
    {yielded : List Bytes}
    (hchannel : world.channel = transport.world.channel.pollNext.1)
    (hclosed : world.closed = transport.world.closed)
    (hgiven : messagesOf world.channel.taken = yielded)
    (hstate : reader.state = .value ⟨⟩ ∧ world.listener = none ∨
      reader.state = .future .selecting ∧
        world.listener = some world.closed) :
    { transport with
      world := world, reader := reader, yielded := yielded }.Open := by
  have haccepted : world.channel.accepted =
      transport.world.channel.accepted := by
    rw [hchannel, Channel.accepted_pollNext]
  refine ⟨h.reading, ?_, hgiven, ?_, ?_, ?_, hstate, ?_, ?_⟩
  · simpa only [haccepted] using h.order
  · simpa only [haccepted] using h.before
  · simpa only [haccepted] using h.unclosed
  · simpa only [hclosed] using h.closed
  · simpa only [hchannel, Channel.capacity_pollNext] using h.capacity
  · simpa only [hchannel, Channel.receiver_pollNext] using h.receiver

/-- An end is fine where all that is due has been taken. -/
theorem Open.finish (h : transport.Open) {world : BrowserWorld}
    {reader : AsyncIteratorTransportRead WebSocketReader ReadFuture}
    (hdue : transport.due.map .message <+: transport.world.channel.taken)
    (hsettled : transport.before.isSome = true ∨
      world.channel.sender = false) :
    { transport with world := world, reader := reader, ended := true }.Ended :=
  ⟨rfl, h.order_yielded, h.given ▸ prefix_messagesOf hdue, hsettled⟩

/-- An error in the queue was put there by a close. -/
theorem Open.isSome_of_error (h : transport.Open) (err : WebSocketError)
    (hmem : .error err ∈ transport.world.channel.accepted) :
    transport.before.isSome = true := by
  cases hbefore : transport.before with
  | some messages => rfl
  | none =>
      rw [h.unclosed hbefore] at hmem
      simp at hmem

/-- What becomes of an open transport that waits in the `select!`. -/
theorem Open.waited (h : transport.Open) {world : BrowserWorld}
    (hchannel : world.channel = transport.world.channel)
    (hclosed : world.closed = transport.world.closed)
    (hlistener : world.listener = some world.closed)
    (hfirst : world.first = .close → world.closed = false) :
    (transport.answered (WebSocketReader.wait world)).Open ∨
      (transport.answered (WebSocketReader.wait world)).Ended := by
  have hselected := selected hlistener
  unfold WebSocketReader.wait
  generalize world.select = result at hselected ⊢
  cases hselected with
  | skipped hclose hflag =>
      rw [hfirst hclose] at hflag
      cases hflag
  | @taken channel item hpolled hqueue htaken =>
      rw [hchannel] at hpolled hqueue htaken
      cases item with
      | message data =>
          refine .inl (h.move hpolled hclosed ?_ (.inl ⟨rfl, rfl⟩))
          simp only [htaken, messagesOf_append, messagesOf_message, h.given]
      | error err =>
          have haccepted : transport.world.channel.accepted =
              transport.world.channel.taken ++ .error err :: channel.queue := by
            rw [Channel.accepted, hqueue]
          refine .inr (h.finish ?_ (.inl (h.isSome_of_error err ?_)))
          · exact prefix_of_prefix_error (haccepted ▸ h.before_due)
          · simp [haccepted]
  | @drained channel answer hpolled hempty hqueue htaken hanswer =>
      rw [hchannel] at hpolled hempty htaken hanswer
      obtain rfl | ⟨rfl, hends⟩ := hanswer
      · refine .inl (h.move hpolled hclosed ?_ (.inr ⟨rfl, hlistener⟩))
        simp only [htaken, h.given]
      · have haccepted : transport.world.channel.accepted =
            transport.world.channel.taken := by
          rw [Channel.accepted, hempty, List.append_nil]
        refine .inr (h.finish (haccepted ▸ h.before_due) ?_)
        obtain hflag | hsender := hends
        · exact .inl (by rw [← h.closed, ← hclosed, hflag])
        · right
          simpa [BrowserWorld.dropReader, Channel.dropReceiver, hpolled] using
            hsender

end Poll

section Steps

theorem Open.poll_of_not_skips (h : transport.Open) {first : SelectBranch}
    (hskips : ¬ transport.Skips first) :
    (transport.poll first).Open ∨ (transport.poll first).Ended := by
  simp only [Skips, not_or, not_and, Bool.not_eq_true] at hskips
  obtain ⟨hstate, hlistener⟩ | ⟨hstate, hlistener⟩ := h.state
  · have hclosed := hskips.1 hstate
    have hwait : WebSocketReader.read.poll
        { transport.world with first := first } .start =
          WebSocketReader.wait { transport.world with
            first := first, listener := some false } :=
      if_neg (Bool.eq_false_iff.mp hclosed)
    rw [poll_eq (.inr ⟨hstate, rfl⟩), hwait]
    exact h.waited rfl rfl (congrArg some hclosed.symm) fun _ => hclosed
  · rw [poll_eq (.inl hstate), WebSocketReader.read]
    refine h.waited rfl rfl hlistener fun hfirst => ?_
    have hflag := hskips.2 hfirst
    rw [hlistener] at hflag
    simpa using hflag

/-- A poll that skips the queue ends the reader. -/
theorem Open.poll_of_skips (h : transport.Open) {first : SelectBranch}
    (hskips : transport.Skips first) :
    ∃ world reader, transport.poll first =
      { transport with world := world, reader := reader, ended := true } := by
  obtain ⟨hstate, hclosed⟩ | ⟨hfirst, hnotified⟩ := hskips
  · have hread : WebSocketReader.read.poll
        { transport.world with first := first } .start =
          ({ transport.world with first := first }.dropReader, .finished,
            .ready (.error .wsImplSocketClosed)) := if_pos hclosed
    rw [poll_eq (.inr ⟨hstate, rfl⟩), hread]
    exact ⟨_, _, rfl⟩
  · obtain ⟨-, hlistener⟩ | ⟨hstate, -⟩ := h.state
    · rw [hlistener] at hnotified
      cases hnotified
    · have hselect : { transport.world with first := first }.select =
          ({ transport.world with first := first }, .ready none) := by
        simp [BrowserWorld.select, BrowserWorld.pollListener, hfirst,
          hnotified]
      rw [poll_eq (.inl hstate), WebSocketReader.read]
      dsimp only
      rw [WebSocketReader.wait, hselect]
      exact ⟨_, _, rfl⟩

theorem Open.closed_of_skips (h : transport.Open) {first : SelectBranch}
    (hskips : transport.Skips first) : transport.before.isSome = true := by
  rw [← h.closed]
  obtain ⟨-, hclosed⟩ | ⟨-, hnotified⟩ := hskips
  · exact hclosed
  · obtain ⟨-, hlistener⟩ | ⟨-, hlistener⟩ := h.state
    · rw [hlistener] at hnotified
      cases hnotified
    · rw [hlistener] at hnotified
      exact Option.some.inj hnotified

theorem Open.step {event : BrowserEvent} (h : transport.Open)
    (hdrains : transport.Drains event)
    (hstep : transport.step event = some next) : next.Open ∨ next.Ended := by
  cases event with
  | poll first =>
      simp only [BrowserTransport.step, h.reading, Bool.false_eq_true,
        if_false, Option.some.injEq] at hstep
      subst hstep
      by_cases hskips : transport.Skips first
      · obtain ⟨world, reader, hpoll⟩ := h.poll_of_skips hskips
        rw [hpoll]
        refine .inr ⟨rfl, h.order_yielded, ?_, .inl (h.closed_of_skips hskips)⟩
        exact List.prefix_of_prefix_length_le h.due_prefix h.order_yielded
          (Nat.not_lt.mp (hdrains hskips))
      · exact h.poll_of_not_skips hskips
  | onmessage data =>
      simp only [BrowserTransport.step, Option.ite_none_right_eq_some,
        Option.some.injEq] at hstep
      exact .inl (hstep.2 ▸ h.onmessage data)
  | onclose =>
      simp only [BrowserTransport.step, Option.ite_none_right_eq_some,
        Option.some.injEq] at hstep
      exact .inl (hstep.2 ▸ h.onclose)
  | onerror description =>
      simp only [BrowserTransport.step, Option.ite_none_right_eq_some,
        Option.some.injEq] at hstep
      exact .inl (hstep.2 ▸ h.onerror description)
  | dropWrapper =>
      cases hstep
      exact .inl ⟨h.reading, h.order, h.given, h.before, h.unclosed, h.closed,
        h.state, h.capacity, h.receiver⟩

/-- What the callbacks can still do after the reader's end. -/
structure After (transport next : BrowserTransport) : Prop where
  ended : next.ended = true
  yielded : next.yielded = transport.yielded
  arrived : transport.arrived <+: next.arrived
  before : transport.before.isSome = true → next.before = transport.before
  dropped : transport.world.channel.sender = false →
    next.due = transport.due ∧ next.world.channel.sender = false

theorem after_step {event : BrowserEvent} (hended : transport.ended = true)
    (hstep : transport.step event = some next) : transport.After next := by
  have hclose : ∀ {world : BrowserWorld},
      transport.world.channel.sender = true →
      transport.After (transport.closeNow world) := by
    intro world hsender
    refine ⟨hended, rfl, List.prefix_rfl, ?_, ?_⟩
    · intro hbefore
      obtain ⟨messages, hmessages⟩ := Option.isSome_iff_exists.mp hbefore
      simp [closeNow, due, hmessages]
    · intro hdropped
      rw [hsender] at hdropped
      cases hdropped
  cases event with
  | poll first => simp [BrowserTransport.step, hended] at hstep
  | onmessage data =>
      simp only [BrowserTransport.step, Option.ite_none_right_eq_some,
        Option.some.injEq] at hstep
      obtain ⟨hsender, rfl⟩ := hstep
      refine ⟨hended, rfl, List.prefix_append _ _, fun _ => rfl, ?_⟩
      intro hdropped
      rw [hsender] at hdropped
      cases hdropped
  | onclose =>
      simp only [BrowserTransport.step, Option.ite_none_right_eq_some,
        Option.some.injEq] at hstep
      exact hstep.2 ▸ hclose hstep.1
  | onerror description =>
      simp only [BrowserTransport.step, Option.ite_none_right_eq_some,
        Option.some.injEq] at hstep
      exact hstep.2 ▸ hclose hstep.1
  | dropWrapper =>
      cases hstep
      exact ⟨hended, rfl, List.prefix_rfl, fun _ => rfl, fun _ => ⟨rfl, rfl⟩⟩

theorem After.due (h : transport.After next)
    (hsettled : transport.before.isSome = true ∨
      transport.world.channel.sender = false) :
    next.due = transport.due := by
  obtain hbefore | hsender := hsettled
  · obtain ⟨messages, hmessages⟩ := Option.isSome_iff_exists.mp hbefore
    simp [BrowserTransport.due, h.before hbefore, hmessages]
  · exact (h.dropped hsender).1

/-- A good end stays one. -/
theorem Ended.step {event : BrowserEvent} (h : transport.Ended)
    (hstep : transport.step event = some next) : next.Ended := by
  have hafter := after_step h.ended hstep
  refine ⟨hafter.ended, ?_, ?_, ?_⟩
  · exact hafter.yielded ▸ h.order.trans hafter.arrived
  · rw [hafter.due h.settled, hafter.yielded]
    exact h.complete
  · obtain hbefore | hsender := h.settled
    · exact .inl ((hafter.before hbefore).symm ▸ hbefore)
    · exact .inr (hafter.dropped hsender).2

theorem Lost.step {event : BrowserEvent} (h : transport.Lost)
    (hstep : transport.step event = some next) : next.Lost := by
  have hafter := after_step h.ended hstep
  refine ⟨hafter.ended, (hafter.before h.settled).symm ▸ h.settled, ?_⟩
  rw [Queued, hafter.due (.inl h.settled), hafter.yielded]
  exact h.queued

theorem good_step {event : BrowserEvent}
    (hgood : transport.Open ∨ transport.Ended)
    (hdrains : transport.Drains event)
    (hstep : transport.step event = some next) : next.Open ∨ next.Ended := by
  obtain hopen | hended := hgood
  · exact hopen.step hdrains hstep
  · exact .inr (hended.step hstep)

/-- A poll that skips a queue with such messages loses them. -/
theorem lost_of_not_drains {event : BrowserEvent}
    (hgood : transport.Open ∨ transport.Ended)
    (hdrains : ¬ transport.Drains event)
    (hstep : transport.step event = some next) : next.Lost := by
  cases event with
  | poll first =>
      simp only [Drains, not_forall, not_not] at hdrains
      obtain ⟨hskips, hqueued⟩ := hdrains
      obtain hopen | hended := hgood
      · simp only [BrowserTransport.step, hopen.reading, Bool.false_eq_true,
          if_false, Option.some.injEq] at hstep
        obtain ⟨world, reader, hpoll⟩ := hopen.poll_of_skips hskips
        rw [← hstep, hpoll]
        exact ⟨rfl, hopen.closed_of_skips hskips, hqueued⟩
      · simp [BrowserTransport.step, hended.ended] at hstep
  | onmessage data => exact absurd trivial hdrains
  | onclose => exact absurd trivial hdrains
  | onerror description => exact absurd trivial hdrains
  | dropWrapper => exact absurd trivial hdrains

/-- The reader gives out everything that arrived before the close exactly in
those runs in which no poll skips a queue that holds some of it. -/
theorem delivers_iff_drains (events : List BrowserEvent)
    (transport : BrowserTransport)
    (hrun : machine.run init events = some transport) :
    transport.Delivers ↔ machine.Meets Drains init events := by
  exact machine.holds_iff_meets
    (fun _ _ _ hgood hdrains hstep => good_step hgood hdrains hstep)
    (fun _ _ _ hgood hdrains hstep => lost_of_not_drains hgood hdrains hstep)
    (fun _ _ _ hlost hstep => Lost.step hlost hstep)
    (fun _ hgood => hgood.elim Open.delivers Ended.delivers)
    (fun _ hlost => Lost.not_delivers hlost) (.inl open_init) hrun

theorem delivers_iff_drains_close :
    ∃ transport, machine.run init
        [.onmessage (some [1]), .poll .data, .onclose, .poll .data] =
        some transport ∧
      (transport.Delivers ↔ machine.Meets Drains init
        [.onmessage (some [1]), .poll .data, .onclose, .poll .data]) :=
  ⟨_, rfl, delivers_iff_drains _ _ rfl⟩

/-- A reader that is busy at the close finds the flag raised, and one that
waits may be told of the close first; the queued message is lost. -/
theorem not_delivers_close :
    (∃ transport, machine.run init
        [.onmessage (some [1]), .onclose, .poll .data] = some transport ∧
      transport.due = [[1]] ∧ transport.yielded = [] ∧
      ¬ transport.Delivers) ∧
    ∃ transport, machine.run init
        [.poll .data, .onmessage (some [1]), .onclose, .poll .close] =
        some transport ∧
      transport.due = [[1]] ∧ transport.yielded = [] ∧
      ¬ transport.Delivers := by
  refine ⟨⟨_, rfl, rfl, rfl, fun h => ?_⟩, ⟨_, rfl, rfl, rfl, fun h => ?_⟩⟩
  · exact absurd (h.complete rfl) (by decide)
  · exact absurd (h.complete rfl) (by decide)

end Steps

end BrowserTransport

end Epoxy
