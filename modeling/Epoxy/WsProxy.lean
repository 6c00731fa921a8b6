/-
The legacy proxy of the server: one WebSocket connection for one stream, whose
destination is the last segment of the path.  Three loops relay between the
WebSocket and the stream, and every connection ends with one close frame.
-/
import Epoxy.RelayLoop
import Epoxy.ServerGate
import Epoxy.StreamBookkeeping
import Mathlib.Data.List.Basic

namespace Epoxy.Server

open ActionMachine ByteCursor RelayLoop

/-- The close codes that the proxy uses. -/
inductive CloseCode where
  | normalClosure
  | policyViolation
  | internalServerError
deriving Repr, DecidableEq

/-- A message of the client. -/
inductive WebSocketMessage where
  | text (payload : Bytes)
  | binary (payload : Bytes)
  | close
  | ping
  | pong
deriving Repr, DecidableEq

inductive WebSocketFrame where
  | data (payload : Bytes)
  | close
  | ignore
deriving Repr, DecidableEq

/-- What is sent to the client. -/
inductive WebSocketReply where
  | binary (payload : Bytes)
  | close (code : CloseCode) (reason : String)
deriving Repr, DecidableEq

namespace WebSocketStreamWrapper

/-- `None` is the end of the connection. -/
def read : Option (Except String WebSocketMessage) →
    Option (Except String WebSocketFrame)
  | some (.ok (.binary payload)) => some (.ok (.data payload))
  | some (.ok (.text payload)) => some (.ok (.data payload))
  | some (.ok .close) => some (.ok .close)
  | some (.ok .ping) => some (.ok .ignore)
  | some (.ok .pong) => some (.ok .ignore)
  | some (.error error) => some (.error error)
  | none => none

end WebSocketStreamWrapper

/-- The stream that a path asks for, or how it is refused. -/
def wsproxyRequest (config : StreamConfig) (path : String) (udp : Bool) :
    Except (CloseCode × String) ConnectPacket :=
  if udp && !config.allowWsproxyUdp then
    .error (.policyViolation, "udp is blocked")
  else
    match (path.toList.splitOn '/').getLast?.map (·.splitOn ':') with
    | none => .error (.policyViolation, "invalid path")
    | some vec =>
        match vec.head? with
        | none => .error (.policyViolation, "invalid host")
        | some host =>
            match vec[1]?.bind parsePort with
            | none => .error (.policyViolation, "invalid port")
            | some port =>
                .ok ⟨if udp then .udp else .tcp, String.ofList host, port⟩

/-- The requested packet, the one it resolved to and the open stream, or how
the request is refused. -/
def wsproxyResolve (config : Config) (around : Surroundings)
    (connect : ConnectPacket) : Outcome (CloseCode × String)
      (ConnectPacket × ConnectPacket × ClientStream) :=
  match ClientStream.resolve config around.lookups connect with
  | .err _ => .err (.internalServerError, "failed to resolve host")
  | .panic => .panic
  | .ok (.valid packet) =>
      match ClientStream.connect config around.connections packet with
      | .ok stream => .ok (connect, packet, stream)
      | .err _ => .err (.internalServerError, "failed to connect to host")
      | .panic => .panic
  | .ok (.validWispnet server packet) =>
      match routeWispnet around.servers around.connections server packet with
      | .ok stream => .ok (connect, packet, stream)
      | .err _ => .err (.internalServerError, "failed to connect to host")
      | .panic => .panic
  | .ok .noResolvedAddrs =>
      .err (.internalServerError, "host did not resolve to any addrs")
  | .ok .blocked => .err (.policyViolation, "host is blocked")
  | .ok .invalid =>
      .err (.policyViolation, "invalid host/port/type combination")

/-- The requests that are not refused. -/
theorem wsproxyRequest_eq_ok {config : StreamConfig} {path : String}
    {udp : Bool} {connect : ConnectPacket} :
    wsproxyRequest config path udp = .ok connect ↔
      wsproxyConnect config path udp = some connect := by
  unfold wsproxyRequest wsproxyConnect
  split
  · simp
  · cases (path.toList.splitOn '/').getLast?.map (·.splitOn ':') with
    | none => simp
    | some vec =>
        cases vec with
        | nil => simp
        | cons host rest =>
            cases rest with
            | nil => simp
            | cons port rest =>
                cases hport : parsePort port with
                | none => simp [hport]
                | some port => simp [hport]

/-- The proxy opens what a Wisp client would get for the same request. -/
theorem wsproxyResolve_eq_ok {config : Config} {around : Surroundings}
    {connect : ConnectPacket}
    {opened : ConnectPacket × ConnectPacket × ClientStream} :
    wsproxyResolve config around connect = .ok opened ↔
      resolveStream config around connect = .ok opened := by
  unfold wsproxyResolve resolveStream
  cases hresolved : ClientStream.resolve config around.lookups connect with
  | err error => simp [orUnreachable, bind, Outcome.bind]
  | panic => simp [orUnreachable, bind, Outcome.bind]
  | ok resolved =>
      cases resolved with
      | valid packet =>
          cases hstream : ClientStream.connect config around.connections
              packet with
          | ok stream => simp [orUnreachable, bind, Outcome.bind, hstream]
          | err error => simp [orUnreachable, bind, Outcome.bind, hstream]
          | panic => simp [orUnreachable, bind, Outcome.bind, hstream]
      | validWispnet server packet =>
          cases hstream : routeWispnet around.servers around.connections
              server packet with
          | ok stream => simp [orUnreachable, bind, Outcome.bind, hstream]
          | err error => simp [orUnreachable, bind, Outcome.bind, hstream]
          | panic => simp [orUnreachable, bind, Outcome.bind, hstream]
      | noResolvedAddrs => simp [orUnreachable, bind, Outcome.bind]
      | blocked => simp [orUnreachable, bind, Outcome.bind]
      | invalid => simp [orUnreachable, bind, Outcome.bind]

/-- What `ws.read()` answers is for a loop. -/
def readEvent {α : Type} (items : Bytes → List α) :
    Option (Except String WebSocketFrame) → Event α String
  | none => .leftEnd
  | some (.error error) => .leftFailed error
  | some (.ok (.data payload)) => .left (items payload)
  | some (.ok .close) => .leftClose
  | some (.ok .ignore) => .leftIgnored

/-- An answer to `ws.write`. -/
inductive WriteAnswer where
  | sent
  | failed (taken : Bool) (error : String)

def WriteAnswer.event {α : Type} : WriteAnswer → Event α String
  | .sent => .sent
  | .failed taken error => .sendFailed taken error

/-- What the loop of a TCP stream waits for is answered with. -/
inductive TcpAnswer where
  | read (message : Option (Except String WebSocketMessage))
  | fillBuf (bytes : Except String Bytes)
  /-- The stream accepted some bytes of a `write_all`, or failed. -/
  | accepted (n : Nat)
  | writeFailed (error : String)
  | shutdown (result : Except String Unit)
  | write (answer : WriteAnswer)

def TcpAnswer.event : TcpAnswer → Event UInt8 String
  | .read message => readEvent id (WebSocketStreamWrapper.read message)
  | .fillBuf (.ok bytes) => if bytes.isEmpty then .rightEnd else .right bytes
  | .fillBuf (.error error) => .rightFailed error
  | .accepted n => .handed n
  | .writeFailed error => .handFailed error
  | .shutdown result => .closed result
  | .write answer => answer.event

/-- A close frame shuts the stream down; what fills the buffer is one
message. -/
def tcpKind : Kind UInt8 := ⟨true, fun _ => false⟩

/-- The datagrams of a UDP socket; close frames are ignored. -/
inductive UdpAnswer where
  | read (message : Option (Except String WebSocketMessage))
  | recv (datagram : Except String Bytes)
  | send (result : Except String Unit)
  | write (answer : WriteAnswer)

/-- `recv` cuts a datagram off at the size of the buffer. -/
def UdpAnswer.event : UdpAnswer → Event Bytes String
  | .read message => readEvent (fun payload => [payload])
      (WebSocketStreamWrapper.read message)
  | .recv (.ok datagram) => .right [datagram.take 65507]
  | .recv (.error error) => .rightFailed error
  | .send (.ok ()) => .handed 1
  | .send (.error error) => .handFailed error
  | .write answer => answer.event

def udpKind : Kind Bytes := ⟨false, fun _ => false⟩

/-- The payloads of a stream of a wispnet server. -/
inductive WispnetAnswer where
  | read (message : Option (Except String WebSocketMessage))
  | next (payload : Option (Except String Bytes))
  | send (result : Except String Unit)
  | close (result : Except String Unit)
  | write (answer : WriteAnswer)

def WispnetAnswer.event : WispnetAnswer → Event Bytes String
  | .read message => readEvent (fun payload => [payload])
      (WebSocketStreamWrapper.read message)
  | .next none => .rightEnd
  | .next (some (.ok payload)) => .right [payload]
  | .next (some (.error error)) => .rightFailed error
  | .send (.ok ()) => .handed 1
  | .send (.error error) => .handFailed error
  | .close result => .closed result
  | .write answer => answer.event

def wispnetKind : Kind Bytes := ⟨true, fun _ => false⟩

/-- How the connection is closed behind a loop. -/
def closeReply : Except String Unit → WebSocketReply
  | .ok () => .close .normalClosure ""
  | .error error => .close .normalClosure error

/-- The payload of a data frame. -/
def payloadOf : Option (Except String WebSocketMessage) → Option Bytes
  | some (.ok (.binary payload)) => some payload
  | some (.ok (.text payload)) => some payload
  | _ => none

/-- What the client sent for the stream. -/
def TcpAnswer.payload : TcpAnswer → Option Bytes
  | .read message => payloadOf message
  | _ => none

/-- What was read from the stream. -/
def TcpAnswer.filled : TcpAnswer → Option Bytes
  | .fillBuf (.ok bytes) => some bytes
  | _ => none

def UdpAnswer.payload : UdpAnswer → Option Bytes
  | .read message => payloadOf message
  | _ => none

def UdpAnswer.received : UdpAnswer → Option Bytes
  | .recv (.ok datagram) => some (datagram.take 65507)
  | _ => none

def WispnetAnswer.payload : WispnetAnswer → Option Bytes
  | .read message => payloadOf message
  | _ => none

def WispnetAnswer.received : WispnetAnswer → Option Bytes
  | .next (some (.ok payload)) => some payload
  | _ => none

section Loops

/-- What a message of the client is for a loop. -/
theorem readEvent_read {α : Type} (items : Bytes → List α)
    (message : Option (Except String WebSocketMessage)) :
    (readEvent items (WebSocketStreamWrapper.read message)).fromLeft =
        ((payloadOf message).map items).getD [] ∧
      (readEvent items (WebSocketStreamWrapper.read message)).fromRight =
        [] := by
  cases message with
  | none => exact ⟨rfl, rfl⟩
  | some message =>
      cases message with
      | error error => exact ⟨rfl, rfl⟩
      | ok message =>
          cases message with
          | text payload => exact ⟨rfl, rfl⟩
          | binary payload => exact ⟨rfl, rfl⟩
          | close => exact ⟨rfl, rfl⟩
          | ping => exact ⟨rfl, rfl⟩
          | pong => exact ⟨rfl, rfl⟩

theorem WriteAnswer.from_event {α : Type} (answer : WriteAnswer) :
    (answer.event : Event α String).fromLeft = [] ∧
      (answer.event : Event α String).fromRight = [] := by
  cases answer with
  | sent => exact ⟨rfl, rfl⟩
  | failed taken error => exact ⟨rfl, rfl⟩

theorem readEvent_ne_right {α : Type} (items : Bytes → List α)
    (frame : Option (Except String WebSocketFrame)) (other : List α) :
    readEvent items frame ≠ .right other := by
  intro heq
  cases frame with
  | none => cases heq
  | some frame =>
      cases frame with
      | error error => cases heq
      | ok frame => cases frame <;> cases heq

theorem WriteAnswer.event_ne_right {α : Type} (answer : WriteAnswer)
    (other : List α) : (answer.event : Event α String) ≠ .right other := by
  intro heq
  cases answer <;> cases heq

theorem TcpAnswer.from_event (answer : TcpAnswer) :
    answer.event.fromLeft = answer.payload.getD [] ∧
      answer.event.fromRight = answer.filled.getD [] := by
  cases answer with
  | read message =>
      obtain ⟨hleft, hright⟩ := readEvent_read id message
      rw [Option.map_id_fun, id] at hleft
      exact ⟨hleft, hright⟩
  | fillBuf bytes =>
      cases bytes with
      | error error => exact ⟨rfl, rfl⟩
      | ok bytes =>
          cases bytes with
          | nil => exact ⟨rfl, rfl⟩
          | cons byte bytes => exact ⟨rfl, rfl⟩
  | write answer => exact answer.from_event
  | accepted | writeFailed | shutdown => exact ⟨rfl, rfl⟩

theorem UdpAnswer.from_event (answer : UdpAnswer) :
    answer.event.fromLeft = answer.payload.toList ∧
      answer.event.fromRight = answer.received.toList := by
  cases answer with
  | read message =>
      obtain ⟨hleft, hright⟩ := readEvent_read (fun data => [data]) message
      refine ⟨hleft.trans ?_, hright⟩
      rw [UdpAnswer.payload]
      cases payloadOf message with
      | none => rfl
      | some payload => rfl
  | recv datagram =>
      cases datagram with
      | error error => exact ⟨rfl, rfl⟩
      | ok datagram => exact ⟨rfl, rfl⟩
  | send result =>
      cases result with
      | error error => exact ⟨rfl, rfl⟩
      | ok => exact ⟨rfl, rfl⟩
  | write answer => exact answer.from_event

theorem WispnetAnswer.from_event (answer : WispnetAnswer) :
    answer.event.fromLeft = answer.payload.toList ∧
      answer.event.fromRight = answer.received.toList := by
  cases answer with
  | read message =>
      obtain ⟨hleft, hright⟩ := readEvent_read (fun data => [data]) message
      refine ⟨hleft.trans ?_, hright⟩
      rw [WispnetAnswer.payload]
      cases payloadOf message with
      | none => rfl
      | some payload => rfl
  | next payload =>
      cases payload with
      | none => exact ⟨rfl, rfl⟩
      | some payload =>
          cases payload with
          | error error => exact ⟨rfl, rfl⟩
          | ok payload => exact ⟨rfl, rfl⟩
  | send result =>
      cases result with
      | error error => exact ⟨rfl, rfl⟩
      | ok => exact ⟨rfl, rfl⟩
  | close result => exact ⟨rfl, rfl⟩
  | write answer => exact answer.from_event

theorem flatMap_event {A α : Type} {event : A → List α}
    {items : A → Option (List α)} (h : ∀ a, event a = (items a).getD [])
    (l : List A) : l.flatMap event = (l.filterMap items).flatten := by
  induction l with
  | nil => rfl
  | cons a rest ih =>
      rw [List.flatMap_cons, h a, ih]
      cases hitems : items a with
      | none => rw [List.filterMap_cons_none hitems]; rfl
      | some list => rw [List.filterMap_cons_some hitems]; rfl

theorem flatten_singletons {rounds : List (List Bytes)}
    (h : ∀ round ∈ rounds, ∃ datagram, round = [datagram]) :
    rounds.map List.flatten = rounds.flatten := by
  induction rounds with
  | nil => rfl
  | cons round rest ih =>
      obtain ⟨datagram, rfl⟩ := h round List.mem_cons_self
      rw [List.map_cons, List.flatten_cons,
        ih fun round hround => h round (List.mem_cons_of_mem _ hround)]
      simp

/-- The loop of a TCP stream: the stream gets the bytes of the client's data
frames, the client those of the stream in messages that are not empty, each in
order; nothing is missing if the loop ended well. -/
theorem tcp_relayed {answers : List TcpAnswer} {relay : Relay UInt8 String}
    (hrun : (Relay.machine tcpKind).run .init (answers.map TcpAnswer.event) =
      some relay) :
    relay.toRight.given <+: (answers.filterMap TcpAnswer.payload).flatten ∧
      relay.messages.flatten <+:
        (answers.filterMap TcpAnswer.filled).flatten ∧
      [] ∉ relay.messages ∧
      (relay.wait = .ended (.ok ()) →
        relay.toRight.given =
            (answers.filterMap TcpAnswer.payload).flatten ∧
          relay.messages.flatten =
            (answers.filterMap TcpAnswer.filled).flatten) := by
  have hfilled : ∀ event ∈ answers.map TcpAnswer.event, ∀ items,
      event = .right items → items ≠ [] := by
    rintro event hevent items rfl rfl
    obtain ⟨answer, -, heq⟩ := List.mem_map.mp hevent
    cases answer with
    | fillBuf bytes =>
        cases bytes with
        | error error => cases heq
        | ok bytes =>
            cases bytes with
            | nil => cases heq
            | cons byte bytes => cases heq
    | read message => exact readEvent_ne_right _ _ _ heq
    | write answer => exact answer.event_ne_right _ heq
    | accepted | writeFailed | shutdown => cases heq
  have hrelayed := Relay.relayed_run (fun _ _ => rfl) hfilled hrun
  rw [List.flatMap_map, List.flatMap_map,
    flatMap_event fun answer => (TcpAnswer.from_event answer).1,
    flatMap_event fun answer => (TcpAnswer.from_event answer).2] at hrelayed
  obtain ⟨hright, hleft, heach, hended⟩ := hrelayed
  exact ⟨hright, hleft, fun hmem => heach [] hmem rfl, hended⟩

/-- The datagram loops: a message is a datagram, in either direction. -/
theorem datagrams_relayed {A : Type} {kind : Kind Bytes}
    {event : A → Event Bytes String} {payload received : A → Option Bytes}
    (hskips : ∀ round, kind.skips round = false)
    (hleft : ∀ answer, (event answer).fromLeft = (payload answer).toList)
    (hright : ∀ answer, (event answer).fromRight = (received answer).toList)
    (hsingle : ∀ answer items, event answer = .right items →
      ∃ datagram, items = [datagram])
    {answers : List A} {relay : Relay Bytes String}
    (hrun : (Relay.machine kind).run .init (answers.map event) = some relay) :
    relay.toRight.given <+: answers.filterMap payload ∧
      relay.messages.map List.flatten <+: answers.filterMap received ∧
      (relay.wait = .ended (.ok ()) →
        relay.toRight.given = answers.filterMap payload ∧
          relay.messages.map List.flatten = answers.filterMap received) := by
  have heach : ∀ event' ∈ answers.map event, ∀ items, event' = .right items →
      ∃ datagram, items = [datagram] := by
    rintro event' hevent items rfl
    obtain ⟨answer, -, heq⟩ := List.mem_map.mp hevent
    exact hsingle answer items heq
  have hrelayed := Relay.relayed_run (fun round _ => hskips round) heach hrun
  simp only [List.flatMap_map, hleft, hright,
    ← List.filterMap_eq_flatMap_toList] at hrelayed
  obtain ⟨hgiven, hmessages, hsingles, hended⟩ := hrelayed
  rw [← flatten_singletons hsingles] at hmessages hended
  exact ⟨hgiven, hmessages, hended⟩

/-- Datagrams and data frames correspond one to one, in order. -/
theorem udp_relayed {answers : List UdpAnswer} {relay : Relay Bytes String}
    (hrun : (Relay.machine udpKind).run .init (answers.map UdpAnswer.event) =
      some relay) :
    relay.toRight.given <+: answers.filterMap UdpAnswer.payload ∧
      relay.messages.map List.flatten <+:
        answers.filterMap UdpAnswer.received ∧
      (relay.wait = .ended (.ok ()) →
        relay.toRight.given = answers.filterMap UdpAnswer.payload ∧
          relay.messages.map List.flatten =
            answers.filterMap UdpAnswer.received) := by
  refine datagrams_relayed (fun _ => rfl)
    (fun answer => answer.from_event.1) (fun answer => answer.from_event.2)
    (fun answer items heq => ?_) hrun
  cases answer with
  | read message => exact absurd heq (readEvent_ne_right _ _ _)
  | recv datagram =>
      cases datagram with
      | error error => cases heq
      | ok datagram =>
          cases heq
          exact ⟨_, rfl⟩
  | send result => cases result <;> cases heq
  | write answer => exact absurd heq (answer.event_ne_right _)

theorem wispnet_relayed {answers : List WispnetAnswer}
    {relay : Relay Bytes String}
    (hrun : (Relay.machine wispnetKind).run .init
      (answers.map WispnetAnswer.event) = some relay) :
    relay.toRight.given <+: answers.filterMap WispnetAnswer.payload ∧
      relay.messages.map List.flatten <+:
        answers.filterMap WispnetAnswer.received ∧
      (relay.wait = .ended (.ok ()) →
        relay.toRight.given = answers.filterMap WispnetAnswer.payload ∧
          relay.messages.map List.flatten =
            answers.filterMap WispnetAnswer.received) := by
  refine datagrams_relayed (fun _ => rfl)
    (fun answer => answer.from_event.1) (fun answer => answer.from_event.2)
    (fun answer items heq => ?_) hrun
  cases answer with
  | read message => exact absurd heq (readEvent_ne_right _ _ _)
  | next payload =>
      cases payload with
      | none => cases heq
      | some payload =>
          cases payload with
          | error error => cases heq
          | ok payload =>
              cases heq
              exact ⟨_, rfl⟩
  | send result => cases result <;> cases heq
  | close result => cases heq
  | write answer => exact absurd heq (answer.event_ne_right _)

end Loops

end Epoxy.Server
