/-
The handshakes of the two sides, as sessions over the transport.  With v2 the
sides exchange INFO packets and the server grants its buffer with a CONTINUE;
a side that was asked for v1, or that meets a v1 peer, does without.
-/
import Epoxy.InfoFraming
import Epoxy.MuxInner
import Epoxy.SessionNetwork

namespace Epoxy

open ByteCursor SessionNetwork
open ProtocolExtension (getCongestionStreamTypes)
open ProtocolExtensionBuilder (buildToExtension)

variable {α : Type}

/-- A computation that may fail and that sends and receives on the transport.
A send is answered with its result; the transport delivers a message or an
error, or it has ended. -/
def Handshake (α : Type) : Type :=
  Session Bytes (Except WispError Unit) (Option (Except WispError Bytes))
    (Outcome WispError α)

namespace Handshake

def lift (x : Outcome WispError α) : Handshake α := .ret x

instance : Monad Handshake where
  pure value := lift (.ok value)
  bind first rest := Session.bind first fun
    | .ok value => rest value
    | .err error => lift (.err error)
    | .panic => lift .panic

/-- `tx.get().send(..).await?`, with the lock on the sink held. -/
def send (message : Bytes) : Handshake Unit :=
  Session.send message fun
    | .ok () => lift (.ok ())
    | .error error => lift (.err error)

def nextErroring : Handshake Bytes :=
  Session.recv fun
    | some (.ok message) => lift (.ok message)
    | some (.error error) => lift (.err error)
    | none => lift (.err .wsImplSocketClosed)

@[simp] theorem bind_assoc {β γ : Type} (first : Handshake α)
    (second : α → Handshake β) (third : β → Handshake γ) :
    (first >>= second) >>= third =
      first >>= fun value => second value >>= third := by
  refine (Session.bind_assoc first _ _).trans ?_
  congr 1
  funext result
  cases result <;> rfl

@[simp] theorem pure_bind {β : Type} (value : α) (rest : α → Handshake β) :
    (pure value >>= rest : Handshake β) = rest value := rfl

@[simp] theorem lift_bind {β : Type} (x : Outcome WispError α)
    (rest : α → Outcome WispError β) :
    lift (x >>= rest) = lift x >>= fun value => lift (rest value) := by
  cases x <;> rfl

theorem lift_ok_bind {β : Type} (value : α) (rest : α → Handshake β) :
    (lift (.ok value) >>= rest : Handshake β) = rest value := rfl

end Handshake

section Extensions

variable {E B : Type}

/-- The handshake of an extension: none of them has one of its own. -/
def ProtocolExtension.handleHandshake (extension : E) : Handshake E :=
  pure extension

def handleHandshake : List E → Handshake (List E)
  | [] => pure []
  | extension :: rest => do
      let extension ← ProtocolExtension.handleHandshake extension
      let rest ← handleHandshake rest
      pure (extension :: rest)

theorem handleHandshake_eq (extensions : List E) :
    handleHandshake extensions = pure extensions := by
  induction extensions with
  | nil => rfl
  | cons extension rest ih =>
      simp [handleHandshake, ProtocolExtension.handleHandshake, ih]

variable [ProtocolExtension E] [ProtocolExtensionBuilder B E]

def extensionIds (extensions : List E) : List UInt8 :=
  extensions.map ProtocolExtension.getId

def builderIds (builders : List B) : List UInt8 :=
  builders.map ProtocolExtensionBuilder.getId

/-- Build until the first builder fails. -/
def buildToExtensions (role : Role) :
    List B → List B × Outcome WispError (List E)
  | [] => ([], .ok [])
  | builder :: rest =>
      let (builder, built) := buildToExtension builder role
      match built with
      | .ok extension =>
          let (rest, extensions) := buildToExtensions role rest
          (builder :: rest, extensions.map (extension :: ·))
      | .err error => (builder :: rest, .err error)
      | .panic => (builder :: rest, .panic)

/-- The builders are returned as the builds left them. -/
def sendInfoPacket (builders : List B) (role : Role) :
    Handshake (List B) := do
  let extensions ← Handshake.lift (buildToExtensions role builders).2
  let packet ← Handshake.lift (InfoPacket.encode ⟨wispVersion, extensions⟩)
  Handshake.send packet
  pure (buildToExtensions role builders).1

def validateContinuePacket (packet : Packet) : Outcome WispError UInt32 :=
  if packet.streamId ≠ 0 then .err (.invalidStreamId packet.streamId)
  else
    match packet.packetType with
    | .cont cont => .ok cont.bufferRemaining
    | ty => .err (.invalidPacketType ty.getType)

def getSupportedExtensions (extensions : List E) (builders : List B) :
    List E :=
  extensions.filter fun extension =>
    (builderIds builders).contains (ProtocolExtension.getId extension)

/-- `MuxInner::new`: the stream types with flow control. -/
def flowStreamTypes (extensions : List E) : List UInt8 :=
  extensions.flatMap getCongestionStreamTypes ++ [StreamType.tcp.toU8]

end Extensions

/-- The UDP extension among the extensions of a program. -/
class HasUdp (E : Type) [ProtocolExtension E] where
  udp : E
  getId_udp : ProtocolExtension.getId udp = 0x01

inductive WispHandshakeResultKind (E : Type) where
  | v2 (extensions : List E)
  | v1 (packet : Option Packet)
deriving Repr, DecidableEq

/-- In v1 the UDP extension is implied. -/
def WispHandshakeResultKind.intoParts {E : Type} [ProtocolExtension E]
    [HasUdp E] : WispHandshakeResultKind E → List E × Option Packet
  | .v2 extensions => (extensions, none)
  | .v1 packet => ([HasUdp.udp], packet)

structure WispHandshakeResult (E : Type) where
  kind : WispHandshakeResultKind E
  downgraded : Bool
  bufferSize : UInt32
deriving Repr, DecidableEq

/-- The builders, and the middleware that may change them before they are
used a second time. -/
structure WispV2Handshake (B : Type) where
  builders : List B
  closure : List B → Outcome WispError (List B)

/-- The identity middleware. -/
def WispV2Handshake.new {B : Type} (builders : List B) : WispV2Handshake B :=
  ⟨builders, .ok⟩

def WispV2Handshake.addExtension {B : Type} (v2 : WispV2Handshake B)
    (extension : B) : WispV2Handshake B :=
  { v2 with builders := v2.builders ++ [extension] }

section Sides

variable {E B : Type} [ProtocolExtension E] [ProtocolExtensionBuilder B E]

/-- How a v2 server answers the first packet of its client. -/
def ServerImpl.answer (bufferSize : UInt32) (builders : List B)
    (message : Bytes) : Handshake (WispHandshakeResult E) := do
  let (packet, builders) ← Handshake.lift
    (MaybeInfoPacket.decode message builders .server)
  match packet with
  | .info info => do
      let supported ← handleHandshake
        (getSupportedExtensions info.extensions builders)
      Handshake.send (Packet.newContinue 0 bufferSize).encode
      pure ⟨.v2 supported, false, bufferSize⟩
  | .packet packet => pure ⟨.v1 (some packet), true, bufferSize⟩

/-- A v2 server speaks first, and waits for a v2 or a v1 client. -/
def ServerImpl.handshake (bufferSize : UInt32)
    (v2 : Option (WispV2Handshake B)) :
    Handshake (WispHandshakeResult E) :=
  match v2 with
  | some ⟨builders, closure⟩ => do
      let builders ← sendInfoPacket builders .server
      let builders ← Handshake.lift (closure builders)
      let message ← Handshake.nextErroring
      ServerImpl.answer bufferSize builders message
  | none => do
      Handshake.send (Packet.newContinue 0 bufferSize).encode
      pure ⟨.v1 none, false, bufferSize⟩

/-- A v2 client answers an INFO packet; any other packet must be the CONTINUE
of a v1 server. -/
def ClientImpl.answer (closure : List B → Outcome WispError (List B))
    (builders : List B) (message : Bytes) :
    Handshake (WispHandshakeResult E) := do
  let (packet, builders) ← Handshake.lift
    (MaybeInfoPacket.decode message builders .client)
  match packet with
  | .info info => do
      let builders ← Handshake.lift (closure builders)
      let builders ← sendInfoPacket builders .client
      let supported ← handleHandshake
        (getSupportedExtensions info.extensions builders)
      let message ← Handshake.nextErroring
      let packet ← Handshake.lift (Packet.decode message)
      let bufferSize ← Handshake.lift (validateContinuePacket packet)
      pure ⟨.v2 supported, false, bufferSize⟩
  | .packet packet => do
      let bufferSize ← Handshake.lift (validateContinuePacket packet)
      pure ⟨.v1 none, true, bufferSize⟩

def ClientImpl.handshake (v2 : Option (WispV2Handshake B)) :
    Handshake (WispHandshakeResult E) :=
  match v2 with
  | some ⟨builders, closure⟩ => do
      let message ← Handshake.nextErroring
      ClientImpl.answer closure builders message
  | none => do
      let message ← Handshake.nextErroring
      let packet ← Handshake.lift (Packet.decode message)
      let bufferSize ← Handshake.lift (validateContinuePacket packet)
      pure ⟨.v1 none, false, bufferSize⟩

end Sides

end Epoxy
