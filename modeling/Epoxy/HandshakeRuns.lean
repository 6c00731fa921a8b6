/-
The two handshakes of this library against each other over a reliable
transport: how each pairing of versions runs.  Between two v2 sides the runs
are governed by the exchange of their INFO packets, which is told here without
the transport.
-/
import Epoxy.Handshake

namespace Epoxy

open ActionMachine ByteCursor SessionNetwork
open ProtocolExtensionBuilder (buildFromBytes buildToExtension)

/-- Sends succeed, and messages arrive as they were sent. -/
def reliable :
    Transport Bytes (Except WispError Unit) (Option (Except WispError Bytes)) :=
  ⟨.ok (), fun message => some (.ok message)⟩

/-- The server is on the left and the client on the right. -/
abbrev HandshakeNetwork (E : Type) : Type :=
  Network Bytes (Except WispError Unit) (Option (Except WispError Bytes))
    (Outcome WispError (WispHandshakeResult E))
    (Outcome WispError (WispHandshakeResult E))

/-- A network by the rests of its handshakes and the messages in flight. -/
def between {E : Type} (server client : Handshake (WispHandshakeResult E))
    (toServer toClient : List Bytes) : HandshakeNetwork E :=
  ⟨server, client, toServer, toClient⟩

section Steps

variable {α E : Type} {side : Handshake (WispHandshakeResult E)}
  {toServer toClient : List Bytes}

theorem step_server_send (message : Bytes)
    (rest : Unit → Handshake (WispHandshakeResult E)) :
    Network.step reliable
        (between (Handshake.send message >>= rest) side toServer toClient)
        .left =
      some (between (rest ()) side toServer (toClient ++ [message])) := rfl

theorem step_client_send (message : Bytes)
    (rest : Unit → Handshake (WispHandshakeResult E)) :
    Network.step reliable
        (between side (Handshake.send message >>= rest) toServer toClient)
        .right =
      some (between side (rest ()) (toServer ++ [message]) toClient) := rfl

theorem step_server_recv (message : Bytes)
    (rest : Bytes → Handshake (WispHandshakeResult E)) :
    Network.step reliable
        (between (Handshake.nextErroring >>= rest) side
          (message :: toServer) toClient) .left =
      some (between (rest message) side toServer toClient) := rfl

theorem step_client_recv (message : Bytes)
    (rest : Bytes → Handshake (WispHandshakeResult E)) :
    Network.step reliable
        (between side (Handshake.nextErroring >>= rest) toServer
          (message :: toClient)) .right =
      some (between side (rest message) toServer toClient) := rfl

variable {final : HandshakeNetwork E} {x : Outcome WispError α}
  {rest : α → Handshake (WispHandshakeResult E)}
  {result : WispHandshakeResult E}

/-- A computation on the way to a successful end has succeeded. -/
theorem ok_of_leads_server
    (hleads : Network.Leads reliable
      (between (Handshake.lift x >>= rest) side toServer toClient) final)
    (hresult : final.left = .ret (.ok result)) : ∃ value, x = .ok value := by
  cases x with
  | ok value => exact ⟨value, rfl⟩
  | err error =>
      have hfailed := hleads.left rfl
      rw [hresult] at hfailed
      cases hfailed
  | panic =>
      have hfailed := hleads.left rfl
      rw [hresult] at hfailed
      cases hfailed

theorem ok_of_leads_client
    (hleads : Network.Leads reliable
      (between side (Handshake.lift x >>= rest) toServer toClient) final)
    (hresult : final.right = .ret (.ok result)) : ∃ value, x = .ok value := by
  cases x with
  | ok value => exact ⟨value, rfl⟩
  | err error =>
      have hfailed := hleads.right rfl
      rw [hresult] at hfailed
      cases hfailed
  | panic =>
      have hfailed := hleads.right rfl
      rw [hresult] at hfailed
      cases hfailed

end Steps

section Sides

variable {E B : Type}

/-- The end of every client handshake but the one that downgrades. -/
def ClientImpl.awaitContinue (kind : WispHandshakeResultKind E)
    (message : Bytes) : Handshake (WispHandshakeResult E) := do
  let packet ← Handshake.lift (Packet.decode message)
  let bufferSize ← Handshake.lift (validateContinuePacket packet)
  pure ⟨kind, false, bufferSize⟩

/-- The INFO packet with these entries. -/
def infoMessage (entries : List (UInt8 × Bytes)) : Bytes :=
  InfoPacket.header wispVersion ++ InfoPacket.encodeEntries entries

theorem ClientImpl.awaitContinue_newContinue
    (kind : WispHandshakeResultKind E) (bufferSize : UInt32) :
    ClientImpl.awaitContinue kind (Packet.newContinue 0 bufferSize).encode =
      pure ⟨kind, false, bufferSize⟩ := by
  rw [ClientImpl.awaitContinue, Packet.decode_encode_newContinue]
  rfl

theorem ClientImpl.awaitContinue_info (kind : WispHandshakeResultKind E)
    (entries : List (UInt8 × Bytes)) :
    ClientImpl.awaitContinue kind (infoMessage entries) =
      Handshake.lift (.err (.invalidPacketType 0x05)) := by
  have hlength : ¬ (infoMessage entries).length < 1 + 4 := by
    simp only [infoMessage, InfoPacket.header, List.length_append,
      List.length_cons, List.length_nil]
    omega
  rw [ClientImpl.awaitContinue, Packet.decode, if_neg hlength]
  rfl

/-- A connection that has ended well. -/
def agreed (bufferSize : UInt32)
    (server client : WispHandshakeResultKind E) (downgraded : Bool) :
    HandshakeNetwork E :=
  between (pure ⟨server, false, bufferSize⟩)
    (pure ⟨client, downgraded, bufferSize⟩) [] []

theorem terminal_agreed (bufferSize : UInt32)
    (server client : WispHandshakeResultKind E) (downgraded : Bool) :
    (Network.machine reliable).Terminal
      (agreed bufferSize server client downgraded) :=
  Network.terminal_of_ret

variable [ProtocolExtension E] [ProtocolExtensionBuilder B E]

/-- The entries of the INFO packet that a side sends. -/
def sentEntries (role : Role) (builders : List B) :
    Outcome WispError (List (UInt8 × Bytes)) :=
  (buildToExtensions role builders).2 >>= InfoPacket.wireEntries

theorem sendInfoPacket_eq (builders : List B) (role : Role) :
    sendInfoPacket builders role =
      Handshake.lift (sentEntries role builders) >>= fun entries =>
        Handshake.send (infoMessage entries) >>= fun _ =>
          pure (buildToExtensions role builders).1 := by
  simp only [sendInfoPacket, sentEntries, InfoPacket.encode_eq,
    Handshake.lift_bind, Handshake.bind_assoc, Handshake.lift_ok_bind]
  rfl

theorem ServerImpl.handshake_new (bufferSize : UInt32) (builders : List B) :
    ServerImpl.handshake bufferSize (some (.new builders)) =
      Handshake.lift (sentEntries .server builders) >>= fun offered =>
        Handshake.send (infoMessage offered) >>= fun _ =>
          Handshake.nextErroring >>= ServerImpl.answer bufferSize
            (buildToExtensions .server builders).1 := by
  simp only [ServerImpl.handshake, WispV2Handshake.new, sendInfoPacket_eq,
    Handshake.bind_assoc, Handshake.pure_bind, Handshake.lift_ok_bind]

theorem ServerImpl.answer_info (bufferSize : UInt32) (builders : List B)
    (entries : List (UInt8 × Bytes)) :
    ServerImpl.answer bufferSize builders (infoMessage entries) =
      Handshake.lift (InfoPacket.decodeExtensions .server builders
        (InfoPacket.encodeEntries entries)) >>= fun accepted =>
          Handshake.send (Packet.newContinue 0 bufferSize).encode >>= fun _ =>
            pure ⟨.v2 (getSupportedExtensions accepted.2 accepted.1), false,
              bufferSize⟩ := by
  simp only [ServerImpl.answer, infoMessage, InfoPacket.decode_header,
    Handshake.lift_bind, Handshake.bind_assoc, Handshake.lift_ok_bind,
    handleHandshake_eq, Handshake.pure_bind]

theorem ClientImpl.handshake_new (builders : List B) :
    ClientImpl.handshake (some (.new builders)) =
      Handshake.nextErroring >>= ClientImpl.answer .ok builders := rfl

theorem ClientImpl.answer_info (builders : List B)
    (entries : List (UInt8 × Bytes)) :
    ClientImpl.answer .ok builders (infoMessage entries) =
      Handshake.lift (InfoPacket.decodeExtensions .client builders
        (InfoPacket.encodeEntries entries)) >>= fun received =>
          Handshake.lift (sentEntries .client received.1) >>= fun answered =>
            Handshake.send (infoMessage answered) >>= fun _ =>
              Handshake.nextErroring >>= ClientImpl.awaitContinue
                (.v2 (getSupportedExtensions received.2
                  (buildToExtensions .client received.1).1)) := by
  simp only [ClientImpl.answer, infoMessage, InfoPacket.decode_header,
    Handshake.lift_bind, Handshake.bind_assoc, Handshake.lift_ok_bind,
    handleHandshake_eq, Handshake.pure_bind, sendInfoPacket_eq]
  rfl

theorem ClientImpl.answer_newContinue
    (closure : List B → Outcome WispError (List B)) (builders : List B)
    (bufferSize : UInt32) :
    ClientImpl.answer closure builders
        (Packet.newContinue 0 bufferSize).encode =
      pure ⟨.v1 none, true, bufferSize⟩ := by
  have hhead : (Packet.newContinue 0 bufferSize).encode.head? ≠ some 0x05 := by
    simp [Packet.newContinue, Packet.encode, PacketType.getType,
      PacketType.encode, ContinuePacket.encodeInto]
  rw [ClientImpl.answer, InfoPacket.decode_of_head_ne _ _ hhead,
    Packet.decode_encode_newContinue]
  rfl

/-- The two handshakes of a connection; `none` asks for v1. -/
def connection (bufferSize : UInt32) (server client : Option (List B)) :
    HandshakeNetwork E :=
  between (ServerImpl.handshake bufferSize (server.map .new))
    (ClientImpl.handshake (client.map .new)) [] []

/-- What two v2 sides make of each other's builders: the extensions that the
server and the client end up with. -/
def exchange (server client : List B) :
    Outcome WispError (List E × List E) :=
  sentEntries .server server >>= fun offered =>
    InfoPacket.decodeExtensions .client client
        (InfoPacket.encodeEntries offered) >>= fun received =>
      sentEntries .client received.1 >>= fun answered =>
        InfoPacket.decodeExtensions .server
            (buildToExtensions .server server).1
            (InfoPacket.encodeEntries answered) >>= fun accepted =>
          .ok (getSupportedExtensions accepted.2 accepted.1,
            getSupportedExtensions received.2
              (buildToExtensions .client received.1).1)

theorem connection_of_offered {server client : List B}
    {offered : List (UInt8 × Bytes)} (bufferSize : UInt32)
    (hoffered : sentEntries .server server = .ok offered) :
    connection bufferSize (some server) (some client) =
      between
        (Handshake.send (infoMessage offered) >>= fun _ =>
          Handshake.nextErroring >>= ServerImpl.answer bufferSize
            (buildToExtensions .server server).1)
        (Handshake.nextErroring >>= ClientImpl.answer .ok client) [] [] := by
  simp only [connection, Option.map_some, ServerImpl.handshake_new,
    ClientImpl.handshake_new, hoffered, Handshake.lift_ok_bind]

theorem run_of_exchange {server client : List B}
    {supported : List E × List E}
    (hexchange : exchange server client = .ok supported)
    (bufferSize : UInt32) :
    (Network.machine reliable).run
        (connection bufferSize (some server) (some client))
        [.left, .right, .right, .left, .left, .right] =
      some (agreed bufferSize (.v2 supported.1) (.v2 supported.2) false) := by
  simp only [exchange, Outcome.bind_eq_ok] at hexchange
  obtain ⟨offered, hoffered, received, hreceived, answered, hanswered,
    accepted, haccepted, hsupported⟩ := hexchange
  obtain rfl := Outcome.ok.inj hsupported
  have hclient : ClientImpl.answer .ok client (infoMessage offered) =
      Handshake.send (infoMessage answered) >>= fun _ =>
        Handshake.nextErroring >>= ClientImpl.awaitContinue
          (.v2 (getSupportedExtensions received.2
            (buildToExtensions .client received.1).1)) := by
    simp only [ClientImpl.answer_info, hreceived, hanswered,
      Handshake.lift_ok_bind]
  have hserver : ServerImpl.answer bufferSize
      (buildToExtensions .server server).1 (infoMessage answered) =
        Handshake.send (Packet.newContinue 0 bufferSize).encode >>= fun _ =>
          pure ⟨.v2 (getSupportedExtensions accepted.2 accepted.1), false,
            bufferSize⟩ := by
    simp only [ServerImpl.answer_info, haccepted, Handshake.lift_ok_bind]
  rw [connection_of_offered bufferSize hoffered]
  simp only [Network.machine, Machine.run_cons, Machine.run_nil,
    step_server_send, Option.bind_some, step_client_recv, hclient,
    step_client_send, step_server_recv, hserver, List.nil_append,
    ClientImpl.awaitContinue_newContinue]
  rfl

/-- A v1 server grants its buffer to every client. -/
theorem run_of_v1_server (bufferSize : UInt32) (client : Option (List B)) :
    (Network.machine reliable).run (connection bufferSize none client)
        [.left, .right] =
      some (agreed bufferSize (.v1 none) (.v1 none) client.isSome) := by
  have hserver : ServerImpl.handshake bufferSize
      ((none : Option (List B)).map .new) =
        Handshake.send (Packet.newContinue 0 bufferSize).encode >>= fun _ =>
          pure ⟨.v1 none, false, bufferSize⟩ := rfl
  cases client with
  | none =>
      have hclient : ClientImpl.handshake ((none : Option (List B)).map .new) =
          Handshake.nextErroring >>= ClientImpl.awaitContinue (.v1 none) := rfl
      rw [connection, hserver, hclient]
      simp only [Network.machine, Machine.run_cons, Machine.run_nil,
        step_server_send, Option.bind_some, step_client_recv,
        List.nil_append, ClientImpl.awaitContinue_newContinue]
      rfl
  | some builders =>
      rw [connection, hserver, Option.map_some, ClientImpl.handshake_new]
      simp only [Network.machine, Machine.run_cons, Machine.run_nil,
        step_server_send, Option.bind_some, step_client_recv,
        List.nil_append, ClientImpl.answer_newContinue]
      rfl

variable {final : HandshakeNetwork E}
  {serverResult clientResult : WispHandshakeResult E}

/-- A v2 server's first message, on the way to where both sides succeed. -/
theorem leads_offered {bufferSize : UInt32} {server : List B}
    {client : Option (List B)}
    (hleads : Network.Leads reliable
      (connection bufferSize (some server) client) final)
    (hend : (Network.machine reliable).Terminal final)
    (hserver : final.left = .ret (.ok serverResult)) :
    ∃ offered, sentEntries .server server = .ok offered ∧
      Network.Leads reliable
        (between
          (Handshake.nextErroring >>= ServerImpl.answer bufferSize
            (buildToExtensions .server server).1)
          (ClientImpl.handshake (client.map .new)) []
          [infoMessage offered]) final := by
  rw [connection, Option.map_some, ServerImpl.handshake_new] at hleads
  obtain ⟨offered, hoffered⟩ := ok_of_leads_server hleads hserver
  rw [hoffered, Handshake.lift_ok_bind] at hleads
  exact ⟨offered, hoffered, hleads.step hend (step_server_send _ _)⟩

/-- A v1 client fails on the INFO packet of a v2 server. -/
theorem not_ended_of_v1_client {bufferSize : UInt32} {server : List B}
    (hleads : Network.Leads reliable
      (connection bufferSize (some server) none) final)
    (hend : (Network.machine reliable).Terminal final)
    (hserver : final.left = .ret (.ok serverResult)) :
    final.right = .ret (.err (.invalidPacketType 0x05)) := by
  obtain ⟨offered, -, hoffer⟩ := leads_offered hleads hend hserver
  have hclient : ClientImpl.handshake ((none : Option (List B)).map .new) =
      Handshake.nextErroring >>= ClientImpl.awaitContinue (.v1 none) := rfl
  rw [hclient] at hoffer
  have hfailed := hoffer.step hend (step_client_recv _ _)
  rw [ClientImpl.awaitContinue_info] at hfailed
  exact hfailed.right rfl

/-- Two v2 sides succeed only through a complete exchange. -/
theorem exchange_of_leads {bufferSize : UInt32} {server client : List B}
    (hleads : Network.Leads reliable
      (connection bufferSize (some server) (some client)) final)
    (hend : (Network.machine reliable).Terminal final)
    (hserver : final.left = .ret (.ok serverResult))
    (hclient : final.right = .ret (.ok clientResult)) :
    ∃ supported, exchange server client = .ok supported := by
  obtain ⟨offered, hoffered, hoffer⟩ := leads_offered hleads hend hserver
  rw [Option.map_some, ClientImpl.handshake_new] at hoffer
  have hreceive := hoffer.step hend (step_client_recv _ _)
  rw [ClientImpl.answer_info] at hreceive
  obtain ⟨received, hreceived⟩ := ok_of_leads_client hreceive hclient
  rw [hreceived, Handshake.lift_ok_bind] at hreceive
  obtain ⟨answered, hanswered⟩ := ok_of_leads_client hreceive hclient
  rw [hanswered, Handshake.lift_ok_bind] at hreceive
  have hanswer := (hreceive.step hend (step_client_send _ _)).step hend
    (step_server_recv _ _)
  rw [ServerImpl.answer_info] at hanswer
  obtain ⟨accepted, haccepted⟩ := ok_of_leads_server hanswer hserver
  refine ⟨(getSupportedExtensions accepted.2 accepted.1,
    getSupportedExtensions received.2
      (buildToExtensions .client received.1).1), ?_⟩
  simp only [exchange, hoffered, hreceived, hanswered, haccepted,
    Outcome.bind_ok]

end Sides

end Epoxy
