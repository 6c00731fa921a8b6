/-
The packet codec as a whole.  A packet is decoded from what it was encoded
to, with catch-all values named where their code has a name; what is decoded
encodes to the front of the message; and the three header decoders agree on
the packets they share.
-/
import Epoxy.InfoFraming

namespace Epoxy

open ByteCursor

/-- The other half of `fromUtf8_asBytes`. -/
theorem asBytes_of_fromUtf8 {bytes : Bytes} {text : String}
    (h : fromUtf8 bytes = some text) : asBytes text = bytes := by
  unfold fromUtf8 String.fromUTF8? at h
  split at h
  · cases h
    exact List.toList_data_toByteArray
  · cases h

namespace StreamType

/-- The named variants and their codes. -/
def codes : List (UInt8 × StreamType) := [(0x01, .tcp), (0x02, .udp)]

/-- A catch-all value under its name, if its code has one. -/
def named : StreamType → StreamType
  | .other value => (codes.lookup value).getD (.other value)
  | ty => ty

theorem ofU8_eq_lookup (value : UInt8) :
    ofU8 value = (codes.lookup value).getD (.other value) := by
  unfold ofU8
  split
  · rfl
  · rfl
  · next htcp hudp =>
      have hnone : codes.lookup value = none :=
        List.lookup_eq_none_iff.mpr (by simpa [codes] using ⟨htcp, hudp⟩)
      rw [hnone, Option.getD_none]

/-- A named variant is read back as itself. -/
theorem ofU8_toU8 (ty : StreamType) : ofU8 ty.toU8 = ty.named := by
  cases ty with
  | tcp => rfl
  | udp => rfl
  | other value => exact ofU8_eq_lookup value

@[simp] theorem toU8_named (ty : StreamType) : ty.named.toU8 = ty.toU8 := by
  rw [← ofU8_toU8, toU8_ofU8]

theorem decode_sound {packet rest : Bytes} {ty : StreamType}
    (h : StreamType.decode packet = .ok (ty, rest)) :
    packet = ty.encodeInto [] ++ rest := by
  cases packet with
  | nil => cases h
  | cons value packet =>
      obtain ⟨rfl, rfl⟩ : ofU8 value = ty ∧ packet = rest := by
        simpa [StreamType.decode, getU8] using h
      simp [encodeInto]

end StreamType

namespace CloseReason

/-- The named variants and their codes. -/
def codes : List (UInt8 × CloseReason) := [
  (0x01, .unknown),
  (0x02, .voluntary),
  (0x03, .unexpected),
  (0x04, .extensionsIncompatible),
  (0x41, .serverStreamInvalidInfo),
  (0x42, .serverStreamUnreachable),
  (0x43, .serverStreamConnectionTimedOut),
  (0x44, .serverStreamConnectionRefused),
  (0x47, .serverStreamTimedOut),
  (0x48, .serverStreamBlockedAddress),
  (0x49, .serverStreamThrottled),
  (0x81, .clientUnexpected),
  (0xc0, .extensionsPasswordAuthFailed),
  (0xc1, .extensionsCertAuthFailed),
  (0xc2, .extensionsAuthRequired)]

/-- A catch-all value under its name, if its code has one. -/
def named : CloseReason → CloseReason
  | .other value => (codes.lookup value).getD (.other value)
  | reason => reason

theorem ofU8_eq_lookup (value : UInt8) :
    ofU8 value = (codes.lookup value).getD (.other value) := by
  unfold ofU8
  split
  case h_16 =>
      have hnone : codes.lookup value = none := by
        suffices ∀ entry ∈ codes, value ≠ entry.1 by
          simpa [List.lookup_eq_none_iff] using this
        simp only [codes, List.forall_mem_cons, List.not_mem_nil]
        and_intros
        all_goals first | assumption | exact fun _ hmem => hmem.elim
      rw [hnone, Option.getD_none]
  all_goals rfl

/-- A named variant is read back as itself. -/
theorem ofU8_toU8 (reason : CloseReason) :
    ofU8 reason.toU8 = reason.named := by
  cases reason with
  | other value => exact ofU8_eq_lookup value
  | _ => rfl

theorem decode_sound {packet rest : Bytes} {reason : CloseReason}
    (h : CloseReason.decode packet = .ok (reason, rest)) :
    packet = reason.encodeInto [] ++ rest := by
  cases packet with
  | nil => cases h
  | cons value packet =>
      obtain ⟨rfl, rfl⟩ : ofU8 value = reason ∧ packet = rest := by
        simpa [CloseReason.decode, getU8] using h
      simp [encodeInto]

end CloseReason

theorem ConnectPacket.decode_sound {packet rest : Bytes}
    {connect : ConnectPacket}
    (h : ConnectPacket.decode packet = .ok (connect, rest)) :
    packet = connect.encodeInto [] := by
  unfold ConnectPacket.decode at h
  split at h
  · cases h
  · simp only [Outcome.bind_eq_ok] at h
    obtain ⟨⟨streamType, afterType⟩, htype, ⟨port, afterPort⟩, hport, host,
      hhost, hconnect⟩ := h
    cases hconnect
    dsimp only at hport hhost
    have htext : fromUtf8 afterPort = some host := by
      unfold decodeUtf8 at hhost
      split at hhost
      · next text htext =>
          cases hhost
          exact htext
      · cases hhost
    rw [StreamType.decode_sound htype, getU16Le_sound hport,
      ← asBytes_of_fromUtf8 htext]
    simp [encodeInto]

theorem ConnectPacket.decode_encodeInto (connect : ConnectPacket) :
    ConnectPacket.decode (connect.encodeInto []) =
      .ok ({ connect with streamType := connect.streamType.named },
        asBytes connect.host) := by
  have hport : (getU16Le (putU16Le connect.port ++ asBytes connect.host) :
      Outcome WispError (UInt16 × Bytes)) =
        .ok (connect.port, asBytes connect.host) :=
    getU16Le_putU16Le connect.port _
  have hpayload : connect.encodeInto [] = connect.streamType.toU8 ::
      (putU16Le connect.port ++ asBytes connect.host) := rfl
  have hlength : ¬ (connect.streamType.toU8 ::
      (putU16Le connect.port ++ asBytes connect.host)).length < 1 + 2 := by
    simp only [List.length_cons, List.length_append, length_putU16Le]
    omega
  rw [hpayload, ConnectPacket.decode, if_neg hlength]
  simp [StreamType.decode, getU8, hport, decodeUtf8, StreamType.ofU8_toU8]

theorem ClosePacket.decode_encodeInto (close : ClosePacket) :
    ClosePacket.decode (close.encodeInto []) =
      .ok (⟨close.reason.named⟩, []) := by
  rw [← CloseReason.ofU8_toU8]
  rfl

theorem ContinuePacket.decode_sound {packet rest : Bytes}
    {cont : ContinuePacket}
    (h : ContinuePacket.decode packet = .ok (cont, rest)) :
    packet = cont.encodeInto [] ++ rest := by
  unfold ContinuePacket.decode at h
  split at h
  · cases h
  · simp only [Outcome.bind_eq_ok] at h
    obtain ⟨⟨amount, left⟩, hamount, hcont⟩ := h
    cases hcont
    exact getU32Le_sound hamount

theorem ClosePacket.decode_sound {packet rest : Bytes} {close : ClosePacket}
    (h : ClosePacket.decode packet = .ok (close, rest)) :
    packet = close.encodeInto [] ++ rest := by
  unfold ClosePacket.decode at h
  simp only [Outcome.bind_eq_ok] at h
  obtain ⟨⟨reason, left⟩, hreason, hclose⟩ := h
  cases hclose
  exact CloseReason.decode_sound hreason

namespace PacketType

/-- The catch-all value of a packet under its name, if its code has one. -/
def normalize : PacketType → PacketType
  | .connect x => .connect { x with streamType := x.streamType.named }
  | .data x => .data x
  | .cont x => .cont x
  | .close x => .close ⟨x.reason.named⟩

/-- The bytes behind the header. -/
def payload (packetType : PacketType) : Bytes := packetType.encode []

/-- The whole body of the message is the packet's. -/
def ReadsToEnd : PacketType → Prop
  | .connect _ => True
  | .data _ => True
  | .cont _ => False
  | .close _ => False

theorem encode_eq (packetType : PacketType) (packet : Bytes) :
    packetType.encode packet = packet ++ packetType.payload := by
  cases packetType with
  | connect x =>
      simp [payload, encode, ConnectPacket.encodeInto, StreamType.encodeInto]
  | data x => simp [payload, encode]
  | cont x => simp [payload, encode, ContinuePacket.encodeInto]
  | close x =>
      simp [payload, encode, ClosePacket.encodeInto, CloseReason.encodeInto]

theorem decode_payload (packetType : PacketType) :
    decode packetType.payload packetType.getType =
      .ok packetType.normalize := by
  cases packetType with
  | connect x =>
      have hdecode := x.decode_encodeInto
      simp only [getType, decode, payload, encode, hdecode, Outcome.bind_ok]
      rfl
  | data x => rfl
  | cont x =>
      have hamount : (getU32Le (putU32Le x.bufferRemaining ++ []) :
          Outcome WispError (UInt32 × Bytes)) = .ok (x.bufferRemaining, []) :=
        getU32Le_putU32Le x.bufferRemaining []
      rw [List.append_nil] at hamount
      have hpayload : (PacketType.cont x).payload =
          putU32Le x.bufferRemaining := rfl
      rw [hpayload]
      simp [getType, decode, ContinuePacket.decode, hamount, normalize]
  | close x =>
      have hdecode := x.decode_encodeInto
      simp only [getType, decode, payload, encode, hdecode, Outcome.bind_ok]
      rfl

theorem payload_of_decode {packet : Bytes} {ty : UInt8}
    {packetType : PacketType} (h : decode packet ty = .ok packetType) :
    packetType.getType = ty ∧ ∃ rest, packet = packetType.payload ++ rest ∧
      (packetType.ReadsToEnd → rest = []) := by
  unfold decode at h
  split at h
  · simp only [Outcome.bind_eq_ok, Outcome.pure_eq_ok, Outcome.ok.injEq] at h
    obtain ⟨⟨x, rest⟩, hdecode, rfl⟩ := h
    exact ⟨rfl, [], by
      rw [List.append_nil]; exact ConnectPacket.decode_sound hdecode,
      fun _ => rfl⟩
  · cases h
    exact ⟨rfl, [], by simp [payload, encode], fun _ => rfl⟩
  · simp only [Outcome.bind_eq_ok, Outcome.pure_eq_ok, Outcome.ok.injEq] at h
    obtain ⟨⟨x, rest⟩, hdecode, rfl⟩ := h
    exact ⟨rfl, rest, ContinuePacket.decode_sound hdecode, fun h => h.elim⟩
  · simp only [Outcome.bind_eq_ok, Outcome.pure_eq_ok, Outcome.ok.injEq] at h
    obtain ⟨⟨x, rest⟩, hdecode, rfl⟩ := h
    exact ⟨rfl, rest, ClosePacket.decode_sound hdecode, fun h => h.elim⟩
  · cases h

end PacketType

/-- Any message whose first byte is that of a packet is decoded as one. -/
theorem MaybeExtensionPacket.decode_of_head {E : Type} [ProtocolExtension E]
    (extensions : List E) {message : Bytes} {ty : UInt8}
    (hhead : message.head? = some ty) (hty : 0x01 ≤ ty ∧ ty ≤ 0x04) :
    MaybeExtensionPacket.decode message extensions =
      Packet.decode message >>= fun packet => .ok (.packet packet) := by
  match message with
  | [] | [_] | [_, _] | [_, _, _] | [_, _, _, _] => rfl
  | head :: b₀ :: b₁ :: b₂ :: b₃ :: rest =>
      obtain rfl := Option.some.inj hhead
      have hlength :
          ¬ (head :: b₀ :: b₁ :: b₂ :: b₃ :: rest).length < 1 + 4 := by
        simp only [List.length_cons]
        omega
      rw [MaybeExtensionPacket.decode, Packet.decode, if_neg hlength,
        if_neg hlength]
      simp only [getU8, getU32Le, Outcome.bind_ok, if_pos hty]
      cases PacketType.decode rest head with
      | ok packetType => rfl
      | err error => rfl
      | panic => rfl

namespace Packet

def normalize (packet : Packet) : Packet :=
  { packet with packetType := packet.packetType.normalize }

theorem encode_eq (packet : Packet) :
    packet.encode = packet.packetType.getType :: putU32Le packet.streamId ++
      packet.packetType.payload := by
  rw [encode, PacketType.encode_eq]
  rfl

theorem decode_encode (packet : Packet) :
    decode packet.encode = .ok packet.normalize := by
  rw [encode_eq, decode_frame, PacketType.decode_payload]
  rfl

theorem encode_of_decode {message : Bytes} {packet : Packet}
    (h : decode message = .ok packet) :
    ∃ rest, message = packet.encode ++ rest ∧
      (packet.packetType.ReadsToEnd → rest = []) := by
  unfold decode at h
  split at h
  · cases h
  · simp only [Outcome.bind_eq_ok] at h
    obtain ⟨⟨ty, afterType⟩, htype, ⟨streamId, body⟩, hid, packetType, hbody,
      hpacket⟩ := h
    cases hpacket
    dsimp only at hid hbody
    obtain ⟨rfl, rest, hrest, hend⟩ := PacketType.payload_of_decode hbody
    refine ⟨rest, ?_, hend⟩
    rw [getU8_sound htype, getU32Le_sound hid, hrest, encode_eq]
    simp

/-- The round trips of the codec, and the agreement of its decoders. -/
theorem codec_round_trip :
    (∀ packet : Packet, decode packet.encode = .ok packet.normalize) ∧
    (∀ (message : Bytes) (packet : Packet), decode message = .ok packet →
      packet.encode <+: message ∧
        (packet.packetType.ReadsToEnd → packet.encode = message)) ∧
    (∀ (message : Bytes) (ty : UInt8), message.head? = some ty →
      0x01 ≤ ty ∧ ty ≤ 0x04 →
      (∀ (E B : Type) [ProtocolExtensionBuilder B E] (builders : List B)
        (role : Role), MaybeInfoPacket.decode message builders role =
          decode message >>= fun packet => .ok (.packet packet, builders)) ∧
      ∀ (E : Type) [ProtocolExtension E] (extensions : List E),
        MaybeExtensionPacket.decode message extensions =
          decode message >>= fun packet => .ok (.packet packet)) := by
  refine ⟨decode_encode, fun message packet hdecode => ?_,
    fun message ty hhead hty => ⟨?_, ?_⟩⟩
  · obtain ⟨rest, hmessage, hend⟩ := encode_of_decode hdecode
    refine ⟨⟨rest, hmessage.symm⟩, fun hreads => ?_⟩
    rw [hmessage, hend hreads, List.append_nil]
  · intro E B _ builders role
    refine InfoPacket.decode_of_head_ne role builders ?_
    rw [hhead]
    rintro ⟨⟩
    exact absurd hty.2 (by decide)
  · intro E _ extensions
    exact MaybeExtensionPacket.decode_of_head extensions hhead hty

end Packet

/-- A catch-all value that has a name gets it. -/
example : Packet.decode (Packet.encode ⟨1, .close ⟨.other 0x02⟩⟩) =
    .ok ⟨1, .close ⟨.voluntary⟩⟩ := by
  rfl

end Epoxy
